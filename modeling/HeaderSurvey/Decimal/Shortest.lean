import HeaderSurvey.Decimal.Binary64

/-!
# The shortest decimal that reads back

A number of double precision is written with the fewest digits that are nearer to it than to any
other such number; of two decimals that are short enough the nearer is taken. The digits are always
written positionally, and with a decimal point.
-/

namespace HeaderSurvey

/-- A number `digits · 10 ^ exponent`. -/
structure Decimal where
  digits : Nat
  exponent : Int
  deriving Repr, DecidableEq

namespace Decimal

/-- The digits as characters. -/
def digitChars (n : Nat) : List Char :=
  Nat.toDigits 10 n

/-- The number with the zeros at the end of its digits, so many at most, moved into the exponent. -/
def trimZeros : (most : Nat) → Decimal → Decimal
  | 0, d => d
  | most + 1, d =>
    if d.digits % 10 = 0 then trimZeros most ⟨d.digits / 10, d.exponent + 1⟩ else d

/-- The number written positionally, with a decimal point and at least one digit on each side. -/
def positional (d : Decimal) : List Char :=
  let digits := digitChars d.digits
  if 0 ≤ d.exponent then digits ++ List.replicate d.exponent.toNat '0' ++ ['.', '0']
  else
    let places := (-d.exponent).toNat
    let digits := List.replicate (places + 1 - digits.length) '0' ++ digits
    digits.take (digits.length - places) ++ '.' :: digits.drop (digits.length - places)

end Decimal

namespace Binary64

/-- The end of the numbers that round to `b`, in quarters of `2 ^ b.exponent`, below and above. At a
power of two the gap below is half the gap above. -/
def quarterBounds (b : Binary64) : Nat × Nat :=
  let low :=
    if b.mantissa = Nat.pow 2 52 ∧ -1074 < b.exponent then 4 * b.mantissa - 1 else 4 * b.mantissa - 2
  (low, 4 * b.mantissa + 2)

/-- The largest `p` below `fuel - 330` for which `10 ^ p` is not above `num / den`. -/
def decimalMagnitude (num den : Nat) : (fuel : Nat) → Int
  | 0 => -330
  | fuel + 1 =>
    let p : Int := Int.ofNat fuel - 330
    let (n, d) := scaleDown 10 p num den
    if d ≤ n then p else decimalMagnitude num den fuel

/-- The decimal with a last place of `10 ^ place` that lies between the bounds and is nearest to
the number, if there is one: the greater of two that are equally near. -/
def onGrid? (b : Binary64) (place : Int) : Option Decimal :=
  let (low, high) := b.quarterBounds
  -- so many quarters, in units of `10 ^ place`
  let fraction (quarters : Nat) : Nat × Nat :=
    let (n, d) := scaleDown 2 (2 - b.exponent) quarters 1
    scaleDown 10 place n d
  let (n, d) := fraction (4 * b.mantissa)
  let (lowN, lowD) := fraction low
  let (highN, highD) := fraction high
  let closed := b.mantissa % 2 = 0
  let inside (k : Nat) : Bool :=
    if closed then lowN ≤ k * lowD && k * highD ≤ highN
    else lowN < k * lowD && k * highD < highN
  let k := n / d
  let below := inside k && k ≠ 0
  let above := inside (k + 1)
  if below && above then
    if 2 * n < (2 * k + 1) * d then some ⟨k, place⟩ else some ⟨k + 1, place⟩
  else if below then some ⟨k, place⟩
  else if above then some ⟨k + 1, place⟩
  else none

/-- The first hit on grids with ever smaller places. -/
def firstOnGrid (b : Binary64) : (grids : Nat) → (place : Int) → Decimal
  | 0, place => ⟨0, place⟩
  | grids + 1, place =>
    match b.onGrid? place with
    | some d => d
    | none => firstOnGrid b grids (place - 1)

/-- The decimal with the fewest digits that reads back as the number. -/
def shortest (b : Binary64) : Decimal :=
  if b.mantissa = 0 then ⟨0, 0⟩
  else
    let (num, den) := scaleDown 2 (-b.exponent) b.mantissa 1
    (b.firstOnGrid 17 (decimalMagnitude num den 640)).trimZeros 17

end Binary64
end HeaderSurvey
