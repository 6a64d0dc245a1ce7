/-!
# Numbers of double precision

A number of double precision is `m · 2 ^ e` with `m` below `2 ^ 53` and `e` from `-1074` to `971`.
`nearest?` gives the one that is nearest to a decimal number, of two equally near ones the one whose
`m` is even. All arithmetic is exact.
-/

namespace HeaderSurvey

/-- The number `mantissa · 2 ^ exponent`. -/
structure Binary64 where
  mantissa : Nat
  exponent : Int
  deriving Repr, DecidableEq

namespace Binary64

/-- The quotient rounded to the nearest number, a half to the even neighbour. -/
def divHalfEven (num den : Nat) : Nat :=
  let q := num / den
  let r := num % den
  if 2 * r < den then q
  else if den < 2 * r then q + 1
  else if q % 2 = 0 then q
  else q + 1

/-- The fraction `num / den` divided by `base ^ e`, as a fraction. -/
def scaleDown (base : Nat) (e : Int) (num den : Nat) : Nat × Nat :=
  if 0 ≤ e then (num, den * base.pow e.toNat) else (num * base.pow (-e).toNat, den)

/-- How many decimal digits a number has. -/
def digitCount (n : Nat) : Nat :=
  (Nat.toDigits 10 n).length

/-- The number nearest to a positive fraction; none if that is too large. -/
def ofFraction? (num den : Nat) : Option Binary64 :=
  let guess : Int := Int.ofNat num.log2 - Int.ofNat den.log2 - 53
  let low := if guess < -1074 then -1074 else guess
  let (n, d) := scaleDown 2 low num den
  let e := if Nat.pow 2 53 * d ≤ n then low + 1 else low
  let (n, d) := scaleDown 2 e num den
  let m := divHalfEven n d
  let (m, e) := if m = Nat.pow 2 53 then (Nat.pow 2 52, e + 1) else (m, e)
  if 971 < e then none else some ⟨m, e⟩

/-- The number nearest to `digits · 10 ^ exponent`; none if that is too large. -/
def nearest? (digits : Nat) (exponent : Int) : Option Binary64 :=
  let magnitude := exponent + Int.ofNat (digitCount digits)
  if digits = 0 ∨ magnitude < -330 then some ⟨0, -1074⟩
  else if 310 < magnitude then none
  else
    let (num, den) := scaleDown 10 (-exponent) digits 1
    ofFraction? num den

end Binary64
end HeaderSurvey
