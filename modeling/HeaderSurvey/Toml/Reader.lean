import HeaderSurvey.Text.Cursor

/-!
# Readers

A reader takes something from the text ahead of a cursor and leaves the cursor behind it, or fails.
-/

namespace HeaderSurvey.Toml

/-- Something that can be read from a text. -/
abbrev Reader := StateT Cursor Option

namespace Reader

/-- The next character, which is not taken. -/
def peek : Reader (Option Char) := do
  return (← get).rest.head?

/-- The next character, if it satisfies `p`. -/
def char (p : Char → Bool) : Reader Char := do
  match ← get with
  | ⟨before, c :: rest⟩ =>
    if p c then
      set (⟨c :: before, rest⟩ : Cursor)
      return c
    else failure
  | ⟨_, []⟩ => failure

/-- Exactly these characters. -/
def text (chars : List Char) : Reader Unit := do
  match (← get).skipText? chars with
  | some c => set c
  | none => failure

/-- All characters ahead that satisfy `p`. -/
def takeWhile (p : Char → Bool) : Reader (List Char) := do
  let c ← get
  let d := c.skipWhile p
  set d
  return c.upTo d

/-- What the reader gives, and the cursors in front of it and behind it. -/
def located {α : Type} (r : Reader α) : Reader (Cursor × α × Cursor) := do
  let start ← get
  let x ← r
  return (start, x, ← get)

/-- What the steps give until one says that it was the last: one step for each character of the
budget, and one more, at most. -/
def collectWithin {α : Type} (step : Reader (List α × Bool)) :
    (budget : List Char) → Reader (List α)
  | [] => do
    let (xs, more) ← step
    if more then failure else return xs
  | _ :: budget => do
    let (xs, more) ← step
    if more then return xs ++ (← collectWithin step budget) else return xs

/-- What the steps give until one says that it was the last. Each other step has to take a
character. -/
def collect {α : Type} (step : Reader (List α × Bool)) : Reader (List α) := do
  collectWithin step (← get).rest

end Reader
end HeaderSurvey.Toml
