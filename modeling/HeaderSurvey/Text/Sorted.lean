/-!
# Sorted lists of strings

Strings in the order of their bytes, which is that of their code points, each once.
-/

namespace HeaderSurvey.Text

/-- Puts a string into a list that is in order and has no repetition, and keeps it so. -/
def insertOnce (s : String) : List String → List String
  | [] => [s]
  | x :: xs => if x < s then x :: insertOnce s xs else if x = s then x :: xs else s :: x :: xs

/-- The strings in order, each once. -/
def sortOnce : List String → List String
  | [] => []
  | s :: ss => insertOnce s (sortOnce ss)

end HeaderSurvey.Text
