import HeaderSurvey.CharClass

/-!
# Texts as lists of characters

Trimming, splitting and replacing on `List Char`. Blanks are those of `isBlank`. Every function is
structural on the text, and positions never occur: what a function keeps, it keeps as a list.
-/

namespace HeaderSurvey.Text

/-- How many bytes the characters take in UTF-8. -/
def byteLength : List Char → Nat
  | [] => 0
  | c :: cs => c.utf8Size + byteLength cs

/-- The text without the blanks it begins with. -/
def trimStart (s : List Char) : List Char :=
  s.dropWhile isBlank

/-- The text without the blanks it ends with. -/
def trimEnd (s : List Char) : List Char :=
  (s.reverse.dropWhile isBlank).reverse

/-- The text without the blanks around it. -/
def trim (s : List Char) : List Char :=
  trimEnd (trimStart s)

/-- The pieces between the characters that satisfy `p`: one piece more than there are such
characters. -/
def splitBy (p : Char → Bool) : List Char → List (List Char)
  | [] => [[]]
  | c :: cs =>
    if p c then [] :: splitBy p cs
    else
      match splitBy p cs with
      | [] => [[c]]
      | piece :: pieces => (c :: piece) :: pieces

/-- The longest blank-free stretches of the text, in order. -/
def words (s : List Char) : List (List Char) :=
  (splitBy isBlank s).filter (!·.isEmpty)

/-- The text after `start`, if it begins with `start`. -/
def dropStart? : (start text : List Char) → Option (List Char)
  | [], text => some text
  | _ :: _, [] => none
  | s :: start, c :: text => if s = c then dropStart? start text else none

/-- Puts `value` in place of every occurrence of `key`, from left to right; what was put in is not
looked at again. The first argument counts the characters still covered by an occurrence. -/
def replaceFrom (key value : List Char) : (covered : Nat) → List Char → List Char
  | _, [] => []
  | covered + 1, _ :: text => replaceFrom key value covered text
  | 0, c :: text =>
    match dropStart? key (c :: text) with
    | some _ => value ++ replaceFrom key value (key.length - 1) text
    | none => c :: replaceFrom key value 0 text

/-- Puts `value` in place of every occurrence of the non-empty `key`. -/
def replace (key value text : List Char) : List Char :=
  replaceFrom key value 0 text

/-- Puts `value` in place of every character `c`. -/
def replaceChar (c value : Char) (text : List Char) : List Char :=
  text.map fun x => if x = c then value else x

/-- Joins texts with `separator` between two of them. -/
def join (separator : List Char) : List (List Char) → List Char
  | [] => []
  | [s] => s
  | s :: ss => s ++ separator ++ join separator ss

end HeaderSurvey.Text
