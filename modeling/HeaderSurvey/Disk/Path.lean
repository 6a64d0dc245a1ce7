import HeaderSurvey.Text.Basic

/-!
# Paths

A path is a string of pieces between slashes. Empty pieces and pieces of one dot say nothing, but a
dot at the beginning of a relative path is kept; what remains are the components. Functions on
paths leave the rest of the string as it is written.
-/

namespace HeaderSurvey.Path

/-- Whether the path begins at the root of the disk. -/
def isAbsolute (path : List Char) : Bool :=
  path.head? = some '/'

/-- Whether a piece says nothing. -/
def isIdle (piece : List Char) : Bool :=
  piece.isEmpty || piece = ['.']

/-- The pieces without the last ones, as long as these say nothing. -/
def trimIdle (pieces : List (List Char)) : List (List Char) :=
  (pieces.reverse.dropWhile isIdle).reverse

/-- The beginning of a path that is no name, and the pieces that follow it up to the last one that
says something. -/
def split (path : List Char) : List Char × List (List Char) :=
  match Text.splitBy (· = '/') path with
  | [] => ([], [])
  | piece :: pieces =>
    if isAbsolute path then (['/'], trimIdle pieces)
    else if piece = ['.'] then
      match trimIdle pieces with
      | [] => (['.'], [])
      | pieces => (['.', '/'], pieces)
    else ([], trimIdle (piece :: pieces))

/-- The path without its last component; nothing if it has none. -/
def parent? (path : List Char) : Option (List Char) :=
  match split path with
  | (['.'], []) => some []
  | (_, []) => none
  | (start, pieces) =>
    match trimIdle pieces.dropLast with
    | [] => if start = ['.', '/'] then some ['.'] else some start
    | pieces => some (start ++ Text.join ['/'] pieces)

/-- The last component, if it is a name. -/
def fileName? (path : List Char) : Option (List Char) :=
  match (split path).2.getLast? with
  | none => none
  | some name => if name = ['.', '.'] then none else some name

/-- The part of a file name before its last dot, and the one after it. A dot at the beginning of
the name does not count. -/
def splitName (name : List Char) : List Char × Option (List Char) :=
  let backwards := name.reverse
  match backwards.dropWhile (· ≠ '.') with
  | [] => (name, none)
  | _ :: stem =>
    if stem.isEmpty then (name, none)
    else (stem.reverse, some (backwards.takeWhile (· ≠ '.')).reverse)

/-- What follows the last dot of the file name, if it has such a dot. -/
def extension? (path : List Char) : Option (List Char) :=
  (fileName? path).bind fun name => (splitName name).2

/-- The path with `extension` behind the stem of its file name, whatever followed it. A path without
a file name is left alone. -/
def setExtension (extension path : List Char) : List Char :=
  match fileName? path with
  | none => path
  | some name =>
    let (start, pieces) := split path
    start ++ Text.join ['/'] (pieces.dropLast ++ [(splitName name).1 ++ '.' :: extension])

/-- The path with another extension: the old one is cut off from its end and the new one set. -/
def withExtension (extension path : List Char) : List Char :=
  match extension? path with
  | none => setExtension extension path
  | some old => setExtension extension (path.take (path.length - old.length))

/-- A path continued by another one. An absolute path stands for itself. -/
def join (path more : List Char) : List Char :=
  if isAbsolute more then more
  else if path.isEmpty || path.getLast? = some '/' then path ++ more
  else path ++ '/' :: more

end HeaderSurvey.Path
