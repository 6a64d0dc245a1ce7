import HeaderSurvey.Disk.Path
import HeaderSurvey.Text.Sorted
import HeaderSurvey.Text.Utf8

/-!
# Disks

A disk holds files and directories under locations, which are lists of names from the root down. The
root is a directory, and so is what lies above any node. Operations take paths, which are followed
from the working directory, and fail with the cause that a system call would give.

Files and directories are all that there is: no symbolic or hard links, no special files, and no
permissions, so whatever is there can be read and written. Names are texts, and neither a name nor a
path has a greatest length.
-/

namespace HeaderSurvey

/-- The names that lead from the root of a disk to a node. -/
abbrev Location := List String

/-- What is at a location: a file with its bytes, or a directory. Links, special files and
permissions are left out. -/
inductive Node where
  | file (bytes : List UInt8)
  | dir
  deriving Repr, DecidableEq

/-- Files and directories, and the directory where relative paths begin. -/
structure Disk where
  nodes : List (Location × Node)
  workDir : Location
  deriving Repr, DecidableEq

/-- Why an operation on a disk fails. Those on `Disk` do not ask how long a path is; `nameTooLong`
is for a walk that comes to ever longer ones. -/
inductive DiskError where
  | notFound
  | alreadyExists
  | notADirectory
  | isADirectory
  | invalidUtf8
  | nameTooLong
  deriving Repr, DecidableEq

/-- The cause in words. -/
def DiskError.message : DiskError → String
  | notFound => "No such file or directory (os error 2)"
  | alreadyExists => "File exists (os error 17)"
  | notADirectory => "Not a directory (os error 20)"
  | isADirectory => "Is a directory (os error 21)"
  | invalidUtf8 => "stream did not contain valid UTF-8"
  | nameTooLong => "File name too long (os error 36)"

namespace Disk

/-! ### Nodes -/

/-- What is at the location, if anything. -/
def node? (d : Disk) (loc : Location) : Option Node :=
  if loc.isEmpty then some .dir else (d.nodes.find? (·.1 = loc)).map (·.2)

/-- Puts a node at a location, in place of one that was there. -/
def put (loc : Location) (n : Node) : List (Location × Node) → List (Location × Node)
  | [] => [(loc, n)]
  | (l, m) :: nodes => if l = loc then (loc, n) :: nodes else (l, m) :: put loc n nodes

/-- The disk with a node at a location. -/
def set (d : Disk) (loc : Location) (n : Node) : Disk :=
  { d with nodes := put loc n d.nodes }

/-- The names of the nodes directly below a location, in order. -/
def childNames (d : Disk) (loc : Location) : List String :=
  Text.sortOnce <| d.nodes.filterMap fun (l, _) =>
    match l.getLast? with
    | none => none
    | some name => if l.dropLast = loc then some name else none

/-! ### Paths -/

/-- Goes from a location along the pieces of a path. Every piece but the last name needs a
directory to start from; whether anything is at the end is not asked. -/
def follow (d : Disk) : Location → List (List Char) → Except DiskError Location
  | loc, [] => .ok loc
  | loc, piece :: pieces =>
    match d.node? loc with
    | none => .error .notFound
    | some (.file _) => .error .notADirectory
    | some .dir =>
      if Path.isIdle piece then d.follow loc pieces
      else if piece = ['.', '.'] then d.follow loc.dropLast pieces
      else d.follow (loc ++ [String.ofList piece]) pieces

/-- Where a path begins. -/
def origin (d : Disk) (path : List Char) : Location :=
  if Path.isAbsolute path then [] else d.workDir

/-- The location that a path leads to. -/
def locate (d : Disk) (path : List Char) : Except DiskError Location :=
  if path.isEmpty then .error .notFound
  else d.follow (d.origin path) (Text.splitBy (· = '/') path)

/-- The path without slashes at its end. -/
def trimSlashes (path : List Char) : List Char :=
  (path.reverse.dropWhile (· = '/')).reverse

/-- The location of a node that a path is to make or to change; slashes at its end do not ask for a
directory. -/
def locateEntry (d : Disk) (path : List Char) : Except DiskError Location :=
  if path.isEmpty then .error .notFound
  else d.follow (d.origin path) (Text.splitBy (· = '/') (trimSlashes path))

/-- What a path leads to. -/
def lookup (d : Disk) (path : List Char) : Except DiskError Node := do
  match d.node? (← d.locate path) with
  | some n => .ok n
  | none => .error .notFound

/-- Whether a path leads to a directory. -/
def isDir (d : Disk) (path : List Char) : Bool :=
  match d.lookup path with
  | .ok .dir => true
  | _ => false

/-! ### Operations -/

/-- The bytes of a file. -/
def read (d : Disk) (path : List Char) : Except DiskError (List UInt8) :=
  match d.lookup path with
  | .ok (.file bytes) => .ok bytes
  | .ok .dir => .error .isADirectory
  | .error e => .error e

/-- The names in a directory, in order. -/
def list (d : Disk) (path : List Char) : Except DiskError (List String) :=
  match d.locate path with
  | .error e => .error e
  | .ok loc =>
    match d.node? loc with
    | none => .error .notFound
    | some (.file _) => .error .notADirectory
    | some .dir => .ok (d.childNames loc)

/-- The disk after a file has been written, in place of one that was there. A path with a slash at
its end can only be that of a directory. -/
def write (d : Disk) (path : List Char) (bytes : List UInt8) : Except DiskError Disk :=
  match d.locateEntry path with
  | .error e => .error e
  | .ok loc =>
    if path.getLast? = some '/' then .error .isADirectory
    else
      match d.node? loc with
      | some .dir => .error .isADirectory
      | _ => .ok (d.set loc (.file bytes))

/-- The disk with a new directory. -/
def makeDir (d : Disk) (path : List Char) : Except DiskError Disk :=
  match d.locateEntry path with
  | .error e => .error e
  | .ok loc =>
    match d.node? loc with
    | some _ => .error .alreadyExists
    | none => .ok (d.set loc .dir)

/-- Makes a directory unless it is there: the disk afterwards, and why there is no directory. -/
def ensureDir (d : Disk) (path : List Char) : Except DiskError Unit × Disk :=
  match d.makeDir path with
  | .ok d => (.ok (), d)
  | .error e => (if d.isDir path then .ok () else .error e, d)

/-- Makes a directory and, where they are missing, the ones above it: one for each character of the
budget at most. Directories made before a failure stay. -/
def ensureDirsWithin : (budget : List Char) → List Char → Disk → Except DiskError Unit × Disk
  | [], path, d => d.ensureDir path
  | _ :: budget, path, d =>
    if path.isEmpty then (.ok (), d)
    else
      match d.makeDir path with
      | .error .notFound =>
        match Path.parent? path with
        | none => (.error .notFound, d)
        | some parent =>
          match ensureDirsWithin budget parent d with
          | (.ok (), d) => d.ensureDir path
          | (.error e, d) => (.error e, d)
      | _ => d.ensureDir path

/-- Makes a directory and the ones above it that are missing. A parent is shorter than its path, so
the characters of the path are budget enough. -/
def ensureDirs (d : Disk) (path : List Char) : Except DiskError Unit × Disk :=
  ensureDirsWithin path path d

/-! ### Comparing disks -/

/-- The path of a location below the working directory. -/
def relative? (d : Disk) (loc : Location) : Option String :=
  if d.workDir.isPrefixOf loc then some ("/".intercalate (loc.drop d.workDir.length)) else none

/-- The files below the working directory that `before` did not have, or had with other bytes, in
the order of their paths. -/
def changedFiles (before after : Disk) : List (String × List UInt8) :=
  let changed := after.nodes.filterMap fun (l, n) =>
    match n, after.relative? l with
    | .file bytes, some path =>
      if before.node? l = some (.file bytes) then none else some (path, bytes)
    | _, _ => none
  (Text.sortOnce (changed.map (·.1))).filterMap fun path => changed.find? (·.1 = path)

end Disk
end HeaderSurvey
