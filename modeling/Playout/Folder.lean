/-!
# Files by path

A `Folder` is a set of named files, and a path leads to one of them. What lies outside the folder
is not known: a path that goes there ends in a folder if it only climbs, and in nothing otherwise.

* `PathName.names` are the names between the slashes of a path; `PathName.extension?` is what
  follows the last dot of the last name, unless nothing precedes that dot.
* `Folder.find` follows a path.
-/

namespace Playout

/-- Why a file does not open. -/
inductive OpenError
  | notFound
  | permissionDenied
  | notADirectory
  | nameTooLong
  /-- The path holds the character that ends every path. -/
  | nulInside
  deriving DecidableEq, Repr

def OpenError.message : OpenError → String
  | notFound => "No such file or directory (os error 2)"
  | permissionDenied => "Permission denied (os error 13)"
  | notADirectory => "Not a directory (os error 20)"
  | nameTooLong => "File name too long (os error 36)"
  | nulInside => "file name contained an unexpected NUL byte"

namespace PathName

/-- What stands between the slashes, also where nothing does. -/
def segments : List Char → List (List Char)
  | [] => [[]]
  | '/' :: rest => [] :: segments rest
  | c :: rest =>
    match segments rest with
    | name :: names => (c :: name) :: names
    | [] => [[c]]

/-- Whether a name stays where it is. -/
def stays (name : List Char) : Bool := name == [] || name == ['.']

/-- The names that a path goes through. -/
def names (path : String) : List (List Char) :=
  (segments path.toList).filter (!stays ·)

/-- The name of the file or folder that a path leads to. -/
def fileName? (path : String) : Option (List Char) :=
  match (names path).getLast? with
  | some name => if name = ['.', '.'] then none else some name
  | none => none

/-- What follows the last dot of the file name. A name whose only dot comes first has no
extension. -/
def extension? (path : String) : Option String :=
  match fileName? path with
  | none => none
  | some name =>
    let tail := (name.reverse.takeWhile (· != '.')).reverse
    if name.length ≤ tail.length + 1 then none else some (String.ofList tail)

end PathName

/-- What a path leads to. -/
inductive Entry
  | file (bytes : List UInt8)
  | folder
  deriving DecidableEq, Repr

/-- Named files. -/
structure Folder where
  files : List (String × List UInt8)
  deriving DecidableEq, Repr

namespace Folder

/-- The longest name, in bytes. -/
def longestName : Nat := 255

/-- The longest path, in bytes. -/
def longestPath : Nat := 4095

/-- Whether no file can have such a name. -/
def tooLong (name : List Char) : Bool := longestName < (String.ofList name).utf8ByteSize

/-- Follows names from somewhere outside the folder on. -/
def followOutside : List (List Char) → Except OpenError Entry
  | [] => .ok .folder
  | name :: rest =>
    if tooLong name then .error .nameTooLong
    else if PathName.stays name ∨ name = ['.', '.'] then followOutside rest
    else .error .notFound

/-- Follows names from the folder on. -/
def follow (f : Folder) : List (List Char) → Except OpenError Entry
  | [] => .ok .folder
  | name :: rest =>
    if tooLong name then .error .nameTooLong
    else if PathName.stays name then f.follow rest
    else if name = ['.', '.'] then followOutside rest
    else
      match f.files.find? (·.1 = String.ofList name) with
      | none => .error .notFound
      | some (_, bytes) => if rest.isEmpty then .ok (.file bytes) else .error .notADirectory

/-- Follows a path. -/
def find (f : Folder) (path : String) : Except OpenError Entry :=
  if path.contains '\x00' then .error .nulInside
  else if longestPath < path.utf8ByteSize then .error .nameTooLong
  else
    match path.toList with
    | [] => .error .notFound
    | '/' :: rest => followOutside (PathName.segments rest)
    | path => f.follow (PathName.segments path)

end Folder

end Playout
