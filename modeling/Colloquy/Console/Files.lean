import Colloquy.Entries
import Colloquy.Text.Search

/-!
# Files

The files that a session can read, by their names below the working folder, and what a path leads to among them. A path
is followed one name at a time: nothing comes after a file, and a folder above the working folder is not looked into.
-/

namespace Colloquy.Console

/-- Why a path leads to no file. -/
inductive OpenFailure where
  | missing
  | isFolder
  /-- A name comes after a file. -/
  | notFolder
  | nameTooLong
  /-- The path holds half a surrogate pair that stands for no byte. -/
  | unencodable
  | nullByte
  deriving Repr, DecidableEq

/-! ## Paths as bytes -/

/-- The bytes of a code point in a path; a half from `0xDC80` to `0xDCFF` stands for a single byte. -/
def pathBytes : CodePoint → Option Nat
  | .char c => some c.utf8Size
  | .half n => if 0x480 ≤ n.val ∧ n.val < 0x500 then some 1 else none

/-- The length of a path or a name in bytes; what stands for no byte counts nothing. -/
def pathLength (t : Text) : Nat := t.foldl (fun n c => n + (pathBytes c).getD 0) 0

/-- The most bytes of a path. -/
def maxPathLength : Nat := 4095

/-- The most bytes of a name. -/
def maxNameLength : Nat := 255

/-! ## Following a path -/

/-- Where a path has led so far. -/
inductive Place where
  /-- The folder to which these names lead from the working folder. -/
  | folder (names : List Text)
  /-- Some folder above the working folder. -/
  | above
  | file (text : Text)

variable (files : Entries Text Text)

/-- What stands under a list of names. -/
def lookUp (names : List Text) : Except OpenFailure Place :=
  match files.find? fun f => f.1.splitOn (.char '/') == names with
  | some f => .ok (.file f.2)
  | none =>
    if files.any fun f => names.isPrefixOf (f.1.splitOn (.char '/')) then .ok (.folder names) else .error .missing

/-- The folder around a folder. -/
def Place.parent : Place → Place
  | .folder [] => .above
  | .folder names => .folder names.dropLast
  | place => place

/-- Follows a path by one name. -/
def Place.step (place : Place) (name : Text) : Except OpenFailure Place :=
  match place with
  | .file _ => .error .notFolder
  | .folder _ | .above =>
    if name.isEmpty || name = "." then .ok place
    else if name = ".." then .ok place.parent
    else if maxNameLength < pathLength name then .error .nameTooLong
    else
      match place with
      | .folder names => lookUp files (names ++ [name])
      | .file _ | .above => .error .missing

/-- The text of the file to which a path leads. -/
def openFile (path : Text) : Except OpenFailure Text := do
  if path.any fun c => (pathBytes c).isNone then throw .unencodable
  if path.contains (.char '\x00') then throw .nullByte
  if path.isEmpty then throw .missing
  if maxPathLength < pathLength path then throw .nameTooLong
  let start := if path.head? = some (.char '/') then Place.above else .folder []
  match ← (path.splitOn (.char '/')).foldlM (Place.step files) start with
  | .file text => return text
  | .folder _ | .above => throw .isFolder

end Colloquy.Console
