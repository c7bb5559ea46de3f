import SceneInspector.Dictionary

namespace SceneInspector

-- Files and directories around one working directory, by the names on the way to them. The working
-- directory itself has no name on the way, and the way to a directory above it has only dots; these
-- are always there.
structure Disk where
  files : List (List String × String) := []
  directories : List (List String) := []
deriving DecidableEq, Repr

namespace Disk

inductive Failure where
  | noEntry
  | alreadyThere
  | notDirectory
  | isDirectory
  | nameTooLong
  | nulInName
deriving DecidableEq, Repr

def Failure.text : Failure → String
  | .noEntry => "No such file or directory (os error 2)"
  | .alreadyThere => "File exists (os error 17)"
  | .notDirectory => "Not a directory (os error 20)"
  | .isDirectory => "Is a directory (os error 21)"
  | .nameTooLong => "File name too long (os error 36)"
  | .nulInName => "file name contained an unexpected NUL byte"

-- A path as it is written: names with slashes between them, from the working directory or, after a
-- slash at its start, from the root of the system, which is outside. The empty path is the working
-- directory.
structure Path where
  text : String := ""
deriving DecidableEq, Repr

def splitAtSlashes : List Char → List (List Char)
  | [] => [[]]
  | c :: rest =>
    if c = '/' then [] :: splitAtSlashes rest
    else match splitAtSlashes rest with
      | [] => [[c]]
      | part :: others => (c :: part) :: others

namespace Path

def pieces (path : Path) : List String := (splitAtSlashes path.text.toList).map String.ofList

def absolute (path : Path) : Bool := path.text.toList.head? = some '/'

def names (path : Path) : List String := path.pieces.filter fun piece => piece ≠ "" && piece ≠ "."

def endsInDirectory (path : Path) : Bool :=
  path.pieces.getLast? = some "" || path.pieces.getLast? = some "."

def ofNames (absolute : Bool) (names : List String) : Path :=
  ⟨(if absolute then "/" else "") ++ String.intercalate "/" names⟩

def join (path : Path) (name : String) : Path :=
  if path.text = "" ∨ (Path.mk name).absolute then ⟨name⟩
  else if path.text.toList.getLast? = some '/' then ⟨path.text ++ name⟩
  else ⟨path.text ++ "/" ++ name⟩

def longest : Nat := 4095

def longestName : Nat := 255

def refusal? (path : Path) : Option Failure :=
  if '\x00' ∈ path.text.toList then some .nulInName
  else if longest < path.text.utf8ByteSize then some .nameTooLong
  else none

end Path

def file? (disk : Disk) (place : List String) : Option String := disk.files.lookup place

def isDirectoryAt (disk : Disk) (place : List String) : Bool :=
  place.all (· == "..") || disk.directories.contains place ||
    (disk.files.map (·.1) ++ disk.directories).any fun other =>
      place.isPrefixOf other && place.length < other.length

def above (place : List String) : List String :=
  if place.all (· == "..") then place ++ [".."] else place.dropLast

def walk (disk : Disk) (here : List String) : List String → Except Failure (List String)
  | [] => .ok here
  | name :: rest =>
    if disk.isDirectoryAt here then
      if name = ".." then disk.walk (above here) rest
      else if Path.longestName < name.utf8ByteSize then .error .nameTooLong
      else disk.walk (here ++ [name]) rest
    else if (disk.file? here).isSome then .error .notDirectory
    else .error .noEntry

def place? (disk : Disk) (path : Path) : Except Failure (List String) :=
  match path.refusal? with
  | some failure => .error failure
  | none => if path.absolute then .error .noEntry else disk.walk [] path.names

def entry? (disk : Disk) (path : Path) : Except Failure (List String) := do
  let place ← disk.place? path
  if disk.isDirectoryAt place then .ok place
  else if (disk.file? place).isNone then .error .noEntry
  else if path.endsInDirectory then .error .notDirectory
  else .ok place

def exists? (disk : Disk) (path : Path) : Bool := (disk.entry? path).toOption.isSome

def isDirectory (disk : Disk) (path : Path) : Bool :=
  match disk.entry? path with
  | .ok place => disk.isDirectoryAt place
  | .error _ => false

def read (disk : Disk) (path : Path) : Except Failure String := do
  let place ← disk.entry? path
  match disk.file? place with
  | some text => .ok text
  | none => .error .isDirectory

def newPlace? (disk : Disk) (path : Path) : Except Failure (List String) := do
  let place ← disk.place? path
  let parent := place.dropLast
  if disk.isDirectoryAt parent then .ok place
  else .error (if (disk.file? parent).isSome then .notDirectory else .noEntry)

def write (disk : Disk) (path : Path) (text : String) : Except Failure Disk := do
  let place ← disk.newPlace? path
  if disk.isDirectoryAt place then .error .isDirectory
  else .ok { disk with files := (place, text) :: disk.files.filter fun file => file.1 ≠ place }

def makeDirectory (disk : Disk) (path : Path) : Except Failure Disk := do
  let place ← disk.newPlace? path
  if disk.isDirectoryAt place || (disk.file? place).isSome then .error .alreadyThere
  else .ok { disk with directories := place :: disk.directories }

def orPresent (disk : Disk) (path : Path) (made : Except Failure Disk) : Except Failure Disk :=
  match made with
  | .ok disk => .ok disk
  | .error failure => if disk.isDirectory path then .ok disk else .error failure

def makeAllReversed (disk : Disk) (absolute : Bool) : List String → Except Failure Disk
  | [] => .ok disk
  | name :: above =>
    let path := Path.ofNames absolute (name :: above).reverse
    match disk.makeDirectory path with
    | .error .noEntry =>
      match disk.makeAllReversed absolute above with
      | .ok disk => disk.orPresent path (disk.makeDirectory path)
      | .error failure => .error failure
    | made => disk.orPresent path made

-- A path that is refused as a whole is refused before any directory above it is made.
def makeDirectories (disk : Disk) (path : Path) : Except Failure Disk :=
  match path.refusal? with
  | some failure => .error failure
  | none => disk.makeAllReversed path.absolute path.names.reverse

end SceneInspector.Disk
