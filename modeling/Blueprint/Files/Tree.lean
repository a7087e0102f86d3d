/-
# File trees

The files and directories around a working directory, as values.  A path is followed part by part:
empty parts and single dots mean nothing, two dots go back to the directory around, and whatever a
part is looked up in has to be a directory that is there.
-/
import Blueprint.Failure

namespace Blueprint

/-- A path as it is written: the slashes it starts with, and its parts without those that mean
nothing. -/
structure FilePath where
  /-- The number of slashes at its start: none where it starts at the working directory.  Exactly
  two are kept, any other number counts as one. -/
  slashes : Nat
  /-- Its parts. -/
  parts : List String
deriving DecidableEq, Repr

/-- Where a file or directory is: the names that lead to it from the working directory, or from the
root of all files, which then comes first. -/
abbrev Place := List String

/-- The name of the directory around another. -/
def aroundName : String := ".."

namespace Place

/-- The root of all files, as the first name of a place. -/
def root : String := "/"

/-- The place around a place.  There is none around the root. -/
def around (place : Place) : Place :=
  match place.getLast? with
  | none => [aroundName]
  | some last =>
    if last == aroundName then place ++ [aroundName]
    else if last == root then place
    else place.dropLast

/-- The place that a part of a path leads to. -/
def enter (place : Place) (part : String) : Place :=
  if part == aroundName then place.around else place ++ [part]

/-- The places on the way to a place, the outermost first. -/
def parents (place : Place) : List Place :=
  (List.range place.length).map place.take

end Place

namespace FilePath

/-- Whether a part of a path means something. -/
def isSignificant (part : List Char) : Bool :=
  !part.isEmpty && part != ['.']

/-- The path of a text. -/
def ofText (text : String) : FilePath :=
  let leading := (text.toList.takeWhile (· == '/')).length
  { slashes := if leading ≤ 2 then leading else 1
    parts := ((Text.partsAt '/' text.toList).filter isSignificant).map String.ofList }

/-- The text of a path. -/
def text (path : FilePath) : String :=
  if path.slashes == 0 && path.parts.isEmpty then "."
  else String.ofList (List.replicate path.slashes '/') ++ "/".intercalate path.parts

/-- A path within another. -/
def child (path : FilePath) (part : String) : FilePath :=
  { path with parts := path.parts ++ [part] }

/-- Where a path starts. -/
def start (path : FilePath) : Place :=
  if path.slashes == 0 then [] else [Place.root]

/-- The place that a path leads to if all directories on the way are there. -/
def place (path : FilePath) : Place :=
  path.parts.foldl Place.enter path.start

/-- A path that starts at a directory, unless it starts at the root. -/
def under (directory path : FilePath) : FilePath :=
  if path.slashes == 0 then { directory with parts := directory.parts ++ path.parts } else path

/-- The text of a path from the root of all files on, given that of the working directory. -/
def resolvedText (path : FilePath) (here : String) : String :=
  let whole := under (ofText here) path
  let place := whole.place
  { whole with parts := if whole.slashes == 0 then place else place.drop 1 : FilePath }.text

/-- Whether a path holds the character that no path may hold. -/
def holdsNull (path : FilePath) : Bool :=
  path.parts.any fun part => part.toList.contains '\x00'

end FilePath

/-- Files with their bytes, and directories. -/
structure FileTree where
  /-- The files by place. -/
  files : List (Place × List UInt8)
  /-- The directories, but for those that are always there. -/
  directories : List Place

namespace FileTree

/-- No files. -/
def empty : FileTree := ⟨[], []⟩

/-- Whether a place is the working directory, the root, or around one of them. -/
def isGiven (place : Place) : Bool :=
  place.all fun part => part == Place.root || part == aroundName

/-- Whether there is a directory. -/
def hasDirectory (tree : FileTree) (place : Place) : Bool :=
  isGiven place || tree.directories.contains place

/-- The bytes of a file. -/
def bytes? (tree : FileTree) (place : Place) : Option (List UInt8) :=
  Entries.get? place tree.files

/-- The most bytes that a name may have. -/
def nameLimit : Nat := 255

/-- The most bytes that a path may have. -/
def pathLimit : Nat := 4095

/-- The place that parts of a path lead to from a place on.  Every part has to stand for something
in a directory that is there, but what the last of them stands for need not be there. -/
def walk (tree : FileTree) (place : Place) : List String → Except FileFault Place
  | [] => .ok place
  | part :: rest =>
    if !tree.hasDirectory place then
      .error (if (tree.bytes? place).isSome then .notDirectory else .missing)
    else if nameLimit < part.utf8ByteSize then .error .longName
    else tree.walk (place.enter part) rest

/-- The place that a path leads to. -/
def locate (tree : FileTree) (path : FilePath) : Except FileFault Place :=
  if pathLimit < path.text.utf8ByteSize then .error .longName
  else tree.walk path.start path.parts

/-- The bytes of a file. -/
def read (tree : FileTree) (path : FilePath) : Except FileFault (List UInt8) := do
  let place ← tree.locate path
  if tree.hasDirectory place then .error .isDirectory
  else
    match tree.bytes? place with
    | some bytes => .ok bytes
    | none => .error .missing

/-- Writes a file. -/
def write (tree : FileTree) (path : FilePath) (bytes : List UInt8) :
    Except FileFault FileTree := do
  let place ← tree.locate path
  if tree.hasDirectory place then .error .isDirectory
  else .ok { tree with files := Entries.put place bytes tree.files }

/-- Whether a path leads to a directory. -/
def leadsToDirectory (tree : FileTree) (path : FilePath) : Bool :=
  match tree.locate path with
  | .ok place => tree.hasDirectory place
  | .error _ => false

/-- Makes a directory, in one that is there. -/
def makeDirectory (tree : FileTree) (path : FilePath) : Except FileFault FileTree := do
  let place ← tree.locate path
  if tree.hasDirectory place || (tree.bytes? place).isSome then .error .occupied
  else .ok { tree with directories := tree.directories ++ [place] }

/-- Adds directories, each within those before it. -/
def addDirectories (tree : FileTree) (places : List Place) : FileTree :=
  places.foldl (fun tree place =>
    if tree.hasDirectory place then tree
    else { tree with directories := tree.directories ++ [place] }) tree

/-- A tree of directories and files, with the directories around each of them. -/
def ofList (directories : List Place) (files : List (Place × List UInt8)) : FileTree :=
  let withDirectories := (directories.flatMap fun d => Place.parents d ++ [d]) ++
    files.flatMap fun f => Place.parents f.1
  { empty.addDirectories withDirectories with files := Entries.ofList files }

end FileTree

end Blueprint
