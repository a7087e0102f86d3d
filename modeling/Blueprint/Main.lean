/-
# The program

A session over the files that the arguments name, with the built in classes.  What it wrote is
written back.
-/
import Blueprint.Catalog.Introspection
import Blueprint.CommandLine.Session

namespace Blueprint.CommandLine

/-- Adds what is found at a path to a tree. -/
def addPath (tree : FileTree) (path : String) : IO FileTree := do
  let place := (FilePath.ofText path).place
  let around := tree.addDirectories place.parents
  match ← (IO.FS.realPath path).toBaseIO with
  | .error _ => return tree
  | .ok found =>
    if ← found.isDir then return around.addDirectories [place]
    let bytes ← IO.FS.readBinFile path
    return { around with files := Entries.put place bytes.toList around.files }

/-- The path of a place. -/
def placeText : Place → String
  | [] => "."
  | part :: rest =>
    if part == Place.root then "/" ++ "/".intercalate rest else "/".intercalate (part :: rest)

/-- A text as it is shown: a point that is no character by its code. -/
def shown (t : Text) : String :=
  String.ofList <| t.points.flatMap fun
    | .char c => [c]
    | .half unit => Text.codeEscape (Point.half unit).code

/-- Writes the files of a tree that are new. -/
def writeBack (before after : FileTree) : IO Unit := do
  for place in after.directories do
    if !before.hasDirectory place then IO.FS.createDirAll (placeText place)
  for (place, bytes) in after.files do
    if before.bytes? place != some bytes then
      IO.FS.writeBinFile (placeText place) ⟨bytes.toArray⟩

/-- The paths that arguments name. -/
def namedPaths (arguments : List String) : List String :=
  match parse arguments with
  | .ok settings => settings.definitions :: settings.directory?.toList
  | .error _ => []

end Blueprint.CommandLine

open Blueprint Blueprint.CommandLine in
/-- Runs a session and shows what it prints and what it logs. -/
def main (arguments : List String) : IO UInt32 := do
  let here ← IO.currentDir
  let before ← (namedPaths arguments).foldlM addPath FileTree.empty
  let catalog := Catalog.ofDescriptions []
  let (result, world) :=
    session catalog.introspector catalog.split here.toString arguments none { files := before }
  writeBack before world.files
  match result with
  | .error failure =>
    IO.eprintln (shown failure.message)
    return 1
  | .ok ending =>
    for warning in world.warnings do IO.eprintln (shown warning.message)
    for line in shownLines arguments ending world.log do IO.eprintln (shown line)
    IO.print (shown ending.output)
    return ending.code.toUInt32
