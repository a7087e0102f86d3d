/-
# Text files

A file that holds text is read as UTF-8, and every line ends alike, whichever way the file ends
it.  Reading and writing fail where the file cannot be used.
-/
import Blueprint.Run

namespace Blueprint

/-- Text with every line ended by a line feed. -/
def unifyLines : List Char → List Char
  | '\r' :: '\n' :: rest => '\n' :: unifyLines rest
  | '\r' :: rest => '\n' :: unifyLines rest
  | c :: rest => c :: unifyLines rest
  | [] => []

namespace Run

/-- Uses the files under a path. -/
def useFiles {α : Type} (path : FilePath) (use : FileTree → Except FileFault α) : Run α := do
  if path.holdsNull then fail .nullInPath
  match use (← files) with
  | .ok a => return a
  | .error fault => fail (.file fault path.text)

/-- The text of a file. -/
def readText (path : FilePath) : Run String := do
  match Text.Utf8.decode (← useFiles path fun tree => tree.read path) with
  | .error fault => fail (.utf8 fault)
  | .ok text => return String.ofList (unifyLines text.toList)

/-- Writes text to a file.  A text that cannot be written leaves an empty file. -/
def writeText (path : FilePath) (text : Text) : Run Unit := do
  let write (bytes : List UInt8) : Run Unit := do
    setFiles (← useFiles path fun tree => tree.write path bytes)
  match Text.Utf8.encodeText text with
  | .ok bytes => write bytes
  | .error fault =>
    write []
    fail (.unencodable fault)

/-- Makes sure that there is a directory: `make` makes it, and what keeps it from being made does
not matter if it is there. -/
def ensureDirectory (path : FilePath) (make : Run Unit) : Run Unit :=
  make.recover fun
    | .file .missing place => fail (.file .missing place)
    | .file fault place => do
      if !(← files).leadsToDirectory path then fail (.file fault place)
    | failure => fail failure

/-- Makes a directory, in one that is there. -/
def makeOneDirectory (path : FilePath) : Run Unit := do
  setFiles (← useFiles path fun tree => tree.makeDirectory path)

/-- Makes the directory of a path, given by its parts from the last to the first.  Where the
directory around it is missing, that is made before. -/
def makeDirectoryFrom (slashes : Nat) : List String → Run Unit
  | [] => ensureDirectory ⟨slashes, []⟩ (makeOneDirectory ⟨slashes, []⟩)
  | part :: rest =>
    let path : FilePath := ⟨slashes, (part :: rest).reverse⟩
    let make := ensureDirectory path (makeOneDirectory path)
    make.recover fun
      | .file .missing _ => do
        makeDirectoryFrom slashes rest
        make
      | failure => fail failure

/-- Makes a directory and those around it, unless it is there. -/
def makeDirectory (path : FilePath) : Run Unit :=
  makeDirectoryFrom path.slashes path.parts.reverse

end Run

end Blueprint
