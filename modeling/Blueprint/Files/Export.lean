/-
# Definitions from files, plans to files

Definitions are loaded from a file of JSON text.  An export compiles them and writes two files
into a directory: the payload of the plans, and the module of their factories.  The module is
made after the payload was written.
-/
import Blueprint.Definition.Loader
import Blueprint.Factory.Render
import Blueprint.Files.Text
import Blueprint.Plan.Payload

namespace Blueprint

/-- The JSON value of a text. -/
def readJson (text : String) : Run Json :=
  match Json.Reader.read text.toList with
  | .ok json => return json
  | .error fault => Run.fail (.json text.toList fault)

/-- The definitions in a file, which has to hold an object. -/
def loadDefinitions (path : String) : Run (List Definition) := do
  let text ← Run.readText (FilePath.ofText path)
  match ← readJson text with
  | .object members => Definition.loadEntries members
  | _ => Run.mistaken (.fileShape path)

/-- The name of the file for the payload. -/
def payloadFile : String := "instructions.json"

/-- The name of the file for the factories. -/
def factoriesFile : String := "factories.py"

/-- Compiles definitions and writes both files into a directory. -/
def exportDefinitions (types : Introspector) (split : Factory.Splitter)
    (definitions : List Definition) (directory : String) : Run CompiledEntries := do
  let compiled ← compileAll types definitions
  let directory := FilePath.ofText directory
  Run.makeDirectory directory
  Run.writeText (directory.child payloadFile) (← Run.ofExcept (compiledText compiled))
  Run.writeText (directory.child factoriesFile) (← FactoryModule.text split compiled)
  Run.note (.wrote (directory.child payloadFile).text (directory.child factoriesFile).text)
  return compiled

end Blueprint
