/-
# Finding classes by their paths

A class path names a module and a class within it, with a colon between the two or, for want of
one, with a dot: then every dot may be the place, and the longest module that can be imported
and holds the class is taken.

Importing a module imports the packages it is in, the outermost first.  A candidate whose
module turns out to be missing is passed over; that something else is missing on the way is a
failure.  A module that was imported is an attribute of the package it is in.  Of the attributes of
modules, functions and plain values only those are known that somebody gave them.
-/
import Blueprint.Catalog.Module
import Blueprint.Run

namespace Blueprint.Catalog

/-! ## Importing -/

/-- A path up to each of its dots, and the whole path. -/
def pathPrefixes : List Text → List Text
  | [] => []
  | first :: rest => first :: (pathPrefixes rest).map fun more => first ++ "." ++ more

/-- A module that is not there. -/
def missing (name : Text) : Failure :=
  .moduleMissing (some name) ("No module named " ++ Text.quote name)

/-- A module within something that holds no modules. -/
def notInPackage (name parent : Text) : Failure :=
  .moduleMissing (some name)
    ("No module named " ++ Text.quote name ++ "; " ++ Text.quote parent ++ " is not a package")

/-- Whether a path is that of a module that can hold others. -/
def isPackage (catalog : Catalog) (name : Text) : Bool :=
  (catalog.find? name).any Module.isPackage

/-- Makes a module, with its warnings, unless it cannot be made. -/
def Module.execute (m : Module) : Run Unit := do
  (List.replicate m.innerClasses Warning.innerClass).forM Run.warn
  match m.fault with
  | some failure => Run.fail failure
  | none => Run.markImported m.name

/-- Imports a module, given the path of the package it is in. -/
def importOne (catalog : Catalog) (parent : Option Text) (name : Text) : Run Unit := do
  if (← Run.imported).contains name || name == builtinModule then return
  if let some package := parent then
    if !catalog.isPackage package then Run.fail (notInPackage name package)
  match catalog.find? name with
  | none => Run.fail (missing name)
  | some m => m.execute

/-- Imports modules, each in the one before it. -/
def importChain (catalog : Catalog) (parent : Option Text) : List Text → Run Unit
  | [] => return
  | name :: rest => do
    importOne catalog parent name
    importChain catalog (some name) rest

/-- Imports the module of a path. -/
def importModule (catalog : Catalog) (path : Text) : Run Unit :=
  if Text.startsWith "." path then Run.fail (.relativeImport path)
  else importChain catalog none (pathPrefixes (pathParts path))

/-! ## Candidates -/

/-- The two sides of the first colon, if there is one. -/
def splitAtColon? (path : Text) : Option (Text × Text) :=
  let before := path.points.takeWhile (· != .char ':')
  match path.points.dropWhile (· != .char ':') with
  | [] => none
  | _ :: after => some (⟨before⟩, ⟨after⟩)

/-- The ways to split parts into two lists that are not empty, the longest first list first. -/
def cuts (parts : List Text) : List (List Text × List Text) :=
  (List.range (parts.length - 1)).map fun n =>
    (parts.take (parts.length - 1 - n), parts.drop (parts.length - 1 - n))

/-- The module and the name within it that a class path may stand for, in the order in which they
are tried. -/
def candidates (path : Text) : List (Text × Text) :=
  match splitAtColon? path with
  | some candidate => [candidate]
  | none =>
    (cuts (pathParts path)).map fun (a, b) => (Text.intercalate "." a, Text.intercalate "." b)

/-! ## Looking up -/

/-- What a path leads to on its way: a module, or an object. -/
inductive Found where
  /-- A module. -/
  | module (m : Module)
  /-- An object. -/
  | object (o : Object)

/-- The object that a name stands for; null counts as none. -/
def present? : Option Object → Option Found
  | some (.value .null) => none
  | some o => some (.object o)
  | none => none

/-- What a name stands for within what was found, given the modules imported so far.

A module has the names that it defines and the modules that it holds.  What every object has on top
of that, such as its class under `__class__`, is left out of modules, functions and plain values: a
path through such an attribute leads nowhere here.  A class is asked as a class is, its own
attributes of this kind included. -/
def step? (catalog : Catalog) (imported : List Text) (found : Found) (name : Text) :
    Option Found :=
  match found with
  | .module m =>
    let inner := m.name ++ "." ++ name
    match imported.contains inner, catalog.find? inner with
    | true, some m => some (.module m)
    | _, _ => present? (Entries.get? name m.names)
  | .object (.cls c) => present? (c.get? name)
  | .object _ => none

/-- What names lead to one after the other. -/
def walk? (catalog : Catalog) (imported : List Text) (found : Found) :
    List Text → Option Found
  | [] => some found
  | name :: rest => (catalog.step? imported found name).bind fun next =>
    catalog.walk? imported next rest

/-- The class that a name leads to within a module. -/
def classIn? (catalog : Catalog) (imported : List Text) (moduleName qualifiedName : Text) :
    Option Class :=
  match catalog.find? moduleName with
  | none => none
  | some m =>
    match catalog.walk? imported (.module m) (pathParts qualifiedName) with
    | some (.object (.cls c)) => some c
    | _ => none

/-! ## Resolving -/

/-- A class with the module and the name it was found under. -/
structure Resolved where
  /-- The module. -/
  moduleName : Text
  /-- The name within the module. -/
  qualifiedName : Text
  /-- The class. -/
  cls : Class

/-- Whether a missing module is only that of the candidate: it is not known which one it is, or
the path of the candidate starts with it. -/
def isOwnMiss (moduleName : Text) (missing : Option Text) : Bool :=
  match missing with
  | none => true
  | some name => name.startsWith moduleName

/-- Imports the module of a candidate, and tells whether it is there. -/
def tryImport (catalog : Catalog) (moduleName : Text) : Run Bool := do
  match ← Run.attempt (catalog.importModule moduleName) with
  | .ok () => return true
  | .error (.moduleMissing name text) =>
    if isOwnMiss moduleName name then return false
    else Run.fail (.moduleMissing name text)
  | .error failure => Run.fail failure

/-- The first of the candidates that stands for a class. -/
def firstClass (catalog : Catalog) : List (Text × Text) → Run (Option Resolved)
  | [] => return none
  | (moduleName, qualifiedName) :: rest => do
    if moduleName.isEmpty || qualifiedName.isEmpty then catalog.firstClass rest
    else if ← catalog.tryImport moduleName then
      match catalog.classIn? (← Run.imported) moduleName qualifiedName with
      | some c => return some ⟨moduleName, qualifiedName, c⟩
      | none => catalog.firstClass rest
    else catalog.firstClass rest

/-- The class of a path. -/
def resolve (catalog : Catalog) (path : Text) : Run (Option Resolved) :=
  catalog.firstClass (candidates path)

/-- The class of a path. -/
def loadClass (catalog : Catalog) (path : Text) : Run (Option Class) := do
  return (← catalog.resolve path).map Resolved.cls

/-- The two sides of the last dot; without a dot all is on the right side. -/
def splitAtLastDot (path : Text) : Text × Text :=
  let parts := pathParts path
  (Text.intercalate "." parts.dropLast, parts.getLast?.getD "")

/-- The module and the name within it that a class path stands for.  A path that leads to no
class is split at its colon, or else at its last dot. -/
def split (catalog : Catalog) (path : Text) : Run (Text × Text) := do
  match ← catalog.resolve path with
  | some r => return (r.moduleName, r.qualifiedName)
  | none => return (splitAtColon? path).getD (splitAtLastDot path)

end Blueprint.Catalog
