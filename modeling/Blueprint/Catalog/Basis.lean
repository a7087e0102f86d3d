/-
# What a class descends from

The bases of a class are named, and a name may stand for anything.  Classes settle the sort of
the new class and what its body starts with.  If the bases are no classes but all of one type,
that type is asked to make the class once the body is read, and refuses.
-/
import Blueprint.Catalog.Creation

namespace Blueprint.Catalog

/-- What the bases of a class amount to. -/
inductive Basis where
  /-- Classes, and the sort of the new class. -/
  | classes (metaclass : Metaclass) (bases : List Class)
  /-- Objects of one type, which are no classes. -/
  | objects (typeName : Text)

namespace Basis

/-- The classes among objects. -/
def classesOf (bases : List Object) : List Class :=
  bases.filterMap fun o =>
    match o with
    | .cls c => some c
    | _ => none

/-- What bases amount to. -/
def ofObjects (bases : List Object) : Except Defect Basis :=
  let classes := classesOf bases
  if classes.length == bases.length then do
    let start := (classes.head?.map fun c => c.own.metaclass).getD .plain
    return .classes (← commonMetaclass start classes) classes
  else
    let typeName := (bases.head?.map Object.typeName).getD ""
    if classes.isEmpty && bases.all fun o => o.typeName == typeName then .ok (.objects typeName)
    else .error .metaclassConflict

/-- Whether the new class is an enumeration. -/
def isEnumeration : Basis → Bool
  | classes metaclass _ => metaclass == .enumeration
  | objects _ => false

/-- The names that a body starts with: those of an enumeration inherit how values are chosen. -/
def initialNames (className : Text) : Basis → Except Defect Names
  | classes .enumeration bases =>
    (Enumeration.parent className bases).map Enumeration.initialNames
  | _ => .ok []

/-- Types that take one argument, and the words in which they say so. -/
def singleArgumentTexts : List (Text × Text) :=
  [("bool", "expected at most 1 argument, got 3"), ("float", "expected at most 1 argument, got 3"),
    ("list", "expected at most 1 argument, got 3"), ("tuple", "expected at most 1 argument, got 3"),
    ("dict", "expected at most 1 argument, got 3"), ("set", "expected at most 1 argument, got 3"),
    ("staticmethod", "expected 1 argument, got 3"), ("classmethod", "expected 1 argument, got 3"),
    ("method", "expected 2 arguments, got 3"), ("NoneType", "takes no arguments")]

/-- What a type says to a name, bases and a body. -/
def refusal (typeName : Text) : Text :=
  match Entries.get? typeName singleArgumentTexts with
  | some words => typeName ++ " " ++ words
  | none =>
    if typeName == "int" then "int() takes at most 2 arguments (3 given)"
    else if typeName == "function" then "function() argument 'code' must be code, not str"
    else if typeName == "str" || typeName == "bytes" then
      typeName ++ "() argument 'encoding' must be str, not tuple"
    else "cannot create '" ++ typeName ++ "' instances"

/-- What is made of a body: a class, or else what the type of the bases makes of it. -/
def make (basis : Basis) (id : ClassId) (name : Text) (body : Body) (isDataclass : Bool) :
    Except Defect Object :=
  match basis with
  | classes metaclass bases =>
    (Draft.make ⟨id, name, metaclass, bases, body, isDataclass⟩).map .cls
  | objects typeName =>
    if typeName == "property" then .ok (.property true)
    else .error (.baseRefused (refusal typeName))

end Basis

end Blueprint.Catalog
