/-
# Callables, fields and the knowledge of classes

What a compilation knows about a class: whether it exists and can be instantiated, the
parameters of its constructor and of its methods, and its fields.  The knowledge is a record
of questions, so that a table of declared types and a set of importable modules can both
answer them.
-/
import Blueprint.Run

namespace Blueprint

/-- What a parameter falls back to. -/
inductive Default where
  /-- Nothing: a value is required. -/
  | required
  /-- A declared value. -/
  | declared (value : Value)
  /-- A default that exists but cannot be read. -/
  | unreadable

/-- A parameter of a callable.  Its position is its index among the parameters. -/
structure Parameter where
  /-- Its name. -/
  name : Text
  /-- What it falls back to. -/
  default : Default
  /-- Whether it can only be passed by name. -/
  keywordOnly : Bool

/-- Whether a value may be left out. -/
def Parameter.isOptional (p : Parameter) : Bool :=
  match p.default with
  | .required => false
  | _ => true

/-- A constructor or a method: its name and its parameters. -/
structure Callable where
  /-- Its name. -/
  name : Text
  /-- Its parameters in order. -/
  parameters : List Parameter

/-- The names that trailing arguments are passed by: those of the parameters that can only be
passed by name. -/
def Callable.keywords (c : Callable) : List Text :=
  (c.parameters.filter Parameter.keywordOnly).map Parameter.name

/-- The names that trailing arguments are passed by, where a callable may be missing. -/
def keywordsOf : Option Callable → List Text
  | none => []
  | some c => c.keywords

/-- A field as the class it was asked of has it. -/
structure Field where
  /-- Its name. -/
  name : Text
  /-- The class it was found on. -/
  owner : Text
  /-- Whether it may be accessed from outside. -/
  isPublic : Bool
  /-- Whether it may be assigned. -/
  isWritable : Bool
deriving DecidableEq, Repr

/-- The name of constructors. -/
def constructorName : Text := "__init__"

/-- What is known about classes. -/
structure Introspector where
  /-- Whether a class exists. -/
  exists? : Text → Run Bool
  /-- Whether a class exists and can be instantiated. -/
  isInstantiable : Text → Run Bool
  /-- The constructor, where the class declares one. -/
  constructor : Text → Run (Option Callable)
  /-- A method of a class. -/
  method : Text → Text → Run (Option Callable)
  /-- A field of a class.  The class is a value, as the owner of a field is given as one. -/
  field : Value → Text → Run (Option Field)
  /-- A bound on how often declared defaults can need one another in turn. -/
  depth : Nat

end Blueprint
