/-
# Descriptions of modules

A catalog describes the modules that can be imported: for each its attributes in the order in
which they are made, down to the members of classes and the parameters of functions.  Nothing
is looked up here; names of bases and aliases are still names.
-/
import Blueprint.Value.Basic

namespace Blueprint.Catalog

/-- One item of a parameter list as it is written. -/
inductive SignatureItem where
  /-- A parameter, with its default where it has one. -/
  | parameter (name : Text) (default : Option Value)
  /-- The mark that closes the parameters that have no names for callers. -/
  | positionalEnd
  /-- The mark after which parameters are passed by name only. -/
  | keywordStart
  /-- The parameter that takes the surplus arguments in order. -/
  | variadic (name : Text)
  /-- The parameter that takes the surplus arguments by name. -/
  | keywordVariadic (name : Text)

/-- How a function of a class is bound. -/
inductive FunctionKind where
  /-- To an instance. -/
  | ofInstance
  /-- To nothing. -/
  | free
  /-- To the class. -/
  | ofClass
  /-- To an instance, and it has to be overridden. -/
  | toOverride
deriving DecidableEq, Repr

mutual

/-- A member of a module or of a class. -/
inductive Member where
  /-- A class. -/
  | nested (description : ClassDescription)
  /-- A function. -/
  | function (signature : List SignatureItem) (kind : FunctionKind)
  /-- A property, which can be assigned or not. -/
  | property (writable : Bool)
  /-- Another name for what a name stands for. -/
  | alias (path : Text)
  /-- A plain attribute: its value where it has one, whether it is annotated, whether its default
  is made by a factory, and whether it is passed by name only. -/
  | plain (value : Option Value) (annotated factory keywordOnly : Bool)

/-- A class as it is written. -/
structure ClassDescription where
  /-- The names of its bases. -/
  bases : List Text
  /-- The names of its slots, where it declares slots. -/
  slots : Option (List Text)
  /-- Whether its constructor follows from its annotated fields. -/
  isDataclass : Bool
  /-- Its members in order. -/
  members : List (Text × Member)

end

/-- Why a module cannot be imported. -/
structure ImportFault where
  /-- The module that is missing, where it is known. -/
  name : Option Text
  /-- What is said about it. -/
  text : Text

/-- A module as it is written. -/
structure ModuleDescription where
  /-- Its path. -/
  name : Text
  /-- Whether it can hold other modules. -/
  isPackage : Bool
  /-- Why it cannot be imported, where it cannot. -/
  fault : Option ImportFault
  /-- Its attributes in order. -/
  attributes : List (Text × Member)

end Blueprint.Catalog
