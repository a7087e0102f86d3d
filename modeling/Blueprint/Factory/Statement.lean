/-
# Factories as trees

A factory is a function that builds an object by a plan.  Its body is a block of statements:
each instruction becomes one statement, and the nested objects and initializers it needs become
local functions defined right before it.  Local names are numbered in the order in which they
are needed, so no two of a factory are the same.
-/
import Blueprint.Value.Basic

namespace Blueprint.Factory

/-- What a local name stands for. -/
inductive Role where
  /-- The object that a block builds. -/
  | object
  /-- A function that builds a nested object. -/
  | nested
  /-- A function that builds the object behind a placeholder. -/
  | initializer
deriving DecidableEq, Repr

/-- A local name. -/
structure Local where
  /-- What it stands for. -/
  role : Role
  /-- Its number within the factory. -/
  number : Nat
deriving DecidableEq, Repr

/-- An expression. -/
inductive Expr where
  /-- A literal. -/
  | constant (value : Value)
  /-- The entry of a name, from the container. -/
  | lookup (entry : Value)
  /-- The object that a local function builds. -/
  | build (builder : Local)
  /-- A list. -/
  | list (items : List Expr)
  /-- A tuple. -/
  | tuple (items : List Expr)
  /-- A dictionary. -/
  | dict (entries : List (Expr × Expr))

/-- What is called. -/
inductive Callee where
  /-- A class of a module. -/
  | member (moduleName qualifiedName : Text)
  /-- A class that needs no module. -/
  | builtin (name : Text)
  /-- A method of a local object. -/
  | method (target : Local) (name : Text)

/-- A call. -/
structure Call where
  /-- What is called. -/
  callee : Callee
  /-- The arguments in order. -/
  positional : List Expr
  /-- The arguments by name. -/
  keywords : List (Text × Expr)

/-- A statement. -/
inductive Statement where
  /-- Define a local function. -/
  | define (name : Local) (body : List Statement)
  /-- Bind a local name to the result of a call. -/
  | bind (target : Local) (call : Call)
  /-- Assign a field of a local object. -/
  | assign (target : Local) (field : Text) (value : Expr)
  /-- Call, and drop the result. -/
  | perform (call : Call)
  /-- Bind a local name to a placeholder. -/
  | proxy (target : Local) (className : Text) (initializer : Local)
  /-- Return a local object. -/
  | result (target : Local)

end Factory

/-- A function that builds an object. -/
structure Factory where
  /-- Its name. -/
  name : Text
  /-- The modules it imports, each once. -/
  imports : List Text
  /-- Its body. -/
  body : List Factory.Statement

end Blueprint
