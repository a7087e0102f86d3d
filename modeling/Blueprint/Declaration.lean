/-
# Declaring types

What a type is declared with need not make sense.  A parameter is given by its name, or by a pair of
its name and its default, but a row of another length may stand there, or something that cannot be
taken apart at all.  A declaration is read before anything is stored, and a name that is taken is
refused before anything is read, so that a registry is changed by a declaration that makes sense and
by no other.
-/
import Blueprint.Registry

namespace Blueprint

/-- An argument of a declaration: of the kind that is asked for, or of another type. -/
inductive Given (α : Type) where
  /-- What is asked for. -/
  | right (a : α)
  /-- Something of another type. -/
  | wrong (typeName : Text)

/-- A parameter as it is given. -/
inductive ParameterItem where
  /-- A name alone. -/
  | bare (name : Text)
  /-- A name with a default. -/
  | pair (name : Text) (default : Value)
  /-- A name with a default that cannot be read. -/
  | unreadable (name : Text)
  /-- A row of values that is no pair. -/
  | row (length : Nat) (h : length ≠ 2)
  /-- Something that is no row. -/
  | solid (typeName : Text)

/-- A type as it is given. -/
structure Declaration where
  /-- Its name. -/
  name : Text
  /-- The parameters of its constructor, where it has one. -/
  constructor : Option (Given (List ParameterItem))
  /-- Its methods with their parameters. -/
  methods : Given (List (Text × Given (List ParameterItem)))
  /-- Its fields, each with whether it is public. -/
  fields : Given (List (Text × Bool))
  /-- Whether it can be instantiated. -/
  isInstantiable : Bool
  /-- The fields that cannot be written. -/
  readOnly : Given (List Text)

/-- Why a declaration is refused. -/
inductive Refusal where
  /-- There is a type of the name. -/
  | duplicate (name : Text)
  /-- What should be gone through item by item cannot be. -/
  | notIterable (typeName : Text)
  /-- What should have values under names has none. -/
  | noItems (typeName : Text)
  /-- What should be a pair cannot be taken apart. -/
  | noRow (typeName : Text)
  /-- What should be a pair is a shorter row. -/
  | tooFew (length : Nat)
  /-- What should be a pair is a longer row. -/
  | tooMany
deriving DecidableEq

/-- Why a declaration is refused, in words. -/
def Refusal.message : Refusal → Text
  | duplicate name => "Type schema '" ++ name ++ "' already declared."
  | notIterable typeName => "'" ++ typeName ++ "' object is not iterable"
  | noItems typeName => "'" ++ typeName ++ "' object has no attribute 'items'"
  | noRow typeName => "cannot unpack non-iterable " ++ typeName ++ " object"
  | tooFew length =>
    "not enough values to unpack (expected 2, got " ++ toString length ++ ")"
  | tooMany => "too many values to unpack (expected 2)"

namespace Declaration

/-- An argument of the kind that is asked for. -/
def require {α : Type} (refusal : Text → Refusal) : Given α → Except Refusal α
  | .right a => pure a
  | .wrong typeName => throw (refusal typeName)

/-- A parameter. -/
def readParameter : ParameterItem → Except Refusal ParameterSpec
  | .bare name => pure ⟨name, .required⟩
  | .pair name default => pure ⟨name, .declared default⟩
  | .unreadable name => pure ⟨name, .unreadable⟩
  | .row length _ => throw (if length < 2 then .tooFew length else .tooMany)
  | .solid typeName => throw (.noRow typeName)

/-- The parameters of a callable. -/
def readParameters (given : Given (List ParameterItem)) : Except Refusal (List ParameterSpec) := do
  (← require .notIterable given).mapM readParameter

/-- The declaration as one that makes sense. -/
def read (declaration : Declaration) : Except Refusal TypeSpec := do
  let readOnly ← require .notIterable declaration.readOnly
  let constructor ← declaration.constructor.mapM readParameters
  let methods ← (← require .noItems declaration.methods).mapM fun (method, given) => do
    return (method, ← readParameters given)
  let fields ← require .noItems declaration.fields
  return ⟨declaration.name, constructor, methods, fields, declaration.isInstantiable, readOnly⟩

/-- Declares the type in a registry. -/
def register (declaration : Declaration) : ExceptT Refusal (StateM Registry) Unit := do
  if ((← get).find? declaration.name).isSome then throw (.duplicate declaration.name)
  let spec ← declaration.read
  modify fun registry => ⟨registry.types ++ [spec.schema]⟩

end Declaration

/-- The registry after declarations, each of which may be refused. -/
def Registry.after (registry : Registry) (declarations : List Declaration) : Registry :=
  declarations.foldl (fun registry declaration => (declaration.register.run registry).2) registry

end Blueprint
