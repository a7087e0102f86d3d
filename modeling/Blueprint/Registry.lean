/-
# Declared types

A registry is a list of types that were declared ahead of time, no two of one name.  It
answers the questions about classes from the declarations alone.
-/
import Blueprint.Callable
import Blueprint.Value.Equal

namespace Blueprint

/-- A parameter as it is declared: a name, and a default where it has one. -/
structure ParameterSpec where
  /-- Its name. -/
  name : Text
  /-- What it falls back to. -/
  default : Default

/-- Parameters by their declarations; none of them is restricted to names. -/
def makeParameters (specs : List ParameterSpec) : List Parameter :=
  specs.map fun spec => ⟨spec.name, spec.default, false⟩

/-- A type as it is declared. -/
structure TypeSpec where
  /-- Its name. -/
  name : Text
  /-- The parameters of its constructor, where it has one. -/
  constructor : Option (List ParameterSpec)
  /-- Its methods with their parameters; of two of one name the last counts. -/
  methods : List (Text × List ParameterSpec)
  /-- Its fields, each with whether it is public; of two of one name the last counts. -/
  fields : List (Text × Bool)
  /-- Whether it can be instantiated. -/
  isInstantiable : Bool
  /-- The fields that cannot be written. -/
  readOnly : List Text

/-- A declared type. -/
structure TypeSchema where
  /-- Its name. -/
  name : Text
  /-- Whether it can be instantiated. -/
  isInstantiable : Bool
  /-- Its constructor, where it has one. -/
  constructor : Option Callable
  /-- Its methods by name. -/
  methods : List (Text × Callable)
  /-- Its fields by name. -/
  fields : List (Text × Field)

/-- The type that a declaration describes. -/
def TypeSpec.schema (spec : TypeSpec) : TypeSchema :=
  { name := spec.name
    isInstantiable := spec.isInstantiable
    constructor := spec.constructor.map fun ps => ⟨constructorName, makeParameters ps⟩
    methods := Entries.ofList <| spec.methods.map fun (method, ps) =>
      (method, ⟨method, makeParameters ps⟩)
    fields := Entries.ofList <| spec.fields.map fun (field, isPublic) =>
      (field, ⟨field, spec.name, isPublic, !spec.readOnly.contains field⟩) }

/-- The declared types, in the order of their declaration. -/
structure Registry where
  /-- The types. -/
  types : List TypeSchema

namespace Registry

/-- No types. -/
def empty : Registry := ⟨[]⟩

/-- The type of a name. -/
def find? (registry : Registry) (name : Text) : Option TypeSchema :=
  registry.types.find? fun t => t.name == name

/-- Declares one more type; a name can be declared once. -/
def register (registry : Registry) (spec : TypeSpec) : Except Failure Registry :=
  match registry.find? spec.name with
  | some _ => .error (.duplicateType spec.name)
  | none => .ok ⟨registry.types ++ [spec.schema]⟩

/-- Declares types one after the other. -/
def registerAll (registry : Registry) : List TypeSpec → Except Failure Registry
  | [] => .ok registry
  | spec :: rest =>
    match registry.register spec with
    | .error failure => .error failure
    | .ok registry => registerAll registry rest

/-- The type of a name, which has to exist. -/
def require (registry : Registry) (name : Text) : Run TypeSchema :=
  match registry.find? name with
  | some t => pure t
  | none => Run.mistaken (.unknownClass (.str name))

/-- The type that owns a field.  Only a text can be the name of one, and only what can be a key
can be looked up at all. -/
def requireOwner (registry : Registry) : Value → Run TypeSchema
  | .str name => registry.require name
  | owner =>
    match owner.unhashable? with
    | some typeName => Run.fail (.unhashable typeName)
    | none => Run.mistaken (.unknownClass owner)

/-- The number of parameters that all types declare. -/
def parameterCount (registry : Registry) : Nat :=
  (registry.types.flatMap fun t =>
    t.constructor.elim [] Callable.parameters ++
      t.methods.flatMap fun m => m.2.parameters).length

/-- The answers of a registry.  A chain of defaults that need one another in turn and comes to an
end uses no declared parameter twice. -/
def introspector (registry : Registry) : Introspector :=
  { exists? := fun name => pure (registry.find? name).isSome
    isInstantiable := fun name => pure ((registry.find? name).any TypeSchema.isInstantiable)
    constructor := fun name => do return (← registry.require name).constructor
    method := fun name method => do
      return Entries.get? method (← registry.require name).methods
    field := fun owner field => do
      return Entries.get? field (← registry.requireOwner owner).fields
    depth := registry.parameterCount + 1 }

end Registry

end Blueprint
