/-
# Building definitions step by step

A definition starts from a class and a name.  Each step returns a new definition: the last
constructor call and the last lazy flag count, fields and methods accumulate in the order of
their calls.  The arguments of a call are given in order, and by names `p0`, `p1`, … that bind
single positions and override what the order gives them.
-/
import Blueprint.Definition.Binding
import Blueprint.Definition.Position

namespace Blueprint

/-- The positions that named arguments bind; a name may repeat a position, and the last counts. -/
def namedArguments : List (Text × Value) → Except Failure (List (Nat × Value))
  | [] => .ok []
  | (name, value) :: rest =>
    match Position.ofName name with
    | .error failure => .error failure
    | .ok position => (namedArguments rest).map ((position, value) :: ·)

/-- The binding of arguments in order and by name. -/
def Binding.ofCall (method : Text) (arguments : List Value) (named : List (Text × Value)) :
    Except Failure Binding :=
  (namedArguments named).map fun pairs =>
    ⟨method, Entries.ofList (Binding.enumerate arguments 0 ++ pairs)⟩

/-- A step takes some arguments of its own, the definition first; none of them can be given by name
as well. -/
def checkNames (step : Text) (own : List Text) (named : List (Text × Value)) :
    Except Failure Unit :=
  match named.find? fun entry => own.contains entry.1 with
  | some (name, _) => .error (.repeatedArgument ("ObjectDefinitionBuilder." ++ step) name)
  | none => .ok ()

namespace Definition

/-- Starts a definition.  A name that is missing or empty is that of the class. -/
def create (className : Text) (name : Value) : Definition :=
  { name := if name.isFalsy then .str className else name
    className, isLazy := false, constructor := none, fields := [], methods := [] }

/-- Sets the arguments of the constructor. -/
def withConstructor (d : Definition) (arguments : List Value) (named : List (Text × Value)) :
    Except Failure Definition := do
  checkNames "constructor" ["self"] named
  let b ← Binding.ofCall "__init__" arguments named
  return { d with constructor := some b }

/-- Adds the assignment of a field. -/
def withField (d : Definition) (field : Text) (value owner : Value) : Definition :=
  { d with fields := d.fields ++ [⟨field, value, owner⟩] }

/-- Adds the call of a method. -/
def withMethod (d : Definition) (method : Text) (arguments : List Value)
    (named : List (Text × Value)) : Except Failure Definition := do
  checkNames "method" ["self", "method_name"] named
  let b ← Binding.ofCall method arguments named
  return { d with methods := d.methods ++ [b] }

end Definition

end Blueprint
