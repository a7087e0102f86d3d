/-
# Values, definitions and plans

Three kinds of data refer to each other.

* A *value* is what a parameter or a field is bound to: a literal, a reference to another
  entry, a collection, or a definition of an object to be built in place.
* A *definition* says how to build one object: its class, the arguments of its constructor,
  the fields to assign and the methods to call.
* A *plan* is what a definition compiles to: a list of instructions, whose operands are
  values again, with plans in the place of definitions.

Classes, fields, methods and arguments go by plain texts.  An object of a class that descends from
the type of texts is a value, `Value.derived`, and is the name of none of them; the name of an entry
and the owner of a field are values, of whatever type.

They are declared together; everything else about each of them is in modules of its own.
-/
import Blueprint.Double.Basic
import Blueprint.Text.Basic

namespace Blueprint

/-- A literal of a type that classes can descend from. -/
inductive Scalar where
  /-- A whole number. -/
  | int (i : Int)
  /-- A double precision number. -/
  | float (x : Double)
  /-- A text. -/
  | str (s : Text)
  /-- A sequence of bytes. -/
  | bytes (b : List UInt8)
deriving DecidableEq

/-- Whether a literal is zero or empty. -/
def Scalar.isFalsy : Scalar → Bool
  | int i => i == 0
  | float x => x.numEq (Double.zero false)
  | str s => s.isEmpty
  | bytes b => b.isEmpty

/-- What a class that descends from the type of a literal makes of the literal: the name of the
class, and the display and text form of the object, where it can be written. -/
structure Derived where
  /-- The name of the class. -/
  typeName : Text
  /-- The display form, unless the literal has too many digits for it. -/
  display? : Option Text
  /-- The text form, unless the literal has too many digits for it. -/
  text? : Option Text
deriving DecidableEq

mutual

/-- A value that is bound to a parameter or a field, or that stands as an operand. -/
inductive Value where
  /-- The null value. -/
  | null
  /-- A truth value. -/
  | bool (b : Bool)
  /-- A whole number. -/
  | int (i : Int)
  /-- A double precision number. -/
  | float (x : Double)
  /-- A text. -/
  | str (s : Text)
  /-- A sequence of bytes. -/
  | bytes (b : List UInt8)
  /-- A list. -/
  | list (items : List Value)
  /-- A tuple. -/
  | tuple (items : List Value)
  /-- A dictionary: keys with their values, in order, each key once. -/
  | dict (entries : List (Value × Value))
  /-- A reference to another entry, by its name. -/
  | reference (entry : Value)
  /-- In the place of an argument: take the declared default. -/
  | useDefault
  /-- An object to be built in place. -/
  | definition (d : Definition)
  /-- An object built in place by a plan. -/
  | nested (className : Text) (plan : List Instruction)
  /-- A set. -/
  | set (items : List Value)
  /-- An object of the host of which nothing but a tag is known. -/
  | foreign (tag : Text)
  /-- A member of an enumeration whose members are no literals. -/
  | enumMember (enumeration member : Text) (value : Value)
  /-- A literal that is an object of a class of its own, such as a member of an enumeration of whole
  numbers. -/
  | derived (form : Derived) (literal : Scalar)

/-- Arguments of one call, each bound to a position. -/
structure Binding where
  /-- The method that is called. -/
  method : Text
  /-- The bound positions with their values, each position once. -/
  arguments : List (Nat × Value)

/-- A value for a field. -/
structure FieldBinding where
  /-- The field. -/
  field : Text
  /-- Its value. -/
  value : Value
  /-- The class that declares the field; null where it is the class of the object. -/
  owner : Value

/-- How to build one object. -/
structure Definition where
  /-- The name of the entry. -/
  name : Value
  /-- The path of the class. -/
  className : Text
  /-- Whether the object is built on its first use. -/
  isLazy : Bool
  /-- The arguments of the constructor. -/
  constructor : Option Binding
  /-- The fields to assign, in order. -/
  fields : List FieldBinding
  /-- The methods to call, in order. -/
  methods : List Binding

/-- A step of a plan. -/
inductive Instruction where
  /-- Create the object.  The last arguments are passed by the given names. -/
  | construct (className : Text) (arguments : List Value) (keywords : List Text)
  /-- Assign a field. -/
  | assign (field : Text) (value : Value)
  /-- Call a method.  The last arguments are passed by the given names. -/
  | invoke (method : Text) (arguments : List Value) (keywords : List Text)
  /-- Put a placeholder in the place of the object, which runs a plan on first use. -/
  | placeholder (className : Text) (initializer : List Instruction)
  /-- A value that stands where an instruction is expected. -/
  | stray (value : Value)

end

/-- The steps that build one object. -/
abbrev Plan := List Instruction

instance : Inhabited Value := ⟨.null⟩

instance : Inhabited Definition :=
  ⟨{ name := .null, className := "", isLazy := false, constructor := none, fields := [],
     methods := [] }⟩

namespace Value

/-- The name of the type of a value. -/
def typeName : Value → Text
  | null => "NoneType"
  | bool _ => "bool"
  | int _ => "int"
  | float _ => "float"
  | str _ => "str"
  | bytes _ => "bytes"
  | list _ => "list"
  | tuple _ => "tuple"
  | dict _ => "dict"
  | reference _ => "Reference"
  | useDefault => "_UseDefault"
  | definition _ => "ObjectDefinition"
  | nested .. => "NestedObject"
  | set _ => "set"
  | foreign _ => "Opaque"
  | enumMember enumeration _ _ => enumeration
  | derived form _ => form.typeName

/-- The literal that a value is, objects of classes of their own included.  Truth values and null
are left out, as no class descends from their types. -/
@[simp]
def scalar? : Value → Option Scalar
  | int i => some (.int i)
  | float x => some (.float x)
  | str s => some (.str s)
  | bytes b => some (.bytes b)
  | derived _ literal => some literal
  | _ => none

/-- A value that needs no compilation because it stands for itself. -/
def isLiteral : Value → Bool
  | null | bool _ | int _ | float _ | str _ | bytes _ | derived .. => true
  | _ => false

/-- The entry that a name is of: null names none. -/
def entry? : Value → Option Value
  | null => none
  | name => some name

/-- Whether a value counts as absent where an optional value is expected: null, false, zeros, and
everything empty. -/
def isFalsy : Value → Bool
  | null => true
  | bool b => !b
  | int i => i == 0
  | float x => x.numEq (Double.zero false)
  | str s => s.isEmpty
  | bytes b => b.isEmpty
  | derived _ literal => literal.isFalsy
  | list items | tuple items | set items => items.isEmpty
  | dict entries => entries.isEmpty
  | _ => false

end Value

/-! ## Keys -/

mutual

/-- The type that keeps a value from being a key, if one does: that of the first list, dictionary or
set that the value holds.  The values of a binding of arguments do not count. -/
def Value.unhashable? : Value → Option Text
  | .list _ => some "list"
  | .dict _ => some "dict"
  | .set _ => some "set"
  | .tuple items => unhashableItem? items
  | .reference entry => entry.unhashable?
  | .definition d => unhashableDefinition? d
  | .nested _ plan => unhashableStep? plan
  | _ => none

/-- The type that keeps items from being keys, if one does. -/
def unhashableItem? : List Value → Option Text
  | [] => none
  | item :: rest => item.unhashable?.or (unhashableItem? rest)

/-- The type that keeps a definition from being a key, if one does. -/
def unhashableDefinition? : Definition → Option Text
  | ⟨name, _, _, _, fields, _⟩ => name.unhashable?.or (unhashableField? fields)

/-- The type that keeps field bindings from being keys, if one does. -/
def unhashableField? : List FieldBinding → Option Text
  | [] => none
  | ⟨_, value, owner⟩ :: rest =>
    (value.unhashable?.or owner.unhashable?).or (unhashableField? rest)

/-- The type that keeps an instruction from being a key, if one does. -/
def unhashableInstruction? : Instruction → Option Text
  | .construct _ arguments _ => unhashableItem? arguments
  | .assign _ value => value.unhashable?
  | .invoke _ arguments _ => unhashableItem? arguments
  | .placeholder _ initializer => unhashableStep? initializer
  | .stray value => value.unhashable?

/-- The type that keeps a plan from being a key, if one does. -/
def unhashableStep? : List Instruction → Option Text
  | [] => none
  | step :: rest => (unhashableInstruction? step).or (unhashableStep? rest)

end

namespace Definition

/-- The same definition with another lazy flag. -/
def withLazy (d : Definition) (flag : Bool) : Definition :=
  { d with isLazy := flag }

end Definition

end Blueprint
