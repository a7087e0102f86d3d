/-
# What keeps a module from being made

The members of a module are made one after the other, and the first that cannot be made ends the
import.  Here are the causes, from names that stand for nothing to classes that contradict
themselves, and their wording.
-/
import Blueprint.Text.Quoted

namespace Blueprint.Catalog

/-- Why a function does not take a number of arguments in order. -/
inductive CallFault where
  /-- Parameters are left without argument: those in order, or else those by name. -/
  | missing (byName : Bool) (parameters : List Text)
  /-- There are more arguments than parameters, of which the last have defaults. -/
  | surplus (least most given : Nat)
deriving DecidableEq, Repr

/-- A number of things: the noun gets an ending unless it is one thing. -/
def counted (n : Nat) (noun : Text) : Text :=
  toString n ++ " " ++ noun ++ (if n == 1 then "" else "s")

/-- Names between quotes, with a word before the last. -/
def enumerated : List Text → Text
  | [] => ""
  | [a] => Text.quote a
  | [a, b] => Text.quote a ++ " and " ++ Text.quote b
  | names =>
    Text.intercalate ", " (names.dropLast.map Text.quote) ++ ", and " ++
      Text.quote (names.getLast?.getD "")

/-- What is wrong with a call, in words. -/
def CallFault.message : CallFault → Text
  | missing byName parameters =>
    "missing " ++ counted parameters.length
      ("required " ++ (if byName then "keyword-only" else "positional") ++ " argument") ++ ": " ++
      enumerated parameters
  | surplus least most given =>
    "takes " ++
      (if least == most then counted most "positional argument"
        else "from " ++ toString least ++ " to " ++ toString most ++ " positional arguments") ++
      " but " ++ toString given ++ " " ++ (if given == 1 then "was" else "were") ++ " given"

/-- Why a member cannot be made. -/
inductive Defect where
  /-- A name stands for nothing. -/
  | unknownName (name : Text)
  /-- A class has no such attribute. -/
  | classAttribute (className name : Text)
  /-- An object of a type has no such attribute. -/
  | objectAttribute (typeName name : Text)
  /-- Something has no such attribute, and nothing more is said. -/
  | absent (name : Text)
  /-- The bases are classes of different sorts. -/
  | metaclassConflict
  /-- A base is no class: what its type says to the three arguments of a class. -/
  | baseRefused (text : Text)
  /-- The objects of two bases are stored in different ways. -/
  | layoutConflict
  /-- A base is named twice. -/
  | duplicateBase (name : Text)
  /-- The bases contradict each other: those that may come next and may not. -/
  | ancestorConflict (names : List Text)
  /-- Slots that cannot be listed. -/
  | notIterable (typeName : Text)
  /-- A slot that is no text. -/
  | slotType (typeName : Text)
  /-- A slot that is no identifier. -/
  | slotName
  /-- A slot for what objects have already: attributes of any name. -/
  | slotDict
  /-- A slot for what objects have already: weak references. -/
  | slotWeak
  /-- Slots where objects differ in size. -/
  | slotsOfSized (base : Text)
  /-- A slot of the name of an attribute. -/
  | slotTaken (name : Text)
  /-- A qualified name that is no text. -/
  | qualifiedNameType (typeName : Text)
  /-- Annotations that names cannot be put into. -/
  | annotationsFixed (typeName : Text)
  /-- Annotations that are a list. -/
  | annotationsList
  /-- Annotations that are no dictionary. -/
  | annotationsType (owner : Text)
  /-- A function that is called along the way does not take the arguments. -/
  | call (function : Text) (fault : CallFault)
  /-- Something that is called along the way cannot be called. -/
  | notCallable (typeName : Text)
  /-- A base of a protocol is no protocol. -/
  | protocolBase (display : Text)
  /-- An enumeration with members has a descendant. -/
  | enumerationClosed (name base : Text)
  /-- The last base of an enumeration is no enumeration. -/
  | enumerationBase
  /-- An enumeration would get its values from several classes. -/
  | valueTypes (name : Text) (displays : List Text)
  /-- A member of an enumeration gets no value from the class that values come from. -/
  | valueUnset
  /-- A member of an enumeration is bound again. -/
  | memberRepeated (name previous : Text)
  /-- A name between single underscores, which are reserved. -/
  | reservedMember (name : Text)
  /-- A name that no member can have. -/
  | memberName (name : Text)
  /-- A member that is made to be nothing has no value. -/
  | memberLost
  /-- A field whose default would be shared and changed. -/
  | mutableDefault (type field : Text)
  /-- A declaration of a field without annotation. -/
  | bareField (name : Text)
  /-- A field that is required after one that is not. -/
  | fieldOrder (name : Text)
deriving DecidableEq, Repr

/-- Why a member cannot be made, in words. -/
def Defect.message : Defect → Text
  | unknownName name => "name " ++ Text.quote name ++ " is not defined"
  | classAttribute className name =>
    "type object '" ++ className ++ "' has no attribute '" ++ name ++ "'"
  | objectAttribute typeName name =>
    "'" ++ typeName ++ "' object has no attribute '" ++ name ++ "'"
  | absent name => name
  | metaclassConflict =>
    "metaclass conflict: the metaclass of a derived class must be a (non-strict) subclass of " ++
      "the metaclasses of all its bases"
  | baseRefused text => text
  | layoutConflict => "multiple bases have instance lay-out conflict"
  | duplicateBase name => "duplicate base class " ++ name
  | ancestorConflict names =>
    "Cannot create a consistent method resolution\norder (MRO) for bases " ++
      Text.intercalate ", " names
  | notIterable typeName => "'" ++ typeName ++ "' object is not iterable"
  | slotType typeName => "__slots__ items must be strings, not '" ++ typeName ++ "'"
  | slotName => "__slots__ must be identifiers"
  | slotDict => "__dict__ slot disallowed: we already got one"
  | slotWeak =>
    "__weakref__ slot disallowed: either we already got one, or __itemsize__ != 0"
  | slotsOfSized base => "nonempty __slots__ not supported for subtype of '" ++ base ++ "'"
  | slotTaken name => Text.quote name ++ " in __slots__ conflicts with class variable"
  | qualifiedNameType typeName => "type __qualname__ must be a str, not " ++ typeName
  | annotationsFixed typeName =>
    "'" ++ typeName ++ "' object does not support item assignment"
  | annotationsList => "list indices must be integers or slices, not str"
  | annotationsType owner => owner ++ ".__annotations__ is neither a dict nor None"
  | call function fault => function ++ "() " ++ fault.message
  | notCallable typeName => "'" ++ typeName ++ "' object is not callable"
  | protocolBase display =>
    "Protocols can only inherit from other protocols, got " ++ display
  | enumerationClosed name base => "<enum '" ++ name ++ "'> cannot extend <enum '" ++ base ++ "'>"
  | enumerationBase =>
    "new enumerations should be created as `EnumName([mixin_type, ...] [data_type,] enum_type)`"
  | valueTypes name displays =>
    "too many data types for " ++ Text.quote name ++ ": \x7b" ++ Text.intercalate ", " displays ++
      "\x7d"
  | valueUnset => "_value_ not set in __new__, unable to create it"
  | memberRepeated name previous => Text.quote name ++ " already defined as " ++ previous
  | reservedMember name =>
    "_sunder_ names, such as " ++ Text.quote name ++ ", are reserved for future Enum use"
  | memberName name => "invalid enum member name(s) " ++ Text.quote name
  | memberLost => "'NoneType' object has no attribute '_value_'"
  | mutableDefault type field =>
    "mutable default <class '" ++ type ++ "'> for field " ++ field ++
      " is not allowed: use default_factory"
  | bareField name => Text.quote name ++ " is a field but has no type annotation"
  | fieldOrder name => "non-default argument " ++ Text.quote name ++ " follows default argument"

/-- What is at fault when a member cannot be made. -/
inductive Blame where
  /-- A name that stands for nothing. -/
  | name
  /-- An attribute that is not there. -/
  | attribute
  /-- A value. -/
  | value
  /-- The type of an object. -/
  | type
deriving DecidableEq, Repr

/-- What is at fault. -/
def Defect.blame : Defect → Blame
  | unknownName _ => .name
  | classAttribute .. | objectAttribute .. | absent _ | memberLost => .attribute
  | slotTaken _ | mutableDefault .. | reservedMember _ | memberName _ | annotationsType _ => .value
  | _ => .type

end Blueprint.Catalog
