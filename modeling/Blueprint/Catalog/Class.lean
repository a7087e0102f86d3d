/-
# Classes

A class is a layer with what it declares itself, on top of the layers of its ancestors in the
order in which they are searched.  Looking up an attribute means to look for it layer by layer.
What a name stands for is an object; of an object only its sort is known, and what the questions
about classes need of it.
-/
import Blueprint.Catalog.Identity
import Blueprint.Catalog.Linearization
import Blueprint.Catalog.Signature
import Blueprint.Value.Display

namespace Blueprint.Catalog

/-- The sorts of classes.  They differ in how a class is made and in the attributes that a class
has apart from those of its objects. -/
inductive Metaclass where
  /-- Classes with nothing special. -/
  | plain
  /-- Classes that keep the names of what has to be overridden. -/
  | abstract
  /-- Classes that say what others have to provide. -/
  | protocol
  /-- Classes with a fixed number of objects. -/
  | enumeration
deriving DecidableEq, Repr

/-- Whether classes of one sort are also of another. -/
def Metaclass.extends : Metaclass → Metaclass → Bool
  | _, .plain => true
  | .protocol, .abstract => true
  | a, b => a == b

/-- How the objects of a class are stored. -/
structure Layout where
  /-- The class that last added something of fixed size, with its ancestors. -/
  solid : List ClassId
  /-- Whether objects have attributes of any name. -/
  hasDict : Bool
  /-- Whether there can be weak references to objects. -/
  hasWeak : Bool
  /-- Whether objects differ in size. -/
  isSized : Bool
deriving DecidableEq, Repr

/-- A field that takes part in the constructor of a data class. -/
structure DataField where
  /-- Its name. -/
  name : Text
  /-- What it falls back to. -/
  default : Default
  /-- Whether it is passed by name only. -/
  keywordOnly : Bool

/-- A function. -/
structure Function where
  /-- The name by which messages call it. -/
  name : Text
  /-- Its parameters. -/
  signature : Signature
  /-- Whether it has to be overridden. -/
  isAbstract : Bool

mutual

/-- What a name stands for. -/
inductive Object where
  /-- A function, which an object is bound to when it is taken from the object. -/
  | function (f : Function)
  /-- A function that nothing is bound to. -/
  | free (f : Function)
  /-- A function that the class is bound to when it is taken from the class. -/
  | ofClass (f : Function)
  /-- A function that something is bound to. -/
  | bound (f : Function)
  /-- A built in function of a class, with its parameters where they can be told. -/
  | native (owner name : Text) (signature : Except Unreadable Signature)
  /-- A property, which can be assigned or not. -/
  | property (writable : Bool)
  /-- A value. -/
  | value (v : Value)
  /-- The declaration of a field of a data class, with its number among declarations. -/
  | field (serial : Nat) (default : Default) (keywordOnly : Bool)
  /-- A slot of the objects of a class. -/
  | slot (owner name : Text)
  /-- Something that every object of a built in class stores. -/
  | stored (typeName : Text)
  /-- Something that only the members of an enumeration have. -/
  | ofMembers
  /-- Something of which nothing but its type is known. -/
  | hidden (typeName : Text)
  /-- A class. -/
  | cls (c : Class)

/-- What a class itself declares. -/
structure Layer where
  /-- What tells it from other classes. -/
  id : ClassId
  /-- Its name. -/
  name : Text
  /-- Its name within its module. -/
  qualifiedName : Text
  /-- Its sort. -/
  metaclass : Metaclass
  /-- Its attributes by name. -/
  attributes : List (Text × Object)
  /-- How its objects are stored. -/
  layout : Layout
  /-- The fields of the constructor, where it or an ancestor is a data class. -/
  dataFields : Option (List DataField)
  /-- The names that are still abstract, where this is tracked. -/
  abstractNames : Option (List Text)

/-- A class. -/
structure Class where
  /-- What it declares itself. -/
  own : Layer
  /-- The layers of its ancestors in the order in which they are searched. -/
  ancestors : List Layer
  /-- The base whose objects its own are stored like. -/
  base : Option Class
  /-- The parameters of the call that makes an object. -/
  construction : Except Unreadable Signature

end

/-- Names with what they stand for, in the order in which they were first bound. -/
abbrev Names := List (Text × Object)

/-- The module of built in classes. -/
def builtinModule : Text := "builtins"

/-! ## Layers -/

namespace Layer

/-- Whether a layer is that of the class at the root of all others. -/
def isRoot (l : Layer) : Bool :=
  l.id == ⟨builtinModule, 0⟩

/-- What a name stands for in a layer. -/
def get? (l : Layer) (name : Text) : Option Object :=
  Entries.get? name l.attributes

/-- Whether a layer has a name. -/
def contains (l : Layer) (name : Text) : Bool :=
  Entries.contains name l.attributes

/-- Binds a name in a layer. -/
def put (l : Layer) (name : Text) (o : Object) : Layer :=
  { l with attributes := Entries.put name o l.attributes }

/-- Binds a name in a layer that does not have it. -/
def putMissing (l : Layer) (name : Text) (o : Object) : Layer :=
  if l.contains name then l else l.put name o

/-- Takes a name out of a layer. -/
def remove (l : Layer) (name : Text) : Layer :=
  { l with attributes := l.attributes.filter fun entry => entry.1 != name }

/-- The attribute that tells the module of a class. -/
def moduleKey : Text := "__module__"

/-- The attribute that holds the annotated names of a class. -/
def annotationsKey : Text := "__annotations__"

/-- The value that tells the module of a class: built in classes have none of their own. -/
def moduleValue (l : Layer) : Value :=
  match l.get? moduleKey with
  | some (.value v) => v
  | some (.stored _) | none => .str builtinModule
  | some _ => .null

/-- Whether nothing can be added to a class: it is built in and of no library. -/
def isFixed (l : Layer) : Bool :=
  match l.get? moduleKey with
  | some (.stored _) | none => true
  | some _ => false

/-- A class as it is named in messages. -/
def display (l : Layer) : Text :=
  match l.metaclass, l.moduleValue with
  | .enumeration, _ => "<enum '" ++ l.name ++ "'>"
  | _, .str moduleName =>
    "<class '" ++
      (if moduleName == builtinModule then l.name else moduleName ++ "." ++ l.qualifiedName) ++
      "'>"
  | _, _ => "<class '" ++ l.name ++ "'>"

end Layer

/-! ## Classes -/

namespace Class

/-- The layers of a class, its own first. -/
def layers (c : Class) : List Layer :=
  c.own :: c.ancestors

/-- The object that a name stands for: that of the first layer that has the name. -/
def find? (c : Class) (name : Text) : Option Object :=
  c.layers.findSome? fun l => l.get? name

/-- What a class declares itself hides what its ancestors declare. -/
theorem find?_of_own {c : Class} {name : Text} {o : Object} (h : c.own.get? name = some o) :
    c.find? name = some o := by
  simp [find?, layers, h]

/-- Whether a class is the class itself or one of its ancestors. -/
def hasAncestor (c : Class) (id : ClassId) : Bool :=
  c.layers.any fun l => l.id == id

/-- The module and the name of a class. -/
def path (c : Class) : Text × Text :=
  (c.own.moduleValue.text, c.own.qualifiedName)

/-- A class as it is named in messages. -/
def display (c : Class) : Text :=
  c.own.display

end Class

/-! ## Objects -/

namespace Object

/-- Whether an object is the built in function of a class. -/
def isNative (o : Object) (owner name : Text) : Bool :=
  match o with
  | native o n _ => o == owner && n == name
  | _ => false

/-- Whether an object is built in and can be called. -/
def isBuiltin : Object → Bool
  | native .. => true
  | _ => false

/-- Whether an object counts as true. -/
def isTruthy : Object → Bool
  | value v => !v.isFalsy
  | _ => true

/-- Whether an object has to be overridden.  A class may say so of itself. -/
def isAbstract : Object → Bool
  | function f | free f | ofClass f | bound f => f.isAbstract
  | cls c => (c.find? "__isabstractmethod__").any isTruthy
  | _ => false

/-- The name of the type of classes of a sort. -/
def metaclassName : Metaclass → Text
  | .plain => "type"
  | .abstract => "ABCMeta"
  | .protocol => "_ProtocolMeta"
  | .enumeration => "EnumType"

/-- The name of the type of an object. -/
def typeName : Object → Text
  | function _ => "function"
  | free _ => "staticmethod"
  | ofClass _ => "classmethod"
  | bound _ => "method"
  | native _ name _ =>
    if name == "__new__" then "builtin_function_or_method"
    else if isPrivateName name || !Text.startsWith "__" name then "method_descriptor"
    else "wrapper_descriptor"
  | property _ | ofMembers => "property"
  | value v => v.typeName
  | field .. => "Field"
  | slot .. => "member_descriptor"
  | stored typeName | hidden typeName => typeName
  | cls c => metaclassName c.own.metaclass

/-- An object as it is shown in messages. -/
def display : Object → Text
  | value v => v.display
  | cls c => c.display
  | slot owner name => "<member '" ++ name ++ "' of '" ++ owner ++ "' objects>"
  | native owner name signature =>
    let kind : Text :=
      if (native owner name signature).typeName == "method_descriptor" then "method"
      else "slot wrapper"
    "<" ++ kind ++ " '" ++ name ++ "' of '" ++ owner ++ "' objects>"
  | o => "<" ++ o.typeName ++ " object>"

/-- The parameters of an object that can be called and is no class. -/
def signature? : Object → Option (Except Unreadable Signature)
  | function f => some (.ok f.signature)
  | bound f => some f.signature.bind
  | native _ _ signature => some signature
  | _ => none

end Object

end Blueprint.Catalog
