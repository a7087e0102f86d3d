/-
# Attributes of classes

To take an attribute from a class is more than to look a name up: a class is an object itself,
so that some names are taken over by the class of classes; a function of the class is bound to
it; and what the class does not have may be an attribute of the class of classes.
-/
import Blueprint.Catalog.Builtin

namespace Blueprint.Catalog

/-- Whether an object decides about a name of the objects of its class, whatever these have under
that name. -/
def Object.governs : Object → Bool
  | .stored _ | .property _ => true
  | _ => false

/-- An object as it is when it is taken from an object of its class, if it is a function. -/
def Object.ofInstance : Object → Object
  | .function f | .ofClass f => .bound f
  | .free f => .function f
  | .native owner name (.ok signature) => .native owner name signature.bind
  | o => o

/-- An object as it is when it is taken from its class under a name. -/
def Object.ofOwner (name : Text) : Object → Except Defect Object
  | .free f => .ok (.function f)
  | .ofClass f => .ok (.bound f)
  | .ofMembers => .error (.absent name)
  | o => .ok o

namespace Class

/-- The key of the names of a class that are still abstract. -/
def abstractKey : Text := "__abstractmethods__"

/-- The names that the class of classes governs and answers from the layer of the class. -/
def ownKeys : List Text :=
  [Layer.moduleKey, Layer.annotationsKey, "__doc__", abstractKey]

/-- What a class says of itself under a name that its class governs. -/
def governed (c : Class) (name : Text) : Except Defect Object :=
  if name == "__name__" then .ok (.value (.str c.own.name))
  else if name == "__qualname__" then .ok (.value (.str c.own.qualifiedName))
  else if name == "__class__" then .ok (.cls (Builtin.metaclass c.own.metaclass))
  else if name == "__base__" then .ok ((c.base.map Object.cls).getD (.value .null))
  else if ownKeys.contains name then
    match c.own.get? name with
    | some o => o.ofOwner name
    | none =>
      if name == abstractKey then .error (.absent name)
      else if name == Layer.annotationsKey && c.own.isFixed then
        .error (.classAttribute c.own.name name)
      else if name == Layer.moduleKey then .ok (.value c.own.moduleValue)
      else .ok (.hidden "object")
  else .ok (.hidden "object")

/-- What a class cannot find. -/
def missing (c : Class) (name : Text) : Defect :=
  if c.own.metaclass == .enumeration then .absent name else .classAttribute c.own.name name

/-- The attribute of a class under a name. -/
def get (c : Class) (name : Text) : Except Defect Object :=
  let ofClasses := (Builtin.metaclass c.own.metaclass).find? name
  if ofClasses.any Object.governs then c.governed name
  else
    match c.find? name with
    | some o => o.ofOwner name
    | none =>
      match ofClasses with
      | some o => .ok o.ofInstance
      | none => .error (c.missing name)

/-- The attribute of a class under a name, if it has one. -/
def get? (c : Class) (name : Text) : Option Object :=
  (c.get name).toOption

/-- The object that stands under a name in the layers of a class, or else in those of the class of
classes. -/
def static? (c : Class) (name : Text) : Option Object :=
  (c.find? name).or ((Builtin.metaclass c.own.metaclass).find? name)

end Class

/-- The attribute of an object under a name. -/
def Object.get (o : Object) (name : Text) : Except Defect Object :=
  match o with
  | .cls c => c.get name
  | o => .error (.objectAttribute o.typeName name)

/-! ## Construction -/

/-- The name of the function that makes an object. -/
def makerName : Text := "__new__"

/-- The parameters of an object as it is called. -/
def Object.call (o : Object) : Except Unreadable Signature :=
  match o with
  | .cls c => c.construction
  | o => o.signature?.getD (.error (.notCallable o.display))

/-- An object that a description declares, unless it is null. -/
def declared? : Option Object → Option Object
  | some (.native ..) | some (.value .null) | none => none
  | some o => some o

namespace Class

/-- The function that decides about the parameters of the constructor: that of the first ancestor
that declares one to make or to initialize objects, making first. -/
def decisive? (c : Class) : Option Object :=
  let maker := declared? (c.get? makerName)
  let initializer := declared? (c.get? constructorName)
  c.layers.findSome? fun l =>
    if maker.isSome && l.contains makerName then maker
    else if initializer.isSome && l.contains constructorName then initializer
    else none

/-- Whether a name leads to what every class has from the root. -/
def isDefault (c : Class) (name : Text) : Bool :=
  (c.get? name).any fun o => o.isNative "object" name

/-- The parameters of the constructor as far as they are told by built in ancestors. -/
def builtinConstruction (c : Class) : Except Unreadable Signature :=
  if c.hasAncestor Builtin.list.own.id then Builtin.list.construction
  else if c.hasAncestor Builtin.type.own.id then .error (.unsupported c.display)
  else if c.isDefault constructorName && c.isDefault makerName then .ok []
  else .error (.builtinClass c.display)

/-- The parameters of the constructor as they follow from the ancestors. -/
def inferredConstruction (c : Class) : Except Unreadable Signature :=
  if c.own.metaclass == .enumeration then .ok Builtin.enumerationCall
  else
    match c.decisive? with
    | some o => do (← o.call).bind
    | none => c.builtinConstruction

/-- The parameters of the call that makes an object of a class.  A class may declare them, or say
that it stands for something else. -/
def constructionOf (c : Class) : Except Unreadable Signature :=
  match c.get? "__signature__", c.get? "__wrapped__" with
  | some (.value .null), _ | none, none => c.inferredConstruction
  | some o, _ => .error (.noSignature o.display)
  | none, some o => o.call.mapError fun fault =>
    match fault with
    | .notCallable display => .unsupported display
    | other => other

/-- A class whose construction follows from its attributes. -/
def settled (c : Class) : Class :=
  { c with construction := c.constructionOf }

end Class

end Blueprint.Catalog
