/-
# Enumerations

The body of an enumeration is read in its own way: a plain value under an ordinary name becomes a
member, and no member can be bound again.  Every member is an object of the enumeration, made
once when the enumeration is; two of equal value are one.  An enumeration with members has no
descendants.
-/
import Blueprint.Catalog.Descent
import Blueprint.Value.Equal
import Blueprint.Value.Written

namespace Blueprint.Catalog

/-- The names of a body so far, and those that are to become members. -/
structure Body where
  /-- The names with what they stand for. -/
  names : Names
  /-- The names of members to be, in order. -/
  members : List Text

namespace Enumeration

/-! ## Names -/

/-- A point that is an underscore. -/
def underscore : Point := .char '_'

/-- Whether a name is between double underscores. -/
def isSystemName (name : Text) : Bool :=
  let p := name.points
  decide (4 < p.length) && [underscore, underscore].isPrefixOf p &&
    [underscore, underscore].isSuffixOf p && p[2]? != some underscore &&
    p[p.length - 3]? != some underscore

/-- Whether a name is between single underscores. -/
def isReservedName (name : Text) : Bool :=
  let p := name.points
  decide (2 < p.length) && p.head? == some underscore && p.getLast? == some underscore &&
    p[1]? != some underscore && p[p.length - 2]? != some underscore

/-- Whether a name is private to the enumeration. -/
def isOwnName (className name : Text) : Bool :=
  let start : Text := "_" ++ className ++ "__"
  Text.startsWith start name && decide (start.points.length < name.points.length) &&
    !endsWith "__" name

/-- The key of the function that chooses values. -/
def nextValueKey : Text := "_generate_next_value_"

/-- The names between single underscores that mean something. -/
def meaningfulNames : List Text :=
  ["_order_", nextValueKey, "_numeric_repr_", "_missing_", "_ignore_", "_iter_member_",
    "_iter_member_by_value_", "_iter_member_by_def_"]

/-! ## Bodies -/

/-- Whether an object stands for something else once it is taken from a class, so that it is no
value of a member. -/
def isDescriptor : Object → Bool
  | .value _ | .field .. | .hidden _ => false
  | .cls c =>
    (c.get? "__get__").isSome || (c.get? "__set__").isSome || (c.get? "__delete__").isSome
  | _ => true

/-- Whether an object is a class that was made in the body of an enumeration. -/
def isInnerClass (className : Text) : Object → Bool
  | .cls c =>
    let inner := className ++ "." ++ c.own.name
    c.own.qualifiedName == inner || endsWith ("." ++ inner) c.own.qualifiedName
  | _ => false

/-- Binds a name in the body of an enumeration. -/
def bind (className : Text) (body : Body) (name : Text) (o : Object) : Except Defect Body :=
  let bound : Body := { body with names := Entries.put name o body.names }
  let previous := (Entries.get? name body.names).map Object.display
  if isOwnName className name then .ok bound
  else if isReservedName name then
    if meaningfulNames.contains name then .ok bound else .error (.reservedMember name)
  else if isSystemName name then .ok bound
  else if body.members.contains name then .error (.memberRepeated name (previous.getD ""))
  else if isDescriptor o then .ok bound
  else
    match previous with
    | some display => .error (.memberRepeated name display)
    | none => .ok { bound with members := body.members ++ [name] }

/-! ## Bases -/

/-- The attribute that lists the members of an enumeration. -/
def membersKey : Text := "_member_names_"

/-- Whether a layer is that of an enumeration with members. -/
def hasMembers (l : Layer) : Bool :=
  l.metaclass == .enumeration && (l.get? membersKey).any Object.isTruthy

/-- The attribute that holds the class that the values of members are objects of. -/
def valueTypeKey : Text := "_member_type_"

/-- The class that a base gives to values, if it does: an enumeration passes its own on, another
class has to say how its objects are made. -/
def valueTypeOf? (c : Class) : Option Class :=
  if c.own.metaclass == .enumeration then
    match c.get? valueTypeKey with
    | some (.cls t) => if t.own.isRoot then none else some t
    | _ => none
  else if c.layers.any fun l =>
      !l.isRoot && (l.contains makerName || l.contains "__dataclass_fields__") then some c
  else none

/-- The class that bases give to values. -/
def valueType? (bases : List Class) : Option Class :=
  bases.findSome? valueTypeOf?

/-- The enumeration that a new one descends from: the last base.  None of the bases may have
members, and all have to agree on the class of values. -/
def parent (className : Text) (bases : List Class) : Except Defect Class :=
  match (bases.flatMap Class.layers).find? hasMembers with
  | some l => .error (.enumerationClosed className l.name)
  | none =>
    let types := bases.filterMap valueTypeOf?
    let others := types.filter fun t => some t.own.id != types.head?.map fun t => t.own.id
    match bases.getLast? with
    | none => .error .enumerationBase
    | some c =>
      if c.own.metaclass != .enumeration then .error .enumerationBase
      else if others.isEmpty then .ok c
      else .error (.valueTypes className (types.map Class.display))

/-- The names that the body of an enumeration starts with. -/
def initialNames (parent : Class) : Names :=
  [(nextValueKey, (parent.get? nextValueKey).getD (.value .null))]

/-! ## Members -/

/-- The attribute that keeps the function by which an enumeration makes its members. -/
def keptMakerKey : Text := "__new_member__"

/-- An object that makes members, if it does more than the root and the look up of members do. -/
def special? (o : Option Object) : Option Object :=
  o.filter fun o =>
    match o with
    | .value .null => false
    | .function f => f.name != Builtin.enumerationLookup.name
    | o => !o.isNative "object" makerName

/-- The object by which an enumeration makes its members, if it is a special one. -/
def memberMaker? (bases : List Class) (names : Names) : Option Object :=
  let valueType := valueType? bases
  let under (name : Text) (c : Option Class) := special? (c.bind fun c => c.get? name)
  (declared? (Entries.get? makerName names)).or
    ((under keptMakerKey valueType).or
      ((under keptMakerKey bases.getLast?).or (under makerName valueType)))

/-- The names about the order of members, which are taken out of an enumeration. -/
def orderKeys : List Text := ["_order_", "_ignore_"]

/-- The attributes of an enumeration before its members are made. -/
def attributes (bases : List Class) (body : Body) : Names :=
  let names := body.names.filter fun entry => !orderKeys.contains entry.1
  let pending := names.map fun entry =>
    if body.members.contains entry.1 then (entry.1, Object.hidden "_proto_member") else entry
  let maker := memberMaker? bases names
  let own : Names :=
    [("_new_member_", maker.getD (.native "object" makerName (.ok []))),
      ("_use_args_", .value (.bool maker.isSome)), (membersKey, .value (.list [])),
      ("_member_map_", .value (.dict [])), ("_value2member_map_", .value (.dict [])),
      ("_unhashable_values_", .value (.list [])),
      (valueTypeKey, .cls ((valueType? bases).getD Builtin.object)), ("_value_repr_", .value .null)]
  own.foldl (fun names entry => Entries.put entry.1 entry.2 names) pending

/-- The arguments that a member is made of: a tuple holds them. -/
def arguments : Object → List Object
  | .value (.tuple items) => items.map .value
  | o => [o]

/-- Whether an object has items. -/
def hasItems : Object → Bool
  | .value v =>
    match v with
    | .str _ | .bytes _ | .list _ | .tuple _ | .set _ | .dict _ => true
    | _ => false
  | _ => false

/-- Whether a class makes a value of arguments: a list takes the items of one. -/
def makesValue (valueType : Class) (given : List Object) : Bool :=
  match valueType.find? constructorName with
  | some (.native "list" _ _) =>
    match given with
    | [] => true
    | [o] => hasItems o
    | _ => false
  | some o => (o.ofInstance.callFault? given.length).isNone
  | none => true

/-- What is wrong with the call that makes a member, or with its value. -/
def makerFault? (valueType : Option Class) (maker : Option Object) (o : Object) : Option Defect :=
  let given := arguments o
  let called := maker.bind fun m =>
    ((m.ofOwner makerName).toOption.getD m).callFault? (given.length + 1)
  let isDeclared := (declared? maker).isSome
  match called, valueType with
  | some defect, _ => some defect
  | none, none => if isDeclared then some .memberLost else none
  | none, some t => if isDeclared || !makesValue t given then some .valueUnset else none

/-- What is wrong with the call that initializes a member. -/
def initializerFault? (c : Class) (o : Object) : Option Defect :=
  match c.find? constructorName with
  | some (.property _) => some (.notCallable "NoneType")
  | some f => f.ofInstance.callFault? (arguments o).length
  | none => none

/-- The value of a member: a literal and a collection that are objects of the enumeration are values
of themselves. -/
def memberValue : Value → Value
  | .enumMember _ _ v => v
  | v => v

/-- The member of an earlier name that has the same value. -/
def earlier? (c : Class) (o : Object) (names : List Text) : Option Object :=
  match o with
  | .value v =>
    names.findSome? fun name =>
      match c.own.get? name with
      | some (.value w) => if memberValue w == v then some (.value w) else none
      | _ => none
  | _ => none

/-- Whether a class is a built in one or descends from it. -/
def descendsFrom (c builtin : Class) : Bool :=
  c.layers.any fun l => l.id == builtin.own.id

/-- A whole number that is a member of an enumeration. -/
def wholeMember (enumeration name : Text) (i : Int) : Value :=
  let path := enumeration ++ "." ++ name
  let display : Text := "<" ++ path ++ ": " ++ (Value.int i).display ++ ">"
  .derived ⟨enumeration, if hasDigits i then some display else none, some path⟩ (.int i)

/-- A member of a class under a name.  A member of an enumeration of whole numbers is the number
that it is made of, and one of an enumeration of lists or dictionaries is the list or dictionary;
where it is made of something else, nothing but its type is known. -/
def member (c : Class) (name : Text) : Object → Object
  | .value v =>
    if descendsFrom c Builtin.int then
      match v.number? with
      | some (.inl i) => .value (wholeMember c.own.name name i)
      | _ => .hidden c.own.name
    else if descendsFrom c Builtin.list then
      match v with
      | .list items => .value (.list items)
      | _ => .hidden c.own.name
    else if descendsFrom c Builtin.dict then
      match v with
      | .dict entries => .value (.dict entries)
      | _ => .hidden c.own.name
    else .value (.enumMember c.own.name name v)
  | _ => .hidden c.own.name

/-- Makes the members of a class one after the other; `names` are those that are there already. -/
def makeMembers (valueType : Option Class) (maker : Option Object) (values : Names) :
    Class → List Text → List Text → Except Defect Class
  | c, names, [] => .ok (c.put membersKey (.value (.list (names.map .str))))
  | c, names, name :: rest =>
    let o := (Entries.get? name values).getD (.value .null)
    match (makerFault? valueType maker o).or (initializerFault? c o) with
    | some defect => .error defect
    | none =>
      match earlier? c o names with
      | some same => makeMembers valueType maker values (c.put name same) names rest
      | none =>
        makeMembers valueType maker values (c.put name (member c name o)) (names ++ [name]) rest

/-- The members of a class in the order of its attributes. -/
def populate (c : Class) (bases : List Class) (body : Body) : Except Defect Class :=
  makeMembers (valueType? bases) (memberMaker? bases body.names) body.names c []
    ((body.names.map Prod.fst).filter fun name => body.members.contains name)

/-- The names under which enumerations say how their members are shown and copied. -/
def shownKeys : List Text := ["__repr__", "__str__", "__format__", "__reduce_ex__"]

/-- The layer of a class that a name is found in. -/
def foundIn? (c : Class) (name : Text) : Option ClassId :=
  (c.layers.find? fun l => l.contains name).map Layer.id

/-- Members are shown as those of other enumerations, unless a description says otherwise: what the
root or the class of values has under a name does not count. -/
def showAlike (c : Class) (bases : List Class) (name : Text) : Class :=
  let found := foundIn? c name
  let unsuited := [some Builtin.object, valueType? bases].any fun t =>
    t.any fun t => foundIn? t name == found
  match c.own.contains name, bases.getLast?.bind fun p => p.get? name with
  | false, some o => if unsuited then c.put name o else c
  | _, _ => c

/-- An enumeration with its members: from now on objects are looked up and not made. -/
def close (c : Class) (bases : List Class) (body : Body) : Class :=
  let shown := shownKeys.foldl (fun c name => showAlike c bases name) c
  let kept :=
    match declared? (Entries.get? makerName body.names) with
    | some o => shown.put keptMakerKey o
    | none => shown
  kept.put makerName (.function Builtin.enumerationLookup)

end Enumeration

end Blueprint.Catalog
