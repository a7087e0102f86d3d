/-
# Making classes

A class is made from its bases and the names in its body.  Its ancestors are put in order, slots
become attributes, some functions get the way in which they are bound, and what the sort of the
class asks for is done: members of enumerations, news to ancestors, abstract names, the functions
of data classes.
-/
import Blueprint.Catalog.Dataclass
import Blueprint.Catalog.Enumeration
import Blueprint.Catalog.Layout

namespace Blueprint.Catalog

/-! ## Ancestors -/

/-- A class that is listed twice. -/
def repeated? : List Class → Option Class
  | [] => none
  | c :: rest => if rest.any fun b => b.own.id == c.own.id then some c else repeated? rest

/-- The layers of the ancestors in the order in which they are searched. -/
def ancestorLayers (bases : List Class) : Except Defect (List Layer) :=
  match repeated? bases with
  | some c => .error (.duplicateBase c.own.name)
  | none =>
    let all := bases.flatMap Class.layers
    let find (id : ClassId) := all.find? fun l => l.id == id
    match linearize (bases.map fun c => c.layers.map Layer.id) with
    | .ok order => .ok (order.filterMap find)
    | .error ids => .error (.ancestorConflict ((ids.filterMap find).map Layer.name))

/-- The sort of a class with bases: that which is also of the sorts of all others. -/
def commonMetaclass (start : Metaclass) : List Class → Except Defect Metaclass
  | [] => .ok start
  | c :: rest =>
    let m := c.own.metaclass
    if start.extends m then commonMetaclass start rest
    else if m.extends start then commonMetaclass m rest
    else .error .metaclassConflict

/-! ## Attributes -/

/-- The attribute that names a class within its module. -/
def qualifiedKey : Text := "__qualname__"

/-- A function of a class that is bound in a way of its own because of its name. -/
def boundByName (name : Text) : Object → Object
  | .function f =>
    if name == makerName then .free f
    else if name == Class.descentKey || name == "__class_getitem__" then .ofClass f
    else .function f
  | o => o

/-- Adds a name to others if it is not among them. -/
def addMissing (names : Names) (name : Text) (o : Object) : Names :=
  if Entries.contains name names then names else names ++ [(name, o)]

/-- The attributes of a class with the given names in its body: those of its slots are added, and
what every class has. -/
def classAttributes (className : Text) (names : Names) (plan : SlotPlan) : Names :=
  let own := (names.filter fun entry => entry.1 != qualifiedKey).map fun entry =>
    (entry.1, boundByName entry.1 entry.2)
  let slotted := (plan.attributes className).foldl (fun all entry => addMissing all entry.1 entry.2)
    own
  let described := addMissing slotted "__doc__" (.value .null)
  if Entries.contains Class.equalKey described then
    addMissing described Class.hashKey (.value .null)
  else described

/-! ## Classes -/

/-- What a class is made of. -/
structure Draft where
  /-- What will tell the class from others. -/
  id : ClassId
  /-- Its name. -/
  name : Text
  /-- Its sort. -/
  metaclass : Metaclass
  /-- Its bases. -/
  bases : List Class
  /-- Its body. -/
  body : Body
  /-- Whether its constructor follows from its annotated names. -/
  isDataclass : Bool

namespace Draft

/-- The bases, which are at least the root of all classes. -/
def allBases (d : Draft) : List Class :=
  if d.bases.isEmpty then [Builtin.object] else d.bases

/-- The names in the body as the sort of the class arranges them. -/
def names (d : Draft) : Except Defect Names :=
  if d.metaclass == .enumeration then
    if d.body.members.contains "mro" then .error (.memberName "mro")
    else .ok (Enumeration.attributes d.bases d.body)
  else .ok d.body.names

/-- The name of the class within its module. -/
def qualifiedName (d : Draft) : Except Defect Text :=
  match Entries.get? qualifiedKey d.body.names with
  | some (.value (.str name)) => .ok name
  | some o => .error (.qualifiedNameType o.typeName)
  | none => .ok d.name

/-- The class with its attributes, before its ancestors know of it. -/
def layOut (d : Draft) : Except Defect Class := do
  let names ← d.names
  let base ← bestBase (d.allBases.headD Builtin.object) (d.allBases.drop 1)
  let plan ← planSlots d.name base d.allBases names
  let qualifiedName ← d.qualifiedName
  let ancestors ← ancestorLayers d.allBases
  let own : Layer :=
    { id := d.id, name := d.name, qualifiedName, metaclass := d.metaclass
      attributes := classAttributes d.name names plan
      layout := plan.layout d.id base
      dataFields := ancestors.findSome? Layer.dataFields
      abstractNames := none }
  return ⟨own, ancestors, some base, .error .noReceiver⟩

/-- The class of a draft. -/
def make (d : Draft) : Except Defect Class := do
  let isEnumeration := d.metaclass == .enumeration
  let c ← d.layOut
  let c ← if isEnumeration then Enumeration.populate c d.bases d.body else pure c
  let c ← c.tellAncestors d.allBases c.ancestors
  let c := c.trackOpen d.allBases
  let c := if isEnumeration then Enumeration.close c d.bases d.body else c
  let c ← if d.isDataclass then c.makeData d.allBases else pure c
  return c.settled

end Draft

end Blueprint.Catalog
