/-
# Slots and storage

A class may list the slots of its objects.  Slots become attributes of the class; without a list,
the objects have attributes of any name and can be referred to weakly, as far as no base provides
for that.  Of several bases only one may be stored in a way of its own.
-/
import Blueprint.Catalog.Attribute
import Blueprint.Text.Identifier

namespace Blueprint.Catalog

/-! ## The base that objects are stored like -/

/-- Whether objects stored in one way are also stored in another. -/
def Layout.includes (a b : Layout) : Bool :=
  b.solid.head?.any fun id => a.solid.contains id

/-- The base that objects are stored like: that with the way of storing that includes those of all
others. -/
def bestBase (first : Class) : List Class → Except Defect Class
  | [] => .ok first
  | c :: rest =>
    if first.own.layout.includes c.own.layout then bestBase first rest
    else if c.own.layout.includes first.own.layout then bestBase c rest
    else .error .layoutConflict

/-! ## Slots -/

/-- The attribute that lists the slots of a class. -/
def slotsKey : Text := "__slots__"

/-- The slot for attributes of any name. -/
def dictSlot : Text := "__dict__"

/-- The slot for weak references. -/
def weakSlot : Text := "__weakref__"

/-- The items of a list of slots: a text is one slot. -/
def slotItems : Object → Except Defect (List Value)
  | .value (.str s) => .ok [.str s]
  | .value (.list items) | .value (.tuple items) | .value (.set items) => .ok items
  | .value (.dict entries) => .ok (entries.map Prod.fst)
  | .value (.bytes b) => .ok (b.map fun byte => .int byte.toNat)
  | o => .error (.notIterable o.typeName)

/-- The slots of a class as they are listed. -/
def Layer.slots (l : Layer) : List Value :=
  match l.get? slotsKey with
  | none => []
  | some o =>
    match slotItems o with
    | .ok items => items
    | .error _ => []

/-- What the slots of a class amount to. -/
structure SlotPlan where
  /-- The slots that become attributes. -/
  names : List Text
  /-- Whether objects get attributes of any name. -/
  addsDict : Bool
  /-- Whether there get to be weak references to objects. -/
  addsWeak : Bool

/-- Takes the slots of a list one after the other, given what may be added. -/
def readSlots (mayDict mayWeak : Bool) : SlotPlan → List Value → Except Defect SlotPlan
  | plan, [] => .ok plan
  | plan, .str s :: rest =>
    if !Text.isIdentifier s then .error .slotName
    else if s == dictSlot then
      if mayDict && !plan.addsDict then
        readSlots mayDict mayWeak { plan with addsDict := true } rest
      else .error .slotDict
    else if s == weakSlot then
      if mayWeak && !plan.addsWeak then
        readSlots mayDict mayWeak { plan with addsWeak := true } rest
      else .error .slotWeak
    else readSlots mayDict mayWeak { plan with names := plan.names ++ [s] } rest
  | _, v :: _ => .error (.slotType v.typeName)

/-- The slots of a class as attributes: none may have the name of another attribute, unless that
name is taken out of the class anyway. -/
def checkSlots (className : Text) (names : Names) : List Text → Except Defect (List Text)
  | [] => .ok []
  | s :: rest =>
    let name := privateName className s
    if Entries.contains name names && name != "__qualname__" && name != "__classcell__" then
      .error (.slotTaken name)
    else (checkSlots className names rest).map (name :: ·)

/-- What the slots in a body amount to, for a class that is stored like a base. -/
def planSlots (className : Text) (base : Class) (bases : List Class) (names : Names) :
    Except Defect SlotPlan :=
  let layout := base.own.layout
  let mayDict := !layout.hasDict
  let mayWeak := !layout.hasWeak && !layout.isSized
  match Entries.get? slotsKey names with
  | none => .ok ⟨[], mayDict, mayWeak⟩
  | some o => do
    let items ← slotItems o
    if !items.isEmpty && layout.isSized then throw (.slotsOfSized base.own.name)
    let plan ← readSlots mayDict mayWeak ⟨[], false, false⟩ items
    let slots ← checkSlots className names plan.names
    let others := bases.filter fun c => c.own.id != base.own.id
    return {
      names := slots
      addsDict := plan.addsDict || (mayDict && others.any fun c => c.own.layout.hasDict)
      addsWeak := plan.addsWeak || (mayWeak && others.any fun c => c.own.layout.hasWeak) }

/-- How the objects of a class are stored that adds slots to those of a base. -/
def SlotPlan.layout (plan : SlotPlan) (id : ClassId) (base : Class) : Layout :=
  let layout := base.own.layout
  { solid :=
      if plan.names.isEmpty then layout.solid else id :: base.layers.map Layer.id
    hasDict := layout.hasDict || plan.addsDict
    hasWeak := layout.hasWeak || plan.addsWeak
    isSized := layout.isSized }

/-- The attributes that follow from slots. -/
def SlotPlan.attributes (plan : SlotPlan) (className : Text) : Names :=
  plan.names.map (fun name => (name, .slot className name)) ++
    (if plan.addsDict then [(dictSlot, .stored "getset_descriptor")] else []) ++
    (if plan.addsWeak then [(weakSlot, .stored "getset_descriptor")] else [])

end Blueprint.Catalog
