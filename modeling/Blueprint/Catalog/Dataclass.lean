/-
# Data classes

The constructor of a data class follows from its annotated names: each is a field, and what its
name stands for in the class is its default.  Fields of ancestors come first.  A declaration of a
field says more than a default, and gives way to the default once the class is made.
-/
import Blueprint.Catalog.Descent

namespace Blueprint.Catalog

/-- The annotated names of a class. -/
def Layer.annotations (l : Layer) : List Text :=
  match l.get? Layer.annotationsKey with
  | some (.value (.dict entries)) =>
    entries.filterMap fun entry =>
      match entry.1 with
      | .str name => some name
      | _ => none
  | _ => []

/-- A field together with the number of its declaration, if it is declared. -/
structure DeclaredField where
  /-- The field. -/
  field : DataField
  /-- The number of the declaration. -/
  serial : Option Nat

/-- What a field falls back to for an object that its name stands for. -/
def Object.asDefault : Object → Default
  | .value v => .declared v
  | .slot .. | .stored _ => .required
  | _ => .unreadable

/-- The field of an annotated name. -/
def Class.declaredField (c : Class) (name : Text) : DeclaredField :=
  match c.get? name with
  | some (.field serial default keywordOnly) => ⟨⟨name, default, keywordOnly⟩, some serial⟩
  | some o => ⟨⟨name, o.asDefault, false⟩, none⟩
  | none => ⟨⟨name, .required, false⟩, none⟩

/-- The type of a default that would be shared among objects and can be changed. -/
def mutableType? : Default → Option Text
  | .declared v =>
    match v with
    | .list _ | .dict _ | .set _ => some v.typeName
    | _ => none
  | _ => none

/-- The fields of annotated names.  None may have a default that can be changed. -/
def Class.declaredFields (c : Class) : List Text → Except Defect (List DeclaredField)
  | [] => .ok []
  | name :: rest =>
    let f := c.declaredField name
    match mutableType? f.field.default with
    | some type => .error (.mutableDefault type name)
    | none => (c.declaredFields rest).map (f :: ·)

/-- The name of a field: a declaration that stands under several names is known by the last. -/
def DeclaredField.finalName (fields : List DeclaredField) (f : DeclaredField) : Text :=
  match f.serial with
  | none => f.field.name
  | some n =>
    ((fields.reverse.find? fun g => g.serial == some n).map fun g => g.field.name).getD
      f.field.name

/-- The fields of declarations by their names. -/
def namedFields (fields : List DeclaredField) : List DataField :=
  fields.map fun f => { f.field with name := f.finalName fields }

/-- Lets the declaration of each field give way to its default, if it has one. -/
def Class.settleFields (c : Class) : List DataField → Except Defect Class
  | [] => .ok c
  | f :: rest =>
    match c.get? f.name, f.default with
    | some (.field ..), .declared v => (c.put f.name (.value v)).settleFields rest
    | some (.field ..), _ =>
      if c.own.contains f.name then
        Class.settleFields { c with own := c.own.remove f.name } rest
      else .error (.classAttribute c.own.name f.name)
    | _, _ => c.settleFields rest

/-- A declaration of a field whose name is not annotated. -/
def Layer.bareField? (l : Layer) : Option Text :=
  (l.attributes.find? fun entry =>
    match entry.2 with
    | .field .. => !l.annotations.contains entry.1
    | _ => false).map Prod.fst

/-- Puts fields by their names; one that is there already keeps its place. -/
def putFields (fields more : List DataField) : List DataField :=
  (more.foldl (fun table f => Entries.put f.name f table)
    (fields.map fun f => (f.name, f))).map Prod.snd

/-- The fields of all ancestors, those of the most distant first. -/
def inheritedFields (ancestors : List Layer) : List DataField :=
  ancestors.reverse.foldl (fun fields l => putFields fields (l.dataFields.getD [])) []

/-- Whether a field has to be given. -/
def DataField.isRequired (f : DataField) : Bool :=
  match f.default with
  | .required => true
  | _ => false

/-- The first field that is required after one that is not. -/
def misplacedField? : List DataField → Option Text
  | [] => none
  | f :: rest =>
    if f.isRequired then misplacedField? rest
    else (rest.find? DataField.isRequired).map DataField.name

/-- The constructor that follows from fields: those that are passed by name only come last. -/
def dataConstructor (fields : List DataField) : Signature :=
  let formal (kind : ParameterKind) (f : DataField) : Formal := ⟨f.name, kind, f.default⟩
  let inOrder := fields.filter fun f => !f.keywordOnly
  let byName := fields.filter fun f => f.keywordOnly
  Builtin.parameter "self" ::
    (inOrder.map (formal .positional) ++ byName.map (formal .keywordOnly))

namespace Class

/-- A function that a data class gets. -/
def dataFunction (c : Class) (name : Text) (signature : Signature) : Object :=
  .function ⟨c.own.qualifiedName ++ "." ++ name, signature, false⟩

/-- The key of the function that makes a key of an object. -/
def hashKey : Text := "__hash__"

/-- The key of the function that compares objects. -/
def equalKey : Text := "__eq__"

/-- Whether a class says itself how a key is made of its objects.  That it is not so because
objects are compared does not count. -/
def hasOwnHash (c : Class) : Bool :=
  match c.own.get? hashKey with
  | none => false
  | some (.value .null) => !c.own.contains equalKey
  | some _ => true

/-- The functions and descriptions that a data class gets. -/
def withDataFunctions (c : Class) (fields inOrder : List DataField) : Class :=
  let unhashed := !c.hasOwnHash
  let c := c.putMissing constructorName (c.dataFunction constructorName (dataConstructor fields))
  let c := c.putMissing "__repr__" (c.dataFunction "__repr__" [Builtin.parameter "self"])
  let c := c.putMissing equalKey
    (c.dataFunction equalKey [Builtin.parameter "self", Builtin.parameter "other"])
  let c := if unhashed then c.put hashKey (.value .null) else c
  let c :=
    if (c.get? "__doc__").any Object.isTruthy then c else c.put "__doc__" (.hidden "str")
  c.putMissing "__match_args__" (.value (.tuple (inOrder.map fun f => .str f.name)))

/-- A class as a data class. -/
def makeData (c : Class) (bases : List Class) : Except Defect Class := do
  let c := c.put "__dataclass_params__" (.hidden "_DataclassParams")
  let declared ← c.declaredFields c.own.annotations
  let own := namedFields declared
  let c ← c.settleFields own
  if let some name := c.own.bareField? then throw (.bareField name)
  let fields := putFields (inheritedFields c.ancestors) own
  let inOrder := fields.filter fun f => !f.keywordOnly
  let c := c.put "__dataclass_fields__" (.hidden "dict")
  if let some name := misplacedField? inOrder then throw (.fieldOrder name)
  let c := c.withDataFunctions fields inOrder
  let c : Class := { c with own := { c.own with dataFields := some fields } }
  return if c.own.abstractNames.isSome then c.collectOpen bases else c

end Class

end Blueprint.Catalog
