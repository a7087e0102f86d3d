/-
# Definitions from JSON

An entry is an object with a class and, as it likes, a lazy flag, constructor arguments, fields
and methods.  Arguments are a list, or an object keyed by positions.  Within values, objects of
a single member have a meaning of their own: a reference, the mark for a declared default,
bytes in base 64, or a nested entry; every other object is a dictionary.  The value of a field
may be wrapped together with the class that owns the field.

Whatever an entry has wrong is a mistake of that entry; a nested entry goes by its class.
-/
import Blueprint.Definition.Binding
import Blueprint.Definition.Position
import Blueprint.Run

namespace Blueprint

mutual

/-- A JSON value as it stands, without a meaning for any object. -/
def Value.ofJson : Json → Value
  | .null => .null
  | .bool b => .bool b
  | .int i => .int i
  | .float x => .float x
  | .str s => .str s
  | .array items => .list (valuesOfJson items)
  | .object members => .dict (entriesOfJson members)

/-- JSON values as they stand. -/
def valuesOfJson : List Json → List Value
  | [] => []
  | item :: rest => .ofJson item :: valuesOfJson rest

/-- JSON members as they stand, keyed by their names. -/
def entriesOfJson : List (Text × Json) → List (Value × Value)
  | [] => []
  | (name, item) :: rest => (.str name, .ofJson item) :: entriesOfJson rest

end

namespace Definition

/-- The members that an entry may have. -/
def entryKeys : List Text :=
  ["class", "lazy", "constructor", "fields", "methods"]

/-- The members that an entry may not have, in order. -/
def unknownKeys (members : List (Text × Json)) : List Text :=
  ((Entries.keys members).filter fun key => !entryKeys.contains key).mergeSort
    Text.le

/-- Refuses an entry, and quotes its name. -/
def refuseEntry {α : Type} (name : Value) (cause : Value → Mistake) : Run α :=
  Run.ifWritten name.isTextWritten (Run.mistaken (cause name))

/-- The class and the lazy flag of an entry. -/
def loadHead (name : Value) (members : List (Text × Json)) : Run (Text × Bool) := do
  let unknown := unknownKeys members
  if !unknown.isEmpty then refuseEntry name (.unknownKeys · unknown)
  match Entries.get? ("class" : Text) members with
  | some (.str className) =>
    if className.isEmpty then refuseEntry name .classShape
    else
      match Entries.get? ("lazy" : Text) members with
      | none => return (className, false)
      | some (.bool flag) => return (className, flag)
      | some _ => refuseEntry name .lazyShape
  | _ => refuseEntry name .classShape

/-- The name of a nested entry: its class, whatever that is. -/
def nestedName (members : List (Text × Json)) : Value :=
  match Entries.get? ("class" : Text) members with
  | some json => .ofJson json
  | none => .str "<nested>"

/-- A point as one of the basic characters. -/
def basicChar? (p : Point) : Option Char :=
  p.char?.filter fun c => decide (c.toNat < 0x80)

/-- Bytes from their text. -/
def loadBytes : Json → Run Value
  | .str text =>
    match text.points.mapM basicChar? with
    | none => Run.fail .foreignBase64
    | some cs =>
      match Text.Base64.decode cs with
      | .ok bytes => return .bytes bytes
      | .error fault => Run.mistaken (.bytesText fault)
  | json => Run.mistaken (.bytesType (Value.ofJson json).typeName)

/-- The position that a key of arguments stands for. -/
def loadKey (key : Text) : Run Nat :=
  Run.ofExcept (Position.ofDigits key)

mutual

/-- A value with the meaning that its objects have. -/
def loadValue : Json → Run Value
  | .array items => do return .list (← loadItems items)
  | .object [(key, json)] =>
    if key == "$ref" then return .reference (.ofJson json)
    else if key == "$default" then return .useDefault
    else if key == "$bytes" then loadBytes json
    else if key == "$create" then
      match json with
      | .object members => do
        return .definition (← loadEntry (nestedName members) (.object members))
      | _ => Run.mistaken .nestedShape
    else do return .dict [(.str key, ← loadValue json)]
  | .object members => do return .dict (← loadMembers members)
  | .null => return .null
  | .bool b => return .bool b
  | .int i => return .int i
  | .float x => return .float x
  | .str s => return .str s

/-- The values of a sequence. -/
def loadItems : List Json → Run (List Value)
  | [] => return []
  | item :: rest => do
    let v ← loadValue item
    let vs ← loadItems rest
    return v :: vs

/-- The values of an object, keyed by their names. -/
def loadMembers : List (Text × Json) → Run (List (Value × Value))
  | [] => return []
  | (name, item) :: rest => do
    let v ← loadValue item
    let vs ← loadMembers rest
    return (.str name, v) :: vs

/-- Arguments keyed by position.  The value of an argument is read before its key. -/
def loadKeyed (label : Text) : List (Text × Json) → Run (List (Nat × Value))
  | [] => return []
  | (key, item) :: rest => do
    if !Position.isKey key then Run.mistaken (.argumentKey label key)
    let v ← loadValue item
    let position ← loadKey key
    let more ← loadKeyed label rest
    return (position, v) :: more

/-- The arguments of a call. -/
def loadArguments (label : Text) : Json → Run (List (Nat × Value))
  | .array items => do return Binding.enumerate (← loadItems items) 0
  | .object members => do return Entries.ofList (← loadKeyed label members)
  | _ => Run.mistaken (.argumentsShape label)

/-- The constructor arguments among the members of an entry. -/
def loadConstructor : List (Text × Json) → Run (Option Binding)
  | [] => return none
  | (key, json) :: rest =>
    if key == "constructor" then do
      return some ⟨"__init__", ← loadArguments "constructor" json⟩
    else loadConstructor rest

/-- Bindings of fields, each with its value as it stands or wrapped with its owner. -/
def loadFieldBindings : List (Text × Json) → Run (List FieldBinding)
  | [] => return []
  | (field, .object [(key, json)]) :: rest => do
    let v ← if key == "$value" then loadValue json else loadValue (.object [(key, json)])
    let more ← loadFieldBindings rest
    return ⟨field, v, .null⟩ :: more
  | (field, .object [(key, json), (key', json')]) :: rest => do
    let b ←
      if key == "$value" && key' == "$class" then do
        pure ⟨field, ← loadValue json, .ofJson json'⟩
      else if key == "$class" && key' == "$value" then do
        pure ⟨field, ← loadValue json', .ofJson json⟩
      else do
        pure ⟨field, ← loadValue (.object [(key, json), (key', json')]), .null⟩
    let more ← loadFieldBindings rest
    return b :: more
  | (field, json) :: rest => do
    let v ← loadValue json
    let more ← loadFieldBindings rest
    return ⟨field, v, .null⟩ :: more

/-- The fields among the members of an entry. -/
def loadFields : List (Text × Json) → Run (List FieldBinding)
  | [] => return []
  | (key, json) :: rest =>
    if key == "fields" then
      match json with
      | .object members => loadFieldBindings members
      | _ => Run.mistaken .fieldsShape
    else loadFields rest

/-- The arguments among the members of a method. -/
def loadMethodArguments (label : Text) : List (Text × Json) → Run (List (Nat × Value))
  | [] => return []
  | (key, json) :: rest =>
    if key == "args" then loadArguments label json else loadMethodArguments label rest

/-- Bindings of methods, each with a name and perhaps arguments. -/
def loadMethodBindings : List Json → Run (List Binding)
  | [] => return []
  | .object members :: rest =>
    match Entries.get? ("name" : Text) members with
    | some (.str method) => do
      let arguments ← loadMethodArguments method members
      let more ← loadMethodBindings rest
      return ⟨method, arguments⟩ :: more
    | _ => Run.mistaken .methodShape
  | _ :: _ => Run.mistaken .methodShape

/-- The methods among the members of an entry. -/
def loadMethods : List (Text × Json) → Run (List Binding)
  | [] => return []
  | (key, json) :: rest =>
    if key == "methods" then
      match json with
      | .array items => loadMethodBindings items
      | _ => Run.mistaken .methodsShape
    else loadMethods rest

/-- The definition of an entry. -/
def loadEntry (name : Value) : Json → Run Definition
  | .object members => Run.within name.entry? do
    let (className, isLazy) ← loadHead name members
    let constructor ← loadConstructor members
    let fields ← loadFields members
    let methods ← loadMethods members
    return { name, className, isLazy, constructor, fields, methods }
  | _ => Run.within name.entry? (refuseEntry name .entryShape)

end

/-- The definitions of named entries, in order. -/
def loadEntries : List (Text × Json) → Run (List Definition)
  | [] => return []
  | (name, json) :: rest => do
    let d ← loadEntry (.str name) json
    let ds ← loadEntries rest
    return d :: ds

/-- The definitions of a payload, which has to be an object. -/
def loadAll : Json → Run (List Definition)
  | .object members => loadEntries members
  | json => Run.fail (.noOperation (Value.ofJson json).typeName "items")

end Definition

end Blueprint
