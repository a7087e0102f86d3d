/-
# Plans as data

The payload of a plan holds nothing but literals, lists and dictionaries keyed by texts: an
instruction is a dictionary of its operation and its parts, a reference, bytes and a nested
object are dictionaries of their own kind.  Values that have no such form stay as they are, and
have no JSON text.
-/
import Blueprint.Json.Writer
import Blueprint.Plan.Pass
import Blueprint.Value.Order

namespace Blueprint

/-- A dictionary keyed by texts. -/
def record (parts : List (Text × Value)) : Value :=
  .dict (parts.map fun (name, v) => (.str name, v))

/-- Texts as a list. -/
def textList (texts : List Text) : Value :=
  .list (texts.map .str)

mutual

/-- The payload of a value. -/
def Value.payload : Value → Value
  | .reference entry => record [("$ref", entry)]
  | .nested className plan =>
    record [("op", .str "NestedObject"), ("class_name", .str className),
      ("instructions", .list (planPayload plan))]
  | .definition d => definitionPayload d
  | .list items => .list (itemsPayload items)
  | .tuple items => .list (itemsPayload items)
  | .dict entries => .dict (Entries.ofList (entriesPayload entries))
  | .bytes b | .derived _ (.bytes b) => record [("$bytes", .str (Text.Base64.encode b))]
  | .null => .null
  | .bool b => .bool b
  | .int i => .int i
  | .float x => .float x
  | .str s => .str s
  | .useDefault => .useDefault
  | .set items => .set items
  | .foreign tag => .foreign tag
  | .enumMember enumeration member value => .enumMember enumeration member value
  | .derived form literal => .derived form literal

/-- The payloads of items. -/
def itemsPayload : List Value → List Value
  | [] => []
  | item :: rest => item.payload :: itemsPayload rest

/-- The payloads of the values of a dictionary, under the texts of their keys. -/
def entriesPayload : List (Value × Value) → List (Value × Value)
  | [] => []
  | (key, item) :: rest => (.str key.text, item.payload) :: entriesPayload rest

/-- The payload of a definition that was not compiled. -/
def definitionPayload : Definition → Value
  | ⟨name, className, isLazy, constructor, fields, methods⟩ =>
    record [("op", .str "ObjectDefinition"), ("name", name.payload),
      ("class_name", .str className), ("lazy", .bool isLazy),
      ("constructor", constructorPayload constructor),
      ("fields", .list (fieldsPayload fields)), ("methods", .list (methodsPayload methods))]

/-- The payload of an optional binding. -/
def constructorPayload : Option Binding → Value
  | none => .null
  | some b => bindingPayload b

/-- The payload of a binding. -/
def bindingPayload : Binding → Value
  | ⟨method, arguments⟩ =>
    record [("op", .str "MethodBinding"), ("method_name", .str method),
      ("parameters", .dict (arguments.map fun (position, v) => (.int position, v)))]

/-- The payloads of field bindings. -/
def fieldsPayload : List FieldBinding → List Value
  | [] => []
  | ⟨field, value, owner⟩ :: rest =>
    record [("op", .str "FieldBinding"), ("field_name", .str field), ("value", value.payload),
      ("class_name", owner.payload)] :: fieldsPayload rest

/-- The payloads of method bindings. -/
def methodsPayload : List Binding → List Value
  | [] => []
  | b :: rest => bindingPayload b :: methodsPayload rest

/-- The payload of an instruction. -/
def instructionPayload : Instruction → Value
  | .construct className arguments keywords =>
    record [("op", .str "Construct"), ("class_name", .str className),
      ("args", .list (itemsPayload arguments)), ("kwnames", textList keywords)]
  | .assign field value =>
    record [("op", .str "AssignField"), ("field_name", .str field), ("value", value.payload)]
  | .invoke method arguments keywords =>
    record [("op", .str "InvokeMethod"), ("method_name", .str method),
      ("args", .list (itemsPayload arguments)), ("kwnames", textList keywords)]
  | .placeholder className initializer =>
    record [("op", .str "InstallLazyPlaceholder"), ("class_name", .str className),
      ("initializer", .list (planPayload initializer))]
  | .stray value => value.payload

/-- The payloads of the instructions of a plan. -/
def planPayload : List Instruction → List Value
  | [] => []
  | step :: rest => instructionPayload step :: planPayload rest

end

theorem itemsPayload_eq_map (items : List Value) :
    itemsPayload items = items.map Value.payload := by
  induction items with
  | nil => rw [itemsPayload, List.map_nil]
  | cons item rest ih => rw [itemsPayload, ih, List.map_cons]

theorem planPayload_eq_map (plan : Plan) : planPayload plan = plan.map instructionPayload := by
  induction plan with
  | nil => rw [planPayload, List.map_nil]
  | cons step rest ih => rw [planPayload, ih, List.map_cons]

theorem entriesPayload_eq_map (entries : List (Value × Value)) :
    entriesPayload entries = entries.map fun e => (.str e.1.text, e.2.payload) := by
  induction entries with
  | nil => rw [entriesPayload, List.map_nil]
  | cons e rest ih => rw [entriesPayload, ih, List.map_cons]

/-! ## Keys that have a text -/

mutual

/-- Whether the keys that the payload of a value turns into texts can be written. -/
def Value.keysWritten : Value → Bool
  | .list items | .tuple items => itemsKeysWritten items
  | .dict entries => entriesKeysWritten entries
  | .nested _ plan => planKeysWritten plan
  | .definition d => definitionKeysWritten d
  | _ => true

/-- Whether the keys within items can be written. -/
def itemsKeysWritten : List Value → Bool
  | [] => true
  | item :: rest => item.keysWritten && itemsKeysWritten rest

/-- Whether the keys of a dictionary, and those within its values, can be written. -/
def entriesKeysWritten : List (Value × Value) → Bool
  | [] => true
  | (key, item) :: rest => key.isTextWritten && item.keysWritten && entriesKeysWritten rest

/-- Whether the keys within a definition that was not compiled can be written. -/
def definitionKeysWritten : Definition → Bool
  | ⟨name, _, _, _, fields, _⟩ => name.keysWritten && fieldsKeysWritten fields

/-- Whether the keys within field bindings can be written. -/
def fieldsKeysWritten : List FieldBinding → Bool
  | [] => true
  | ⟨_, value, owner⟩ :: rest =>
    value.keysWritten && owner.keysWritten && fieldsKeysWritten rest

/-- Whether the keys within an instruction can be written. -/
def instructionKeysWritten : Instruction → Bool
  | .construct _ arguments _ | .invoke _ arguments _ => itemsKeysWritten arguments
  | .assign _ value | .stray value => value.keysWritten
  | .placeholder _ initializer => planKeysWritten initializer

/-- Whether the keys within a plan can be written. -/
def planKeysWritten : List Instruction → Bool
  | [] => true
  | step :: rest => instructionKeysWritten step && planKeysWritten rest

end

theorem itemsKeysWritten_iff {items : List Value} :
    itemsKeysWritten items = true ↔ ∀ v ∈ items, v.keysWritten = true := by
  induction items with
  | nil => simp [itemsKeysWritten]
  | cons item rest ih => rw [itemsKeysWritten, Bool.and_eq_true, ih, List.forall_mem_cons]

theorem entriesKeysWritten_iff {entries : List (Value × Value)} :
    entriesKeysWritten entries = true ↔
      ∀ e ∈ entries, e.1.isTextWritten = true ∧ e.2.keysWritten = true := by
  induction entries with
  | nil => simp [entriesKeysWritten]
  | cons e rest ih =>
    rw [entriesKeysWritten, Bool.and_eq_true, Bool.and_eq_true, ih, List.forall_mem_cons]

theorem planKeysWritten_iff {plan : List Instruction} :
    planKeysWritten plan = true ↔ ∀ step ∈ plan, instructionKeysWritten step = true := by
  induction plan with
  | nil => simp [planKeysWritten]
  | cons step rest ih => rw [planKeysWritten, Bool.and_eq_true, ih, List.forall_mem_cons]

/-- The payload of a plan, if its keys can be written. -/
def planData (plan : Plan) : Except Failure Value :=
  if planKeysWritten plan then .ok (.list (planPayload plan)) else .error (.longNumber none)

/-- The payload of named plans. -/
def compiledPayload (compiled : CompiledEntries) : Value :=
  record [("entries", .dict (compiled.map fun (name, plan) => (name, .list (planPayload plan))))]

/-- The payload of named plans, if its keys can be written. -/
def compiledData (compiled : CompiledEntries) : Except Failure Value :=
  if compiled.all fun (_, plan) => planKeysWritten plan then .ok (compiledPayload compiled)
  else .error (.longNumber none)

/-! ## From payloads to JSON -/

/-- A whole number as JSON, if it can be written. -/
def Json.ofInt (i : Int) : Except Failure Json :=
  if hasDigits i then .ok (.int i) else .error (.longNumber none)

/-- The name of a member: texts stand for themselves, other literals for their JSON text. -/
def memberName : Value → Except Failure Text
  | .str s | .derived _ (.str s) => .ok s
  | .null => .ok (Json.toText .null)
  | .bool b => .ok (Json.toText (.bool b))
  | .int i | .derived _ (.int i) => (Json.ofInt i).map fun json => Json.toText json
  | .float x | .derived _ (.float x) => .ok (Json.toText (.float x))
  | key => .error (.keyType key.typeName)

/-- Entries as members, if every key can be the name of one and every value has a form in JSON. -/
def members : List (Value × Except Failure Json) → Except Failure (List (Text × Json))
  | [] => .ok []
  | (key, item) :: rest => do
    let name ← memberName key
    let j ← item
    let ms ← members rest
    return (name, j) :: ms

mutual

/-- A value as JSON, if it has such a form.  The members of an object are in the order of the keys
of the dictionary, which differs from that of their names where keys are numbers. -/
def Json.ofValue : Value → Except Failure Json
  | .null => .ok .null
  | .bool b => .ok (.bool b)
  | .int i | .derived _ (.int i) => Json.ofInt i
  | .float x | .derived _ (.float x) => .ok (.float x)
  | .str s | .derived _ (.str s) => .ok (.str s)
  | .list items => (jsonItems items).map .array
  | .tuple items => (jsonItems items).map .array
  | .dict entries => do return .object (← members (← sortEntries (jsonEntries entries)))
  | v => .error (.notSerializable v.typeName)

/-- Items as JSON. -/
def jsonItems : List Value → Except Failure (List Json)
  | [] => .ok []
  | item :: rest => do
    let j ← Json.ofValue item
    let js ← jsonItems rest
    return j :: js

/-- The values of a dictionary as JSON, if they have such a form. -/
def jsonEntries : List (Value × Value) → List (Value × Except Failure Json)
  | [] => []
  | (key, item) :: rest => (key, Json.ofValue item) :: jsonEntries rest

end

/-- The JSON text of named plans. -/
def compiledText (compiled : CompiledEntries) : Except Failure String :=
  do return (← Json.ofValue (← compiledData compiled)).toText

end Blueprint
