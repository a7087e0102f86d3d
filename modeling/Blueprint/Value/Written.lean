/-
# Values that can be written

A whole number of too many digits has no text: to write it is a failure, wherever the number stands
in what is written.  The forms of `Value.display` and `Value.text` are total and give every number
its digits, so whoever writes a value asks first whether that can be done (`Value.isWritten`,
`Value.isTextWritten`).
-/
import Blueprint.Json.Reader
import Blueprint.Value.Display

namespace Blueprint

/-- Whether a whole number has few enough digits to be written. -/
def hasDigits (i : Int) : Bool :=
  decide ((Nat.toDigits 10 i.natAbs).length ≤ Json.Reader.digitLimit)

mutual

/-- Whether the display form of a value can be written. -/
def Value.isWritten : Value → Bool
  | .int i => hasDigits i
  | .derived form _ => form.display?.isSome
  | .list items | .tuple items | .set items => allWritten items
  | .dict entries => entriesWritten entries
  | .reference entry => entry.isWritten
  | .definition d => definitionWritten d
  | .nested _ plan => planWritten plan
  | .enumMember _ _ value => value.isWritten
  | .null | .bool _ | .float _ | .str _ | .bytes _ | .useDefault | .foreign _ => true

/-- Whether items can be written. -/
def allWritten : List Value → Bool
  | [] => true
  | item :: rest => item.isWritten && allWritten rest

/-- Whether keys and their values can be written. -/
def entriesWritten : List (Value × Value) → Bool
  | [] => true
  | (key, value) :: rest => key.isWritten && value.isWritten && entriesWritten rest

/-- Whether positions and their values can be written. -/
def argumentsWritten : List (Nat × Value) → Bool
  | [] => true
  | (position, value) :: rest =>
    hasDigits position && value.isWritten && argumentsWritten rest

/-- Whether a definition can be written. -/
def definitionWritten : Definition → Bool
  | ⟨name, _, _, constructor, fields, methods⟩ =>
    name.isWritten && constructorWritten constructor && fieldsWritten fields &&
      methodsWritten methods

/-- Whether an optional binding can be written. -/
def constructorWritten : Option Binding → Bool
  | none => true
  | some b => bindingWritten b

/-- Whether a binding can be written. -/
def bindingWritten : Binding → Bool
  | ⟨_, arguments⟩ => argumentsWritten arguments

/-- Whether field bindings can be written. -/
def fieldsWritten : List FieldBinding → Bool
  | [] => true
  | ⟨_, value, owner⟩ :: rest => value.isWritten && owner.isWritten && fieldsWritten rest

/-- Whether method bindings can be written. -/
def methodsWritten : List Binding → Bool
  | [] => true
  | b :: rest => bindingWritten b && methodsWritten rest

/-- Whether an instruction can be written. -/
def instructionWritten : Instruction → Bool
  | .construct _ arguments _ | .invoke _ arguments _ => allWritten arguments
  | .assign _ value | .stray value => value.isWritten
  | .placeholder _ initializer => planWritten initializer

/-- Whether the instructions of a plan can be written. -/
def planWritten : List Instruction → Bool
  | [] => true
  | step :: rest => instructionWritten step && planWritten rest

end

theorem allWritten_iff {items : List Value} :
    allWritten items = true ↔ ∀ v ∈ items, v.isWritten = true := by
  induction items with
  | nil => simp [allWritten]
  | cons item rest ih => rw [allWritten, Bool.and_eq_true, ih, List.forall_mem_cons]

theorem entriesWritten_iff {entries : List (Value × Value)} :
    entriesWritten entries = true ↔
      ∀ e ∈ entries, e.1.isWritten = true ∧ e.2.isWritten = true := by
  induction entries with
  | nil => simp [entriesWritten]
  | cons e rest ih =>
    rw [entriesWritten, Bool.and_eq_true, Bool.and_eq_true, ih, List.forall_mem_cons]

/-- Whether the text form of a value can be written: a text and a member of an enumeration go by
their names. -/
def Value.isTextWritten : Value → Bool
  | .str _ | .enumMember .. => true
  | .derived form _ => form.text?.isSome
  | v => v.isWritten

end Blueprint
