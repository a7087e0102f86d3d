/-
# Value positions

A value is compiled by recursion on what stands at its *value positions*: the items of a list or a
tuple, the values of a dictionary, and what a definition binds to the arguments of its calls and to
its fields.  Keys of dictionaries, items of sets and names of entries are no such positions.

The types of values and definitions refer to each other through lists, so that their own recursor
has one motive for each of nine types.  `Value.positionInduct` is the principle that proofs about
compilation need: one motive, and a hypothesis for every value position.
-/
import Blueprint.Value.Basic
import Mathlib.Tactic.Lemma

namespace Blueprint

/-- A value of a type that cannot be compiled. -/
def Value.isUnsupported : Value → Bool
  | .nested .. | .set _ | .foreign _ | .enumMember .. => true
  | _ => false

/-- The value is bound to an argument of one of the calls of a definition, or to one of its
fields. -/
inductive Definition.Binds (d : Definition) : Value → Prop where
  /-- An argument of the constructor. -/
  | construct {b : Binding} {e : Nat × Value} (hb : d.constructor = some b)
      (he : e ∈ b.arguments) : Binds d e.2
  /-- The value of a field. -/
  | assign {b : FieldBinding} (hb : b ∈ d.fields) : Binds d b.value
  /-- An argument of a method. -/
  | invoke {b : Binding} {e : Nat × Value} (hb : b ∈ d.methods) (he : e ∈ b.arguments) :
      Binds d e.2

section Induction

variable {P : Value → Prop}
  (literal : ∀ v, v.isLiteral = true → P v)
  (reference : ∀ entry, P (.reference entry))
  (useDefault : P .useDefault)
  (unsupported : ∀ v, v.isUnsupported = true → P v)
  (list : ∀ items, (∀ v ∈ items, P v) → P (.list items))
  (tuple : ∀ items, (∀ v ∈ items, P v) → P (.tuple items))
  (dict : ∀ entries, (∀ e ∈ entries, P e.2) → P (.dict entries))
  (definition : ∀ d, (∀ v, d.Binds v → P v) → P (.definition d))

include literal reference useDefault unsupported list tuple dict definition

-- The companions of the principle use the hypotheses only through it.
set_option linter.unusedSectionVars false

mutual

/-- Induction over values, with a hypothesis for every value position. -/
@[elab_as_elim]
theorem Value.positionInduct : ∀ v, P v
  | .null => literal _ rfl
  | .bool _ => literal _ rfl
  | .int _ => literal _ rfl
  | .float _ => literal _ rfl
  | .str _ => literal _ rfl
  | .bytes _ => literal _ rfl
  | .derived .. => literal _ rfl
  | .reference entry => reference entry
  | .useDefault => useDefault
  | .nested .. => unsupported _ rfl
  | .set _ => unsupported _ rfl
  | .foreign _ => unsupported _ rfl
  | .enumMember .. => unsupported _ rfl
  | .list items => list items (itemsInduct items)
  | .tuple items => tuple items (itemsInduct items)
  | .dict entries => dict entries (entriesInduct entries)
  | .definition ⟨_, _, _, constructor, fields, methods⟩ => by
    refine definition _ ?_
    intro v hv
    cases hv with
    | construct hb he => exact constructorInduct constructor _ hb _ he
    | assign hb => exact fieldsInduct fields _ hb
    | invoke hb he => exact methodsInduct methods _ hb _ he

theorem itemsInduct : ∀ items : List Value, ∀ v ∈ items, P v
  | [] => List.forall_mem_nil _
  | item :: rest => List.forall_mem_cons.2 ⟨Value.positionInduct item, itemsInduct rest⟩

theorem entriesInduct : ∀ entries : List (Value × Value), ∀ e ∈ entries, P e.2
  | [] => List.forall_mem_nil _
  | (_, item) :: rest => List.forall_mem_cons.2 ⟨Value.positionInduct item, entriesInduct rest⟩

theorem constructorInduct :
    ∀ constructor : Option Binding, ∀ b, constructor = some b → ∀ e ∈ b.arguments, P e.2
  | none => fun _ hb => absurd hb (by simp)
  | some ⟨_, arguments⟩ => fun _ hb => Option.some.inj hb ▸ argumentsInduct arguments

theorem argumentsInduct : ∀ arguments : List (Nat × Value), ∀ e ∈ arguments, P e.2
  | [] => List.forall_mem_nil _
  | (_, value) :: rest =>
    List.forall_mem_cons.2 ⟨Value.positionInduct value, argumentsInduct rest⟩

theorem fieldsInduct : ∀ fields : List FieldBinding, ∀ b ∈ fields, P b.value
  | [] => List.forall_mem_nil _
  | ⟨_, value, _⟩ :: rest =>
    List.forall_mem_cons.2 ⟨Value.positionInduct value, fieldsInduct rest⟩

theorem methodsInduct : ∀ methods : List Binding, ∀ b ∈ methods, ∀ e ∈ b.arguments, P e.2
  | [] => List.forall_mem_nil _
  | ⟨_, arguments⟩ :: rest =>
    List.forall_mem_cons.2 ⟨argumentsInduct arguments, methodsInduct rest⟩

end

end Induction

end Blueprint
