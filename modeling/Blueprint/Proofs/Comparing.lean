/-
# Comparing part by part

Lists are equal item by item; entries of dictionaries and rows of bindings are looked for among the
others, wherever they stand there.  The lemmas say so for values that share their objects and for
values that are made apart alike.

Where objects are shared, every value equals itself (`Value.equal_self`): the number that is no
number and objects of the host are then found to be the same object before they are compared.
-/
import Blueprint.Value.Equal
import Mathlib.Data.List.Forall2

namespace Blueprint

variable {shared : Bool}

/-! ## Literals -/

@[simp] lemma Scalar.str_beq (s t : Text) : (Scalar.str s == Scalar.str t) = (s == t) := by
  rw [Bool.eq_iff_iff, beq_iff_eq, beq_iff_eq, Scalar.str.injEq]

@[simp] lemma Scalar.bytes_beq (b b' : List UInt8) :
    (Scalar.bytes b == Scalar.bytes b') = (b == b') := by
  rw [Bool.eq_iff_iff, beq_iff_eq, beq_iff_eq, Scalar.bytes.injEq]

/-- What equals a text is that text, or a literal of that text in a class of its own. -/
lemma Value.str_equal_iff {s : Text} {v : Value} :
    (Value.str s).equal shared v = true ↔ v.scalar? = some (.str s) := by
  rw [Value.equal, beq_iff_eq, eq_comm]

lemma Value.equal_str_iff {s : Text} {v : Value} :
    v.equal shared (.str s) = true ↔ v.scalar? = some (.str s) := by
  cases v with
  | str t =>
    rw [Value.str_equal_iff, Value.scalar?, Value.scalar?, eq_comm]
  | derived form literal =>
    cases literal <;>
      simp [Value.equal, Value.number?, Scalar.number?, Value.scalar?]
  | _ => simp [Value.equal, Value.number?, Value.scalar?]

lemma Value.str_equal_str (s t : Text) : (Value.str s).equal shared (.str t) = (s == t) := by
  simp [Value.equal]

lemma Value.equal_str_of_ne {s t : Text} (h : s ≠ t) :
    (Value.str s).equal shared (.str t) = false := by
  rw [Value.str_equal_str, beq_eq_false_iff_ne]
  exact h

/-! ## Collections -/

lemma equalAll_iff {xs ys : List Value} :
    equalAll shared xs ys = true ↔ List.Forall₂ (fun x y => x.equal shared y = true) xs ys := by
  induction xs generalizing ys with
  | nil => cases ys <;> simp [equalAll]
  | cons x xs ih => cases ys <;> simp [equalAll, ih]

lemma equalPlans_iff {plan plan' : Plan} :
    equalPlans shared plan plan' = true ↔
      List.Forall₂ (fun s t => equalInstructions shared s t = true) plan plan' := by
  induction plan generalizing plan' with
  | nil => cases plan' <;> simp [equalPlans]
  | cons s plan ih => cases plan' <;> simp [equalPlans, ih]

lemma equalAmong_iff {xs ys : List Value} :
    equalAmong shared xs ys = true ↔ ∀ x ∈ xs, ∃ y ∈ ys, x.equal shared y = true := by
  induction xs with
  | nil => simp [equalAmong]
  | cons x xs ih => simp [equalAmong, ih]

lemma equalEntries_iff {entries others : List (Value × Value)} :
    equalEntries shared entries others = true ↔
      ∀ e ∈ entries, ∃ e' ∈ others,
        e.1.equal shared e'.1 = true ∧ e.2.equal shared e'.2 = true := by
  induction entries with
  | nil => simp [equalEntries]
  | cons e rest ih => simp [equalEntries, ih]

lemma Value.equal_dict_iff {entries others : List (Value × Value)} :
    (Value.dict entries).equal shared (.dict others) = true ↔
      entries.length = others.length ∧
        ∀ e ∈ entries, ∃ e' ∈ others,
          e.1.equal shared e'.1 = true ∧ e.2.equal shared e'.2 = true := by
  rw [Value.equal, Bool.and_eq_true, beq_iff_eq, equalEntries_iff]

/-! ## Definitions -/

lemma equalArguments_iff {rows others : List (Nat × Value)} :
    equalArguments shared rows others = true ↔
      ∀ e ∈ rows, ∃ e' ∈ others, e.1 = e'.1 ∧ e.2.equal shared e'.2 = true := by
  induction rows with
  | nil => simp [equalArguments]
  | cons e rest ih => simp [equalArguments, ih]

lemma equalFields_cons (f f' : FieldBinding) (rest rest' : List FieldBinding) :
    equalFields shared (f :: rest) (f' :: rest') =
      (f.field == f'.field && f.value.equal shared f'.value && f.owner.equal shared f'.owner &&
        equalFields shared rest rest') := by
  obtain ⟨field, value, owner⟩ := f
  obtain ⟨field', value', owner'⟩ := f'
  rw [equalFields]

lemma equalDefinitions_eq (d d' : Definition) :
    equalDefinitions shared d d' =
      (d.name.equal shared d'.name && d.className == d'.className && d.isLazy == d'.isLazy &&
        equalConstructors shared d.constructor d'.constructor &&
          equalFields shared d.fields d'.fields &&
            equalMethods shared d.methods d'.methods) := by
  cases d
  cases d'
  rw [equalDefinitions]

/-! ## What shares its objects with itself -/

/-- A number that is shared equals itself, the number that is no number included. -/
lemma numbersEqual_self (n : Int ⊕ Double) : numbersEqual true n n = true := by
  rcases n with i | x
  · exact beq_self_eq_true i
  · by_cases hx : x = .nan
    · simp [numbersEqual, hx]
    · simp [numbersEqual, Double.numEq_self_iff.2 hx]

-- one statement for every kind of part that the recursion of `Value.equal` goes through; where the
-- others are searched, each part finds itself
mutual

/-- A value that shares its objects with itself equals itself. -/
theorem Value.equal_self : ∀ v : Value, v.equal true v = true
  | .null | .useDefault => by simp [Value.equal]
  | .bool _ | .int _ | .float _ => by
    simp only [Value.equal, Value.number?]
    exact numbersEqual_self _
  | .str _ | .bytes _ | .foreign _ => by simp [Value.equal, Value.scalar?]
  | .list items | .tuple items => by
    rw [Value.equal, equalAll_iff, List.forall₂_same]
    exact equalItems_self items
  | .set items => by
    have hfound := equalAmong_iff.2 fun v hv => ⟨v, hv, equalItems_self items v hv⟩
    simp [Value.equal, hfound]
  | .dict entries =>
    Value.equal_dict_iff.2 ⟨rfl, fun e he => ⟨e, he, equalEntries_self entries e he⟩⟩
  | .reference entry => by
    rw [Value.equal]
    exact entry.equal_self
  | .definition d => by
    rw [Value.equal]
    exact equalDefinitions_self d
  | .nested _ plan => by
    have hplan := equalPlans_iff.2 (List.forall₂_same.2 (equalSteps_self plan))
    simp [Value.equal, hplan]
  | .enumMember _ _ v => by simp [Value.equal, v.equal_self]
  | .derived _ literal => by
    cases literal <;>
      simp [Value.equal, Value.number?, Value.scalar?, Scalar.number?, numbersEqual_self]

theorem equalItems_self : ∀ items : List Value, ∀ v ∈ items, v.equal true v = true
  | [] => List.forall_mem_nil _
  | v :: rest => List.forall_mem_cons.2 ⟨v.equal_self, equalItems_self rest⟩

theorem equalEntries_self : ∀ entries : List (Value × Value),
    ∀ e ∈ entries, e.1.equal true e.1 = true ∧ e.2.equal true e.2 = true
  | [] => List.forall_mem_nil _
  | (key, value) :: rest =>
    List.forall_mem_cons.2 ⟨⟨key.equal_self, value.equal_self⟩, equalEntries_self rest⟩

theorem equalRows_self : ∀ rows : List (Nat × Value), ∀ e ∈ rows, e.2.equal true e.2 = true
  | [] => List.forall_mem_nil _
  | (_, value) :: rest => List.forall_mem_cons.2 ⟨value.equal_self, equalRows_self rest⟩

theorem equalBindings_self : ∀ b : Binding, equalBindings true b b = true
  | ⟨_, rows⟩ => by
    have hfound := equalArguments_iff.2 fun e he => ⟨e, he, rfl, equalRows_self rows e he⟩
    simp [equalBindings, hfound]

theorem equalConstructors_self : ∀ b : Option Binding, equalConstructors true b b = true
  | none => by rw [equalConstructors]
  | some b => by
    rw [equalConstructors]
    exact equalBindings_self b

theorem equalFields_self : ∀ fields : List FieldBinding, equalFields true fields fields = true
  | [] => by rw [equalFields]
  | ⟨_, value, owner⟩ :: rest => by
    simp [equalFields, value.equal_self, owner.equal_self, equalFields_self rest]

theorem equalMethods_self : ∀ methods : List Binding, equalMethods true methods methods = true
  | [] => by rw [equalMethods]
  | b :: rest => by simp [equalMethods, equalBindings_self b, equalMethods_self rest]

theorem equalDefinitions_self : ∀ d : Definition, equalDefinitions true d d = true
  | ⟨name, _, _, constructor, fields, methods⟩ => by
    simp [equalDefinitions, name.equal_self, equalConstructors_self constructor,
      equalFields_self fields, equalMethods_self methods]

theorem equalInstructions_self : ∀ s : Instruction, equalInstructions true s s = true
  | .construct _ operands _ | .invoke _ operands _ => by
    have hoperands := equalAll_iff.2 (List.forall₂_same.2 (equalItems_self operands))
    simp [equalInstructions, hoperands]
  | .assign _ v | .stray v => by simp [equalInstructions, v.equal_self]
  | .placeholder _ plan => by
    have hplan := equalPlans_iff.2 (List.forall₂_same.2 (equalSteps_self plan))
    simp [equalInstructions, hplan]

theorem equalSteps_self : ∀ plan : List Instruction,
    ∀ s ∈ plan, equalInstructions true s s = true
  | [] => List.forall_mem_nil _
  | s :: rest => List.forall_mem_cons.2 ⟨equalInstructions_self s, equalSteps_self rest⟩

end

end Blueprint
