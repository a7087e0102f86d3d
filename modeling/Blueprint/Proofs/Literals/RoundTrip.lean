/-
# Rendered values are literals of themselves

The text that a value is rendered by within a factory is a literal of the generated language, and
what it denotes is the value itself: null, truth values, whole numbers, texts and bytes, and lists,
tuples and dictionaries of these, one within the other to any depth.  So the same text is never the
rendering of two values, even of such as are equal to each other, like the number one and the truth
value, or dictionaries with their entries in another order.

Of a dictionary it is asked that it is one: its keys can be keys, and no two of them are equal.
Doubles are left out, and whatever else is not built from literals alone.
-/
import Blueprint.Factory.Render
import Blueprint.Proofs.ClearOperands
import Blueprint.Proofs.Literals.Reading

namespace Blueprint

/-- The value is built from literals alone, and doubles are none of them. -/
inductive Value.IsPlain : Value → Prop where
  | null : IsPlain .null
  | bool (b : Bool) : IsPlain (.bool b)
  | int {i : Int} (h : (Value.int i).IsShort) : IsPlain (.int i)
  | str (s : Text) : IsPlain (.str s)
  | bytes (b : List UInt8) : IsPlain (.bytes b)
  | list {items : List Value} (h : ∀ v ∈ items, IsPlain v) : IsPlain (.list items)
  | tuple {items : List Value} (h : ∀ v ∈ items, IsPlain v) : IsPlain (.tuple items)
  | dict {entries : List (Value × Value)} (hkeys : ∀ e ∈ entries, IsPlain e.1)
      (hvalues : ∀ e ∈ entries, IsPlain e.2)
      (hhashable : ∀ e ∈ entries, e.1.unhashable? = none) (hapart : KeysApart entries) :
      IsPlain (.dict entries)

namespace Factory

open Literal

/-- The value is drafted as an expression with nothing before it, whose text denotes the value. -/
def RendersFaithfully (split : Splitter) (v : Value) : Prop :=
  ∃ e, draftValue split v = pure ([], e) ∧ Denotes e.text v

variable {split : Splitter}

lemma draftItems_faithful {items : List Value} (h : ∀ v ∈ items, RendersFaithfully split v) :
    ∃ es, draftAll (draftItems split items) = pure ([], es) ∧
      List.Forall₂ Denotes (exprTexts es) items := by
  induction items with
  | nil => exact ⟨[], rfl, .nil⟩
  | cons v rest ih =>
    rw [List.forall_mem_cons] at h
    obtain ⟨e, hdraft, hdenotes⟩ := h.1
    obtain ⟨es, hdrafts, hall⟩ := ih h.2
    refine ⟨e :: es, ?_, .cons hdenotes hall⟩
    rw [draftItems, draftAll, hdraft, hdrafts]
    rfl

lemma draftEntries_faithful {entries : List (Value × Value)}
    (hkeys : ∀ e ∈ entries, RendersFaithfully split e.1)
    (hvalues : ∀ e ∈ entries, RendersFaithfully split e.2)
    (hhashable : ∀ e ∈ entries, e.1.unhashable? = none) :
    ∃ es, draftEntries split entries = pure ([], es) ∧
      List.Forall₂ (fun t e => Lists Frame.dict t [e]) (entryTexts es) entries := by
  induction entries with
  | nil => exact ⟨[], rfl, .nil⟩
  | cons entry rest ih =>
    obtain ⟨key, value⟩ := entry
    rw [List.forall_mem_cons] at hkeys hvalues hhashable
    obtain ⟨k, hk, hkey⟩ := hkeys.1
    obtain ⟨e, he, hvalue⟩ := hvalues.1
    obtain ⟨es, hdrafts, hall⟩ := ih hkeys.2 hvalues.2 hhashable.2
    refine ⟨(k, e) :: es, ?_, .cons (hkey.lists_dict hvalue hhashable.1) hall⟩
    rw [draftEntries, hk, he, hdrafts]
    rfl

lemma rendersFaithfully (split : Splitter) {v : Value} (h : v.IsPlain) :
    RendersFaithfully split v := by
  induction h with
  | null => exact ⟨_, rfl, denotes_null⟩
  | bool b => exact ⟨_, rfl, denotes_bool b⟩
  | int h =>
    have hdraft := draftLiteral_of_written (Value.IsShort.isWritten h rfl)
    exact ⟨_, (draftValue_literal rfl).trans hdraft, denotes_int h⟩
  | str s => exact ⟨_, rfl, denotes_str s⟩
  | bytes b => exact ⟨_, rfl, denotes_bytes b⟩
  | list _ ih =>
    obtain ⟨es, hdrafts, hall⟩ := draftItems_faithful ih
    refine ⟨.list es, ?_, .list hall⟩
    rw [draftValue, hdrafts]
    rfl
  | tuple _ ih =>
    obtain ⟨es, hdrafts, hall⟩ := draftItems_faithful ih
    refine ⟨.tuple es, ?_, .tuple hall⟩
    rw [draftValue, hdrafts]
    rfl
  | dict _ _ hhashable hapart ihkeys ihvalues =>
    obtain ⟨es, hdrafts, hall⟩ := draftEntries_faithful ihkeys ihvalues hhashable
    refine ⟨.dict es, ?_, .dict hall hapart⟩
    rw [draftValue, hdrafts]
    rfl

lemma Drafting.pure_inj {α : Type} {a b : α} (h : (pure a : Drafting α) = pure b) : a = b := by
  have happlied := congrArg (fun x : Run (α × Draft) => (x none {}).1) (congrFun h ⟨0, []⟩)
  exact (Prod.mk.inj (Except.ok.inj happlied)).1

/-- A plain value is rendered without anything before it, the text of its expression is read as the
value itself, and no other plain value is rendered by the same text. -/
theorem draftValue_faithful (split : Splitter) {v : Value} (h : v.IsPlain) :
    ∃ e, draftValue split v = pure ([], e) ∧ read e.text = some v ∧
      ∀ w e', w.IsPlain → draftValue split w = pure ([], e') → e'.text = e.text → w = v := by
  obtain ⟨e, hdraft, hdenotes⟩ := rendersFaithfully split h
  refine ⟨e, hdraft, hdenotes.read_eq, fun w e' hw hdraft' htext => ?_⟩
  obtain ⟨e'', hdraft'', hdenotes'⟩ := rendersFaithfully split hw
  -- what is drafted for a value is one expression, so the text of the other is read as the other
  have heq : e'' = e' := (Prod.mk.inj (Drafting.pure_inj (hdraft''.symm.trans hdraft'))).2
  have hread := hdenotes'.read_eq
  rw [heq, htext, hdenotes.read_eq] at hread
  exact (Option.some.inj hread).symm

/-- A dictionary with keys of several kinds: a tuple of one item, a truth value, a whole number that
is equal to the other truth value, bytes and the empty text.  Its values are a text with both kinds
of marks, a backslash and control characters, a negative number, and empty collections. -/
def mixedValue : Value :=
  .dict [(.tuple [.null], .str "it's \"so\"\\\n\x07\u200b"), (.bool true, .int (-10)),
    (.int 0, .list [.tuple [], .bool false]), (.bytes [39, 0, 92, 200], .dict []),
    (.str "", .list [])]

lemma mixedValue_isPlain : mixedValue.IsPlain := by
  have hshort : (Value.int 0).IsShort ∧ (Value.int (-10)).IsShort := by
    simp only [Value.IsShort, Scalar.IsShort]
    decide
  refine .dict ?keys ?values (by decide) (by unfold KeysApart; decide) <;>
    simp only [List.forall_mem_cons]
  case keys =>
    have hnull : ∀ v ∈ [Value.null], v.IsPlain := List.forall_mem_singleton.2 .null
    exact ⟨.tuple hnull, .bool true, .int hshort.1, .bytes _, .str _, List.forall_mem_nil _⟩
  case values =>
    have hitems : ∀ v ∈ [Value.tuple [], Value.bool false], v.IsPlain :=
      List.forall_mem_cons.2 ⟨.tuple (List.forall_mem_nil _), List.forall_mem_singleton.2 (.bool _)⟩
    exact ⟨.str _, .int hshort.2, .list hitems,
      .dict (List.forall_mem_nil _) (List.forall_mem_nil _) (List.forall_mem_nil _) .nil,
      .list (List.forall_mem_nil _), List.forall_mem_nil _⟩

theorem mixedValue_faithful : mixedValue.IsPlain ∧
    ∃ e, draftValue (fun path => pure ("", path)) mixedValue = pure ([], e) ∧
      read e.text = some mixedValue ∧
      ∀ w e', w.IsPlain → draftValue (fun path => pure ("", path)) w = pure ([], e') →
        e'.text = e.text → w = mixedValue :=
  ⟨mixedValue_isPlain, draftValue_faithful _ mixedValue_isPlain⟩

end Factory

end Blueprint
