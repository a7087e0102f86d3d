/-
# How deep declared defaults go

A declared default may nest a definition that relies on declared defaults in its turn.  The compiler
follows such a chain for as many steps as a registry declares parameters, and one more.  This file
shows that no definition needs more: the defaults that compile within `n` steps grow with `n`, and
once they stop growing they stay as they are (`acceptsUpTo_stable`).  There are no more defaults
than parameters, so the growth has come to its end by then.

It follows that `compile` decides the rules of `Registry.Compilable`, which know of no steps.
-/
import Blueprint.Proofs.Acceptance

namespace Blueprint

/-! ## Growing predicates on a finite list -/

section Growth

open Classical

variable {α : Type} {l : List α} {p : Nat → α → Prop}

/-- The items of the list of which the predicate holds within `n` steps. -/
noncomputable def reached (l : List α) (p : Nat → α → Prop) (n : Nat) : List α :=
  l.filter fun a => decide (p n a)

lemma mem_reached {n : Nat} {a : α} : a ∈ reached l p n ↔ a ∈ l ∧ p n a := by
  simp [reached]

lemma reached_sublist {n : Nat} (mono : ∀ a ∈ l, p n a → p (n + 1) a) :
    (reached l p n).Sublist (reached l p (n + 1)) := by
  have hfilter : reached l p n = (reached l p (n + 1)).filter fun a => decide (p n a) := by
    rw [reached, reached, List.filter_filter]
    refine List.filter_congr ?_
    intro a ha
    by_cases h : p n a
    · simp [h, mono a ha h]
    · simp [h]
  rw [hfilter]
  exact List.filter_sublist

/-- A step that reaches no more items makes the predicate hold of no more items. -/
lemma reached_lt {n : Nat} (mono : ∀ a ∈ l, p n a → p (n + 1) a)
    (h : ¬ ∀ a ∈ l, p (n + 1) a → p n a) :
    (reached l p n).length < (reached l p (n + 1)).length := by
  have hle := (reached_sublist mono).length_le
  have hne : (reached l p n).length ≠ (reached l p (n + 1)).length := by
    intro heq
    refine h fun a ha hp => ?_
    have hmem : a ∈ reached l p n := by
      rw [(reached_sublist mono).eq_of_length heq]
      exact mem_reached.2 ⟨ha, hp⟩
    exact (mem_reached.1 hmem).2
  omega

/-- Either the predicate has stopped growing, or every step so far reached one more item. -/
lemma stopped_or_reached (mono : ∀ n, ∀ a ∈ l, p n a → p (n + 1) a)
    (stop : ∀ n, (∀ a ∈ l, p (n + 1) a → p n a) → ∀ a ∈ l, p (n + 2) a → p (n + 1) a) (n : Nat) :
    (∀ a ∈ l, p (n + 1) a → p n a) ∨ n < (reached l p (n + 1)).length := by
  induction n with
  | zero =>
    by_cases h : ∀ a ∈ l, p (0 + 1) a → p 0 a
    · exact .inl h
    · have hlt := reached_lt (mono 0) h
      exact .inr (by omega)
  | succ n ih =>
    rcases ih with h | h
    · exact .inl (stop n h)
    · by_cases h' : ∀ a ∈ l, p (n + 1 + 1) a → p (n + 1) a
      · exact .inl h'
      · have hlt := reached_lt (mono (n + 1)) h'
        exact .inr (by omega)

/-- A predicate that grows on a list, and stops for good once it stops, has stopped after as many
steps as the list has items. -/
lemma stopped_of_length_le (mono : ∀ n, ∀ a ∈ l, p n a → p (n + 1) a)
    (stop : ∀ n, (∀ a ∈ l, p (n + 1) a → p n a) → ∀ a ∈ l, p (n + 2) a → p (n + 1) a) {n : Nat}
    (hn : l.length ≤ n) : ∀ a ∈ l, p (n + 1) a → p n a := by
  rcases stopped_or_reached mono stop n with h | h
  · exact h
  · have hle : (reached l p (n + 1)).length ≤ l.length := List.length_filter_le _ _
    omega

end Growth

namespace Registry

variable {registry : Registry} {d : Definition} {schema : TypeSchema}

/-! ## The defaults of a registry -/

/-- The parameters that a type declares. -/
def parametersOf (t : TypeSchema) : List Parameter :=
  t.constructor.elim [] Callable.parameters ++ t.methods.flatMap fun m => m.2.parameters

/-- The value that a parameter falls back to, if it can be read. -/
def declaredValue? (p : Parameter) : Option Value :=
  match p.default with
  | .declared w => some w
  | _ => none

/-- The defaults that a registry declares. -/
def defaults (registry : Registry) : List Value :=
  (registry.types.flatMap parametersOf).filterMap declaredValue?

lemma length_defaults_le (registry : Registry) :
    registry.defaults.length ≤ registry.parameterCount := by
  have hcount : registry.parameterCount = (registry.types.flatMap parametersOf).length := rfl
  rw [hcount]
  exact List.length_filterMap_le _ _

lemma Passes.mem_parameters {b : Option Binding} {c : Callable} {w : Value}
    (h : Passes b c (.declared w)) : ∃ p ∈ c.parameters, declaredValue? p = some w := by
  obtain ⟨i, p, hp, ha⟩ := h
  cases ha with
  | declared _ hw =>
    refine ⟨p, List.mem_of_getElem? hp, ?_⟩
    rw [declaredValue?, hw]

/-- A declared default that a definition relies on is declared with a parameter of its class. -/
lemma Operand.mem_parametersOf {w : Value} (h : Operand d schema (.declared w)) :
    ∃ p ∈ parametersOf schema, declaredValue? p = some w := by
  cases h with
  | construct hc hs =>
    obtain ⟨p, hp, hw⟩ := Passes.mem_parameters hs
    exact ⟨p, List.mem_append_left _ (by rw [hc]; exact hp), hw⟩
  | invoke hb hc hs =>
    obtain ⟨p, hp, hw⟩ := Passes.mem_parameters hs
    exact ⟨p, List.mem_append_right _ (List.mem_flatMap.2 ⟨_, Entries.mem_of_get? hc, hp⟩), hw⟩

/-- The declared defaults that a definition relies on are among those of the registry. -/
lemma Operand.mem_defaults {w : Value} (hf : registry.find? d.className = some schema)
    (h : Operand d schema (.declared w)) : w ∈ registry.defaults := by
  have ht : schema ∈ registry.types := List.mem_of_find?_eq_some hf
  obtain ⟨p, hp, hw⟩ := h.mem_parametersOf
  exact List.mem_filterMap.2 ⟨p, List.mem_flatMap.2 ⟨schema, ht, hp⟩, hw⟩

/-! ## Steps -/

/-- The values that compile if defaults need one another at most so many times in turn. -/
def AcceptsUpTo (registry : Registry) : Nat → Value → Prop
  | 0 => fun _ => False
  | n + 1 => registry.AcceptsGiven (registry.AcceptsUpTo n)

lemma compileUpTo_decides (n : Nat) (w : Value) :
    (compileUpTo registry.introspector n w).Decides (registry.AcceptsUpTo n w) := by
  induction n generalizing w with
  | zero => exact Run.Decides.fail .circularDefaults
  | succ n ih => exact compileValue_decides ih w

/-- Only what is known of the defaults of the registry matters. -/
lemma AcceptsGiven.mono {D D' : Value → Prop} {v : Value}
    (hD : ∀ w ∈ registry.defaults, D w → D' w) (h : registry.AcceptsGiven D v) :
    registry.AcceptsGiven D' v := by
  induction h with
  | literal h => exact .literal h
  | reference entry => exact .reference entry
  | list _ ih => exact .list ih
  | tuple _ ih => exact .tuple ih
  | dict _ ih => exact .dict ih
  | definition hfits _ hdeclared ih =>
    refine .definition hfits ih fun w hw => ?_
    exact hD w (hw.mem_defaults hfits.instantiates.1) (hdeclared w hw)

lemma acceptsUpTo_succ (n : Nat) (v : Value) (h : registry.AcceptsUpTo n v) :
    registry.AcceptsUpTo (n + 1) v := by
  induction n generalizing v with
  | zero => exact h.elim
  | succ n ih => exact AcceptsGiven.mono (fun w _ => ih w) h

/-- One more step than there are parameters adds nothing. -/
lemma acceptsUpTo_stable {n : Nat} (hn : registry.parameterCount ≤ n) :
    ∀ w ∈ registry.defaults, registry.AcceptsUpTo (n + 1) w → registry.AcceptsUpTo n w := by
  -- the chain stops once two steps agree on the defaults, and it can only grow so often
  refine stopped_of_length_le (fun n w _ => acceptsUpTo_succ n w) ?_
    (Nat.le_trans registry.length_defaults_le hn)
  intro n hstop w _ h
  exact AcceptsGiven.mono hstop h

/-! ## No bound on the steps -/

lemma accepts_of_acceptsUpTo (n : Nat) (v : Value) (h : registry.AcceptsUpTo n v) :
    registry.Accepts v := by
  induction n generalizing v with
  | zero => exact h.elim
  | succ n ih =>
    induction h with
    | literal h => exact .literal h
    | reference entry => exact .reference entry
    | list _ ih => exact .list ih
    | tuple _ ih => exact .tuple ih
    | dict _ ih => exact .dict ih
    | definition hfits _ hdeclared ihbound =>
      refine .definition hfits ?_
      rintro (v | w) hs
      · exact ihbound v hs
      · exact ih w (hdeclared w hs)

lemma acceptsUpTo_of_accepts {n : Nat} (hn : registry.parameterCount < n) {v : Value}
    (h : registry.Accepts v) : registry.AcceptsUpTo n v := by
  obtain ⟨n, rfl⟩ : ∃ k, n = k + 1 := ⟨n - 1, by omega⟩
  induction h with
  | literal h => exact .literal h
  | reference entry => exact .reference entry
  | list _ ih => exact .list ih
  | tuple _ ih => exact .tuple ih
  | dict _ ih => exact .dict ih
  | definition hfits _ ih =>
    refine .definition hfits (fun v hv => ih (.bound v) hv) fun w hw => ?_
    -- a declared default has one step less to go, which is still enough
    have hmem := hw.mem_defaults hfits.instantiates.1
    exact acceptsUpTo_stable (by omega) w hmem (ih (.declared w) hw)

lemma acceptsUpTo_depth_iff {v : Value} :
    registry.AcceptsGiven (registry.AcceptsUpTo registry.introspector.depth) v ↔
      registry.Accepts v :=
  ⟨accepts_of_acceptsUpTo (registry.introspector.depth + 1) v,
    acceptsUpTo_of_accepts (Nat.lt_succ_of_lt (Nat.lt_succ_self registry.parameterCount))⟩

end Registry

end Blueprint
