/-
# Where a compilation fails

A compilation that fails does so at one place.  This file goes through the functions of the compiler
one by one and says, for each of them, which place that is: one of its own checks, or one of the
runs it is put together from, all before that one having succeeded.

For a definition the outcome is `Registry.Stops`.  Either a check of its own fails, which is a
mistake of the definition by the rules of `Registry.Rejects`, or a mismatch, or an owner that cannot
be looked up; or the failure is that of an operand, bound or declared.  A value fails because it is
no operand, which shows in a mismatch if the value can be written, or in a definition that it holds
(`compileValue_fails`).
-/
import Blueprint.Proofs.Beginnings
import Blueprint.Proofs.Fatality
import Blueprint.Proofs.Steps

namespace Blueprint

/-! ## Runs that fail -/

namespace Run

variable {α β γ : Type}

/-- In some world the run fails in this way while the entry is being worked on. -/
def Fails (entry : Option Value) (failure : Failure) (x : Run α) : Prop :=
  ∃ world, (x entry world).1 = .error failure

namespace Fails

variable {entry name : Option Value} {failure : Failure} {x : Run α} {f : α → Run β}

lemma not_pure {a : α} : ¬ Fails entry failure (Pure.pure a : Run α) := by
  rintro ⟨world, h⟩
  exact absurd h (by simp)

lemma not_attempt {x : Run α} : ¬ Fails entry failure (Run.attempt x) := by
  rintro ⟨world, h⟩
  exact absurd h (by simp)

lemma not_note {event : Event} : ¬ Fails entry failure (Run.note event) := by
  rintro ⟨world, h⟩
  exact absurd h (by simp [Run.note])

lemma of_fail {failure' : Failure} (h : Fails entry failure (Run.fail failure' : Run α)) :
    failure = failure' := by
  obtain ⟨world, h⟩ := h
  exact (Except.error.inj h).symm

lemma of_mistaken {cause : Mistake} (h : Fails entry failure (Run.mistaken cause : Run α)) :
    failure = .mistake ⟨cause, entry⟩ := by
  obtain ⟨world, h⟩ := h
  exact (Except.error.inj h).symm

/-- Either the first of two runs fails, or the second after a result of the first. -/
lemma of_bind (h : Fails entry failure (x >>= f)) :
    Fails entry failure x ∨ ∃ a, x.Yields (fun _ => True) a ∧ Fails entry failure (f a) := by
  obtain ⟨world, h⟩ := h
  rcases hx : x entry world with ⟨failure' | a, w⟩
  · rw [bind_of_error hx] at h
    obtain rfl := Except.error.inj h
    exact .inl ⟨world, by rw [hx]⟩
  · rw [bind_of_ok hx] at h
    exact .inr ⟨a, ⟨entry, world, trivial, by rw [hx]⟩, w, h⟩

/-- A result that is only put in another form has been reached. -/
lemma of_map {g : α → β} (h : Fails entry failure (x >>= fun a => Pure.pure (g a))) :
    Fails entry failure x := by
  rcases h.of_bind with hx | ⟨a, -, ha⟩
  · exact hx
  · exact absurd ha not_pure

lemma of_within (h : Fails entry failure (Run.within name x)) : Fails name failure x :=
  h

/-- A traversal fails at one of the items, after those before it. -/
lemma of_traverses {run : List α → Run (List γ)} {one : α → Run γ} (ht : Traverses run one)
    {items : List α} (h : Fails entry failure (run items)) :
    ∃ i a, items[i]? = some a ∧ (∀ b ∈ items.take i, ∃ v, (one b).Yields (fun _ => True) v) ∧
      Fails entry failure (one a) := by
  induction items with
  | nil =>
    rw [ht.nil] at h
    exact absurd h not_pure
  | cons a rest ih =>
    rw [ht.cons] at h
    -- the first item fails, or it returns and one of the others fails
    rcases h.of_bind with ha | ⟨v, hv, h⟩
    · exact ⟨0, a, rfl, by simp, ha⟩
    · obtain ⟨i, b, hb, hbefore, hfails⟩ := ih h.of_map
      exact ⟨i + 1, b, hb, List.forall_mem_cons.2 ⟨⟨v, hv⟩, hbefore⟩, hfails⟩

/-- A default that does not fit is a mistake of what relies on it; other failures get through. -/
lemma of_blameDefault {x : Run Value} {parameter callable : Text}
    (h : Fails entry failure (blameDefault parameter callable x)) :
    (Fails entry failure x ∧ ∀ cause, failure ≠ .mismatch cause) ∨
      ∃ cause, Fails entry (.mismatch cause) x ∧
        failure = .mistake ⟨.uncompilableDefault parameter callable cause, entry⟩ := by
  obtain ⟨world, h⟩ := h
  rcases hx : x entry world with ⟨failure' | a, w⟩ <;> rw [blameDefault, Run.recover_apply, hx] at h
  · have hfails : Fails entry failure' x := ⟨world, by rw [hx]⟩
    cases failure' with
    | mismatch cause => exact .inr ⟨cause, hfails, (Except.error.inj h).symm⟩
    | _ =>
      obtain rfl := Except.error.inj h
      exact .inl ⟨hfails, fun _ => by simp⟩
  · exact absurd h (by simp)

end Fails

end Run

/-! ## Parameters without argument -/

/-- The first parameter of the callable that gets no argument, as a mistake: nothing is bound, and
it has no default or one that cannot be read. -/
inductive Unresolved (b : Option Binding) (c : Callable) : Mistake → Prop where
  /-- A parameter that is required. -/
  | unbound {i : Nat} {p : Parameter} (hp : c.parameters[i]? = some p)
      (hbefore : ∀ j q, j < i → c.parameters[j]? = some q → ∃ s, Argument b j q s)
      (hb : ∀ call, b = some call → call.get i = .useDefault) (h : p.default = .required) :
      Unresolved b c (.unboundParameter p.name c.name)
  /-- A parameter whose default cannot be read. -/
  | unreadable {i : Nat} {p : Parameter} (hp : c.parameters[i]? = some p)
      (hbefore : ∀ j q, j < i → c.parameters[j]? = some q → ∃ s, Argument b j q s)
      (hb : ∀ call, b = some call → call.get i = .useDefault) (h : p.default = .unreadable) :
      Unresolved b c (.unreadableDefault p.name c.name)

namespace Resolution

/-- The search for arguments ends with the first mistake. -/
lemma argumentsFrom_eq_error_iff {α : Type} {name : Text} {bound : Nat → Option α} {k : Nat}
    {ps : List Parameter} {mistake : Mistake} :
    argumentsFrom name bound k ps = .error mistake ↔
      ∃ i p, ps[i]? = some p ∧ argument name p (bound (k + i)) = .error mistake ∧
        ∀ j q, j < i → ps[j]? = some q → ∃ s, argument name q (bound (k + j)) = .ok s := by
  induction ps generalizing k with
  | nil => simp [argumentsFrom]
  | cons p rest ih =>
    simp only [argumentsFrom]
    rcases hs : argument name p (bound k) with m | s
    · constructor
      · rintro h
        obtain rfl := Except.error.inj h
        exact ⟨0, p, rfl, hs, fun j q hj => absurd hj (by omega)⟩
      · rintro ⟨i, q, hq, hm, hbefore⟩
        cases i with
        | zero =>
          obtain rfl := Option.some.inj hq
          rw [Nat.add_zero, hs] at hm
          exact congrArg Except.error (Except.error.inj hm)
        | succ i =>
          obtain ⟨s, hs'⟩ := hbefore 0 p (by omega) rfl
          rw [Nat.add_zero, hs] at hs'
          exact absurd hs' (by simp)
    · have hrest : (argumentsFrom name bound (k + 1) rest).map ((p, s) :: ·) = .error mistake ↔
          argumentsFrom name bound (k + 1) rest = .error mistake := by
        rcases argumentsFrom name bound (k + 1) rest with m | sources <;> simp [Except.map]
      rw [hrest, ih]
      constructor
      · rintro ⟨i, q, hq, hm, hbefore⟩
        refine ⟨i + 1, q, hq, by rw [← hm]; congr 2; omega, ?_⟩
        rintro (_ | j) r hj hr
        · obtain rfl := Option.some.inj hr
          exact ⟨s, hs⟩
        · obtain ⟨t, ht⟩ := hbefore j r (by omega) hr
          exact ⟨t, by rw [← ht]; congr 2; omega⟩
      · rintro ⟨i, q, hq, hm, hbefore⟩
        cases i with
        | zero =>
          obtain rfl := Option.some.inj hq
          rw [Nat.add_zero, hs] at hm
          exact absurd hm (by simp)
        | succ i =>
          refine ⟨i, q, hq, by rw [← hm]; congr 2; omega, fun j r hj hr => ?_⟩
          obtain ⟨t, ht⟩ := hbefore (j + 1) r (by omega) hr
          exact ⟨t, by rw [← ht]; congr 2; omega⟩

/-- A parameter without argument has nothing bound to it and no default that can be read. -/
lemma argument_eq_error_iff {name : Text} {p : Parameter} {b : Option Binding} {i : Nat}
    {mistake : Mistake} :
    argument name p (lookup (boundValues b) i) = .error mistake ↔
      (∀ call, b = some call → call.get i = .useDefault) ∧
        ((p.default = .required ∧ mistake = .unboundParameter p.name name) ∨
          (p.default = .unreadable ∧ mistake = .unreadableDefault p.name name)) := by
  have hnone : lookup (boundValues b) i = none ↔
      ∀ call, b = some call → call.get i = .useDefault := by
    rw [lookup_boundValues, Option.bind_eq_none_iff]
    simp only [Value.explicit?_eq_none_iff]
  rcases hl : lookup (boundValues b) i with _ | v
  · have hb := hnone.1 hl
    rcases hp : p.default with _ | w | _ <;> simp only [argument, hp]
    · simpa [eq_comm] using fun _ => hb
    · simp
    · simpa [eq_comm] using fun _ => hb
  · have hb : ¬ ∀ call, b = some call → call.get i = .useDefault := by
      rw [← hnone, hl]
      simp
    simp [argument, hb]

lemma argumentsFrom_eq_error_iff_unresolved {b : Option Binding} {c : Callable}
    {mistake : Mistake} :
    argumentsFrom c.name (lookup (boundValues b)) 0 c.parameters = .error mistake ↔
      Unresolved b c mistake := by
  rw [argumentsFrom_eq_error_iff]
  simp only [Nat.zero_add, argument_eq_error_iff, argument_eq_ok_iff]
  constructor
  · rintro ⟨i, p, hp, ⟨hb, ⟨h, rfl⟩ | ⟨h, rfl⟩⟩, hbefore⟩
    · exact .unbound hp hbefore hb h
    · exact .unreadable hp hbefore hb h
  · intro h
    cases h with
    | unbound hp hbefore hb h => exact ⟨_, _, hp, ⟨hb, .inl ⟨h, rfl⟩⟩, hbefore⟩
    | unreadable hp hbefore hb h => exact ⟨_, _, hp, ⟨hb, .inr ⟨h, rfl⟩⟩, hbefore⟩

end Resolution

/-! ## Calls and definitions -/

section Parts

open Run

variable {types : Introspector} {onDefault : Value → Run Value} {entry : Option Value}
  {failure : Failure}

/-- A call fails for want of an argument, or at one of its arguments, after those before it.  That
some positions are not used is only warned of. -/
lemma compileArguments_fails {b : Option Binding} {c : Callable}
    (h : Fails entry failure
      (compileArguments onDefault (boundRuns (some types) onDefault b) (some c))) :
    (∃ mistake, Unresolved b c mistake ∧ failure = .mistake ⟨mistake, entry⟩) ∨
      Resolves b c ∧ ∃ i p s, c.parameters[i]? = some p ∧ Argument b i p s ∧
        (∀ j q t, j < i → c.parameters[j]? = some q → Argument b j q t →
          ∃ v, (compileSource (some types) onDefault c.name q.name t).Yields (fun _ => True) v) ∧
        Fails entry failure (compileSource (some types) onDefault c.name p.name s) := by
  rw [compileArguments_eq] at h
  rcases hr : Resolution.argumentsFrom c.name (Resolution.lookup (Resolution.boundValues b)) 0
    c.parameters with mistake | sources
  · rw [Resolution.resolve_of_error hr, Run.mistaken_bind] at h
    exact .inl ⟨mistake, Resolution.argumentsFrom_eq_error_iff_unresolved.1 hr, h.of_mistaken⟩
  rw [Resolution.resolve_of_ok hr, bind_assoc] at h
  rcases h.of_bind with h | ⟨_, -, h⟩
  · obtain ⟨world, hw⟩ := h
    have hreturns := Resolution.warnUnused_returns ((Resolution.boundValues b).map Prod.fst) c
      entry world
    rw [hw] at hreturns
    exact absurd trivial hreturns
  rw [pure_bind] at h
  obtain ⟨i, ⟨p, s⟩, hi, hbefore, hfails⟩ := Fails.of_traverses (compileOperands_traverses c.name) h
  obtain ⟨hp, ha⟩ := (Resolution.getElem?_eq_some_iff hr).1 hi
  refine .inr ⟨Resolution.exists_argumentsFrom_iff_resolves.1 ⟨sources, hr⟩, i, p, s, hp, ha, ?_,
    hfails⟩
  intro j q t hj hq ht
  have hsource := (Resolution.getElem?_eq_some_iff hr).2 ⟨hq, ht⟩
  exact hbefore (q, t) (List.mem_iff_getElem?.2 ⟨j, by rw [List.getElem?_take_of_lt hj, hsource]⟩)

/-- A definition fails in the check of its class, or behind it in its plan. -/
lemma compileDefinition_fails {d : Definition}
    (h : Fails entry failure (compileDefinition (some types) onDefault d)) :
    Fails d.name.entry? failure (checkClass types d.name d.className) ∨
      (checkClass types d.name d.className).Yields (fun _ => True) () ∧
        Fails d.name.entry? failure (eagerPlan types onDefault d) := by
  rw [compileDefinition_eq] at h
  rcases h.of_within.of_bind with hcheck | ⟨_, hchecked, h⟩
  · exact .inl hcheck
  split at h
  · -- a lazy definition is checked once more before the plan behind it is made
    rcases h.of_bind with hnote | ⟨_, -, h⟩
    · exact absurd hnote Fails.not_note
    rcases h.of_bind with hcheck | ⟨_, -, h⟩
    · exact .inl hcheck
    · exact .inr ⟨hchecked, h.of_map⟩
  · exact .inr ⟨hchecked, h⟩

end Parts

namespace Registry

open Run

variable {registry : Registry} {n : Nat} {entry : Option Value} {failure : Failure}

/-! ## Mistakes of a definition -/

/-- The value does not fit: on its own it does not compile, for this reason. -/
def Misfits (registry : Registry) (w : Value) (cause : Mismatch) : Prop :=
  ∃ entry world,
    (compileOperand (some registry.introspector) w entry world).1 = .error (.mismatch cause)

/-- The definition itself has the mistake: one of its own checks finds it, and everything that is
compiled before that check compiles. -/
inductive Rejects (registry : Registry) (d : Definition) : Mistake → Prop where
  /-- Its class is not declared. -/
  | missing (hn : IsNameable d.className) (h : registry.find? d.className = none) :
      Rejects registry d (.missingClass d.name)
  /-- Its class cannot be instantiated. -/
  | notInstantiable {schema : TypeSchema} (hn : IsNameable d.className)
      (hs : registry.find? d.className = some schema) (h : schema.isInstantiable = false) :
      Rejects registry d (.notInstantiable d.name)
  /-- A parameter of one of its calls has no argument. -/
  | unresolved {b : Option Binding} {c : Callable} {mistake : Mistake}
      (hcall : registry.ComesToCall d b c) (h : Unresolved b c mistake) :
      Rejects registry d mistake
  /-- A default that one of its calls relies on does not fit. -/
  | uncompilable {b : Option Binding} {c : Callable} {i : Nat} {p : Parameter} {w : Value}
      {cause : Mismatch} (hcall : registry.ComesToCall d b c) (hresolves : Resolves b c)
      (hp : c.parameters[i]? = some p) (ha : Argument b i p (.declared w))
      (hbefore : ∀ j q t, j < i → c.parameters[j]? = some q → Argument b j q t →
        registry.Accepts (Resolution.Source.value t))
      (h : registry.Misfits w cause) :
      Rejects registry d (.uncompilableDefault p.name c.name cause)
  /-- The owner of one of its fields is not declared. -/
  | unknownOwner {b : FieldBinding} (hfield : registry.ComesToField d b)
      (h : ∀ schema, ¬ registry.Owns (fieldOwner b.owner d.className) schema)
      (hu : (fieldOwner b.owner d.className).unhashable? = none) :
      Rejects registry d (.unknownClass (fieldOwner b.owner d.className))

/-- The ways in which the compilation of a definition fails. -/
inductive Stops (registry : Registry) (n : Nat) (d : Definition) : Failure → Prop where
  /-- Something in it does not fit its class. -/
  | mismatch (cause : Mismatch) : Stops registry n d (.mismatch cause)
  /-- The owner of a field cannot be looked up. -/
  | unhashable (typeName : Text) : Stops registry n d (.unhashable typeName)
  /-- It has a mistake itself. -/
  | own {cause : Mistake} (h : registry.Rejects d cause) :
      Stops registry n d (.mistake ⟨cause, d.name.entry?⟩)
  /-- A bound value that it comes to fails. -/
  | bound {schema : TypeSchema} {v : Value} {failure : Failure}
      (hs : registry.find? d.className = some schema) (hv : Operand d schema (.bound v))
      (hcomes : ∀ e, registry.Comes v e → registry.Comes (.definition d) e)
      (h : Fails d.name.entry? failure (compileValue (some registry.introspector)
        (compileUpTo registry.introspector n) v)) : Stops registry n d failure
  /-- A declared default that it comes to fails. -/
  | declared {schema : TypeSchema} {w : Value} {failure : Failure}
      (hs : registry.find? d.className = some schema) (hw : Operand d schema (.declared w))
      (hcomes : ∀ e, registry.Comes w e → registry.Comes (.definition d) e)
      (h : Fails d.name.entry? failure (compileUpTo registry.introspector n w)) :
      Stops registry n d failure

/-- That a declared default does not fit shows in every number of steps that is enough. -/
lemma misfits_of_fails {w : Value} {cause : Mismatch} (hw : w ∈ registry.defaults)
    (h : Fails entry (.mismatch cause) (compileUpTo registry.introspector n w)) :
    registry.Misfits w cause := by
  obtain ⟨world, h⟩ := h
  have hpersists := compileUpTo_persists n
    (m := registry.introspector.depth + 1) (Nat.le_add_right _ 2) w hw
  refine ⟨entry, world, ?_⟩
  have hne : ¬ IsCircular (.mismatch cause) := by simp
  have heq := hpersists.apply_of_error hne h
  rw [compileOperand, ← h]
  exact congrArg Prod.fst heq

/-! ## Checks -/

lemma checkClass_fails {d : Definition}
    (h : Fails d.name.entry? failure (checkClass registry.introspector d.name d.className)) :
    registry.Stops n d failure := by
  by_cases hn : IsNameable d.className
  · rcases hf : registry.find? d.className with _ | schema
    · rw [checkClass_missing d.name hn hf] at h
      obtain rfl := h.of_mistaken
      exact .own (.missing hn hf)
    · rcases hi : schema.isInstantiable with _ | _
      · rw [checkClass_notInstantiable d.name hn hf hi] at h
        obtain rfl := h.of_mistaken
        exact .own (.notInstantiable hn hf hi)
      · rw [checkClass_eq_pure d.name hn ⟨hf, hi⟩] at h
        exact absurd h Fails.not_pure
  · rw [checkClass_anonymous d.name hn] at h
    obtain rfl := h.of_fail
    exact .mismatch _

lemma checkField_stops {d : Definition} {b : FieldBinding} (hfield : registry.ComesToField d b)
    (h : Fails d.name.entry? failure
      (checkField registry.introspector (fieldOwner b.owner d.className) b.field)) :
    registry.Stops n d failure := by
  by_cases ho : ∃ schema, registry.Owns (fieldOwner b.owner d.className) schema
  · obtain ⟨schema, ho⟩ := ho
    rw [checkField, introspector_field ho, pure_bind] at h
    split at h
    · obtain rfl := h.of_fail
      exact .mismatch _
    · split at h
      · obtain rfl := h.of_fail
        exact .mismatch _
      · split at h
        · obtain rfl := h.of_fail
          exact .mismatch _
        · exact absurd h Fails.not_pure
  · rw [not_exists] at ho
    rcases checkField_fails ho b.field with ⟨hu, hc⟩ | ⟨typeName, -, ht⟩
    · rw [hc] at h
      obtain rfl := h.of_mistaken
      exact .own (.unknownOwner hfield ho hu)
    · rw [ht] at h
      obtain rfl := h.of_fail
      exact .unhashable typeName

/-! ## Values -/

/-- What a traversal has gone through is accepted. -/
lemma accepts_of_yields {v a : Value}
    (h : (compileValue (some registry.introspector) (compileUpTo registry.introspector n) v).Yields
      (fun _ => True) a) : registry.Accepts v :=
  accepts_of_acceptsUpTo (n + 1) v ((compileValue_upTo_decides registry n v).of_yields h)

/-- Items fail at one of them, after those before it. -/
lemma compileItems_fails {items : List Value}
    (h : Fails entry failure (compileItems (some registry.introspector)
      (compileUpTo registry.introspector n) items)) :
    ∃ (i : Nat) (v : Value), items[i]? = some v ∧ (∀ u ∈ items.take i, registry.Accepts u) ∧
      Fails entry failure (compileValue (some registry.introspector)
        (compileUpTo registry.introspector n) v) := by
  obtain ⟨i, v, hv, hbefore, hfails⟩ := Fails.of_traverses compileItems_traverses h
  refine ⟨i, v, hv, fun u hu => ?_, hfails⟩
  obtain ⟨a, ha⟩ := hbefore u hu
  exact accepts_of_yields ha

/-- The failure is that of a value which is no operand: a mismatch, or that of writing the value. -/
def IsRefusal (failure : Failure) : Prop :=
  (∃ cause, failure = .mismatch cause) ∨ failure = .longNumber none

lemma isRefusal_refusal (v : Value) : IsRefusal v.refusal := by
  unfold Value.refusal
  split
  · exact .inl ⟨_, rfl⟩
  · exact .inr rfl

/-- A value fails because it is no operand, or in a definition that it holds and comes to. -/
theorem compileValue_fails {v : Value}
    (h : Fails entry failure (compileValue (some registry.introspector)
      (compileUpTo registry.introspector n) v)) :
    IsRefusal failure ∨
      ∃ d, v.Holds (.definition d) ∧
        (∀ e, registry.Comes (.definition d) e → registry.Comes v e) ∧
          Fails entry failure (compileDefinition (some registry.introspector)
            (compileUpTo registry.introspector n) d) := by
  induction v using Value.positionInduct with
  | literal v hv =>
    rw [compileValue_literal hv] at h
    exact absurd h Fails.not_pure
  | reference entry =>
    rw [compileValue] at h
    exact absurd h Fails.not_pure
  | useDefault =>
    rw [compileValue] at h
    exact .inl (.inl ⟨_, h.of_fail⟩)
  | unsupported v hv =>
    rw [compileValue_unsupported hv] at h
    exact .inl (h.of_fail ▸ isRefusal_refusal v)
  | list items ih =>
    rw [compileValue] at h
    obtain ⟨i, v, hv, hbefore, hfails⟩ := compileItems_fails h.of_map
    have hmem : v ∈ items := List.mem_of_getElem? hv
    refine (ih v hmem hfails).imp_right ?_
    rintro ⟨d, hd, hcomes, hfails⟩
    exact ⟨d, .list hmem hd, fun e he => .list hv hbefore (hcomes e he), hfails⟩
  | tuple items ih =>
    rw [compileValue] at h
    obtain ⟨i, v, hv, hbefore, hfails⟩ := compileItems_fails h.of_map
    have hmem : v ∈ items := List.mem_of_getElem? hv
    refine (ih v hmem hfails).imp_right ?_
    rintro ⟨d, hd, hcomes, hfails⟩
    exact ⟨d, .tuple hmem hd, fun e he => .tuple hv hbefore (hcomes e he), hfails⟩
  | dict entries ih =>
    rw [compileValue] at h
    obtain ⟨i, x, hx, hbefore, hfails⟩ := Fails.of_traverses compileEntries_traverses h.of_map
    have hmem : x ∈ entries := List.mem_of_getElem? hx
    refine (ih x hmem hfails.of_map).imp_right ?_
    rintro ⟨d, hd, hcomes, hfails⟩
    refine ⟨d, .dict hmem hd, fun e he => .dict hx (fun y hy => ?_) (hcomes e he), hfails⟩
    -- an entry that was compiled before has a value that is accepted
    obtain ⟨v, hv⟩ := hbefore y hy
    have hdecides := (compileValue_upTo_decides registry n y.2).map fun v => (y.1, v)
    exact accepts_of_acceptsUpTo (n + 1) y.2 (hdecides.of_yields hv)
  | definition d _ =>
    rw [compileValue] at h
    exact .inr ⟨d, .self _, fun _ => id, h.of_map⟩

/-! ## Calls -/

/-- A bound operand is not the mark for a declared default. -/
lemma Operand.bindsExplicitly {d : Definition} {schema : TypeSchema} {v : Value}
    (h : Operand d schema (.bound v)) : d.BindsExplicitly v := by
  cases h with
  | construct hc hs =>
    obtain ⟨call, e, hb, he, hne, rfl⟩ := hs.exists_mem
    exact .construct hb he hne
  | assign hb => exact .assign hb
  | invoke hb hc hs =>
    obtain ⟨call, e, hcall, he, hne, rfl⟩ := hs.exists_mem
    obtain rfl := Option.some.inj hcall
    exact .invoke hb he hne

section Definition

variable {d : Definition} {schema : TypeSchema}

/-- A call fails for a mistake of its own, or in an argument that it comes to. -/
lemma compileArguments_stops {b : Option Binding} {c : Callable}
    (hs : registry.find? d.className = some schema) (hcall : registry.ComesToCall d b c)
    (hoperand : ∀ s, Passes b c s → Operand d schema s)
    (h : Fails d.name.entry? failure (compileArguments (compileUpTo registry.introspector n)
      (boundRuns (some registry.introspector) (compileUpTo registry.introspector n) b)
      (some c))) : registry.Stops n d failure := by
  rcases compileArguments_fails h with ⟨mistake, hunresolved, rfl⟩ |
    ⟨hresolves, i, p, s, hp, ha, hbefore, hfails⟩
  · exact .own (.unresolved hcall hunresolved)
  have haccepted : ∀ j q t, j < i → c.parameters[j]? = some q → Argument b j q t →
      registry.Accepts (Resolution.Source.value t) := by
    intro j q t hj hq ht
    obtain ⟨v, hv⟩ := hbefore j q t hj hq ht
    exact ((compileSource_upTo_decides registry n c.name q.name t).of_yields hv).accepts
  have hcomes : ∀ e, registry.Comes (Resolution.Source.value s) e →
      registry.Comes (.definition d) e :=
    fun e he => hcall.comes ⟨hresolves, i, p, hp, ha, haccepted⟩ he
  have hs' : Operand d schema s := hoperand s ⟨i, p, hp, ha⟩
  rcases s with v | w
  · exact .bound hs hs' hcomes hfails
  · rcases Fails.of_blameDefault hfails with ⟨hdefault, -⟩ | ⟨cause, hdefault, rfl⟩
    · exact .declared hs hs' hcomes hdefault
    · have hmisfits := misfits_of_fails (hs'.mem_defaults hs) hdefault
      exact .own (.uncompilable hcall hresolves hp ha haccepted hmisfits)

/-- The fields fail at one of them, in the check of the field or in its value. -/
lemma compileFields_stops (hn : IsNameable d.className)
    (hi : registry.Instantiates d.className schema)
    (hconstructed : ∀ c, schema.constructor = some c →
      registry.CallAccepted (registry.AcceptsUpTo n) d.constructor c)
    (h : Fails d.name.entry? failure (compileFields (some registry.introspector)
      registry.introspector (compileUpTo registry.introspector n) d.className d.fields)) :
    registry.Stops n d failure := by
  obtain ⟨i, b, hb, hbefore, hfails⟩ :=
    Fails.of_traverses (compileFields_traverses d.className) h
  have hassigned : ∀ b' ∈ d.fields.take i,
      registry.FieldAccepted (registry.AcceptsUpTo n) d.className b' := by
    intro b' hb'
    obtain ⟨step, hstep⟩ := hbefore b' hb'
    exact (compileField_upTo_decides registry n d.className b').of_yields hstep
  have hfield : registry.ComesToField d b :=
    ⟨i, hb, compilable_of_accepted hn hi ⟨hconstructed, hassigned, List.forall_mem_nil _⟩⟩
  -- the check of the field fails, or its value does
  rcases hfails.of_bind with hcheck | ⟨_, hyields, hvalue⟩
  · exact checkField_stops hfield hcheck
  · have ha : registry.Assignable (fieldOwner b.owner d.className) b.field :=
      (checkField_decides _ _).of_yields hyields
    have hmem : b ∈ d.fields := List.mem_of_getElem? hb
    exact .bound hi.1 (.assign hmem) (fun e he => hfield.comes ha he) hvalue.of_map

/-- The methods fail at one of them, which is missing or whose call fails. -/
lemma compileMethods_stops (hn : IsNameable d.className)
    (hi : registry.Instantiates d.className schema)
    (hconstructed : ∀ c, schema.constructor = some c →
      registry.CallAccepted (registry.AcceptsUpTo n) d.constructor c)
    (hassigned : ∀ b ∈ d.fields, registry.FieldAccepted (registry.AcceptsUpTo n) d.className b)
    (h : Fails d.name.entry? failure (compileMethods (some registry.introspector)
      registry.introspector (compileUpTo registry.introspector n) d.className d.methods)) :
    registry.Stops n d failure := by
  obtain ⟨i, b, hb, hbefore, hfails⟩ :=
    Fails.of_traverses (compileMethods_traverses d.className) h
  have hinvoked : ∀ b' ∈ d.methods.take i,
      registry.MethodAccepted (registry.AcceptsUpTo n) schema b' := by
    intro b' hb'
    obtain ⟨step, hstep⟩ := hbefore b' hb'
    exact (compileMethod_upTo_decides hi.1 n b').of_yields hstep
  rw [introspector_method hi.1, pure_bind] at hfails
  rcases hc : Entries.get? b.method schema.methods with _ | c <;> rw [hc, compileCall] at hfails
  · obtain rfl := hfails.of_fail
    exact .mismatch _
  · have hcall : registry.ComesToCall d (some b) c :=
      .invoke hb (compilable_of_accepted hn hi ⟨hconstructed, hassigned, hinvoked⟩) hi.1 hc
    have hmem : b ∈ d.methods := List.mem_of_getElem? hb
    exact compileArguments_stops hi.1 hcall (fun s hs => .invoke hmem hc hs) hfails.of_map

/-- Behind the check of its class, a definition fails at one of its calls or fields. -/
lemma eagerPlan_stops (hn : IsNameable d.className)
    (hi : registry.Instantiates d.className schema)
    (h : Fails d.name.entry? failure
      (eagerPlan registry.introspector (compileUpTo registry.introspector n) d)) :
    registry.Stops n d failure := by
  rw [eagerPlan_eq_declaredPlan hi.1, declaredPlan] at h
  rcases h.of_bind with hnote | ⟨_, -, h⟩
  · exact absurd hnote Fails.not_note
  -- the arguments of the constructor fail, or the fields behind them, or the methods behind both
  rcases h.of_bind with harguments | ⟨arguments, hyields, h⟩
  · rcases hc : schema.constructor with _ | c <;> rw [hc] at harguments
    · rw [compileArguments] at harguments
      exact absurd harguments Fails.not_pure
    · exact compileArguments_stops hi.1 (.construct hn hi hc) (fun s hs => .construct hc hs)
        harguments
  have hconstructed := (compileConstructor_upTo_decides registry n d schema).of_yields hyields
  rcases h.of_bind with hfields | ⟨assignments, hyields, h⟩
  · exact compileFields_stops hn hi hconstructed hfields
  have hassigned := (compileFields_upTo_decides registry n d).of_yields hyields
  exact compileMethods_stops hn hi hconstructed hassigned h.of_map

/-- A definition fails by a check of its own, or in an operand that it comes to. -/
theorem compileDefinition_stops
    (h : Fails entry failure (compileDefinition (some registry.introspector)
      (compileUpTo registry.introspector n) d)) : registry.Stops n d failure := by
  rcases compileDefinition_fails h with hcheck | ⟨hchecked, h⟩
  · exact checkClass_fails hcheck
  obtain ⟨hn, schema, hi⟩ := (checkClass_decides d.name).of_yields hchecked
  exact eagerPlan_stops hn hi h

end Definition

end Registry

end Blueprint
