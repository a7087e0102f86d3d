/-
# What a pass over many definitions comes to

A pass carries two things along: the plans of the definitions that compiled, and the mistakes of
those that did not.  Both are functions of the definitions that were passed so far (`Pass.plans` and
`Pass.mistakes`), if what a definition compiles to does not depend on the world.  That is the
invariant of the loop: a step either ends the pass, for a reason that is found in the definition and
in those before it (`Pass.Ends`), or extends both by what the definition comes to.

So the outcome of a whole pass follows from the first definition that ends it, if there is one, and
from the mistakes of all definitions otherwise.
-/
import Blueprint.Proofs.Answers
import Blueprint.Proofs.Knowledge

namespace Blueprint

variable {types : Introspector}

/-! ## What a definition comes to -/

/-- What a definition compiles to where that depends neither on the entry nor on the world. -/
def Introspector.outcome (types : Introspector) (d : Definition) : Except Failure Plan :=
  (compile types d none {}).1

lemma compile_eq_outcome (h : types.Answers Run.Steady) (d : Definition) (entry : Option Value)
    (world : World) : (compile types d entry world).1 = types.outcome d := by
  have hsteady : (compile types d).Steady := compile_inherited .steady h d
  have hentry : compile types d entry world = compile types d none world := by
    unfold compile
    rw [compileDefinition_eq]
    rfl
  rw [hentry]
  exact hsteady none world {}

namespace Pass

/-- The plans of the definitions that compile, under their names. -/
def plans (types : Introspector) (ds : List Definition) : CompiledEntries :=
  ds.filterMap fun d =>
    match types.outcome d with
    | .ok plan => some (d.name, plan)
    | .error _ => none

/-- The mistakes of the definitions that have one. -/
def mistakes (types : Introspector) (ds : List Definition) : List EntryMistake :=
  ds.filterMap fun d =>
    match types.outcome d with
    | .error (.mistake m) => some m
    | _ => none

/-- One of the definitions compiles and has the name of another one. -/
def Taken (types : Introspector) (before : List Definition) (d : Definition) : Prop :=
  ∃ e ∈ before, (∃ plan, types.outcome e = .ok plan) ∧ (e.name == d.name) = true

/-- A reason for which a pass ends at a definition, given the definitions before it. -/
inductive Ends (types : Introspector) (before : List Definition) (d : Definition) :
    Failure → Prop where
  /-- The name of the definition cannot be a key. -/
  | unhashable {typeName : Text} (hn : d.name.unhashable? = some typeName) :
      Ends types before d (.unhashable typeName)
  /-- The name is that of an earlier definition that compiled. -/
  | duplicate (hn : d.name.unhashable? = none) (ht : Taken types before d) :
      Ends types before d (.duplicateEntry d.name)
  /-- The definition fails in a way that is no mistake of its author. -/
  | failure {failure : Failure} (hn : d.name.unhashable? = none) (ht : ¬ Taken types before d)
      (ho : types.outcome d = .error failure) (hf : ∀ m, failure ≠ .mistake m) :
      Ends types before d failure

lemma contains_plans_iff {before : List Definition} {d : Definition} :
    Entries.contains d.name (plans types before) = true ↔ Taken types before d := by
  simp only [Entries.contains, List.any_eq_true, plans, List.mem_filterMap]
  constructor
  · rintro ⟨⟨name, plan⟩, ⟨e, he, hp⟩, hn⟩
    rcases ho : types.outcome e with failure | plan' <;> rw [ho] at hp
    · exact absurd hp (by simp)
    · obtain ⟨rfl, rfl⟩ := Prod.mk.inj (Option.some.inj hp)
      exact ⟨e, he, ⟨plan', ho⟩, hn⟩
  · rintro ⟨e, he, ⟨plan, ho⟩, hn⟩
    exact ⟨(e.name, plan), ⟨e, he, by rw [ho]⟩, hn⟩

/-- A definition that does not end the pass compiles, or has a mistake, and its name is free. -/
lemma not_ends_iff {before : List Definition} {d : Definition} :
    (∀ failure, ¬ Ends types before d failure) ↔
      d.name.unhashable? = none ∧ ¬ Taken types before d ∧
        ((∃ plan, types.outcome d = .ok plan) ∨ ∃ m, types.outcome d = .error (.mistake m)) := by
  constructor
  · intro he
    have hn : d.name.unhashable? = none := by
      rcases hn : d.name.unhashable? with _ | typeName
      · rfl
      · exact absurd (.unhashable hn) (he _)
    have ht : ¬ Taken types before d := fun ht => he _ (.duplicate hn ht)
    refine ⟨hn, ht, ?_⟩
    -- of the failures of one definition only a mistake lets the pass go on
    rcases ho : types.outcome d with failure | plan
    · cases failure with
      | mistake m => exact .inr ⟨m, rfl⟩
      | _ => exact absurd (.failure hn ht ho fun _ => nofun) (he _)
    · exact .inl ⟨plan, rfl⟩
  · rintro ⟨hn, ht, ho⟩ failure he
    cases he with
    | unhashable hn' => exact absurd (hn.symm.trans hn') (by simp)
    | duplicate _ ht' => exact ht ht'
    | failure _ _ ho' hf =>
      rcases ho with ⟨plan, ho⟩ | ⟨m, ho⟩
      · exact absurd (ho.symm.trans ho') (by simp)
      · exact hf m (Except.error.inj (ho'.symm.trans ho))

/-! ## Steps of a pass -/

section Steps

variable {before : List Definition} {d : Definition}

lemma plans_append (more : List Definition) :
    plans types (before ++ more) = plans types before ++ plans types more :=
  List.filterMap_append

lemma mistakes_append (more : List Definition) :
    mistakes types (before ++ more) = mistakes types before ++ mistakes types more :=
  List.filterMap_append

/-- A pass after the definitions `before`: it carries their plans and their mistakes. -/
def after (types : Introspector) (before rest : List Definition) : Run CompiledEntries :=
  go types (plans types before) (mistakes types before) rest

/-- Where a definition ends the pass, what comes after it does not matter. -/
lemma after_of_ends (h : types.Answers Run.Steady) {failure : Failure}
    (he : Ends types before d failure) (entry : Option Value) (world : World) :
    ∃ world', ∀ rest, after types before (d :: rest) entry world = (.error failure, world') := by
  cases he with
  | unhashable hn =>
    refine ⟨world, fun rest => ?_⟩
    simp only [after, go, hn]
    rfl
  | duplicate hn ht =>
    refine ⟨world, fun rest => ?_⟩
    simp only [after, go, hn, contains_plans_iff.2 ht, if_true]
    rfl
  | failure hn ht ho hf =>
    have hc : Entries.contains d.name (plans types before) = false := by
      rw [← Bool.not_eq_true, contains_plans_iff]
      exact ht
    -- the definition is compiled first, which leaves its warnings behind
    refine ⟨(compile types d entry world).2, fun rest => ?_⟩
    have hr : compile types d entry world = (.error failure, (compile types d entry world).2) := by
      rw [← ho, ← compile_eq_outcome h d entry world]
    simp only [after, go, hn, hc, Bool.false_eq_true, if_false, Run.bind_apply, Run.attempt_apply]
    rw [hr]
    cases failure with
    | mistake m => exact absurd rfl (hf m)
    | _ => rfl

/-- Where a definition does not end the pass, it adds what it comes to. -/
lemma after_of_not_ends (h : types.Answers Run.Steady)
    (he : ∀ failure, ¬ Ends types before d failure) (entry : Option Value) (world : World) :
    ∃ world', ∀ rest, after types before (d :: rest) entry world =
      after types (before ++ [d]) rest entry world' := by
  obtain ⟨hn, ht, ho⟩ := not_ends_iff.1 he
  have hc : Entries.contains d.name (plans types before) = false := by
    rw [← Bool.not_eq_true, contains_plans_iff]
    exact ht
  have hr := compile_eq_outcome h d entry world
  rcases hw : compile types d entry world with ⟨outcome, world'⟩
  obtain rfl : outcome = types.outcome d := by rw [← hr, hw]
  rcases ho with ⟨plan, ho⟩ | ⟨m, ho⟩ <;> rw [ho] at hw
  · have hplans : plans types [d] = [(d.name, plan)] := by
      simp only [plans, List.filterMap_cons, ho, List.filterMap_nil]
    have hmistakes : mistakes types [d] = [] := by
      simp only [mistakes, List.filterMap_cons, ho, List.filterMap_nil]
    refine ⟨world', fun rest => ?_⟩
    simp only [after, plans_append, mistakes_append, hplans, hmistakes, List.append_nil, go, hn, hc,
      Bool.false_eq_true, if_false, Run.bind_apply, Run.attempt_apply, hw]
  · have hplans : plans types [d] = [] := by
      simp only [plans, List.filterMap_cons, ho, List.filterMap_nil]
    have hmistakes : mistakes types [d] = [m] := by
      simp only [mistakes, List.filterMap_cons, ho, List.filterMap_nil]
    refine ⟨{ world' with log := world'.log ++ [.rejected d.name m.cause] }, fun rest => ?_⟩
    simp only [after, plans_append, mistakes_append, hplans, hmistakes, List.append_nil, go, hn, hc,
      Bool.false_eq_true, if_false, Run.bind_apply, Run.attempt_apply, hw]
    rfl

end Steps

/-! ## Whole passes -/

/-- The pass ends at the definition of an index, for a reason that is found in it and in those
before it. -/
def EndsAt (types : Introspector) (ds : List Definition) (i : Nat) (failure : Failure) : Prop :=
  ∃ d, ds[i]? = some d ∧ Ends types (ds.take i) d failure

/-- A pass that does not end before an index carries, once it is there, what the definitions so far
came to. -/
lemma compileAll_eq_after (h : types.Answers Run.Steady) {ds : List Definition} {i : Nat}
    (hi : i ≤ ds.length) (hends : ∀ j < i, ∀ failure, ¬ EndsAt types ds j failure)
    (entry : Option Value) (world : World) :
    ∃ world', ∀ more, compileAll types (ds.take i ++ more) entry world =
      after types (ds.take i) more entry world' := by
  induction i with
  | zero => exact ⟨world, fun more => rfl⟩
  | succ i ih =>
    obtain ⟨w, hw⟩ := ih (by omega) fun j hj => hends j (by omega)
    have hd : ds[i]? = some ds[i] := List.getElem?_eq_getElem hi
    have hgoes : ∀ failure, ¬ Ends types (ds.take i) ds[i] failure :=
      fun failure he => hends i (by omega) failure ⟨ds[i], hd, he⟩
    obtain ⟨w', hw'⟩ := after_of_not_ends h hgoes entry w
    refine ⟨w', fun more => ?_⟩
    rw [← List.take_append_getElem hi, List.append_assoc, List.singleton_append, hw, hw']

/-- No two plans have one name, where no definition ends the pass. -/
lemma pairwise_plans {ds : List Definition} (hends : ∀ i failure, ¬ EndsAt types ds i failure) :
    (plans types ds).Pairwise fun a b => (a.1 == b.1) = false := by
  unfold plans
  rw [List.pairwise_filterMap, List.pairwise_iff_getElem]
  intro i j hi hj hij a ha b hb
  have htaken : ¬ Taken types (ds.take j) ds[j] :=
    (not_ends_iff.1 fun failure he =>
      hends j failure ⟨ds[j], List.getElem?_eq_getElem hj, he⟩).2.1
  have hmem : ds[i] ∈ ds.take j := List.mem_take_iff_getElem.2 ⟨i, by omega, rfl⟩
  rcases hoi : types.outcome ds[i] with failure | plan <;> rw [hoi] at ha
  · exact absurd ha (by simp)
  rcases hoj : types.outcome ds[j] with failure' | plan' <;> rw [hoj] at hb
  · exact absurd hb (by simp)
  obtain rfl := Option.some.inj ha
  obtain rfl := Option.some.inj hb
  rw [← Bool.not_eq_true]
  exact fun heq => htaken ⟨ds[i], hmem, ⟨plan, hoi⟩, heq⟩

/-- Where no definition ends the pass and none has a mistake, each compiles. -/
lemma exists_plan {ds : List Definition} (hends : ∀ i failure, ¬ EndsAt types ds i failure)
    (hmistakes : mistakes types ds = []) {d : Definition} (hd : d ∈ ds) :
    ∃ plan, types.outcome d = .ok plan := by
  obtain ⟨i, hi, rfl⟩ := List.getElem_of_mem hd
  obtain ⟨-, -, hplan | ⟨m, hm⟩⟩ := not_ends_iff.1 fun failure he =>
    hends i failure ⟨ds[i], List.getElem?_eq_getElem hi, he⟩
  · exact hplan
  · have := List.filterMap_eq_nil_iff.1 hmistakes ds[i] hd
    rw [hm] at this
    exact absurd this (by simp)

/-- Where no definition ends the pass and none has a mistake, each has its plan. -/
lemma map_plans {ds : List Definition} (hends : ∀ i failure, ¬ EndsAt types ds i failure)
    (hmistakes : mistakes types ds = []) :
    (plans types ds).map (fun e => (e.1, .ok e.2)) =
      ds.map fun d => (d.name, types.outcome d) := by
  have hplan : ∀ d ∈ ds, ∃ plan, types.outcome d = .ok plan :=
    fun d hd => exists_plan hends hmistakes hd
  clear hends hmistakes
  induction ds with
  | nil => rfl
  | cons d rest ih =>
    obtain ⟨plan, ho⟩ := hplan d List.mem_cons_self
    have hplans : plans types (d :: rest) = (d.name, plan) :: plans types rest := by
      simp only [plans, List.filterMap_cons, ho]
    rw [hplans, List.map_cons, List.map_cons, ho,
      ih fun d' hd' => hplan d' (List.mem_cons_of_mem d hd')]

/-- A pass fails at the first definition that ends it, whatever comes after. -/
lemma compileAll_of_endsAt (h : types.Answers Run.Steady) {ds : List Definition} {i : Nat}
    {failure : Failure} (hends : EndsAt types ds i failure)
    (hfirst : ∀ j < i, ∀ earlier, ¬ EndsAt types ds j earlier) (entry : Option Value)
    (world : World) :
    (compileAll types ds entry world).1 = .error failure ∧
      ∀ more, compileAll types (ds.take (i + 1) ++ more) entry world =
        compileAll types ds entry world := by
  obtain ⟨d, hd, he⟩ := hends
  obtain ⟨hi, rfl⟩ := List.getElem?_eq_some_iff.1 hd
  obtain ⟨w, hw⟩ := compileAll_eq_after h (Nat.le_of_lt hi) hfirst entry world
  obtain ⟨w', hw'⟩ := after_of_ends h he entry w
  have hall : ∀ more, compileAll types (ds.take (i + 1) ++ more) entry world =
      (.error failure, w') := by
    intro more
    rw [← List.take_append_getElem hi, List.append_assoc, List.singleton_append, hw, hw']
  have hds : compileAll types ds entry world = (.error failure, w') := by
    rw [← hall (ds.drop (i + 1)), List.take_append_drop]
  rw [hds]
  exact ⟨rfl, hall⟩

/-- A pass that no definition ends fails with all mistakes, or has all plans. -/
lemma compileAll_of_not_endsAt (h : types.Answers Run.Steady) {ds : List Definition}
    (hends : ∀ i failure, ¬ EndsAt types ds i failure) (entry : Option Value) (world : World) :
    (mistakes types ds ≠ [] →
        (compileAll types ds entry world).1 = .error (.mistakes (mistakes types ds))) ∧
      (mistakes types ds = [] → (compileAll types ds entry world).1 = .ok (plans types ds)) := by
  obtain ⟨w, hw⟩ := compileAll_eq_after h (Nat.le_refl ds.length)
    (fun j _ => hends j) entry world
  have hall := hw []
  rw [List.take_length, List.append_nil] at hall
  rw [hall]
  constructor
  · intro hmistakes
    have hne : (mistakes types ds).isEmpty = false := by simpa using hmistakes
    simp only [after, go, hne, Bool.false_eq_true, if_false]
    rfl
  · intro hmistakes
    simp only [after, go, hmistakes, List.isEmpty_nil, if_true]
    rfl

/-- A pass that succeeds is ended by no definition. -/
lemma not_endsAt_of_ok (h : types.Answers Run.Steady) {ds : List Definition}
    {compiled : CompiledEntries} {entry : Option Value} {world : World}
    (hok : (compileAll types ds entry world).1 = .ok compiled) (i : Nat) (failure : Failure) :
    ¬ EndsAt types ds i failure := by
  -- the first that would end it is the one whose failure the pass has
  induction i using Nat.strongRecOn generalizing failure with
  | ind i ih =>
    intro he
    have hfails := (compileAll_of_endsAt h he ih entry world).1
    exact absurd (hok.symm.trans hfails) (by simp)

/-- A pass succeeds if and only if no definition ends it and none has a mistake, and then with all
plans. -/
lemma compileAll_eq_ok_iff (h : types.Answers Run.Steady) {ds : List Definition}
    {compiled : CompiledEntries} (entry : Option Value) (world : World) :
    (compileAll types ds entry world).1 = .ok compiled ↔
      (∀ i failure, ¬ EndsAt types ds i failure) ∧ mistakes types ds = [] ∧
        compiled = plans types ds := by
  constructor
  · intro hok
    have hends := not_endsAt_of_ok h hok
    obtain ⟨hmistaken, hplans⟩ := compileAll_of_not_endsAt h hends entry world
    have hmistakes : mistakes types ds = [] := by
      by_contra hne
      exact absurd (hok.symm.trans (hmistaken hne)) (by simp)
    exact ⟨hends, hmistakes, Except.ok.inj (hok.symm.trans (hplans hmistakes))⟩
  · rintro ⟨hends, hmistakes, rfl⟩
    exact (compileAll_of_not_endsAt h hends entry world).2 hmistakes

/-- A pass has an outcome that is found in the definitions, one after the other: the failure of the
first definition that ends it, whatever comes after; else all mistakes, in the order of their
definitions; else the plan of every definition, under names that are pairwise different. -/
theorem compileAll_outcome (h : types.Answers Run.Steady) (ds : List Definition)
    (entry : Option Value) (world : World) :
    (∀ i failure, EndsAt types ds i failure → (∀ j < i, ∀ earlier, ¬ EndsAt types ds j earlier) →
      (compileAll types ds entry world).1 = .error failure ∧
        ∀ more, compileAll types (ds.take (i + 1) ++ more) entry world =
          compileAll types ds entry world) ∧
      ((∀ i failure, ¬ EndsAt types ds i failure) →
        (mistakes types ds ≠ [] →
          (compileAll types ds entry world).1 = .error (.mistakes (mistakes types ds))) ∧
        (mistakes types ds = [] →
          ∃ compiled, (compileAll types ds entry world).1 = .ok compiled ∧
            compiled.map (fun e => (e.1, .ok e.2)) = ds.map (fun d => (d.name, types.outcome d)) ∧
            compiled.Pairwise fun a b => (a.1 == b.1) = false)) := by
  refine ⟨fun i failure hends hfirst => compileAll_of_endsAt h hends hfirst entry world,
    fun hends => ?_⟩
  obtain ⟨hmistaken, hplans⟩ := compileAll_of_not_endsAt h hends entry world
  exact ⟨hmistaken, fun hmistakes =>
    ⟨plans types ds, hplans hmistakes, map_plans hends hmistakes, pairwise_plans hends⟩⟩

/-- A definition of a class, with a name and nothing else. -/
def bare (name className : Text) : Definition :=
  { name := .str name, className := className, isLazy := false, constructor := none, fields := [],
    methods := [] }

/-- Definitions of a pass: a mistake, a name that is free in spite of it, and that name again. -/
def wrongThenTwice : List Definition :=
  [bare "x" "app.B", bare "x" "app.A", bare "x" "app.A", bare "y" "app.f.<locals>.C"]

/-- A repeated name ends a pass, though there was a mistake before it and there is a failure after
it; without the repetition and the failure, the mistake is all that the pass comes to. -/
theorem wrongThenTwice_outcome :
    (compileAll Registry.oneClass.introspector wrongThenTwice none {}).1 =
        .error (.duplicateEntry (.str "x")) ∧
      (compileAll Registry.oneClass.introspector (wrongThenTwice.take 2) none {}).1 =
        .error (.mistakes [⟨.missingClass (.str "x"), some (.str "x")⟩]) := by
  have hanswers : Registry.oneClass.introspector.Answers Run.Steady :=
    Registry.introspector_answers .steady _
  have hwrong : ∀ failure,
      ¬ Ends Registry.oneClass.introspector [] (bare "x" "app.B") failure :=
    not_ends_iff.2 ⟨rfl, by rintro ⟨e, he, -⟩; exact absurd he nofun, .inr ⟨_, by rfl⟩⟩
  have hfree : ∀ failure,
      ¬ Ends Registry.oneClass.introspector [bare "x" "app.B"] (bare "x" "app.A") failure := by
    refine not_ends_iff.2 ⟨rfl, ?_, .inl ⟨_, by rfl⟩⟩
    rw [← contains_plans_iff]
    simp only [Bool.not_eq_true]
    rfl
  constructor
  · obtain ⟨hends, -⟩ := compileAll_outcome hanswers wrongThenTwice none {}
    have htaken : Taken Registry.oneClass.introspector (wrongThenTwice.take 2) (bare "x" "app.A") :=
      ⟨bare "x" "app.A", by simp [wrongThenTwice], ⟨_, by rfl⟩, by rfl⟩
    refine (hends 2 _ ⟨_, rfl, .duplicate rfl htaken⟩ ?_).1
    rintro (_ | _ | j) hj earlier ⟨d, hd, he⟩
    · obtain rfl := Option.some.inj hd
      exact hwrong earlier he
    · obtain rfl := Option.some.inj hd
      exact hfree earlier he
    · omega
  · obtain ⟨-, hall⟩ := compileAll_outcome hanswers (wrongThenTwice.take 2) none {}
    refine ((hall ?_).1 ?_).trans (by rfl)
    · rintro (_ | _ | i) earlier ⟨d, hd, he⟩
      · obtain rfl := Option.some.inj hd
        exact hwrong earlier he
      · obtain rfl := Option.some.inj hd
        exact hfree earlier he
      · exact absurd hd nofun
    · nofun

end Pass

end Blueprint
