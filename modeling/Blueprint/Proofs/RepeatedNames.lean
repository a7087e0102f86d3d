/-
# Repeated names in a pass

A pass looks for the name of each definition among those that compiled so far, so whether a
repetition is found depends on which of the equally named definitions compile, and on their order.
Here the definitions are seen as attempts: each with what its compilation comes to in the world that
the earlier ones left behind.  A pass in which nothing but mistakes goes wrong reports a repetition
exactly if some attempt that compiles has the name of a later one (`Pass.Repeats`), at the first
place where that shows; otherwise it reports the mistakes, and a repeated name is not mentioned.

Where compilation does not depend on the world, the definitions can be put in another order.  The
repetition is reported in every order if two definitions of one name compile, and in some order
already if one of them does.
-/
import Blueprint.Proofs.Pass
import Mathlib.Data.List.Permutation

namespace Blueprint.Pass

/-! ## Attempts -/

/-- A definition with what its compilation came to. -/
structure Attempt where
  /-- The definition. -/
  definition : Definition
  /-- Its plan, or how it failed. -/
  result : Except Failure Plan

namespace Attempt

/-- The definition compiled. -/
def Compiles (a : Attempt) : Prop :=
  ∃ plan, a.result = .ok plan

/-- Nothing but a mistake went wrong. -/
def Ordinary (a : Attempt) : Prop :=
  ∀ failure, a.result = .error failure → ∃ m, failure = .mistake m

/-- The definition compiled, under the name. -/
def Takes (a : Attempt) (name : Value) : Prop :=
  a.Compiles ∧ (a.definition.name == name) = true

/-- The plan under its name, if there is one. -/
def plan? (a : Attempt) : Option (Value × Plan) :=
  match a.result with
  | .ok plan => some (a.definition.name, plan)
  | .error _ => none

/-- The mistake, if there is one. -/
def mistake? (a : Attempt) : Option EntryMistake :=
  match a.result with
  | .error (.mistake m) => some m
  | _ => none

lemma plan?_eq_some_iff {a : Attempt} {e : Value × Plan} :
    a.plan? = some e ↔ a.definition.name = e.1 ∧ a.result = .ok e.2 := by
  obtain ⟨name, plan⟩ := e
  rcases hr : a.result with failure | plan' <;> simp [plan?, hr]

end Attempt

/-- The world after an attempt: a mistake is noted. -/
def afterAttempt (d : Definition) : Except Failure Plan × World → World
  | (.error (.mistake m), world) =>
    { world with log := world.log ++ [.rejected d.name m.cause] }
  | (_, world) => world

/-- The definitions tried one after the other, whatever becomes of those before. -/
def attempts (types : Introspector) (entry : Option Value) : World → List Definition → List Attempt
  | _, [] => []
  | world, d :: rest =>
    ⟨d, (compile types d entry world).1⟩ ::
      attempts types entry (afterAttempt d (compile types d entry world)) rest

/-- Some attempt that compiles has the name of a later one. -/
def Repeats (as : List Attempt) : Prop :=
  ∃ a b, [a, b].Sublist as ∧ a.Takes b.definition.name

/-- The first attempt whose name is that of an earlier one that compiled. -/
def FirstRepeat (as : List Attempt) (b : Attempt) : Prop :=
  ∃ before after, as = before ++ b :: after ∧ ¬ Repeats before ∧
    ∃ a ∈ before, a.Takes b.definition.name

variable {types : Introspector} {entry : Option Value} {world : World} {ds : List Definition}
  {as done : List Attempt} {a b : Attempt}

lemma map_definition_attempts (world : World) (ds : List Definition) :
    (attempts types entry world ds).map Attempt.definition = ds := by
  induction ds generalizing world with
  | nil => rfl
  | cons d rest ih => rw [attempts, List.map_cons, ih]

lemma not_repeats_iff :
    ¬ Repeats as ↔ as.Pairwise fun a b => ¬ a.Takes b.definition.name := by
  rw [List.pairwise_iff_forall_sublist]
  constructor
  · intro h a b hab ht
    exact h ⟨a, b, hab, ht⟩
  · rintro h ⟨a, b, hab, ht⟩
    exact h hab ht

lemma FirstRepeat.repeats (h : FirstRepeat as b) : Repeats as := by
  obtain ⟨before, after, rfl, -, a, ha, ht⟩ := h
  refine ⟨a, b, ?_, ht⟩
  rw [← List.singleton_append]
  exact (List.singleton_sublist.2 ha).append (List.singleton_sublist.2 List.mem_cons_self)

/-- One more attempt does not repeat a name if its name is free. -/
lemma not_repeats_append (h : ¬ Repeats done) (hb : ¬ ∃ a ∈ done, a.Takes b.definition.name) :
    ¬ Repeats (done ++ [b]) := by
  rw [not_repeats_iff] at h ⊢
  refine List.pairwise_append.2 ⟨h, List.pairwise_singleton _ _, ?_⟩
  intro a ha b' hb' ht
  obtain rfl := List.mem_singleton.1 hb'
  exact hb ⟨a, ha, ht⟩

/-! ## The loop -/

lemma contains_filterMap_plan?_iff {name : Value} :
    Entries.contains name (done.filterMap Attempt.plan?) = true ↔ ∃ a ∈ done, a.Takes name := by
  simp only [Entries.contains, List.any_eq_true, List.mem_filterMap]
  constructor
  · rintro ⟨e, ⟨a, ha, he⟩, hn⟩
    obtain ⟨hname, hresult⟩ := Attempt.plan?_eq_some_iff.1 he
    exact ⟨a, ha, ⟨e.2, hresult⟩, by rw [hname]; exact hn⟩
  · rintro ⟨a, ha, ⟨plan, hresult⟩, hn⟩
    exact ⟨(a.definition.name, plan), ⟨a, ha, Attempt.plan?_eq_some_iff.2 ⟨rfl, hresult⟩⟩, hn⟩

/-- A pass carries the plans and the mistakes of the attempts so far; one more attempt adds what it
comes to. -/
lemma go_cons_of_free {d : Definition} {rest : List Definition} (hkey : d.name.unhashable? = none)
    (ha : a = ⟨d, (compile types d entry world).1⟩) (hordinary : a.Ordinary)
    (hfree : ¬ ∃ a ∈ done, a.Takes d.name) :
    go types (done.filterMap Attempt.plan?) (done.filterMap Attempt.mistake?) (d :: rest) entry
        world =
      go types ((done ++ [a]).filterMap Attempt.plan?) ((done ++ [a]).filterMap Attempt.mistake?)
        rest entry (afterAttempt d (compile types d entry world)) := by
  subst ha
  have hc : Entries.contains d.name (done.filterMap Attempt.plan?) = false := by
    rw [← Bool.not_eq_true, contains_filterMap_plan?_iff]
    exact hfree
  rcases hr : compile types d entry world with ⟨failure | plan, world'⟩
  · obtain ⟨m, rfl⟩ := hordinary failure (by rw [hr])
    simp only [go, hkey, hc, Bool.false_eq_true, if_false, Run.bind_apply, Run.attempt_apply, hr,
      List.filterMap_append, List.filterMap_cons, List.filterMap_nil, Attempt.plan?,
      Attempt.mistake?, List.append_nil]
    rfl
  · simp only [go, hkey, hc, Bool.false_eq_true, if_false, Run.bind_apply, Run.attempt_apply, hr,
      List.filterMap_append, List.filterMap_cons, List.filterMap_nil, Attempt.plan?,
      Attempt.mistake?, List.append_nil]
    rfl

/-- A pass of ordinary attempts reports the first repetition, or else comes to the mistakes or the
plans of all attempts. -/
lemma go_ends {rest : List Definition} (hdone : ¬ Repeats done)
    (hkeys : ∀ d ∈ rest, d.name.unhashable? = none)
    (hordinary : ∀ a ∈ attempts types entry world rest, a.Ordinary) :
    (∃ b, FirstRepeat (done ++ attempts types entry world rest) b ∧
      (go types (done.filterMap Attempt.plan?) (done.filterMap Attempt.mistake?) rest entry
        world).1 = .error (.duplicateEntry b.definition.name)) ∨
    (¬ Repeats (done ++ attempts types entry world rest) ∧
      (go types (done.filterMap Attempt.plan?) (done.filterMap Attempt.mistake?) rest entry
        world).1 =
      if ((done ++ attempts types entry world rest).filterMap Attempt.mistake?).isEmpty then
        .ok ((done ++ attempts types entry world rest).filterMap Attempt.plan?)
      else .error (.mistakes
        ((done ++ attempts types entry world rest).filterMap Attempt.mistake?))) := by
  -- on what is left; nothing done so far repeats a name, so the first repetition is yet to come
  induction rest generalizing done world with
  | nil =>
    refine .inr ⟨by rwa [attempts, List.append_nil], ?_⟩
    simp only [attempts, List.append_nil, go]
    split <;> rfl
  | cons d rest ih =>
    obtain ⟨hkey, hkeys⟩ := List.forall_mem_cons.1 hkeys
    rw [attempts, List.forall_mem_cons] at hordinary
    obtain ⟨hd, hordinary⟩ := hordinary
    by_cases htaken : ∃ a ∈ done, a.Takes d.name
    · refine .inl ⟨_, ⟨done, _, rfl, hdone, htaken⟩, ?_⟩
      simp only [go, hkey, contains_filterMap_plan?_iff.2 htaken, if_true]
      rfl
    · have hnext : ¬ Repeats (done ++ [⟨d, (compile types d entry world).1⟩]) :=
        not_repeats_append hdone htaken
      rw [go_cons_of_free hkey rfl hd htaken, attempts, List.append_cons]
      exact ih hnext hkeys hordinary

/-- A pass of ordinary attempts reports the first repetition, or else comes to the mistakes or the
plans of all attempts. -/
lemma compileAll_ends (hkeys : ∀ d ∈ ds, d.name.unhashable? = none)
    (hordinary : ∀ a ∈ attempts types entry world ds, a.Ordinary) :
    (∃ b, FirstRepeat (attempts types entry world ds) b ∧
      (compileAll types ds entry world).1 = .error (.duplicateEntry b.definition.name)) ∨
    (¬ Repeats (attempts types entry world ds) ∧
      (compileAll types ds entry world).1 =
        if ((attempts types entry world ds).filterMap Attempt.mistake?).isEmpty then
          .ok ((attempts types entry world ds).filterMap Attempt.plan?)
        else .error (.mistakes ((attempts types entry world ds).filterMap Attempt.mistake?))) := by
  have hnil : ¬ Repeats [] := not_repeats_iff.2 List.Pairwise.nil
  exact go_ends hnil hkeys hordinary

/-- A pass reports that an entry is defined more than once. -/
def ReportsRepetition (types : Introspector) (ds : List Definition) (entry : Option Value)
    (world : World) : Prop :=
  ∃ name, (compileAll types ds entry world).1 = .error (.duplicateEntry name)

lemma reportsRepetition_iff_repeats (hkeys : ∀ d ∈ ds, d.name.unhashable? = none)
    (hordinary : ∀ a ∈ attempts types entry world ds, a.Ordinary) :
    ReportsRepetition types ds entry world ↔ Repeats (attempts types entry world ds) := by
  rcases compileAll_ends hkeys hordinary with ⟨b, hfirst, hresult⟩ | ⟨hclear, hresult⟩
  · exact ⟨fun _ => hfirst.repeats, fun _ => ⟨_, hresult⟩⟩
  · refine ⟨?_, fun h => absurd h hclear⟩
    rintro ⟨name, hname⟩
    rw [hresult] at hname
    split at hname <;> exact absurd hname (by simp)

/-! ## The order of the definitions -/

/-- A definition compiles, where that does not depend on the world. -/
def Compiles (types : Introspector) (d : Definition) : Prop :=
  ∃ plan, types.outcome d = .ok plan

lemma compiles_iff {d : Definition} : Compiles types d ↔ (types.outcome d).isOk = true := by
  unfold Compiles
  rcases types.outcome d with failure | plan <;> simp [Except.isOk, Except.toBool]

lemma attempts_eq_map (h : types.Answers Run.Steady) (world : World) (ds : List Definition) :
    attempts types entry world ds = ds.map fun d => ⟨d, types.outcome d⟩ := by
  induction ds generalizing world with
  | nil => rfl
  | cons d rest ih => rw [attempts, compile_eq_outcome h, ih, List.map_cons]

lemma repeats_map_iff :
    Repeats (ds.map fun d => ⟨d, types.outcome d⟩) ↔
      ∃ d e, [d, e].Sublist ds ∧ Compiles types d ∧ (d.name == e.name) = true := by
  have hnot : ¬ Repeats (ds.map fun d => ⟨d, types.outcome d⟩) ↔ _ := not_repeats_iff
  rw [List.pairwise_map, List.pairwise_iff_forall_sublist] at hnot
  rw [← not_iff_not, hnot]
  constructor
  · rintro h ⟨d, e, hde, hc, hn⟩
    exact h hde ⟨hc, hn⟩
  · rintro h d e hde ⟨hc, hn⟩
    exact h ⟨d, e, hde, hc, hn⟩

/-- Two items of a list are two items of every list in another order. -/
lemma pair_sublist_of_perm {α : Type} {x y : α} {xs ys : List α} (h : [x, y].Sublist xs)
    (hperm : xs.Perm ys) : [x, y].Sublist ys ∨ [y, x].Sublist ys := by
  obtain ⟨pair, hpair, hsub⟩ := h.subperm.trans hperm.subperm
  rcases List.perm_pair.1 hpair with rfl | rfl
  · exact .inl hsub
  · exact .inr hsub

/-- What is needed of the definitions so that a pass can only report repetitions and mistakes. -/
structure Regular (types : Introspector) (ds : List Definition) : Prop where
  keys : ∀ d ∈ ds, d.name.unhashable? = none
  ordinary : ∀ d ∈ ds, ∀ failure, types.outcome d = .error failure → ∃ m, failure = .mistake m

lemma Regular.perm {ds' : List Definition} (h : Regular types ds) (hperm : ds'.Perm ds) :
    Regular types ds' where
  keys d hd := h.keys d (hperm.mem_iff.1 hd)
  ordinary d hd := h.ordinary d (hperm.mem_iff.1 hd)

lemma reportsRepetition_iff (h : types.Answers Run.Steady) (hds : Regular types ds) :
    ReportsRepetition types ds entry world ↔
      ∃ d e, [d, e].Sublist ds ∧ Compiles types d ∧ (d.name == e.name) = true := by
  have hordinary : ∀ a ∈ attempts types entry world ds, a.Ordinary := by
    rw [attempts_eq_map h, List.forall_mem_map]
    exact hds.ordinary
  rw [reportsRepetition_iff_repeats hds.keys hordinary, attempts_eq_map h, repeats_map_iff]

section Orders

variable (h : types.Answers Run.Steady) (hds : Regular types ds)
  (hsymm : ∀ d ∈ ds, ∀ e ∈ ds, (d.name == e.name) = (e.name == d.name))

include h hds hsymm

/-- A repetition is reported in every order exactly if two definitions of one name compile. -/
lemma reported_in_every_order_iff :
    (∀ ds', ds'.Perm ds → ReportsRepetition types ds' entry world) ↔
      ∃ d e, [d, e].Sublist ds ∧ (d.name == e.name) = true ∧ Compiles types d ∧
        Compiles types e := by
  constructor
  · intro hall
    -- the definitions that do not compile come first, so that they take no name from the others
    have hperm : (ds.filter (fun d => !(types.outcome d).isOk) ++
        ds.filter fun d => (types.outcome d).isOk).Perm ds :=
      List.perm_append_comm.trans (List.filter_append_perm _ ds)
    obtain ⟨d, e, hde, hc, hn⟩ := (reportsRepetition_iff h (hds.perm hperm)).1 (hall _ hperm)
    have hdok := compiles_iff.1 hc
    obtain ⟨failing, compiling, hpair, hfailing, hcompiling⟩ := List.sublist_append_iff.1 hde
    cases failing with
    | nil =>
      obtain rfl : [d, e] = compiling := hpair
      have he : e ∈ ds.filter fun d => (types.outcome d).isOk := hcompiling.subset (by simp)
      exact ⟨d, e, hcompiling.trans List.filter_sublist, hn, hc,
        compiles_iff.2 (List.mem_filter.1 he).2⟩
    | cons x failing =>
      obtain rfl : d = x := (List.cons.inj hpair).1
      have hd := (List.mem_filter.1 (hfailing.subset List.mem_cons_self)).2
      rw [hdok] at hd
      exact absurd hd (by simp)
  · rintro ⟨d, e, hde, hn, hd, he⟩ ds' hperm
    rw [reportsRepetition_iff h (hds.perm hperm)]
    rcases pair_sublist_of_perm hde hperm.symm with hde' | hed
    · exact ⟨d, e, hde', hd, hn⟩
    · refine ⟨e, d, hed, he, ?_⟩
      rw [hsymm e (hde.subset (by simp)) d (hde.subset (by simp))]
      exact hn

/-- A repetition is reported in some order exactly if one of two definitions of one name compiles.
-/
lemma reported_in_some_order_iff :
    (∃ ds', ds'.Perm ds ∧ ReportsRepetition types ds' entry world) ↔
      ∃ d e, [d, e].Sublist ds ∧ (d.name == e.name) = true ∧
        (Compiles types d ∨ Compiles types e) := by
  constructor
  · rintro ⟨ds', hperm, hreports⟩
    obtain ⟨d, e, hde, hc, hn⟩ := (reportsRepetition_iff h (hds.perm hperm)).1 hreports
    rcases pair_sublist_of_perm hde hperm with hde' | hed
    · exact ⟨d, e, hde', hn, .inl hc⟩
    · refine ⟨e, d, hed, ?_, .inr hc⟩
      rw [hsymm e (hed.subset (by simp)) d (hed.subset (by simp))]
      exact hn
  · rintro ⟨d, e, hde, hn, hc⟩
    by_cases hd : Compiles types d
    · exact ⟨ds, .refl ds, (reportsRepetition_iff h hds).2 ⟨d, e, hde, hd, hn⟩⟩
    · -- the later one compiles: it has to come first
      have he : Compiles types e := hc.resolve_left hd
      have hperm : (ds.filter (fun d => (types.outcome d).isOk) ++
          ds.filter fun d => !(types.outcome d).isOk).Perm ds := List.filter_append_perm _ ds
      refine ⟨_, hperm, (reportsRepetition_iff h (hds.perm hperm)).2 ⟨e, d, ?_, he, ?_⟩⟩
      · rw [compiles_iff, Bool.not_eq_true] at hd
        rw [← List.singleton_append]
        refine (List.singleton_sublist.2 ?_).append (List.singleton_sublist.2 ?_)
        · exact List.mem_filter.2 ⟨hde.subset (by simp), compiles_iff.1 he⟩
        · exact List.mem_filter.2 ⟨hde.subset (by simp), by rw [hd]; rfl⟩
      · rw [← hsymm d (hde.subset (by simp)) e (hde.subset (by simp))]
        exact hn

end Orders

/-- Where a name is repeated and no repetition is found, one of the definitions has a mistake. -/
lemma mistakes_ne_nil_of_not_repeats
    (hordinary : ∀ a ∈ attempts types entry world ds, a.Ordinary)
    (hrepeated : ∃ d e, [d, e].Sublist ds ∧ (d.name == e.name) = true)
    (hclear : ¬ Repeats (attempts types entry world ds)) :
    (attempts types entry world ds).filterMap Attempt.mistake? ≠ [] := by
  obtain ⟨d, e, hde, hn⟩ := hrepeated
  have hnames : (attempts types entry world ds).map Attempt.definition = ds :=
    map_definition_attempts world ds
  rw [← hnames] at hde
  obtain ⟨pair, hpair, heq⟩ := List.sublist_map_iff.1 hde
  obtain ⟨a, rest, rfl, rfl, hrest⟩ := List.map_eq_cons_iff.1 heq.symm
  obtain ⟨b, more, rfl, rfl, hmore⟩ := List.map_eq_cons_iff.1 hrest
  obtain rfl := List.map_eq_nil_iff.1 hmore
  have ha : a ∈ attempts types entry world ds := hpair.subset List.mem_cons_self
  rcases hr : a.result with failure | plan
  · obtain ⟨m, rfl⟩ := hordinary a ha failure hr
    have hm : m ∈ (attempts types entry world ds).filterMap Attempt.mistake? :=
      List.mem_filterMap.2 ⟨a, ha, by rw [Attempt.mistake?, hr]⟩
    exact List.ne_nil_of_mem hm
  · exact absurd ⟨a, b, hpair, ⟨plan, hr⟩, hn⟩ hclear

/-- What a pass over definitions with a repeated name comes to, if nothing but mistakes goes wrong.
It reports the first name that an earlier definition took by compiling; where the definitions that
come first of their name all have mistakes, it fails with all mistakes instead.  So the failure can
depend on the order. -/
theorem compileAll_of_repeated_name (types : Introspector) (ds : List Definition)
    (entry : Option Value) (world : World) (hkeys : ∀ d ∈ ds, d.name.unhashable? = none)
    (hordinary : ∀ a ∈ attempts types entry world ds, a.Ordinary)
    (hrepeated : ∃ d e, [d, e].Sublist ds ∧ (d.name == e.name) = true) :
    (Repeats (attempts types entry world ds) →
      ∃ b, FirstRepeat (attempts types entry world ds) b ∧
        (compileAll types ds entry world).1 = .error (.duplicateEntry b.definition.name)) ∧
    (¬ Repeats (attempts types entry world ds) →
      (attempts types entry world ds).filterMap Attempt.mistake? ≠ [] ∧
        (compileAll types ds entry world).1 =
          .error (.mistakes ((attempts types entry world ds).filterMap Attempt.mistake?))) ∧
    (types.Answers Run.Steady →
      (∀ d ∈ ds, ∀ e ∈ ds, (d.name == e.name) = (e.name == d.name)) →
      ((∀ ds', ds'.Perm ds → ReportsRepetition types ds' entry world) ↔
        ∃ d e, [d, e].Sublist ds ∧ (d.name == e.name) = true ∧ Compiles types d ∧
          Compiles types e) ∧
      ((∃ ds', ds'.Perm ds ∧ ReportsRepetition types ds' entry world) ↔
        ∃ d e, [d, e].Sublist ds ∧ (d.name == e.name) = true ∧
          (Compiles types d ∨ Compiles types e))) := by
  refine ⟨?_, ?_, ?_⟩
  · intro hrepeats
    rcases compileAll_ends hkeys hordinary with hreported | ⟨hclear, -⟩
    · exact hreported
    · exact absurd hrepeats hclear
  · -- two entries of one name that are both let through without a report cannot both compile
    intro hclear
    have hmistakes := mistakes_ne_nil_of_not_repeats hordinary hrepeated hclear
    refine ⟨hmistakes, ?_⟩
    rcases compileAll_ends hkeys hordinary with ⟨b, hfirst, -⟩ | ⟨-, hresult⟩
    · exact absurd hfirst.repeats hclear
    · rwa [if_neg (by rwa [List.isEmpty_iff])] at hresult
  · intro h hsymm
    rw [attempts_eq_map h, List.forall_mem_map] at hordinary
    exact ⟨reported_in_every_order_iff h ⟨hkeys, hordinary⟩ hsymm,
      reported_in_some_order_iff h ⟨hkeys, hordinary⟩ hsymm⟩

/-- Two definitions of one name, of which only the second compiles. -/
def wrongThenRight : List Definition :=
  [bare "x" "app.B", bare "x" "app.A"]

/-- The repetition is not reported; in the other order it is, as one of the two compiles, but not in
every order, as the other does not. -/
theorem wrongThenRight_unreported :
    (compileAll Registry.oneClass.introspector wrongThenRight none {}).1 =
        .error (.mistakes [⟨.missingClass (.str "x"), some (.str "x")⟩]) ∧
      (∃ ds', ds'.Perm wrongThenRight ∧
        ReportsRepetition Registry.oneClass.introspector ds' none {}) ∧
      ¬ ∀ ds', ds'.Perm wrongThenRight →
        ReportsRepetition Registry.oneClass.introspector ds' none {} := by
  have hanswers : Registry.oneClass.introspector.Answers Run.Steady :=
    Registry.introspector_answers .steady _
  have hwrong : Registry.oneClass.introspector.outcome (bare "x" "app.B") =
      .error (.mistake ⟨.missingClass (.str "x"), some (.str "x")⟩) := by rfl
  have hright : Compiles Registry.oneClass.introspector (bare "x" "app.A") := ⟨_, by rfl⟩
  have hpair : ∀ {d e}, [d, e].Sublist wrongThenRight →
      d = bare "x" "app.B" ∧ e = bare "x" "app.A" := by
    intro d e hde
    have heq := hde.eq_of_length rfl
    exact ⟨(List.cons.inj heq).1, (List.cons.inj (List.cons.inj heq).2).1⟩
  have hfails : ¬ Compiles Registry.oneClass.introspector (bare "x" "app.B") := by
    rintro ⟨plan, hplan⟩
    exact absurd (hwrong.symm.trans hplan) (by simp)
  have hattempts : attempts Registry.oneClass.introspector none {} wrongThenRight =
      wrongThenRight.map fun d => ⟨d, Registry.oneClass.introspector.outcome d⟩ :=
    attempts_eq_map hanswers _ _
  obtain ⟨-, hmistakes, horders⟩ :=
    compileAll_of_repeated_name Registry.oneClass.introspector wrongThenRight none {}
      (List.forall_mem_cons.2 ⟨rfl, List.forall_mem_singleton.2 rfl⟩)
      (by
        obtain ⟨plan, hplan⟩ := hright
        rw [hattempts, List.forall_mem_map]
        refine List.forall_mem_cons.2 ⟨?_, List.forall_mem_singleton.2 ?_⟩
        · exact fun failure h => ⟨_, (Except.error.inj (hwrong.symm.trans h)).symm⟩
        · exact fun failure h => absurd (hplan.symm.trans h) (by simp))
      ⟨_, _, .refl _, rfl⟩
  have hnames : ∀ d ∈ wrongThenRight, d.name = .str "x" :=
    List.forall_mem_cons.2 ⟨rfl, List.forall_mem_singleton.2 rfl⟩
  obtain ⟨hevery, hsome⟩ := horders hanswers fun d hd e he => by rw [hnames d hd, hnames e he]
  refine ⟨?_, hsome.2 ⟨_, _, .refl _, rfl, .inr hright⟩, ?_⟩
  · refine (hmistakes ?_).2.trans ?_
    · rw [hattempts, repeats_map_iff]
      rintro ⟨d, e, hde, hc, -⟩
      obtain ⟨rfl, -⟩ := hpair hde
      exact hfails hc
    · rw [hattempts]
      rfl
  · rw [hevery]
    rintro ⟨d, e, hde, -, hc, -⟩
    obtain ⟨rfl, -⟩ := hpair hde
    exact hfails hc

end Blueprint.Pass
