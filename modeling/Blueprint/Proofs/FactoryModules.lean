/-
# Modules of factories

A module of factories has one function for every entry of a table, and a table of its own that tells
which function that is.  The functions are drafted one after the other, each from the plan of its
entry and under the name of its entry (`DraftedInTurn`).

A name in the module stands for the last function of that name, where names with the same normal
form are the same.  So every entry has its own factory if and only if the normal forms of the names
are different (`entries_have_own_factories`).  The names are, but their normal forms need not be: a
raised letter and the letter have the same one.

The name of a factory has to be an identifier.  Whether it is can be told from the entry, and it is
the only reason for which the first factory with another name is not drafted
(`invalid_names_refused`).
-/
import Blueprint.Proofs.CatalogFaults
import Blueprint.Proofs.Emission.FactoryNames
import Blueprint.Proofs.FrontEnds

namespace Blueprint

open Factory (names LettersIn)
open Run (Fails)

namespace Factory

variable {split : Splitter} {name : Text} {plan : Plan} {current : Option Value}
  {world world' : World} {f : Factory}

/-- The splitter does not fail of the name of a factory. -/
def Splitter.IgnoresNames (split : Splitter) : Prop :=
  ∀ path name current, ¬ Fails current (.mismatch (.factoryName name)) (split path)

/-- A factory whose name is an identifier is not refused for its name. -/
lemma not_fails_ofPlan (hsplit : split.IgnoresNames) (hid : Text.isIdentifier name = true)
    (n : Text) : ¬ Fails current (.mismatch (.factoryName n)) (ofPlan split name plan) := by
  have hcomposes : Run.Composes fun {_} x =>
      x.Ensures (fun _ => True) fun failure => failure ≠ .mismatch (.factoryName n) :=
    { pure := fun _ => .pure trivial
      mismatched := fun hcause => .mismatched fun heq => by
        obtain rfl := Failure.mismatch.inj heq
        exact hcause
      bind := fun hx hf => .bind hx fun a _ => hf a }
  have hanswers : split.Answers (fun {_} x =>
      x.Ensures (fun _ => True) fun failure => failure ≠ .mismatch (.factoryName n))
        plan.mentions := by
    intro path _ current world
    rcases h : (split path current world).1 with failure | cut
    · rintro rfl
      exact hsplit path n current ⟨world, h⟩
    · trivial
  have hdraft := draftPlan_inherits hcomposes hanswers (fun _ => .fail nofun) ⟨0, []⟩
  rintro ⟨world, h⟩
  rw [ofPlan, if_neg (by simp [hid])] at h
  have hfail : Fails current (.mismatch (.factoryName n))
      ((draftPlan split plan).run ⟨0, []⟩ >>= fun drafted =>
        pure (⟨name, drafted.2.modules, drafted.1⟩ : Factory)) := ⟨world, h⟩
  obtain ⟨world, hfail⟩ := hfail.of_map
  have hne := hdraft current world
  rw [hfail] at hne
  exact hne rfl

/-- A factory whose name is no identifier is refused, before anything else. -/
lemma ofPlan_refused (hid : ¬ Text.isIdentifier name = true) :
    ofPlan split name plan current world = (.error (.mismatch (.factoryName name)), world) := by
  rw [ofPlan, if_pos (by simp [hid])]
  rfl

lemma ofPlan_eq_factoryName_iff (hsplit : split.IgnoresNames) {n : Text} :
    ofPlan split name plan current world = (.error (.mismatch (.factoryName n)), world') ↔
      ¬ Text.isIdentifier name = true ∧ n = name ∧ world' = world := by
  by_cases hid : Text.isIdentifier name = true
  · refine iff_of_false (fun h => ?_) fun h => h.1 hid
    exact not_fails_ofPlan hsplit hid n ⟨world, congrArg Prod.fst h⟩
  · rw [ofPlan_refused hid]
    simp only [Prod.mk.injEq, Except.error.injEq, Failure.mismatch.injEq,
      Mismatch.factoryName.injEq, hid, not_false_eq_true, true_and, eq_comm, Bool.false_eq_true]

end Factory

namespace FactoryModule

variable {split : Factory.Splitter} {current : Option Value} {world world' : World}

/-! ## One factory after the other -/

/-- Factories are drafted of plans under names, each in the world that the one before it leaves. -/
inductive DraftedInTurn (split : Factory.Splitter) (current : Option Value) :
    World → List (Text × Plan) → List Factory → World → Prop where
  | nil {world : World} : DraftedInTurn split current world [] [] world
  | cons {world world₁ world' : World} {name : Text} {plan : Plan} {plans : List (Text × Plan)}
      {f : Factory} {fs : List Factory}
      (hf : Factory.ofPlan split name plan current world = (.ok f, world₁))
      (hrest : DraftedInTurn split current world₁ plans fs world') :
      DraftedInTurn split current world ((name, plan) :: plans) (f :: fs) world'

section InTurn

variable {plans : List (Text × Plan)}

lemma DraftedInTurn.names_eq {fs : List Factory}
    (h : DraftedInTurn split current world plans fs world') :
    fs.map Factory.name = plans.map Prod.fst := by
  induction h with
  | nil => rfl
  | cons hf _ ih =>
    rw [List.map_cons, List.map_cons, ih,
      (Factory.ofPlan_inv (congrArg Prod.fst hf)).1]

lemma DraftedInTurn.isIdentifier {fs : List Factory}
    (h : DraftedInTurn split current world plans fs world') :
    ∀ e ∈ plans, Text.isIdentifier e.1 = true := by
  induction h with
  | nil => exact List.forall_mem_nil _
  | @cons world _ _ name plan _ f _ hf _ ih =>
    refine List.forall_mem_cons.2 ⟨?_, ih⟩
    by_contra hid
    rw [Factory.ofPlan_refused hid] at hf
    exact absurd (congrArg Prod.fst hf) nofun

/-- The texts of factories are those of factories that are drafted in turn. -/
lemma factoryTexts_eq_ok_iff {texts : List Text} :
    factoryTexts split plans current world = (.ok texts, world') ↔
      ∃ fs, DraftedInTurn split current world plans fs world' ∧ texts = fs.map Factory.text := by
  constructor
  · intro h
    induction plans generalizing world texts with
    | nil =>
      obtain ⟨rfl, rfl⟩ : texts = [] ∧ world' = world := by
        obtain ⟨hok, rfl⟩ := Prod.mk.inj h
        exact ⟨(Except.ok.inj hok).symm, rfl⟩
      exact ⟨[], .nil, rfl⟩
    | cons e rest ih =>
      obtain ⟨f, world₁, hf, hmore⟩ := Run.bind_eq_ok h
      obtain ⟨more, world₂, hrest, hpure⟩ := Run.bind_eq_ok hmore
      obtain ⟨hok, rfl⟩ := Prod.mk.inj hpure
      obtain ⟨fs, hfs, rfl⟩ := ih hrest
      obtain rfl := Except.ok.inj hok
      exact ⟨f :: fs, .cons hf hfs, rfl⟩
  · rintro ⟨fs, h, rfl⟩
    induction h with
    | nil => rfl
    | cons hf _ ih =>
      rw [factoryTexts, Run.bind_of_ok hf, Run.bind_of_ok ih]
      rfl

/-- Factories cannot be drafted if one of them cannot, once those before it are. -/
lemma factoryTexts_eq_error_iff {failure : Failure} :
    factoryTexts split plans current world = (.error failure, world') ↔
      ∃ i name plan fs world₁, plans[i]? = some (name, plan) ∧
        DraftedInTurn split current world (plans.take i) fs world₁ ∧
          Factory.ofPlan split name plan current world₁ = (.error failure, world') := by
  constructor
  · intro h
    induction plans generalizing world with
    | nil => exact absurd (congrArg Prod.fst h) nofun
    | cons e rest ih =>
      -- the first plan fails, or it is drafted and one of the others fails
      rcases Run.bind_eq_error h with hf | ⟨f, world₁, hf, hmore⟩
      · exact ⟨0, e.1, e.2, [], world, rfl, .nil, hf⟩
      have hrest := Run.map_eq_error_iff.1 hmore
      obtain ⟨i, name, plan, fs, world₂, hi, hfs, hfail⟩ := ih hrest
      exact ⟨i + 1, name, plan, f :: fs, world₂, hi, .cons hf hfs, hfail⟩
  · rintro ⟨i, name, plan, fs, world₁, hi, hfs, hfail⟩
    induction i generalizing plans fs world with
    | zero =>
      rcases plans with _ | ⟨e, rest⟩
      · exact absurd hi nofun
      obtain rfl := Option.some.inj hi
      cases hfs
      exact Run.bind_of_error hfail
    | succ i ih =>
      rcases plans with _ | ⟨e, rest⟩
      · exact absurd hi nofun
      rw [List.take_succ_cons] at hfs
      cases hfs with
      | cons hf hrest =>
        rw [factoryTexts, Run.bind_of_ok hf]
        exact Run.bind_of_error (ih _ hi hrest)

end InTurn

/-! ## Tables -/

/-- A table of plans by entry, as it is compiled. -/
def entriesOf (table : List (Text × Plan)) : CompiledEntries :=
  table.map fun e => (.str e.1, e.2)

/-- The plans of a table under the names of the factories of their entries. -/
def named (table : List (Text × Plan)) : List (Text × Plan) :=
  ((names (Entries.keys table)).map Prod.snd).zip (table.map Prod.snd)

/-- The text of a module of functions, with a row for every entry and the name of its function. -/
def assembled (functions : List Text) (rows : List (Text × Text)) : Text :=
  Text.intercalate "\n\n\n" (header :: functions ++
    [tableText (rows.map fun row => (.str row.1, row.2))]) ++ "\n"

section Tables

variable {table : List (Text × Plan)} (hkeys : (Entries.keys table).Nodup)

include hkeys

lemma keys_names_of_nodup : Entries.keys (names (Entries.keys table)) = Entries.keys table := by
  rw [Factory.names_of_nodup _ hkeys, Factory.keys_zip_uniqueNames]

lemma length_names : (names (Entries.keys table)).length = table.length := by
  have h := congrArg List.length (keys_names_of_nodup hkeys)
  rwa [Entries.keys, Entries.keys, List.length_map, List.length_map] at h

lemma map_fst_named : (named table).map Prod.fst = (names (Entries.keys table)).map Prod.snd := by
  refine List.map_fst_zip (Nat.le_of_eq ?_)
  rw [List.length_map, List.length_map, length_names hkeys]

omit hkeys in
lemma labels_eq (entries : List Text) :
    (entries.map Value.str).mapM Factory.label = Except.ok (entries.map Factory.sanitize) := by
  induction entries with
  | nil => rfl
  | cons entry rest ih =>
    rw [List.map_cons, List.mapM_cons, ih]
    rfl

omit hkeys in
lemma zip_rows (rows : List (Text × Text)) :
    ((Entries.keys rows).map Value.str).zip (rows.map Prod.snd) =
      rows.map fun row => (.str row.1, row.2) := by
  rw [Entries.keys, List.map_map, List.zip_map']
  rfl

lemma text_eq :
    text split (entriesOf table) = factoryTexts split (named table) >>= fun functions =>
      pure (assembled functions (names (Entries.keys table))) := by
  have hentries : (entriesOf table).map Prod.fst = (Entries.keys table).map Value.str := by
    rw [entriesOf, Entries.keys, List.map_map, List.map_map]
    rfl
  have hplans : (entriesOf table).map Prod.snd = table.map Prod.snd := by
    rw [entriesOf, List.map_map]
    rfl
  have hnames : Factory.uniqueNames [] ((Entries.keys table).map Factory.sanitize) =
      (names (Entries.keys table)).map Prod.snd := by
    rw [Factory.names_of_nodup _ hkeys, List.map_snd_zip (Nat.le_of_eq ?_)]
    rw [Factory.length_uniqueNames, List.length_map]
  have hrows : ((Entries.keys table).map Value.str).zip
      ((names (Entries.keys table)).map Prod.snd) =
        (names (Entries.keys table)).map fun row => (.str row.1, row.2) := by
    have hrows := zip_rows (names (Entries.keys table))
    rwa [keys_names_of_nodup hkeys] at hrows
  simp only [text, hentries, hplans, labels_eq, Run.ofExcept, pure_bind, hnames, hrows]
  rfl

/-- A module can be made of a table if its factories can be drafted in turn. -/
lemma text_eq_ok_iff {t : Text} :
    text split (entriesOf table) current world = (.ok t, world') ↔
      ∃ fs, DraftedInTurn split current world (named table) fs world' ∧
        t = assembled (fs.map Factory.text) (names (Entries.keys table)) := by
  rw [text_eq hkeys]
  constructor
  · intro h
    obtain ⟨functions, world₁, hfunctions, hpure⟩ := Run.bind_eq_ok h
    obtain ⟨hok, rfl⟩ := Prod.mk.inj hpure
    obtain ⟨fs, hfs, rfl⟩ := factoryTexts_eq_ok_iff.1 hfunctions
    exact ⟨fs, hfs, (Except.ok.inj hok).symm⟩
  · rintro ⟨fs, hfs, rfl⟩
    rw [Run.bind_of_ok (factoryTexts_eq_ok_iff.2 ⟨fs, hfs, rfl⟩)]
    rfl

/-- No module can be made of a table if one of its factories cannot be drafted, once those before it
are. -/
lemma text_eq_error_iff {failure : Failure} :
    text split (entriesOf table) current world = (.error failure, world') ↔
      ∃ i name plan fs world₁, (named table)[i]? = some (name, plan) ∧
        DraftedInTurn split current world ((named table).take i) fs world₁ ∧
          Factory.ofPlan split name plan current world₁ = (.error failure, world') := by
  rw [← factoryTexts_eq_error_iff, text_eq hkeys]
  exact Run.map_eq_error_iff

end Tables

/-! ## What the names stand for -/

/-- The factory that a name stands for once all functions are defined: the last one of a name with
the same normal form. -/
def function? (fs : List Factory) (name : Text) : Option Factory :=
  fs.reverse.find? fun f => f.name.normal == name.normal

/-- The names of factories stand for them if their normal forms are different. -/
lemma forall_function?_iff {fs : List Factory} (h : (fs.map Factory.name).Nodup) :
    (∀ f ∈ fs, function? fs f.name = some f) ↔ (fs.map fun f => f.name.normal).Nodup := by
  constructor
  · intro hall
    refine (h.of_map).map_on fun f hf f' hf' heq => ?_
    have hsame : function? fs f.name = function? fs f'.name := by
      rw [function?, function?, heq]
    rw [hall f hf, hall f' hf'] at hsame
    exact Option.some.inj hsame
  · intro hnodup f hf
    have hsome : (function? fs f.name).isSome = true := by
      rw [function?, List.find?_isSome]
      exact ⟨f, List.mem_reverse.2 hf, beq_self_eq_true _⟩
    obtain ⟨f', hf'⟩ := Option.isSome_iff_exists.1 hsome
    have hmem : f' ∈ fs := List.mem_reverse.1 (List.mem_of_find?_eq_some hf')
    have hnormal : f'.name.normal = f.name.normal := eq_of_beq (List.find?_some hf' :)
    rw [hf', List.inj_on_of_nodup_map hnodup hmem hf hnormal]

/-- What is said of every row and its function is said of every function and its name. -/
lemma forall₂_rows_iff {rows : List (Text × Text)} {fs : List Factory}
    (h : fs.map Factory.name = rows.map Prod.snd) :
    List.Forall₂ (fun row f => function? fs row.2 = some f) rows fs ↔
      ∀ f ∈ fs, function? fs f.name = some f := by
  have hnames : List.Forall₂ (fun name f => function? fs name = some f) (rows.map Prod.snd) fs ↔
      List.Forall₂ (fun row f => function? fs row.2 = some f) rows fs :=
    List.forall₂_map_left_iff
  rw [← hnames, ← h, List.forall₂_map_left_iff, List.forall₂_same]

/-- The names of the factories of entries. -/
structure NamesApart (entries : List Text) : Prop where
  /-- The searches for them all end, and an entry that is repeated keeps its first place and takes
  the name that was found last. -/
  searched : ∃ given, Factory.NamesInTurn [] (entries.map Factory.sanitize) given ∧
    names entries = Entries.ofList (entries.zip given)
  /-- There is one for each entry, in the order in which they occur first. -/
  keys : Entries.keys (names entries) = entries.eraseDups
  /-- Different entries have different ones. -/
  nodup : ((names entries).map Prod.snd).Nodup
  /-- They stay as they are if there are further entries. -/
  stable : ∀ more, (∀ e ∈ more, e ∉ entries) → names entries <+: names (entries ++ more)

/-- A text is that of a module of the factories of a table. -/
structure HoldsFactories (split : Factory.Splitter) (current : Option Value) (world : World)
    (table : List (Text × Plan)) (t : Text) (world' : World) (fs : List Factory) : Prop where
  /-- Each function is the factory of the plan of its entry, under the name of its entry. -/
  drafted : DraftedInTurn split current world (named table) fs world'
  /-- There is one for each entry. -/
  rows : Entries.keys (names (Entries.keys table)) = Entries.keys table
  functions : fs.map Factory.name = (names (Entries.keys table)).map Prod.snd
  /-- The text has the functions, and a row for each entry and its name. -/
  text : t = assembled (fs.map Factory.text) (names (Entries.keys table))
  /-- The name in each row stands for the function of its entry, if the normal forms of the names
  are different. -/
  resolved_iff :
    List.Forall₂ (fun row f => function? fs row.2 = some f) (names (Entries.keys table)) fs ↔
      ((names (Entries.keys table)).map fun row => row.2.normal).Nodup

theorem namesApart (entries : List Text) : NamesApart entries where
  searched := ⟨_, Factory.namesInTurn_iff.2 rfl, rfl⟩
  keys := Factory.keys_names entries
  nodup := Factory.nodup_names entries
  stable _ := Factory.names_append

/-- Entries have names of their own, and in a module of factories each has a function of its own,
drafted from its own plan.  Its row names that function, but for names that are the same in their
normal form. -/
theorem entries_have_own_factories (entries : List Text) :
    NamesApart entries ∧
      ∀ (split : Factory.Splitter) (current : Option Value) (world world' : World)
        (table : List (Text × Plan)) (t : Text), Entries.keys table = entries → entries.Nodup →
          text split (entriesOf table) current world = (.ok t, world') →
            ∃ fs, HoldsFactories split current world table t world' fs := by
  refine ⟨namesApart entries, fun split current world world' table t hentries hnodup h => ?_⟩
  subst hentries
  obtain ⟨fs, hfs, ht⟩ := (text_eq_ok_iff hnodup).1 h
  have hfunctions : fs.map Factory.name = (names (Entries.keys table)).map Prod.snd := by
    rw [hfs.names_eq, map_fst_named hnodup]
  refine ⟨fs, hfs, keys_names_of_nodup hnodup, hfunctions, ht, ?_⟩
  have hnormal : (fs.map fun f => f.name.normal) =
      (names (Entries.keys table)).map fun row => row.2.normal := by
    have h := congrArg (List.map Text.normal) hfunctions
    rwa [List.map_map, List.map_map] at h
  rw [forall₂_rows_iff hfunctions, ← hnormal]
  exact forall_function?_iff (hfunctions ▸ Factory.nodup_names _)

/-- Two entries that are spelled alike in a name. -/
def pairTable : List (Text × Plan) :=
  [("a.b", [.construct "app.X" [] []]), ("a_b", [.construct "app.Y" [] []])]

/-- The second of two entries that are spelled alike has a number in its name, and both have their
own factories. -/
theorem pairTable_factories :
    names ["a.b", "a_b"] = [(("a.b" : Text), ("build_a_b" : Text)), ("a_b", "build_a_b_2")] ∧
      ∃ t world' fs, HoldsFactories (Catalog.split ⟨[]⟩) none {} pairTable t world' fs ∧
        List.Forall₂ (fun row f => function? fs row.2 = some f) (names ["a.b", "a_b"]) fs := by
  have hrun : ∃ t world', text (Catalog.split ⟨[]⟩) (entriesOf pairTable) none {} =
      (.ok t, world') := ⟨_, _, rfl⟩
  obtain ⟨t, world', h⟩ := hrun
  obtain ⟨fs, hfs⟩ := (entries_have_own_factories ["a.b", "a_b"]).2 _ _ _ _ pairTable t rfl
    (by decide) h
  refine ⟨by decide, t, world', fs, hfs, hfs.resolved_iff.2 ?_⟩
  exact Factory.nodup_normal_names (by decide)

/-! ## Names that are refused -/

/-- A table with an entry whose name is no identifier is refused. -/
structure RefusesNames (split : Factory.Splitter) (current : Option Value) (world : World)
    (table : List (Text × Plan)) : Prop where
  /-- It is refused for the first such name, if the factories before it can be drafted, and for no
  other. -/
  refused_iff : ∀ n world', text split (entriesOf table) current world =
      (.error (.mismatch (.factoryName n)), world') ↔
    ∃ i e plan fs, table[i]? = some (e, plan) ∧ (names (Entries.keys table))[i]? = some (e, n) ∧
      ¬ LettersIn Text.isIdentifierContinue e ∧
        DraftedInTurn split current world ((named table).take i) fs world'
  /-- No module is made of it. -/
  spelled : ∀ t world', text split (entriesOf table) current world = (.ok t, world') →
    ∀ e ∈ Entries.keys table, LettersIn Text.isIdentifierContinue e

lemma getElem?_named_iff {table : List (Text × Plan)} (hkeys : (Entries.keys table).Nodup) {i : Nat}
    {n : Text} {plan : Plan} :
    (named table)[i]? = some (n, plan) ↔
      ∃ e, table[i]? = some (e, plan) ∧ (names (Entries.keys table))[i]? = some (e, n) := by
  have hfst : ((names (Entries.keys table)).map Prod.fst)[i]? = (table.map Prod.fst)[i]? :=
    congrArg (fun l => l[i]?) (keys_names_of_nodup hkeys)
  rw [List.getElem?_map, List.getElem?_map] at hfst
  rw [named, List.getElem?_zip_eq_some, List.getElem?_map, List.getElem?_map]
  rcases hrow : (names (Entries.keys table))[i]? with _ | ⟨e, n'⟩ <;>
    rcases he : table[i]? with _ | ⟨e', plan'⟩ <;> rw [hrow, he] at hfst
  · simp
  · exact absurd hfst nofun
  · exact absurd hfst nofun
  · obtain rfl : e = e' := Option.some.inj hfst
    simp [and_comm]

theorem refusesNames {split : Factory.Splitter} (hsplit : split.IgnoresNames)
    (current : Option Value) (world : World) {table : List (Text × Plan)}
    (hkeys : (Entries.keys table).Nodup) : RefusesNames split current world table where
  refused_iff n world' := by
    rw [text_eq_error_iff hkeys]
    constructor
    · rintro ⟨i, name, plan, fs, world₁, hi, hfs, hfail⟩
      obtain ⟨hid, rfl, rfl⟩ := (Factory.ofPlan_eq_factoryName_iff hsplit).1 hfail
      obtain ⟨e, he, hrow⟩ := (getElem?_named_iff hkeys).1 hi
      have hname := Factory.isIdentifier_name_iff (List.mem_of_getElem? hrow)
      exact ⟨i, e, plan, fs, he, hrow, fun hletters => hid (hname.2 hletters), hfs⟩
    · rintro ⟨i, e, plan, fs, he, hrow, hletters, hfs⟩
      have hname := Factory.isIdentifier_name_iff (List.mem_of_getElem? hrow)
      have hplan := (getElem?_named_iff hkeys).2 ⟨e, he, hrow⟩
      have hrefused := fun hid => hletters (hname.1 hid)
      exact ⟨i, n, plan, fs, world', hplan, hfs, Factory.ofPlan_refused hrefused⟩
  spelled t world' h e he := by
    obtain ⟨fs, hfs, -⟩ := (text_eq_ok_iff hkeys).1 h
    rw [← keys_names_of_nodup hkeys] at he
    obtain ⟨⟨e, name⟩, hrow, rfl⟩ := List.mem_map.1 he
    have hname : name ∈ (named table).map Prod.fst := by
      rw [map_fst_named hkeys]
      exact List.mem_map_of_mem hrow
    obtain ⟨⟨_, plan⟩, hplan, rfl⟩ := List.mem_map.1 hname
    exact (Factory.isIdentifier_name_iff hrow).1 (hfs.isIdentifier _ hplan)

end FactoryModule

/-! ## Refusals of the tool -/

/-- The name that the tool gives is the one that a module gives that has no other entry. -/
lemma Factory.names_singleton (name : Text) :
    Factory.names [name] = [(name, Factory.soleName name)] :=
  rfl

/-- The tool for factories says of an entry that its name is none. -/
structure Tool.RefusesName (split : Factory.Splitter) (types : Introspector) (name : Text)
    (json : Json) (current : Option Value) (world : World) (plan : Plan) (world₁ : World) :
    Prop where
  /-- The source of the plan is refused for the name if it cannot be spelled. -/
  refused_iff : ∀ n world', Tool.sourceOf split name plan current world₁ =
      (.error (.mismatch (.factoryName n)), world') ↔
    n = Factory.soleName name ∧ ¬ LettersIn Text.isIdentifierContinue name ∧ world' = world₁
  /-- Then that is the answer. -/
  answered : ¬ LettersIn Text.isIdentifierContinue name →
    (Tool.call types split name json .emitFactory current world).1 =
      .ok (Tool.failed (Mismatch.factoryName (Factory.soleName name)).message)

lemma Tool.refusesName {split : Factory.Splitter} (hsplit : split.IgnoresNames)
    {types : Introspector} {name : Text} {json : Json} {current : Option Value}
    {world world₁ : World} {plan : Plan}
    (hplan : Tool.planOf types name json current world = (.ok plan, world₁)) :
    Tool.RefusesName split types name json current world plan world₁ := by
  have hname : Text.isIdentifier (Factory.soleName name) = true ↔
      LettersIn Text.isIdentifierContinue name :=
    Factory.isIdentifier_name_iff (Factory.names_singleton name ▸ List.mem_singleton_self _)
  have hrefused : ∀ n world', Tool.sourceOf split name plan current world₁ =
      (.error (.mismatch (.factoryName n)), world') ↔
        n = Factory.soleName name ∧ ¬ LettersIn Text.isIdentifierContinue name ∧
          world' = world₁ := by
    intro n world'
    rw [← hname, and_left_comm, ← Factory.ofPlan_eq_factoryName_iff hsplit]
    exact Run.map_eq_error_iff
  refine ⟨hrefused, fun hletters => ?_⟩
  rw [Tool.call_emitFactory, Run.bind_of_ok hplan, (hrefused _ _).2 ⟨rfl, hletters, rfl⟩]
  rfl

/-! ## Catalogs -/

/-- No class path is split for the name of a factory to be found wanting. -/
lemma Catalog.split_ignoresNames (descriptions : List Catalog.ModuleDescription) :
    Factory.Splitter.IgnoresNames (Catalog.ofDescriptions descriptions).split := by
  intro path name current h
  rcases Catalog.lookUpFault_ofDescriptions (Catalog.split_fault h) with ⟨_, h⟩ | ⟨_, _, h⟩ | ⟨_, h⟩
  all_goals exact absurd h nofun

/-- The name of the factory of an entry is an identifier if and only if the letters and digits of
the entry may stand in one.  Where they may not, no module is made of a table and no source of a
plan, and this is the only case in which either is refused for the name of a factory. -/
theorem invalid_names_refused (descriptions : List Catalog.ModuleDescription) :
    (∀ (entries : List Text) (e name : Text), (e, name) ∈ names entries →
      (Text.isIdentifier name = true ↔ LettersIn Text.isIdentifierContinue e)) ∧
    (∀ (current : Option Value) (world : World) (table : List (Text × Plan)),
      (Entries.keys table).Nodup → FactoryModule.RefusesNames
        (Catalog.ofDescriptions descriptions).split current world table) ∧
    ∀ (types : Introspector) (name : Text) (json : Json) (current : Option Value)
      (world world₁ : World) (plan : Plan),
      Tool.planOf types name json current world = (.ok plan, world₁) →
        Tool.RefusesName (Catalog.ofDescriptions descriptions).split types name json current world
          plan world₁ := by
  have hsplit := Catalog.split_ignoresNames descriptions
  exact ⟨fun _ _ _ => Factory.isIdentifier_name_iff,
    fun current world _ hkeys => FactoryModule.refusesNames hsplit current world hkeys,
    fun _ _ _ _ _ _ _ hplan => Tool.refusesName hsplit hplan⟩

/-- An entry with a raised two has a name with a raised two, and no module is made of it. -/
theorem raisedTwo_refused :
    names ["x²"] = [(("x²" : Text), ("build_x²" : Text))] ∧
      ¬ Text.isIdentifier "build_x²" = true ∧
      (FactoryModule.text (Catalog.ofDescriptions []).split
        (FactoryModule.entriesOf [("x²", [.construct "app.X" [] []])]) none {}).1 =
          .error (.mismatch (.factoryName "build_x²")) := by
  have hletters : ¬ LettersIn Text.isIdentifierContinue "x²" := by decide
  obtain ⟨hnames, hmodules, -⟩ := invalid_names_refused []
  have hrow : (("x²" : Text), ("build_x²" : Text)) ∈ names ["x²"] := by decide
  refine ⟨by decide, fun hid => hletters ((hnames _ _ _ hrow).1 hid), ?_⟩
  have hrefuses := hmodules none {} [("x²", [.construct "app.X" [] []])] (by decide)
  exact congrArg Prod.fst ((hrefuses.refused_iff "build_x²" {}).2
    ⟨0, "x²", _, [], rfl, rfl, hletters, .nil⟩)

end Blueprint
