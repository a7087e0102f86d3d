/-
# How a class path is split, whatever was imported before

What the class of a path is depends on which modules were imported before.  How the path is split
does not, as long as it ends with a name (`split_same`).

With a colon there is one way to split it.  Without, the module that is tried first is the one
before the last dot.  If it can be imported, then so can the packages around it, and what they lead
to under the rest of the path is what the module itself has under the last name (`walk?_through`).
So either the class is in it, or no candidate has it; in both cases the path is split at its last
dot.  If it cannot be imported, there is nothing behind it, so that no earlier look up makes a
difference.
-/
import Blueprint.Proofs.ClassPaths

namespace Blueprint.Catalog

open Run (Stays)

variable {catalog : Catalog} {entry : Option Value} {world world' : World} {path : Text}

/-- The path has a name after its last dot, if it is split at a dot. -/
def EndsWithName (path : Text) : Prop :=
  splitAtColon? path = none → (splitAtLastDot path).2.isEmpty = false

/-! ## Through packages to a module -/

/-- From a package one gets to a module within it through the modules on the way, if all of them
were imported. -/
lemma walk?_through {imported : List Text} {found : Module} {inner : List Text}
    (hdotless : Dotless inner)
    (hfound : catalog.find? found.name = some found)
    (himported : ∀ back, back ≠ [] → back <+: inner →
      joined (pathParts found.name ++ back) ∈ imported ∧
        ∃ m, catalog.find? (joined (pathParts found.name ++ back)) = some m)
    (rest : List Text) :
    ∃ m, catalog.find? (joined (pathParts found.name ++ inner)) = some m ∧
      catalog.walk? imported (.module found) (inner ++ rest) =
        catalog.walk? imported (.module m) rest := by
  induction inner generalizing found with
  | nil =>
    refine ⟨found, ?_, rfl⟩
    rw [List.append_nil]
    exact (congrArg catalog.find? (intercalate_pathParts found.name)).trans hfound
  | cons name more ih =>
    obtain ⟨hname, hmore⟩ := List.forall_mem_cons.1 hdotless
    have hinner : joined (pathParts found.name ++ [name]) = found.name ++ "." ++ name := by
      rw [joined_append (pathParts_ne_nil _) (List.cons_ne_nil _ _)]
      exact congrArg (· ++ "." ++ name) (intercalate_pathParts found.name)
    obtain ⟨hmem, next, hnext⟩ := himported [name] (by simp) (by simp)
    rw [hinner] at hmem hnext
    have hparts : pathParts next.name = pathParts found.name ++ [name] := by
      rw [find?_name hnext, pathParts_append, pathParts_of_not_mem hname]
    have hfind : catalog.find? next.name = some next := by rw [find?_name hnext, hnext]
    obtain ⟨m, hm, hwalk⟩ := ih hmore hfind fun back hne hback => by
      rw [hparts, List.append_assoc]
      exact himported (name :: back) (by simp) ((List.prefix_cons_inj name).2 hback)
    refine ⟨m, ?_, ?_⟩
    · rw [hparts, List.append_assoc] at hm
      exact hm
    · rw [List.cons_append, walk?, step?, List.contains_iff_mem.2 hmem, hnext]
      exact hwalk

/-- The modules on the way from a package to a module within it were imported with the module. -/
lemma Arrives.imported_through {m m' : Text} (harrives : catalog.Arrives m world world')
    {inner back : List Text} (hinner : pathParts m' ++ inner = pathParts m) (hne : back ≠ [])
    (hback : back <+: inner) :
    joined (pathParts m' ++ back) ∈ world'.imported ∧
      ∃ found, catalog.find? (joined (pathParts m' ++ back)) = some found := by
  have hinit : pathParts m' ++ back <+: pathParts m := by
    rw [← hinner, List.prefix_append_right_inj]
    exact hback
  have hdotless : Dotless (pathParts m' ++ back) :=
    fun part hpart => dotless_pathParts m part (hinit.subset hpart)
  have himportable := harrives.importable.of_prefix hinit
  -- a module with a package around is not that of built in classes
  have hbuiltin : joined (pathParts m' ++ back) ≠ builtinModule := by
    rw [joined_append (pathParts_ne_nil m') hne]
    exact ne_builtinModule _ _
  have hnonempty : pathParts m' ++ back ≠ [] := List.append_ne_nil_of_right_ne_nil _ hne
  refine ⟨(harrives.imported _).2 (.inr ⟨_, hnonempty, hinit, himportable, hbuiltin, rfl⟩), ?_⟩
  refine Importable.exists_find? ?_ hbuiltin
  rwa [pathParts_joined hdotless hnonempty]

/-- What is in a module is found from the packages around it, and nothing else under its path. -/
lemma classIn?_of_encloses {m q m' q' : Text} (harrives : catalog.Arrives m world world')
    (hencloses : Encloses m' m) (hparts : pathParts m' ++ pathParts q' = pathParts m ++ pathParts q)
    (hnone : catalog.classIn? world'.imported m q = none) :
    catalog.classIn? world'.imported m' q' = none := by
  obtain ⟨inner, hinner⟩ := hencloses
  have hrest : pathParts q' = inner ++ pathParts q := by
    rw [← hinner, List.append_assoc] at hparts
    exact List.append_cancel_left hparts
  unfold classIn? at hnone ⊢
  rcases hfind : catalog.find? m' with _ | found
  · rfl
  dsimp only
  have hname : found.name = m' := find?_name hfind
  have hdotless : Dotless inner := fun part hpart =>
    dotless_pathParts m part (hinner ▸ List.mem_append_right _ hpart)
  have hfound : catalog.find? found.name = some found := hname ▸ hfind
  obtain ⟨m₁, hm₁, hwalk⟩ := walk?_through hdotless hfound
    (fun back hne hback => hname ▸ harrives.imported_through hinner hne hback) (pathParts q)
  rw [hname, hinner, show joined (pathParts m) = m from intercalate_pathParts m] at hm₁
  rw [hrest, hwalk]
  rw [hm₁] at hnone
  exact hnone

/-! ## The other candidates -/

/-- Imports of packages around a module that is there bring nothing. -/
lemma Arrives.around {m m' : Text} {world₁ world₂ : World} (h : catalog.Arrives m world world₁)
    (hencloses : Encloses m' m) (h' : catalog.Arrives m' world₁ world₂) :
    catalog.Arrives m world world₂ where
  absolute := h.absolute
  importable := h.importable
  sound := h'.sound
  imported name := by
    have hway : catalog.OnTheWay [] (pathParts m') name →
        catalog.OnTheWay [] (pathParts m) name := by
      rintro ⟨back, hne, hback, hrest⟩
      exact ⟨back, hne, hback.trans hencloses, hrest⟩
    rw [h'.imported, h.imported, or_assoc, or_iff_left_of_imp hway]

/-- If a class is not in the module that can be imported, the candidates after it do not stand for
it either. -/
lemma firstClass_around {m q : Text} {tried : List (Text × Text)}
    (harrives : catalog.Arrives m world world')
    (hnone : catalog.classIn? world'.imported m q = none)
    (htried : ∀ cut ∈ tried, Encloses cut.1 m ∧
      pathParts cut.1 ++ pathParts cut.2 = pathParts m ++ pathParts q) :
    (catalog.firstClass tried entry world').1 = .ok none := by
  induction tried generalizing world' with
  | nil => rfl
  | cons candidate rest ih =>
    obtain ⟨m', q'⟩ := candidate
    obtain ⟨⟨hencloses, hparts⟩, hrest⟩ := List.forall_mem_cons.1 htried
    rcases hboth : m'.isEmpty || q'.isEmpty
    · have habsolute : Text.startsWith "." m' = false := by
        have hm := harrives.absolute
        have hstart := startsWith_of_encloses hencloses
        rw [← Bool.not_eq_true, Text.startsWith, List.isPrefixOf_iff_prefix] at hm ⊢
        rw [Text.startsWith, List.isPrefixOf_iff_prefix] at hstart
        exact fun hdot => hm (hdot.trans hstart)
      obtain ⟨world₁, htry, harrives'⟩ := exists_tryImport entry
        (harrives.importable.of_prefix hencloses) habsolute harrives.sound
      have hagain := harrives.around hencloses harrives'
      have hnone' : catalog.classIn? world₁.imported m q = none := by
        refine (classIn?_congr fun name => ?_).trans hnone
        exact (hagain.imported name).trans (harrives.imported name).symm
      have hover : catalog.PassedOver entry [(m', q')] world' world₁ :=
        .noClass hboth htry (classIn?_of_encloses hagain hencloses hparts hnone') (.nil world₁)
      rw [← List.singleton_append, hover.firstClass_append]
      exact ih hagain hnone' hrest
    · rw [firstClass, if_pos hboth]
      exact ih harrives hnone hrest

/-! ## Splitting -/

/-- A look up that comes to something, whatever it is, splits the path. -/
lemma split_of_resolve {found : Option Resolved}
    (h : (catalog.resolve path entry world).1 = .ok found) :
    (catalog.split path entry world).1 = .ok (cutOf path found) := by
  have hresolve : catalog.resolve path entry world =
      (.ok found, (catalog.resolve path entry world).2) := Prod.ext h rfl
  exact congrArg Prod.fst (lookups_of_resolve hresolve).2.2

lemma split_of_resolve_error {failure : Failure}
    (h : (catalog.resolve path entry world).1 = .error failure) :
    (catalog.split path entry world).1 = .error failure := by
  have hresolve : catalog.resolve path entry world =
      (.error failure, (catalog.resolve path entry world).2) := Prod.ext h rfl
  exact congrArg Prod.fst (lookups_of_resolve_error hresolve).2.2.2

/-- The same look ups split a path in the same way. -/
lemma split_congr
    (h : (catalog.resolve path entry world).1 = (catalog.resolve path entry world').1) :
    (catalog.split path entry world).1 = (catalog.split path entry world').1 := by
  rcases hresolve : (catalog.resolve path entry world').1 with failure | found
  · rw [split_of_resolve_error (h.trans hresolve), split_of_resolve_error hresolve]
  · rw [split_of_resolve (h.trans hresolve), split_of_resolve hresolve]

/-- A path with a colon is split there, if the look up comes to something. -/
lemma split_of_colon {m q : Text} (hcolon : splitAtColon? path = some (m, q)) :
    (catalog.split path entry world).1 =
      if m.isEmpty || q.isEmpty then .ok (m, q)
      else (catalog.tryImport m entry world).1.map fun _ => (m, q) := by
  have hresolve : catalog.resolve path = catalog.firstClass [(m, q)] := by
    rw [resolve, candidates, hcolon]
  have hnone : cutOf path none = (m, q) := by rw [cutOf, hcolon, Option.getD_some]
  rcases hboth : m.isEmpty || q.isEmpty
  · rw [if_neg (by decide)]
    rcases htry : catalog.tryImport m entry world with ⟨failure | isThere, world₁⟩
    · refine split_of_resolve_error ?_
      rw [hresolve, firstClass_cons hboth, Run.bind_of_error htry]
    · -- whether there is such a class or not
      obtain ⟨found, hfound, hcut⟩ : ∃ found,
          (catalog.resolve path entry world).1 = .ok found ∧ cutOf path found = (m, q) := by
        rw [hresolve, firstClass_cons hboth, Run.bind_of_ok htry]
        cases isThere with
        | false => exact ⟨none, rfl, hnone⟩
        | true =>
          rw [if_pos rfl, Run.bind_of_ok (rfl : Run.imported _ _ = _)]
          rcases catalog.classIn? world₁.imported m q with _ | c
          · exact ⟨none, rfl, hnone⟩
          · exact ⟨some ⟨m, q, c⟩, rfl, rfl⟩
      rw [split_of_resolve hfound, hcut]
      rfl
  · rw [if_pos rfl, ← hnone]
    refine split_of_resolve ?_
    rw [hresolve, firstClass, if_pos hboth]
    rfl

/-- The first candidate of a path without a colon is cut at its last dot. -/
lemma candidates_of_last (hcolon : splitAtColon? path = none) :
    candidates path = [] ∨ ∃ rest, candidates path = splitAtLastDot path :: rest := by
  rw [candidates_of_dotted hcolon, cuts]
  rcases hlength : (pathParts path).length - 1 with _ | n
  · exact .inl rfl
  · have hfront : (pathParts path).take (n + 1) = (pathParts path).dropLast := by
      rw [List.dropLast_eq_take, hlength]
    have hlast : (pathParts path).drop (n + 1) =
        [(pathParts path).getLast (pathParts_ne_nil path)] := by
      rw [List.drop_eq_getElem_cons (by omega), List.drop_of_length_le (by omega),
        List.getLast_eq_getElem]
      simp only [hlength]
    have hcut : (joined ((pathParts path).take (n + 1)), joined ((pathParts path).drop (n + 1))) =
        splitAtLastDot path := by
      rw [hfront, hlast, splitAtLastDot, List.getLast?_eq_some_getLast (pathParts_ne_nil path)]
      rfl
    rw [List.range_succ_eq_map, List.map_cons, List.map_cons]
    exact .inr ⟨_, congrArg (· :: _) hcut⟩

/-- If there is something to try, it is tried first to cut the path at its last dot. -/
lemma firstTried?_of_last {m q : Text} (hpath : EndsWithName path)
    (hcolon : splitAtColon? path = none) (h : firstTried? path = some (m, q)) :
    splitAtLastDot path = (m, q) ∧ ∃ rest, candidates path = (m, q) :: rest ∧
      (m.isEmpty || q.isEmpty) = false := by
  have hlast := hpath hcolon
  rcases candidates_of_last hcolon with hnil | ⟨rest, hcandidates⟩
  · rw [firstTried?, hnil] at h
    cases h
  rcases hsplit : splitAtLastDot path with ⟨m', q'⟩
  rw [hsplit] at hcandidates hlast
  rcases hfront : m'.isEmpty
  · have hfirst : firstTried? path = some (m', q') := by
      rw [firstTried?, hcandidates, List.find?_cons_of_pos (by simp [hfront, hlast])]
    obtain ⟨rfl, rfl⟩ := Prod.mk.inj (Option.some.inj (hfirst.symm.trans h))
    exact ⟨rfl, rest, hcandidates, by simp [hfront, hlast]⟩
  · -- nothing but the dot stands in front of the last name, so that there is no other cut
    exfalso
    obtain rfl : m' = "" := by
      obtain ⟨points⟩ := m'
      exact congrArg Text.mk (List.isEmpty_iff.1 hfront)
    have hnested := candidates_nested path
    rw [hcandidates, List.pairwise_cons] at hnested
    rw [firstTried?, hcandidates, List.find?_cons_of_neg (by simp [hfront])] at h
    obtain ⟨hboth, before, after, hrest, -⟩ := List.find?_eq_some_iff_append.1 h
    have hinit : pathParts m <+: [""] := hnested.1 (m, q) (by rw [hrest]; simp)
    obtain rfl : m = "" := by
      rcases List.prefix_cons_iff.1 hinit with hnil | ⟨more, hparts, hmore⟩
      · exact absurd hnil (pathParts_ne_nil m)
      · rw [← intercalate_pathParts m, hparts, List.prefix_nil.1 hmore]
        rfl
    simp [hfront] at hboth

/-- If the module before the last dot can be imported, the path is split there, whether the module
has the class or not. -/
lemma split_of_importable {m q : Text} (hpath : EndsWithName path)
    (hcolon : splitAtColon? path = none) (hfirst : firstTried? path = some (m, q))
    (habsolute : Text.startsWith "." m = false) (hm : catalog.Importable (pathParts m))
    (hworld : catalog.Sound world) : (catalog.split path entry world).1 = .ok (m, q) := by
  obtain ⟨hlast, rest, hcandidates, hboth⟩ := firstTried?_of_last hpath hcolon hfirst
  obtain ⟨world₁, htry, harrives⟩ := exists_tryImport entry hm habsolute hworld
  rcases hclass : catalog.classIn? world₁.imported m q with _ | c
  · have hover : catalog.PassedOver entry [(m, q)] world world₁ :=
      .noClass hboth htry hclass (.nil world₁)
    have hnone : (catalog.resolve path entry world).1 = .ok none := by
      rw [resolve, hcandidates, ← List.singleton_append, hover.firstClass_append]
      refine firstClass_around harrives hclass fun cut hcut => ⟨?_, ?_⟩
      · have hnested := candidates_nested path
        rw [hcandidates, List.pairwise_cons] at hnested
        exact hnested.1 cut hcut
      · have hmem : ∀ {cut}, cut ∈ candidates path → Cuts path cut := cuts_of_mem_candidates
        rw [hcandidates] at hmem
        exact (hmem (List.mem_cons_of_mem _ hcut)).trans (hmem List.mem_cons_self).symm
    rw [split_of_resolve hnone, cutOf, hcolon, Option.getD_none, hlast]
  · have hfound : catalog.FoundAmong entry ((m, q) :: rest) world ⟨m, q, c⟩ world₁ :=
      ⟨hboth, ⟨[], rest, world, rfl, .nil world, htry⟩, hclass⟩
    have hsome : (catalog.resolve path entry world).1 = .ok (some ⟨m, q, c⟩) := by
      rw [resolve, hcandidates, hfound.firstClass_eq]
    rw [split_of_resolve hsome, cutOf]

/-- From any two sound worlds, a path that ends with a name is split in the same way. -/
theorem split_same (hpath : EndsWithName path) (hworld : catalog.Sound world)
    (hworld' : catalog.Sound world') :
    (catalog.split path entry world).1 = (catalog.split path entry world').1 := by
  rcases hcolon : splitAtColon? path with _ | ⟨m, q⟩
  · rcases hfirst : firstTried? path with _ | ⟨m, q⟩
    · refine split_congr ?_
      rw [resolve_of_firstTried?_eq_none hfirst, resolve_of_firstTried?_eq_none hfirst]
    by_cases hrelative : Text.startsWith "." m = true
    · refine split_congr ?_
      rw [resolve_relative hfirst hrelative, resolve_relative hfirst hrelative]
    by_cases himportable : catalog.Importable (pathParts m)
    · rw [split_of_importable hpath hcolon hfirst (by simpa using hrelative) himportable hworld,
        split_of_importable hpath hcolon hfirst (by simpa using hrelative) himportable hworld']
    · -- nothing behind the module can be imported, so nothing of it was
      have hsettled : catalog.IsSettled path := by
        intro m' q' h hopen
        obtain ⟨rfl, rfl⟩ := Prod.mk.inj (Option.some.inj (hfirst.symm.trans h))
        exact himportable (hopen.of_prefix (List.prefix_append _ _))
      have hagree : catalog.Agree (RunsThrough path) False world world' :=
        ⟨hworld, hworld', fun name hname => iff_of_false (hsettled.untouched hworld name hname)
          (hsettled.untouched hworld' name hname), False.elim⟩
      exact split_congr (resolve_steadyUpTo (fun _ => id) entry _ _ hagree).1
  · have hagree : catalog.Agree (fun _ => False) False world world' :=
      ⟨hworld, hworld', fun _ => False.elim, False.elim⟩
    rw [split_of_colon hcolon, split_of_colon hcolon,
      (tryImport_steadyUpTo m entry world world' hagree).1]

end Blueprint.Catalog
