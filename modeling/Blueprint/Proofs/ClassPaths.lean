/-
# Finding the class of a path again

A look up leaves more modules imported than it found, and an imported module stands in its package
in the place of what the package has under the name.  This file shows that a class that was found
does not get lost by that, and that a path can be written with a dot or with a colon between its
module and its name (`class_path_stable`).

Of the candidates for a dotted path each has the module of a package around those before it.  So the
one that is tried first has imported whatever the others import, and a look up imports none of the
modules that its path runs through behind that one (`resolve_stays_agreeing`): a second look up
finds what the first one found (`resolve_again`).

What a path with a colon leads to is found with a dot in the place of the colon if nothing that is
tried before comes in between.  All of that is behind the module, under the first name of the class
(`exists_cuts_append`); if there is no module of this name, it counts as missing, and no more is
imported for it than for the module itself (`exists_passedOver_behind`).
-/
import Blueprint.Proofs.Candidates

namespace Blueprint.Catalog

open Run (Stays)

variable {catalog : Catalog} {entry : Option Value} {world world' : World} {path : Text}

/-! ## What a look up imports -/

/-- The module of a candidate brings none of the names, so worlds agree on them as before. -/
lemma tryImport_stays_agreeing {names : Text → Prop} {m : Text} {world₀ : World}
    (hm : ∀ name, names name → ¬ catalog.OnTheWay [] (pathParts m) name) :
    Stays (catalog.Agree names False · world₀) (catalog.tryImport m) := by
  intro entry world h
  rw [tryImport_apply]
  by_cases hpath : Text.startsWith "." m = true
  · rw [importModule_relative hpath]
    exact h
  · rw [Bool.not_eq_true] at hpath
    have hspec := importModule_spec entry h.sound hpath
    refine ⟨hspec.sound, h.sound', fun name hname => ?_, False.elim⟩
    rw [hspec.imported, or_iff_left (hm name hname)]
    exact h.imported name hname

lemma firstClass_stays_agreeing {names : Text → Prop} {tried : List (Text × Text)}
    {world₀ : World}
    (htried : ∀ cut ∈ tried, (cut.1.isEmpty || cut.2.isEmpty) = false →
      ∀ name, names name → ¬ catalog.OnTheWay [] (pathParts cut.1) name) :
    Stays (catalog.Agree names False · world₀) (catalog.firstClass tried) := by
  have hstays : Run.Inherited (Stays (catalog.Agree names False · world₀)) :=
    .stays (fun _ _ _ h => ⟨h.sound, h.sound', h.imported, h.annotated⟩)
      fun _ _ _ h => ⟨h.sound, h.sound', h.imported, h.annotated⟩
  induction tried with
  | nil => exact hstays.pure none
  | cons candidate rest ih =>
    obtain ⟨m, q⟩ := candidate
    obtain ⟨hm, hrest⟩ := List.forall_mem_cons.1 htried
    rcases hparts : m.isEmpty || q.isEmpty
    · rw [firstClass_cons hparts]
      refine hstays.bind (tryImport_stays_agreeing (hm hparts)) fun isThere => ?_
      cases isThere with
      | false => exact ih hrest
      | true =>
        refine hstays.bind (fun _ _ h => h) fun imported => ?_
        rcases catalog.classIn? imported m q with _ | c
        · exact ih hrest
        · exact hstays.pure _
    · rw [firstClass, if_pos hparts]
      exact ih hrest

/-- A module behind another one is not on the way to a package around it. -/
lemma not_onTheWay_of_behind {front inner : List Text} {m : Text} (hm : pathParts m <+: front)
    (hinner : inner ≠ []) (hdotless : Dotless (front ++ inner)) :
    ¬ catalog.OnTheWay [] (pathParts m) (joined (front ++ inner)) := by
  rintro ⟨back, hne, hback, -, -, heq⟩
  rw [List.nil_append] at heq
  have hback' : Dotless back := fun part hpart => dotless_pathParts m part (hback.subset hpart)
  have hparts : front ++ inner = back := by
    have hnonempty : front ++ inner ≠ [] := List.append_ne_nil_of_right_ne_nil front hinner
    rw [← pathParts_joined hdotless hnonempty, heq, pathParts_joined hback' hne]
  have hlength := (hback.trans hm).length_le
  have hpos : 0 < inner.length := List.length_pos_of_ne_nil hinner
  rw [← hparts, List.length_append] at hlength
  omega

/-- A look up imports none of the modules that its path runs through. -/
lemma resolve_stays_agreeing {world₀ : World} :
    Stays (catalog.Agree (RunsThrough path) False · world₀) (catalog.resolve path) := by
  intro entry world h
  rcases hfirst : firstTried? path with _ | ⟨m, q⟩
  · rw [resolve_of_firstTried?_eq_none hfirst]
    exact h
  · obtain ⟨before, after, hcandidates, hboth, hblank⟩ := resolve_of_firstTried? hfirst
    have hnested := candidates_nested path
    rw [hcandidates, List.pairwise_append, List.pairwise_cons] at hnested
    rw [resolve, hcandidates, (PassedOver.of_blank hblank).firstClass_append]
    refine firstClass_stays_agreeing (fun cut hcut _ name hname => ?_) entry world h
    have hencloses : Encloses cut.1 m := by
      rcases List.mem_cons.1 hcut with rfl | hcut
      · exact List.prefix_rfl
      · exact hnested.2.1.1 cut hcut
    obtain ⟨m', q', inner, hfirst', hne, hinner, rfl⟩ := hname
    obtain ⟨rfl, rfl⟩ := Prod.mk.inj (Option.some.inj (hfirst.symm.trans hfirst'))
    refine not_onTheWay_of_behind hencloses hne ?_
    exact List.forall_mem_append.2
      ⟨dotless_pathParts m, fun part hpart => dotless_pathParts q part (hinner.subset hpart)⟩

/-- So a look up comes to the same when it is made again. -/
lemma resolve_again (path : Text) (entry : Option Value) (hworld : catalog.Sound world) :
    (catalog.resolve path entry (catalog.resolve path entry world).2).1 =
      (catalog.resolve path entry world).1 := by
  have hagree : catalog.Agree (RunsThrough path) False world world :=
    ⟨hworld, hworld, fun _ _ => Iff.rfl, False.elim⟩
  have hagrees := resolve_stays_agreeing entry world hagree
  exact (resolve_steadyUpTo (fun _ => id) entry _ _ hagrees).1

/-! ## What a look up finds -/

/-- The class was found as the first of its candidates: those before it come to nothing, its module
is there, and it is in it. -/
structure FoundAmong (catalog : Catalog) (entry : Option Value) (tried : List (Text × Text))
    (world : World) (r : Resolved) (world' : World) : Prop where
  both : (r.moduleName.isEmpty || r.qualifiedName.isEmpty) = false
  found : ∃ before after world₁, tried = before ++ (r.moduleName, r.qualifiedName) :: after ∧
    catalog.PassedOver entry before world world₁ ∧
      catalog.tryImport r.moduleName entry world₁ = (.ok true, world')
  isThere : catalog.classIn? world'.imported r.moduleName r.qualifiedName = some r.cls

lemma FoundAmong.cons {tried : List (Text × Text)} {r : Resolved} {m q : Text} {world₁ : World}
    (h : catalog.FoundAmong entry tried world₁ r world')
    (hcut : ∀ before world₂, catalog.PassedOver entry before world₁ world₂ →
      catalog.PassedOver entry ((m, q) :: before) world world₂) :
    catalog.FoundAmong entry ((m, q) :: tried) world r world' := by
  obtain ⟨both, ⟨before, after, world₂, htried, hbefore, hm⟩, isThere⟩ := h
  exact ⟨both, ⟨(m, q) :: before, after, world₂, by rw [htried, List.cons_append],
    hcut before world₂ hbefore, hm⟩, isThere⟩

lemma firstClass_found {tried : List (Text × Text)} {r : Resolved}
    (h : catalog.firstClass tried entry world = (.ok (some r), world')) :
    catalog.FoundAmong entry tried world r world' := by
  induction tried generalizing world with
  | nil => cases congrArg Prod.fst h
  | cons candidate rest ih =>
    obtain ⟨m, q⟩ := candidate
    rcases hparts : m.isEmpty || q.isEmpty
    · rw [firstClass_cons hparts] at h
      rcases htry : catalog.tryImport m entry world with ⟨failure | isThere, world₁⟩
      · rw [Run.bind_of_error htry] at h
        cases congrArg Prod.fst h
      rw [Run.bind_of_ok htry] at h
      cases isThere with
      | false => exact (ih h).cons fun _ _ => .missing hparts htry
      | true =>
        rw [if_pos rfl, Run.bind_of_ok (rfl : Run.imported _ _ = _)] at h
        rcases hclass : catalog.classIn? world₁.imported m q with _ | c <;> rw [hclass] at h
        · exact (ih h).cons fun _ _ => .noClass hparts htry hclass
        · obtain ⟨hr, rfl⟩ := Prod.mk.inj h
          obtain rfl := Option.some.inj (Except.ok.inj hr)
          exact ⟨hparts, ⟨[], rest, world, rfl, .nil world, htry⟩, hclass⟩
    · rw [firstClass, if_pos hparts] at h
      exact (ih h).cons fun _ _ => .blank hparts

lemma FoundAmong.firstClass_eq {tried : List (Text × Text)} {r : Resolved}
    (h : catalog.FoundAmong entry tried world r world') :
    catalog.firstClass tried entry world = (.ok (some r), world') := by
  obtain ⟨both, ⟨before, after, world₁, rfl, hbefore, hm⟩, isThere⟩ := h
  rw [hbefore.firstClass_append, firstClass_cons both, Run.bind_of_ok hm, if_pos rfl,
    Run.bind_of_ok (rfl : Run.imported _ _ = _), isThere]
  rfl

/-- Candidates that come to nothing leave a sound world behind. -/
lemma PassedOver.sound {tried : List (Text × Text)}
    (h : catalog.PassedOver entry tried world world') (hworld : catalog.Sound world) :
    catalog.Sound world' := by
  have htry : ∀ {m : Text} {world world₁ : World} {isThere : Bool}, catalog.Sound world →
      catalog.tryImport m entry world = (.ok isThere, world₁) → catalog.Sound world₁ := by
    intro m world world₁ isThere hworld hm
    have hstays : Stays catalog.Sound (catalog.tryImport m) := lookUp_stays.tryImport m
    have hsound := hstays entry world hworld
    rwa [hm] at hsound
  induction h with
  | nil world => exact hworld
  | blank _ _ ih => exact ih hworld
  | missing _ hm _ ih => exact ih (htry hworld hm)
  | noClass _ hm _ _ ih => exact ih (htry hworld hm)

/-! ## The module of a candidate -/

/-- The module is there, and what is imported for it. -/
structure Arrives (catalog : Catalog) (m : Text) (world world' : World) : Prop where
  absolute : Text.startsWith "." m = false
  importable : catalog.Importable (pathParts m)
  sound : catalog.Sound world'
  imported : ∀ name, name ∈ world'.imported ↔
    name ∈ world.imported ∨ catalog.OnTheWay [] (pathParts m) name

/-- If no fault is found on the way to a module, none is there. -/
lemma importable_of_importFault? {front rest : List Text} (hfront : catalog.Importable front)
    (h : catalog.importFault? front rest = none) : catalog.Importable (front ++ rest) := by
  induction rest generalizing front with
  | nil => simpa using hfront
  | cons part rest ih =>
    rw [importFault?, Option.or_eq_none_iff] at h
    rw [List.append_cons]
    exact ih (hfront.append h.1) h.2

lemma tryImport_arrives {m : Text} (hworld : catalog.Sound world)
    (h : catalog.tryImport m entry world = (.ok true, world')) :
    catalog.Arrives m world world' := by
  rw [tryImport_apply] at h
  obtain ⟨hjudged, rfl⟩ := Prod.mk.inj h
  by_cases hpath : Text.startsWith "." m = true
  · rw [importModule_relative hpath] at hjudged
    cases hjudged
  · rw [Bool.not_eq_true] at hpath
    have hspec := importModule_spec entry hworld hpath
    rcases hfault : catalog.importFault? [] (pathParts m) with _ | failure
    · exact ⟨hpath, importable_of_importFault? importable_nil hfault, hspec.sound, hspec.imported⟩
    · -- what an import fails of is no sign that its module is there
      rw [hspec.result, hfault, verdict] at hjudged
      unfold judged at hjudged
      split at hjudged
      · rename_i heq
        cases heq
      · split at hjudged <;> cases hjudged
      · cases hjudged

/-- What can be imported is there, from whatever sound world. -/
lemma exists_tryImport {m : Text} (entry : Option Value)
    (hm : catalog.Importable (pathParts m)) (habsolute : Text.startsWith "." m = false)
    (hworld : catalog.Sound world) :
    ∃ world', catalog.tryImport m entry world = (.ok true, world') ∧
      catalog.Arrives m world world' := by
  have hspec := importModule_spec entry hworld habsolute
  have htry : catalog.tryImport m entry world =
      (.ok true, (catalog.importModule m entry world).2) := by
    rw [tryImport_apply, hspec.result, hm.importFault?_eq_none]
    rfl
  exact ⟨_, htry, tryImport_arrives hworld htry⟩

/-- Where the same modules are imported, the same class is found. -/
lemma classIn?_congr {imported imported' : List Text} {m q : Text}
    (h : ∀ name, name ∈ imported ↔ name ∈ imported') :
    catalog.classIn? imported m q = catalog.classIn? imported' m q := by
  unfold classIn?
  rcases catalog.find? m with _ | found
  · rfl
  · dsimp only
    rw [walk?_module (dotless_pathParts q) fun k _ _ => h _]

/-- A class is found in its module, too, under a path that names both with a colon. -/
lemma resolve_colon {m q : Text} {c : Class} (hm : m.Lacks ':')
    (hboth : (m.isEmpty || q.isEmpty) = false)
    (htry : catalog.tryImport m entry world = (.ok true, world'))
    (hclass : catalog.classIn? world'.imported m q = some c) :
    catalog.resolve (m ++ ":" ++ q) entry world = (.ok (some ⟨m, q, c⟩), world') := by
  have hcandidates : candidates (m ++ ":" ++ q) = [(m, q)] := by
    rw [candidates, splitAtColon?_append hm]
  rw [resolve, hcandidates]
  exact FoundAmong.firstClass_eq ⟨hboth, ⟨[], [], world, rfl, .nil world, htry⟩, hclass⟩

/-! ## Dots in the place of a colon -/

/-- On the way to a module: nothing of the one world is lost in the other, and what is new in it is
the module or a package around it. -/
structure Nears (catalog : Catalog) (m : Text) (world world' : World) : Prop where
  sound : catalog.Sound world'
  kept : ∀ name ∈ world.imported, name ∈ world'.imported
  onTheWay : ∀ name ∈ world'.imported,
    name ∈ world.imported ∨ catalog.OnTheWay [] (pathParts m) name

namespace Nears

variable {m : Text} {world₁ world₂ : World}

lemma refl (hworld : catalog.Sound world) : catalog.Nears m world world :=
  ⟨hworld, fun _ => id, fun _ => .inl⟩

lemma trans (h : catalog.Nears m world world₁) (h' : catalog.Nears m world₁ world₂) :
    catalog.Nears m world world₂ where
  sound := h'.sound
  kept name hname := h'.kept name (h.kept name hname)
  onTheWay name hname := (h'.onTheWay name hname).elim (h.onTheWay name) .inr

/-- The way makes no difference to what is imported in the end. -/
lemma arrives (h : catalog.Nears m world world₁) (h' : catalog.Arrives m world₁ world₂) :
    catalog.Arrives m world world₂ where
  absolute := h'.absolute
  importable := h'.importable
  sound := h'.sound
  imported name := by
    rw [h'.imported]
    constructor
    · rintro (hname | hname)
      · exact h.onTheWay name hname
      · exact .inr hname
    · exact Or.imp_left (h.kept name)

end Nears

lemma importFault?_append (front rest more : List Text) :
    catalog.importFault? front (rest ++ more) =
      (catalog.importFault? front rest).or (catalog.importFault? (front ++ rest) more) := by
  induction rest generalizing front with
  | nil => simp [importFault?]
  | cons part rest ih =>
    rw [List.cons_append, importFault?, importFault?, ih, Option.or_assoc, ← List.append_cons]

/-- A module that is not described is missing. -/
lemma openFault?_of_free {m first : Text} (hdotless : first.Lacks '.')
    (hfree : catalog.find? (m ++ "." ++ first) = none) :
    ∃ text, catalog.openFault? (pathParts m ++ [first]) =
      some (.moduleMissing (some (m ++ "." ++ first)) text) := by
  have hname : joined (pathParts m ++ [first]) = m ++ "." ++ first := by
    rw [← pathParts_of_not_mem hdotless, ← pathParts_append]
    exact intercalate_pathParts _
  rw [openFault?, hname, if_neg (by simpa using ne_builtinModule m first)]
  split
  · exact ⟨_, rfl⟩
  · rw [makeFault?, hfree]
    exact ⟨_, rfl⟩

section Behind

variable {m first : Text} {inner : List Text}
  (hdotless : Dotless (first :: inner)) (hfree : catalog.find? (m ++ "." ++ first) = none)

include hdotless hfree

/-- Nothing behind a module that is not described is there, and it counts as missing. -/
lemma importFault?_behind (hm : catalog.Importable (pathParts m)) :
    ∃ text, catalog.importFault? [] (pathParts m ++ first :: inner) =
      some (.moduleMissing (some (m ++ "." ++ first)) text) := by
  obtain ⟨text, hopen⟩ := openFault?_of_free (hdotless first List.mem_cons_self) hfree
  refine ⟨text, ?_⟩
  rw [importFault?_append, hm.importFault?_eq_none, Option.none_or, List.nil_append, importFault?,
    hopen, Option.some_or]

/-- Nor is any of it imported on the way. -/
lemma onTheWay_of_behind {name : Text}
    (h : catalog.OnTheWay [] (pathParts m ++ first :: inner) name) :
    catalog.OnTheWay [] (pathParts m) name := by
  obtain ⟨back, hne, hback, himportable, hbuiltin, rfl⟩ := h
  refine ⟨back, hne, ?_, himportable, hbuiltin, rfl⟩
  rcases List.prefix_or_prefix_of_prefix hback (List.prefix_append (pathParts m) (first :: inner))
    with hshort | ⟨more, rfl⟩
  · exact hshort
  · rw [List.prefix_append_right_inj] at hback
    rcases List.prefix_cons_iff.1 hback with rfl | ⟨more', rfl, -⟩
    · simp
    · obtain ⟨text, hopen⟩ := openFault?_of_free (hdotless first List.mem_cons_self) hfree
      have hclosed := himportable (pathParts m ++ [first]) (by simp)
        ⟨more', by rw [List.nil_append, ← List.append_cons]⟩
      rw [hopen] at hclosed
      cases hclosed

variable (hm : catalog.Importable (pathParts m)) (habsolute : Text.startsWith "." m = false)
  (hside : m.isEmpty = false)

include hm habsolute hside

/-- Such a candidate is passed over, on the way to the module that is there. -/
lemma tryImport_behind (entry : Option Value) (hworld : catalog.Sound world) :
    ∃ world', catalog.tryImport (joined (pathParts m ++ first :: inner)) entry world =
      (.ok false, world') ∧ catalog.Nears m world world' := by
  have hparts : pathParts (joined (pathParts m ++ first :: inner)) =
      pathParts m ++ first :: inner :=
    pathParts_joined (List.forall_mem_append.2 ⟨dotless_pathParts m, hdotless⟩) (by simp)
  have hpath : joined (pathParts m ++ first :: inner) = m ++ "." ++ joined (first :: inner) := by
    rw [joined_append (pathParts_ne_nil m) (List.cons_ne_nil _ _)]
    exact congrArg (· ++ "." ++ joined (first :: inner)) (intercalate_pathParts m)
  -- the path starts as that of the module does, and so not with a dot
  have hrelative : Text.startsWith "." (joined (pathParts m ++ first :: inner)) = false := by
    rw [← Bool.not_eq_true, startsWith_dot_iff] at habsolute ⊢
    rcases hpoints : m.points with _ | ⟨p, rest⟩
    · simp [Text.isEmpty, hpoints] at hside
    · rw [hpath, Text.points_append, Text.points_append, hpoints]
      rwa [hpoints] at habsolute
  have hspec := importModule_spec entry hworld hrelative
  obtain ⟨text, hfault⟩ := importFault?_behind hdotless hfree hm
  have hstart : Text.startsWith (m ++ "." ++ first) (joined (pathParts m ++ first :: inner)) =
      true := by
    refine startsWith_of_encloses ?_
    rw [Encloses, hparts, pathParts_append,
      pathParts_of_not_mem (hdotless first List.mem_cons_self), List.append_cons _ first inner]
    exact List.prefix_append _ _
  refine ⟨_, ?_, hspec.sound, fun name hname => (hspec.imported name).2 (.inl hname),
    fun name hname => ?_⟩
  · rw [tryImport_apply, hspec.result, hparts, hfault, verdict, judged, isOwnMiss, if_pos hstart]
  · rw [hspec.imported, hparts] at hname
    exact hname.imp_right (onTheWay_of_behind hdotless hfree)

/-- So it is with all candidates behind the module, one after the other. -/
lemma exists_passedOver_behind {tried : List (Text × Text)} (entry : Option Value)
    (hworld : catalog.Sound world)
    (htried : ∀ cut ∈ tried, ∃ more, more <+: inner ∧
      cut.1 = joined (pathParts m ++ first :: more)) :
    ∃ world', catalog.PassedOver entry tried world world' ∧ catalog.Nears m world world' := by
  induction tried generalizing world with
  | nil => exact ⟨world, .nil world, .refl hworld⟩
  | cons candidate others ih =>
    obtain ⟨m', q'⟩ := candidate
    obtain ⟨⟨more, hmore, heq⟩, hothers⟩ := List.forall_mem_cons.1 htried
    rcases hparts : m'.isEmpty || q'.isEmpty
    · have hdotless' : Dotless (first :: more) := fun part hpart =>
        hdotless part (((List.prefix_cons_inj first).2 hmore).subset hpart)
      obtain ⟨world₁, htry, hnears⟩ :=
        tryImport_behind hdotless' hfree hm habsolute hside entry hworld
      rw [← heq] at htry
      obtain ⟨world', hover, hrest⟩ := ih hnears.sound hothers
      exact ⟨world', .missing hparts htry hover, hnears.trans hrest⟩
    · obtain ⟨world', hover, hrest⟩ := ih hworld hothers
      exact ⟨world', .blank hparts hover, hrest⟩

end Behind

/-- What is found with a colon is found with a dot in its place, if there is no module of the first
name behind it. -/
lemma resolve_dotted {m q first : Text} {c : Class} {world₁ : World} (entry : Option Value)
    (hworld : catalog.Sound world)
    (hm : m.Lacks ':') (hq : q.Lacks ':') (hboth : (m.isEmpty || q.isEmpty) = false)
    (harrives : catalog.Arrives m world world₁)
    (hclass : catalog.classIn? world₁.imported m q = some c)
    (hfirst : (pathParts q).head? = some first) (hfree : catalog.find? (m ++ "." ++ first) = none) :
    ∃ world', catalog.resolve (m ++ "." ++ q) entry world = (.ok (some ⟨m, q, c⟩), world') := by
  obtain ⟨rest, hparts⟩ : ∃ rest, pathParts q = first :: rest := by
    rcases hcases : pathParts q with _ | ⟨part, rest⟩
    · exact absurd hcases (pathParts_ne_nil q)
    · rw [hcases, List.head?_cons, Option.some_inj] at hfirst
      exact ⟨rest, by rw [hfirst]⟩
  have hcolon : splitAtColon? (m ++ "." ++ q) = none :=
    splitAtColon?_eq_none ((hm.append (by decide)).append hq)
  obtain ⟨before, after, hcuts, hbefore⟩ :=
    exists_cuts_append (pathParts_ne_nil m) (pathParts_ne_nil q)
  have hside : m.isEmpty = false := (Bool.or_eq_false_iff.1 hboth).1
  have hdotless : Dotless (first :: rest) := hparts ▸ dotless_pathParts q
  -- the candidates before it are those behind the module, and come to nothing
  have htried : ∀ cut ∈ before.map fun cut => (joined cut.1, joined cut.2),
      ∃ more, more <+: rest ∧ cut.1 = joined (pathParts m ++ first :: more) := by
    intro cut hcut
    obtain ⟨parts, hmem, rfl⟩ := List.mem_map.1 hcut
    obtain ⟨inner, hne, hinner, heq⟩ := hbefore parts hmem
    rw [hparts] at hinner
    rcases List.prefix_cons_iff.1 hinner with rfl | ⟨more, rfl, hmore⟩
    · exact absurd rfl hne
    · exact ⟨more, hmore, congrArg joined heq⟩
  obtain ⟨world₂, hover, hnears⟩ := exists_passedOver_behind hdotless hfree
    harrives.importable harrives.absolute hside entry hworld htried
  obtain ⟨world', htry, hagain⟩ :=
    exists_tryImport entry harrives.importable harrives.absolute hnears.sound
  -- and then the same is imported as for the path with a colon
  have hsame := hnears.arrives hagain
  have hclass' : catalog.classIn? world'.imported m q = some c := by
    rw [← hclass]
    exact classIn?_congr fun name => (hsame.imported name).trans (harrives.imported name).symm
  have hcut : (joined (pathParts m), joined (pathParts q)) = (m, q) :=
    Prod.ext (intercalate_pathParts m) (intercalate_pathParts q)
  refine ⟨world', ?_⟩
  rw [resolve, candidates_of_dotted hcolon, pathParts_append, hcuts, List.map_append, List.map_cons,
    hcut]
  exact FoundAmong.firstClass_eq ⟨hboth, ⟨_, _, world₂, rfl, hover, htry⟩, hclass'⟩

/-! ## Stability -/

/-- A class that is found is found again, and its path is one of the ways to cut it. -/
lemma loadClass_again {c : Class} (hworld : catalog.Sound world)
    (h : catalog.loadClass path entry world = (.ok (some c), world')) :
    (catalog.loadClass path entry world').1 = .ok (some c) ∧
      ∃ m q, (catalog.split path entry world').1 = .ok (m, q) ∧
        (path = m ++ "." ++ q ∨ path = m ++ ":" ++ q) ∧
          (catalog.loadClass (m ++ ":" ++ q) entry world').1 = .ok (some c) := by
  obtain ⟨⟨m, q, found⟩, hresolve, rfl⟩ := exists_resolve_of_loadClass h
  obtain ⟨hboth, ⟨before, after, world₁, htried, hover, htry⟩, hclass⟩ := firstClass_found hresolve
  have harrives := tryImport_arrives (hover.sound hworld) htry
  have hmem : (m, q) ∈ candidates path := by
    rw [htried]
    simp
  obtain ⟨hpath, hcolon⟩ := path_of_mem_candidates hmem
  have hsame := resolve_again path entry hworld
  rw [hresolve] at hsame
  have hagain : catalog.resolve path entry world' =
      (.ok (some ⟨m, q, found⟩), (catalog.resolve path entry world').2) :=
    Prod.ext hsame rfl
  obtain ⟨hload, -, hsplit⟩ := lookups_of_resolve hagain
  -- all that the module brings is there already, so that its import makes no difference
  obtain ⟨world₂, htry', harrives'⟩ :=
    exists_tryImport entry harrives.importable harrives.absolute harrives.sound
  have hclass' : catalog.classIn? world₂.imported m q = some found := by
    refine (classIn?_congr fun name => ?_).trans hclass
    rw [harrives'.imported, harrives.imported, or_assoc, or_self]
  have hload' := (lookups_of_resolve (resolve_colon hcolon hboth htry' hclass')).1
  exact ⟨congrArg Prod.fst hload, m, q, congrArg Prod.fst hsplit, hpath, congrArg Prod.fst hload'⟩

/-- A class that is found with a colon is found with a dot in its place. -/
lemma loadClass_dotted {m q first : Text} {c : Class} (hworld : catalog.Sound world)
    (hm : m.Lacks ':') (hq : q.Lacks ':') (hfirst : (pathParts q).head? = some first)
    (h : (catalog.loadClass (m ++ ":" ++ q) entry world).1 = .ok (some c))
    (hfree : catalog.find? (m ++ "." ++ first) = none) :
    (catalog.loadClass (m ++ "." ++ q) entry world).1 = .ok (some c) ∧
      (catalog.split (m ++ "." ++ q) entry world).1 = .ok (m, q) := by
  obtain ⟨⟨m', q', found⟩, hresolve, rfl⟩ := exists_resolve_of_loadClass (Prod.ext h rfl)
  obtain ⟨hboth, ⟨before, after, world₁, htried, hover, htry⟩, hclass⟩ := firstClass_found hresolve
  have harrives := tryImport_arrives (hover.sound hworld) htry
  rw [candidates, splitAtColon?_append hm] at htried
  -- there is one candidate only
  obtain ⟨rfl, hcut⟩ : before = [] ∧ (m', q') = (m, q) := by
    rcases before with _ | ⟨cut, before⟩
    · exact ⟨rfl, (List.cons.inj htried).1.symm⟩
    · exact absurd (congrArg List.length htried) (by simp)
  obtain ⟨rfl, rfl⟩ := Prod.mk.inj hcut
  cases hover
  obtain ⟨world', hdotted⟩ := resolve_dotted entry hworld hm hq hboth harrives hclass
    hfirst hfree
  obtain ⟨hload, -, hsplit⟩ := lookups_of_resolve hdotted
  exact ⟨congrArg Prod.fst hload, congrArg Prod.fst hsplit⟩

/-- Whatever was imported before (`after_sound`): a class that is found under a path is found under
it again in the world that this leads to; there the path is split into a module and a name, of which
it is made with a dot or a colon between them, and the class is found under the two with a colon.

And a class that is found under a path with a colon is found, from the same world, under the one
with a dot in its place, unless there is a module of the first name behind that one; and this path
is split there. -/
theorem class_path_stable (hworld : catalog.Sound world) (entry : Option Value) :
    (∀ path c world', catalog.loadClass path entry world = (.ok (some c), world') →
      (catalog.loadClass path entry world').1 = .ok (some c) ∧
        ∃ m q, (catalog.split path entry world').1 = .ok (m, q) ∧
          (path = m ++ "." ++ q ∨ path = m ++ ":" ++ q) ∧
            (catalog.loadClass (m ++ ":" ++ q) entry world').1 = .ok (some c)) ∧
      ∀ m q first c, m.Lacks ':' → q.Lacks ':' → (pathParts q).head? = some first →
        (catalog.loadClass (m ++ ":" ++ q) entry world).1 = .ok (some c) →
          catalog.find? (m ++ "." ++ first) = none →
            (catalog.loadClass (m ++ "." ++ q) entry world).1 = .ok (some c) ∧
              (catalog.split (m ++ "." ++ q) entry world).1 = .ok (m, q) :=
  ⟨fun _ _ _ hload => loadClass_again hworld hload,
    fun _ _ _ _ hm hq hfirst hload hfree => loadClass_dotted hworld hm hq hfirst hload hfree⟩

/-- The class is found again, and with either mark; its module holds no other. -/
theorem nestedZoo_stable :
    nestedZoo.Sound {} ∧
      ∃ c world', nestedZoo.loadClass "zoo.sub.Deep" none {} = (.ok (some c), world') ∧
        (nestedZoo.loadClass "zoo.sub.Deep" none world').1 = .ok (some c) ∧
          nestedZoo.find? "zoo.sub.Deep" = none ∧
            (nestedZoo.split "zoo.sub.Deep" none {}).1 =
              .ok (("zoo.sub" : Text), ("Deep" : Text)) := by
  obtain ⟨hagain, hdotted⟩ := class_path_stable (fresh_sound : nestedZoo.Sound {}) none
  obtain ⟨c, world', hload⟩ : ∃ c world',
      nestedZoo.loadClass "zoo.sub.Deep" none {} = (.ok (some c), world') :=
    ⟨_, _, by with_unfolding_all rfl⟩
  obtain ⟨c', hcolon⟩ : ∃ c',
      (nestedZoo.loadClass ("zoo.sub" ++ ":" ++ "Deep") none {}).1 = .ok (some c') :=
    ⟨_, by with_unfolding_all rfl⟩
  have hfree : nestedZoo.find? ("zoo.sub" ++ "." ++ "Deep") = none := by with_unfolding_all rfl
  have hsplit := hdotted "zoo.sub" "Deep" "Deep" c' (by decide) (by decide)
    (by with_unfolding_all rfl) hcolon hfree
  exact ⟨fresh_sound, c, world', hload, (hagain _ _ _ hload).1, hfree, hsplit.2⟩

end Blueprint.Catalog
