/-
# Which modules can be imported

Importing the module of a path opens the packages around it one after the other, and then the module
itself.  Whether one of them can be opened is a matter of the catalog: it needs a package to be in,
a description, and one without a fault (`openFault?`).  What was imported before plays no part, as
long as only such modules were imported as can be (`Sound`): one that was imported is taken as it
is, and could be opened again.

So from all sound worlds the import of a module comes to the same and leads to a sound world, in
which, besides what was imported before, just the module and the packages around it are imported, as
far as they can be (`importModule_spec`).
-/
import Blueprint.Proofs.Emission.Paths

namespace Blueprint.Catalog

open Run (Stays)

/-! ## Paths and their parts -/

/-- The parts can stand between the dots of a path. -/
def Dotless (parts : List Text) : Prop :=
  ∀ part ∈ parts, part.Lacks '.'

/-- The path of some parts. -/
def joined (parts : List Text) : Text :=
  Text.intercalate "." parts

lemma dotless_pathParts (path : Text) : Dotless (pathParts path) := by
  refine List.forall_mem_map.2 fun part hpart => ?_
  exact Text.not_mem_of_mem_partsAt hpart

/-- Without a dot there is one part. -/
lemma pathParts_of_not_mem {part : Text} (h : Point.char '.' ∉ part.points) :
    pathParts part = [part] := by
  rw [pathParts, Text.splitAt, Text.partsAt_of_not_mem h]
  rfl

/-- The parts of a path are those that it is made of. -/
lemma pathParts_joined {parts : List Text} (h : Dotless parts) (hne : parts ≠ []) :
    pathParts (joined parts) = parts :=
  Text.splitAt_intercalate h hne

lemma joined_append {front back : List Text} (hfront : front ≠ []) (hback : back ≠ []) :
    joined (front ++ back) = joined front ++ "." ++ joined back :=
  Text.intercalate_append "." hfront hback

/-- The paths of the parts up to each of those that follow the first ones. -/
def prefixesFrom (front : List Text) : List Text → List Text
  | [] => []
  | part :: rest => joined (front ++ [part]) :: prefixesFrom (front ++ [part]) rest

lemma map_pathPrefixes {front : List Text} (hfront : front ≠ []) (parts : List Text) :
    (pathPrefixes parts).map (fun more => joined front ++ "." ++ more) =
      prefixesFrom front parts := by
  induction parts generalizing front with
  | nil => rfl
  | cons part rest ih =>
    have hnext : joined front ++ "." ++ part = joined (front ++ [part]) :=
      (joined_append hfront (List.cons_ne_nil part [])).symm
    have hne : front ++ [part] ≠ [] :=
      List.append_ne_nil_of_right_ne_nil front (List.cons_ne_nil part [])
    rw [pathPrefixes, prefixesFrom, List.map_cons, List.map_map, hnext, ← ih hne]
    refine congrArg _ (List.map_congr_left fun more _ => ?_)
    rw [Function.comp_apply, ← hnext]
    simp only [Text.append_assoc]

lemma pathPrefixes_eq (parts : List Text) : pathPrefixes parts = prefixesFrom [] parts := by
  cases parts with
  | nil => rfl
  | cons part rest =>
    rw [pathPrefixes, prefixesFrom]
    exact congrArg (part :: ·) (map_pathPrefixes (List.cons_ne_nil part []) rest)

/-! ## What can be imported -/

variable (catalog : Catalog)

/-- Why the module of a path cannot be made, where it cannot. -/
def makeFault? (name : Text) : Option Failure :=
  match catalog.find? name with
  | none => some (missing name)
  | some m => m.fault

/-- Why the module of the parts cannot be opened, where it cannot, when the packages around it
are. -/
def openFault? (parts : List Text) : Option Failure :=
  if joined parts == builtinModule then none
  else if !parts.dropLast.isEmpty && !catalog.isPackage (joined parts.dropLast) then
    some (notInPackage (joined parts) (joined parts.dropLast))
  else catalog.makeFault? (joined parts)

/-- The first fault in opening modules, each in the one before it, after those of the first
parts. -/
def importFault? (front : List Text) : List Text → Option Failure
  | [] => none
  | part :: rest =>
    (catalog.openFault? (front ++ [part])).or (importFault? (front ++ [part]) rest)

/-- The module of the parts and all packages around it can be opened. -/
def Importable (parts : List Text) : Prop :=
  ∀ front, front ≠ [] → front <+: parts → catalog.openFault? front = none

/-- No modules were imported but those that can be. -/
def Sound (world : World) : Prop :=
  ∀ name ∈ world.imported, catalog.Importable (pathParts name)

variable {catalog} {entry : Option Value} {world : World}

lemma Importable.of_prefix {parts front : List Text} (h : catalog.Importable parts)
    (hinit : front <+: parts) : catalog.Importable front :=
  fun inner hne hinner => h inner hne (hinner.trans hinit)

lemma Importable.append {front : List Text} {part : Text} (h : catalog.Importable front)
    (hopen : catalog.openFault? (front ++ [part]) = none) :
    catalog.Importable (front ++ [part]) := by
  intro inner hne hinner
  rcases List.prefix_concat_iff.1 hinner with rfl | hinner
  · exact hopen
  · exact h inner hne hinner

/-- What can be imported is opened without a fault on the way. -/
lemma Importable.importFault?_eq_none {front rest : List Text}
    (h : catalog.Importable (front ++ rest)) : catalog.importFault? front rest = none := by
  induction rest generalizing front with
  | nil => rfl
  | cons part rest ih =>
    rw [List.append_cons] at h
    have hopen : catalog.openFault? (front ++ [part]) = none :=
      h _ (by simp) (List.prefix_append _ rest)
    rw [importFault?, hopen]
    exact ih h

/-- A module that can be imported is described, unless it is that of built in classes. -/
lemma Importable.exists_find? {path : Text} (h : catalog.Importable (pathParts path))
    (hbuiltin : path ≠ builtinModule) : ∃ m, catalog.find? path = some m := by
  have hopen := h _ (pathParts_ne_nil path) List.prefix_rfl
  have hpath : joined (pathParts path) = path := intercalate_pathParts path
  rw [openFault?, hpath, if_neg (by simpa using hbuiltin)] at hopen
  split at hopen
  · exact absurd hopen (by simp)
  · unfold makeFault? at hopen
    split at hopen
    · exact absurd hopen (by simp)
    · exact ⟨_, ‹_›⟩

lemma importable_nil : catalog.Importable [] :=
  fun _ hne hinit => absurd (List.prefix_nil.1 hinit) hne

/-! ## Importing -/

/-- What becomes of an import with this fault, if it has one. -/
def verdict : Option Failure → Except Failure Unit
  | none => .ok ()
  | some failure => .error failure

/-- The packages that the first parts are the path of, if there are any. -/
def around (front : List Text) : Option Text :=
  if front.isEmpty then none else some (joined front)

lemma warnAll_apply (warnings : List Warning) :
    warnings.forM Run.warn entry world =
      (.ok (), { world with warnings := world.warnings ++ warnings }) := by
  induction warnings generalizing world with
  | nil =>
    rw [List.append_nil]
    rfl
  | cons warning rest ih =>
    have hwarn : Run.warn warning entry world =
        (.ok (), { world with warnings := world.warnings ++ [warning] }) := rfl
    show (Run.warn warning >>= fun _ => rest.forM Run.warn) entry world = _
    rw [Run.bind_of_ok hwarn, ih, List.append_assoc]
    rfl

lemma execute_spec (m : Module) :
    (m.execute entry world).1 = verdict m.fault ∧
      ∀ name, name ∈ (m.execute entry world).2.imported ↔
        name ∈ world.imported ∨ m.fault = none ∧ name = m.name := by
  rw [Module.execute, Run.bind_of_ok (warnAll_apply _)]
  rcases m.fault with _ | failure
  · refine ⟨rfl, fun name => ?_⟩
    show name ∈ (if world.imported.contains m.name then _ else _ : World).imported ↔ _
    -- a module that is known already is not marked a second time
    split
    · rename_i hknown
      have hmem : m.name ∈ world.imported := by simpa using hknown
      exact ⟨.inl, fun h => h.elim id fun h => h.2 ▸ hmem⟩
    · simp
  · refine ⟨rfl, fun name => ?_⟩
    simp [Run.fail]

lemma find?_name {name : Text} {m : Module} (h : catalog.find? name = some m) : m.name = name := by
  simpa using List.find?_some h

/-- What was imported could be opened. -/
lemma openFault?_of_known {parts : List Text} (hworld : catalog.Sound world)
    (hdotless : Dotless parts) (hne : parts ≠ [])
    (h : (world.imported.contains (joined parts) || joined parts == builtinModule) = true) :
    catalog.openFault? parts = none := by
  rcases Bool.or_eq_true_iff.1 h with h | h
  · have hmem : joined parts ∈ world.imported := by simpa using h
    have himportable := hworld _ hmem
    rw [pathParts_joined hdotless hne] at himportable
    exact himportable parts hne List.prefix_rfl
  · rw [openFault?, if_pos h]

/-- Makes the module of a path. -/
def make (catalog : Catalog) (name : Text) : Run Unit :=
  match catalog.find? name with
  | none => Run.fail (missing name)
  | some m => m.execute

lemma make_spec {name : Text} (hbuiltin : name ≠ builtinModule) :
    (catalog.make name entry world).1 = verdict (catalog.makeFault? name) ∧
      ∀ other, other ∈ (catalog.make name entry world).2.imported ↔
        other ∈ world.imported ∨
          catalog.makeFault? name = none ∧ name ≠ builtinModule ∧ other = name := by
  unfold make makeFault?
  rcases hfind : catalog.find? name with _ | m
  · exact ⟨rfl, fun other => by simp [Run.fail]⟩
  · have hspec := @execute_spec entry world m
    rw [find?_name hfind] at hspec
    exact ⟨hspec.1, fun other => by simpa [hbuiltin] using hspec.2 other⟩

/-- A module is opened as the catalog has it, and is imported from then on. -/
lemma importOne_spec {front : List Text} {part : Text} (hworld : catalog.Sound world)
    (hdotless : Dotless (front ++ [part])) :
    (importOne catalog (around front) (joined (front ++ [part])) entry world).1 =
        verdict (catalog.openFault? (front ++ [part])) ∧
      ∀ name, name ∈ (importOne catalog (around front) (joined (front ++ [part])) entry
          world).2.imported ↔
        name ∈ world.imported ∨ catalog.openFault? (front ++ [part]) = none ∧
          joined (front ++ [part]) ≠ builtinModule ∧ name = joined (front ++ [part]) := by
  have hne : front ++ [part] ≠ [] :=
    List.append_ne_nil_of_right_ne_nil front (List.cons_ne_nil part [])
  have himported : Run.imported entry world = (.ok world.imported, world) := rfl
  rw [importOne, Run.bind_of_ok himported]
  generalize hparts : front ++ [part] = parts at hdotless hne ⊢
  have hfront : parts.dropLast = front := by rw [← hparts, List.dropLast_concat]
  by_cases hknown : (world.imported.contains (joined parts) || joined parts == builtinModule) = true
  -- imported before: nothing is executed, and a sound world has it opened without a fault
  · have hopen := openFault?_of_known hworld hdotless hne hknown
    simp only [hknown, if_true, hopen]
    refine ⟨rfl, fun name => ⟨.inl, ?_⟩⟩
    rintro (h | ⟨-, hbuiltin, rfl⟩)
    · exact h
    · rw [Bool.or_eq_true_iff, beq_iff_eq] at hknown
      simpa using hknown.resolve_right hbuiltin
  · simp only [Bool.or_eq_true, not_or, Bool.not_eq_true] at hknown
    obtain ⟨hnew, hbuiltin⟩ := hknown
    have hbuiltin' : joined parts ≠ builtinModule := by simpa using hbuiltin
    simp only [hnew, Bool.or_false, openFault?, hbuiltin, hfront, around, Bool.false_eq_true,
      if_false]
    have hmake := @make_spec catalog entry world _ hbuiltin'
    rcases front with _ | ⟨first, rest⟩
    · exact hmake
    · by_cases hpackage : catalog.isPackage (joined (first :: rest)) = true
      · simp only [List.isEmpty_cons, hpackage, Bool.not_true, Bool.and_false, Bool.false_eq_true,
          if_false]
        exact hmake
      · simp only [List.isEmpty_cons, hpackage, Bool.not_false, Bool.and_true, if_true,
          Bool.false_eq_true, if_false]
        exact ⟨rfl, fun name => by simp [Run.bind_apply]⟩

/-- The module of the name is one of those of the parts after the first ones, up to some part, and
can be imported. -/
def OnTheWay (catalog : Catalog) (front rest : List Text) (name : Text) : Prop :=
  ∃ back, back ≠ [] ∧ back <+: rest ∧ catalog.Importable (front ++ back) ∧
    joined (front ++ back) ≠ builtinModule ∧ name = joined (front ++ back)

lemma onTheWay_cons_iff {front rest : List Text} {part name : Text}
    (h : catalog.Importable (front ++ [part])) :
    catalog.OnTheWay front (part :: rest) name ↔
      joined (front ++ [part]) ≠ builtinModule ∧ name = joined (front ++ [part]) ∨
        catalog.OnTheWay (front ++ [part]) rest name := by
  constructor
  · rintro ⟨back, hne, hinit, himportable, hname⟩
    rcases List.prefix_cons_iff.1 hinit with rfl | ⟨back', rfl, hinit'⟩
    · exact absurd rfl hne
    · rw [List.append_cons] at himportable hname
      -- the prefix ends with this part, or goes on beyond it
      by_cases hlast : back' = []
      · subst hlast
        rw [List.append_nil] at hname
        exact .inl hname
      · exact .inr ⟨back', hlast, hinit', himportable, hname⟩
  · rintro (hname | ⟨back, hne, hinit, himportable, hname⟩)
    · exact ⟨[part], by simp, by simp, h, hname⟩
    · rw [← List.append_cons] at himportable hname
      exact ⟨part :: back, by simp, (List.prefix_cons_inj part).2 hinit, himportable, hname⟩

/-- There is nothing behind a module that cannot be opened. -/
lemma not_onTheWay_cons {front rest : List Text} {part name : Text}
    (h : catalog.openFault? (front ++ [part]) ≠ none) :
    ¬ catalog.OnTheWay front (part :: rest) name := by
  rintro ⟨back, hne, hinit, himportable, -⟩
  rcases List.prefix_cons_iff.1 hinit with rfl | ⟨back', rfl, -⟩
  · exact hne rfl
  · refine h (himportable _ (by simp) ?_)
    rw [List.append_cons front part back']
    exact List.prefix_append _ _

/-- What is known after the modules of the parts were imported that follow the first ones. -/
structure Imports (catalog : Catalog) (front rest : List Text) (world : World)
    (outcome : Except Failure Unit × World) : Prop where
  /-- What the import comes to can be told from the catalog. -/
  result : outcome.1 = verdict (catalog.importFault? front rest)
  sound : catalog.Sound outcome.2
  /-- Of the modules on the way those are imported that can be, and no others. -/
  imported : ∀ name, name ∈ outcome.2.imported ↔
    name ∈ world.imported ∨ catalog.OnTheWay front rest name

lemma around_concat (front : List Text) (part : Text) :
    around (front ++ [part]) = some (joined (front ++ [part])) := by
  rw [around, if_neg (by simp)]

/-- One import after the other: each finds the packages opened that its module is in. -/
lemma importChain_spec {front rest : List Text} (hworld : catalog.Sound world)
    (hfront : catalog.Importable front) (hdotless : Dotless (front ++ rest)) :
    Imports catalog front rest world
      (importChain catalog (around front) (prefixesFrom front rest) entry world) := by
  induction rest generalizing front world with
  | nil =>
    refine ⟨rfl, hworld, fun name => ⟨.inl, ?_⟩⟩
    rintro (h | ⟨back, hne, hback, -⟩)
    · exact h
    · exact absurd (List.prefix_nil.1 hback) hne
  | cons part rest ih =>
    rw [List.append_cons] at hdotless
    have hdotless' : Dotless (front ++ [part]) := fun t ht => hdotless t (List.mem_append_left _ ht)
    obtain ⟨hresult, hmem⟩ := @importOne_spec catalog entry world front part hworld hdotless'
    rw [prefixesFrom, importChain, Run.bind_apply]
    rcases hone : importOne catalog (around front) (joined (front ++ [part])) entry world with
      ⟨result, world'⟩
    rw [hone] at hresult hmem
    rcases hopen : catalog.openFault? (front ++ [part]) with _ | failure
    -- the module is opened, and the rest is imported from it
    · rw [hopen] at hresult hmem
      obtain rfl : result = .ok () := hresult
      have hnext := hfront.append hopen
      have hworld' : catalog.Sound world' := by
        intro name hname
        rcases (hmem name).1 hname with h | ⟨-, -, rfl⟩
        · exact hworld name h
        · rwa [pathParts_joined hdotless' (by simp)]
      have hrest := ih hworld' hnext hdotless
      rw [around_concat] at hrest
      refine ⟨?_, hrest.sound, fun name => ?_⟩
      · rw [importFault?, hopen]
        exact hrest.result
      · rw [hrest.imported, hmem, onTheWay_cons_iff hnext, or_assoc]
        simp
    -- the import ends here, with nothing new imported
    · rw [hopen] at hresult hmem
      obtain rfl : result = .error failure := hresult
      have hsame : ∀ name, name ∈ world'.imported ↔ name ∈ world.imported :=
        fun name => (hmem name).trans (by simp)
      refine ⟨?_, fun name hname => hworld name ((hsame name).1 hname), fun name => ?_⟩
      · rw [importFault?, hopen]
        rfl
      · have hnone := @not_onTheWay_cons catalog front rest part name (by simp [hopen])
        rw [hsame]
        exact (or_iff_left hnone).symm

/-- The parts of the path of a module, as it is imported. -/
theorem importModule_spec (entry : Option Value) (hworld : catalog.Sound world) {path : Text}
    (hpath : Text.startsWith "." path = false) :
    Imports catalog [] (pathParts path) world (catalog.importModule path entry world) := by
  rw [importModule, if_neg (by simp [hpath]), pathPrefixes_eq]
  exact importChain_spec hworld importable_nil (by simpa using dotless_pathParts path)

lemma importModule_relative {path : Text} (hpath : Text.startsWith "." path = true) :
    catalog.importModule path = Run.fail (.relativeImport path) := by
  rw [importModule, if_pos hpath]

/-- Sound worlds stay sound. -/
lemma importModule_stays (path : Text) : Stays catalog.Sound (catalog.importModule path) := by
  intro entry world hworld
  by_cases hpath : Text.startsWith "." path = true
  · rw [importModule_relative hpath]
    exact hworld
  · exact (importModule_spec entry hworld (by simpa using hpath)).sound

end Blueprint.Catalog
