/-
# Modules that are missing on the way to a class

The candidates for a class path are tried one after the other, and importing the module of one of
them may show that some module is missing.  If it is the module itself, or a package that it is in,
the candidate stands for nothing and the next one is tried.  If it is another module, something that
the candidate needs is broken, which is to be reported.

Look up tells the two apart by the name of the missing module, as texts: a miss counts as one of the
candidate itself if the path of its module starts with that name.  `Encloses` compares part by part,
as packages do.

* A miss of the module itself or of a package around it is never reported
  (`startsWith_of_encloses`).
* Every other miss ends each kind of look up with the failure of the import, unless the path starts
  with its name all the same, as that of `application` starts with `app`: then the rest of the
  candidates decide (`missing_module_reported`).
-/
import Blueprint.Proofs.Emission.Paths

namespace Blueprint.Catalog

/-! ## Packages around a module -/

/-- The name is that of the module of a path, or of a package that it is in. -/
def Encloses (name path : Text) : Prop :=
  pathParts name <+: pathParts path

/-- The parts up to some place, with dots between them, are the start of the whole. -/
lemma startsWith_intercalate {separator : Text} {front back : List Text} (h : front ≠ []) :
    Text.startsWith (Text.intercalate separator front)
      (Text.intercalate separator (front ++ back)) = true := by
  rw [Text.startsWith, List.isPrefixOf_iff_prefix]
  rcases back with _ | ⟨t, rest⟩
  · simp
  · rw [Text.intercalate_append separator h (List.cons_ne_nil t rest), Text.points_append,
      Text.points_append, List.append_assoc]
    exact List.prefix_append _ _

/-- A path starts with its packages as texts, too. -/
lemma startsWith_of_encloses {name path : Text} (h : Encloses name path) :
    name.startsWith path = true := by
  obtain ⟨back, hback⟩ := h
  rw [← intercalate_pathParts name, ← intercalate_pathParts path, ← hback]
  exact startsWith_intercalate (pathParts_ne_nil name)

/-! ## Candidates that come to nothing -/

/-- The candidates come to nothing: each of them lacks one of its two sides, or its module is taken
to be missing, or there is no class of the name in its module.  The world changes on the way. -/
inductive PassedOver (catalog : Catalog) (entry : Option Value) :
    List (Text × Text) → World → World → Prop where
  | nil (world : World) : PassedOver catalog entry [] world world
  | blank {m q : Text} {tried : List (Text × Text)} {world world' : World}
      (hblank : (m.isEmpty || q.isEmpty) = true)
      (h : PassedOver catalog entry tried world world') :
      PassedOver catalog entry ((m, q) :: tried) world world'
  | missing {m q : Text} {tried : List (Text × Text)} {world world₁ world' : World}
      (hparts : (m.isEmpty || q.isEmpty) = false)
      (hm : catalog.tryImport m entry world = (.ok false, world₁))
      (h : PassedOver catalog entry tried world₁ world') :
      PassedOver catalog entry ((m, q) :: tried) world world'
  | noClass {m q : Text} {tried : List (Text × Text)} {world world₁ world' : World}
      (hparts : (m.isEmpty || q.isEmpty) = false)
      (hm : catalog.tryImport m entry world = (.ok true, world₁))
      (hq : catalog.classIn? world₁.imported m q = none)
      (h : PassedOver catalog entry tried world₁ world') :
      PassedOver catalog entry ((m, q) :: tried) world world'

variable {catalog : Catalog} {entry : Option Value} {world world' world'' : World}

/-- After candidates that come to nothing the others decide. -/
lemma PassedOver.firstClass_append {tried : List (Text × Text)}
    (h : catalog.PassedOver entry tried world world') (rest : List (Text × Text)) :
    catalog.firstClass (tried ++ rest) entry world = catalog.firstClass rest entry world' := by
  -- each candidate that is passed over takes the world one step further
  induction h with
  | nil world => rfl
  | blank hblank _ ih =>
    rw [List.cons_append, firstClass, if_pos hblank]
    exact ih
  | missing hparts hm _ ih =>
    rw [List.cons_append, firstClass_cons hparts, Run.bind_of_ok hm]
    exact ih
  | noClass hparts hm hq _ ih =>
    rw [List.cons_append, firstClass_cons hparts, Run.bind_of_ok hm, if_pos rfl,
      Run.bind_of_ok (rfl : Run.imported _ _ = _), hq]
    exact ih

/-! ## Misses of a candidate -/

section Candidate

variable {m name text : Text}
  (himport : catalog.importModule m entry world =
    (.error (.moduleMissing (some name) text), world'))

include himport

/-- The miss is taken to be that of the candidate if its path starts with the name. -/
lemma tryImport_of_missing :
    catalog.tryImport m entry world =
      (if name.startsWith m then .ok false else .error (.moduleMissing (some name) text),
        world') := by
  rw [tryImport_apply, himport]
  rfl

lemma firstClass_of_missing {q : Text} (hparts : (m.isEmpty || q.isEmpty) = false)
    (rest : List (Text × Text)) :
    catalog.firstClass ((m, q) :: rest) entry world =
      if name.startsWith m then catalog.firstClass rest entry world'
      else (.error (.moduleMissing (some name) text), world') := by
  have htry := tryImport_of_missing himport
  rw [firstClass_cons hparts]
  split at htry <;> rename_i hstart
  · rw [Run.bind_of_ok htry, if_pos hstart]
    rfl
  · rw [Run.bind_of_error htry, if_neg hstart]

end Candidate

/-! ## Look ups -/

/-- A look up that fails ends every question that starts with it. -/
lemma lookups_of_resolve_error {path : Text} {failure : Failure}
    (h : catalog.resolve path entry world = (.error failure, world')) :
    catalog.loadClass path entry world = (.error failure, world') ∧
      catalog.introspector.exists? path entry world = (.error failure, world') ∧
      catalog.introspector.isInstantiable path entry world = (.error failure, world') ∧
      catalog.split path entry world = (.error failure, world') := by
  have hload : catalog.loadClass path entry world = (.error failure, world') :=
    Run.bind_of_error h
  exact ⟨hload, Run.bind_of_error hload, Run.bind_of_error hload, Run.bind_of_error h⟩

/-- Importing the module of a candidate shows that a module of some name is missing.  Unless the
path of the candidate's module starts with that name, every look up ends with this failure, where it
was found.  If it starts with it, the remaining candidates decide; so it does for the module itself
and the packages that it is in, but also for names that only are the start of its text. -/
theorem missing_module_reported {path m q name text : Text} {tried rest : List (Text × Text)}
    (hpath : candidates path = tried ++ (m, q) :: rest)
    (hparts : (m.isEmpty || q.isEmpty) = false)
    (htried : catalog.PassedOver entry tried world world')
    (himport : catalog.importModule m entry world' =
      (.error (.moduleMissing (some name) text), world'')) :
    (name.startsWith m = false →
      catalog.loadClass path entry world =
          (.error (.moduleMissing (some name) text), world'') ∧
        catalog.introspector.exists? path entry world =
          (.error (.moduleMissing (some name) text), world'') ∧
        catalog.introspector.isInstantiable path entry world =
          (.error (.moduleMissing (some name) text), world'') ∧
        catalog.split path entry world =
          (.error (.moduleMissing (some name) text), world'')) ∧
      (name.startsWith m = true →
        catalog.resolve path entry world = catalog.firstClass rest entry world'') ∧
      (Encloses name m → name.startsWith m = true) := by
  have hresolve : catalog.resolve path entry world =
      if name.startsWith m then catalog.firstClass rest entry world''
      else (.error (.moduleMissing (some name) text), world'') := by
    rw [resolve, hpath, htried.firstClass_append, firstClass_of_missing himport hparts]
  refine ⟨fun hstart => ?_, fun hstart => ?_, startsWith_of_encloses⟩
  · rw [if_neg (by simp [hstart])] at hresolve
    exact lookups_of_resolve_error hresolve
  · rw [hresolve, if_pos hstart]

/-- A package that needs one of its own modules, which is missing. -/
def hollowZoo : Catalog :=
  ⟨[⟨"zoo", true, some (.moduleMissing (some "zoo.cats") "No module named 'zoo.cats'"), [], 0⟩]⟩

/-- For the first candidate that is its own miss; for the second, the package itself, it is not, and
the look up ends with it. -/
theorem hollowZoo_reported :
    hollowZoo.PassedOver none [("zoo.cats", "Tom")] {} {} ∧
      hollowZoo.importModule "zoo" none {} =
        (.error (.moduleMissing (some "zoo.cats") "No module named 'zoo.cats'"), {}) ∧
      hollowZoo.loadClass "zoo.cats.Tom" none {} =
        (.error (.moduleMissing (some "zoo.cats") "No module named 'zoo.cats'"), {}) := by
  have htried : hollowZoo.PassedOver none [("zoo.cats", "Tom")] {} {} :=
    .missing rfl (by with_unfolding_all rfl) (.nil {})
  have himport : hollowZoo.importModule "zoo" none {} =
      (.error (.moduleMissing (some "zoo.cats") "No module named 'zoo.cats'"), {}) := by
    with_unfolding_all rfl
  have hreported := missing_module_reported (q := "cats.Tom")
    (show candidates "zoo.cats.Tom" = _ by with_unfolding_all rfl) rfl htried himport
  exact ⟨htried, himport, (hreported.1 (by decide)).1⟩

end Blueprint.Catalog
