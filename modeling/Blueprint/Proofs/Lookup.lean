/-
# What looking up classes finds and leaves alone

A catalog finds a class by importing modules, and keeps record of those it imported and of the
classes that were asked for their annotations.  The class is that of one of the candidates for its
path.  Besides warning, these records are all that a look up changes: nothing it does reads or
writes a file.  So whatever is compiled from its answers, and however class paths are split on the
way to factories, the files stay as they are.

Look ups are put together from imports and from readings of these records, so a property that passes
from runs to what is put together from them has to be shown of those only (`LookUp`).
-/
import Blueprint.Catalog.Introspection
import Blueprint.Proofs.Answers

namespace Blueprint.Catalog

open Run (Keeps)

variable (catalog : Catalog)

/-! ## Importing -/

section Importing

variable {γ : Type} {f : World → γ}
  (hwarnings : ∀ world warnings, f { world with warnings := warnings } = f world)
  (himported : ∀ world imported, f { world with imported := imported } = f world)

include hwarnings himported

omit himported in
lemma warnAll_keeps (warnings : List Warning) : Keeps f (warnings.forM Run.warn) := by
  induction warnings with
  | nil => exact .pure ()
  | cons warning rest ih => exact Keeps.bind (.warn _ hwarnings) (.always _) fun _ _ => ih

lemma execute_keeps (m : Module) : Keeps f m.execute := by
  unfold Module.execute
  refine Keeps.bind (warnAll_keeps hwarnings _) (.always _) fun _ _ => ?_
  split
  · exact .fail _
  · intro entry world
    rw [Run.markImported, Run.keeping_apply]
    dsimp only
    split
    · rfl
    · exact himported _ _

lemma importOne_keeps (parent : Option Text) (name : Text) :
    Keeps f (importOne catalog parent name) := by
  have hread : Keeps f Run.imported := fun _ _ => rfl
  refine Keeps.bind hread (.always _) fun imported _ => ?_
  by_cases hknown : (imported.contains name || name == builtinModule) = true
  · simp only [hknown, if_true]
    exact .pure ()
  · simp only [hknown, if_false, Bool.false_eq_true]
    -- the module is asked for on its own, or has to be in a package that can hold it
    rcases parent with _ | package
    · rcases catalog.find? name with _ | m
      · exact .fail _
      · exact execute_keeps hwarnings himported m
    · by_cases hpackage : (!catalog.isPackage package) = true
      · simp only [hpackage, if_true]
        exact .fail _
      · simp only [hpackage]
        rcases catalog.find? name with _ | m
        · exact .fail _
        · exact execute_keeps hwarnings himported m

lemma importChain_keeps (parent : Option Text) (names : List Text) :
    Keeps f (importChain catalog parent names) := by
  induction names generalizing parent with
  | nil => exact .pure ()
  | cons name rest ih =>
    exact Keeps.bind (importOne_keeps catalog hwarnings himported parent name) (.always _)
      fun _ _ => ih _

/-- Of the world, importing changes no more than the warnings and what was imported. -/
lemma importModule_keeps (path : Text) : Keeps f (importModule catalog path) := by
  unfold importModule
  split
  · exact .fail _
  · exact importChain_keeps catalog hwarnings himported none _

end Importing

/-- What the import of the module of a candidate tells of it. -/
def judged (m : Text) : Except Failure Unit → Except Failure Bool
  | .ok () => .ok true
  | .error (.moduleMissing name text) =>
    if isOwnMiss m name then .ok false else .error (.moduleMissing name text)
  | .error failure => .error failure

variable {catalog} in
/-- To try a candidate is to import its module. -/
lemma tryImport_apply (m : Text) (entry : Option Value) (world : World) :
    catalog.tryImport m entry world =
      (judged m (catalog.importModule m entry world).1,
        (catalog.importModule m entry world).2) := by
  have hattempt : (catalog.importModule m).attempt entry world =
      (.ok (catalog.importModule m entry world).1, (catalog.importModule m entry world).2) := rfl
  rw [tryImport, Run.bind_of_ok hattempt]
  rcases catalog.importModule m entry world with ⟨failure | _, world'⟩
  · -- that something is missing is judged; every other failure is passed on
    cases failure with
    | moduleMissing name text =>
      dsimp only [judged]
      split <;> rfl
    | _ => rfl
  · rfl

variable {catalog} in
/-- What candidates come to that are given as a first one and others. -/
lemma firstClass_cons {m q : Text} (hparts : (m.isEmpty || q.isEmpty) = false)
    (rest : List (Text × Text)) :
    catalog.firstClass ((m, q) :: rest) =
      catalog.tryImport m >>= fun isThere =>
        if isThere then
          Run.imported >>= fun imported =>
            match catalog.classIn? imported m q with
            | some c => pure (some ⟨m, q, c⟩)
            | none => catalog.firstClass rest
        else catalog.firstClass rest := by
  rw [firstClass]
  exact if_neg (by simp [hparts])

/-! ## Answers about a class

What holds of resolving a path holds of the answers about its class. -/

section Answers

variable {catalog} {S : World → Prop} {C : ∀ {α : Type}, Run α → Prop}
  (hC : Run.InheritedFrom S C) {path : Text}

include hC

lemma reached_inherited {α : Type} (result : Except Defect α) : C (reached result) := by
  rcases result with defect | a
  · exact hC.fail _
  · exact hC.pure _

variable (hresolve : C (catalog.resolve path))

include hresolve

lemma loadClass_inherited : C (catalog.loadClass path) :=
  hC.bind hresolve fun _ => hC.pure _

lemma exists?_inherited : C (catalog.introspector.exists? path) :=
  hC.bind (loadClass_inherited hC hresolve) fun _ => hC.pure _

lemma isInstantiable_inherited : C (catalog.introspector.isInstantiable path) :=
  hC.bind (loadClass_inherited hC hresolve) fun _ => hC.pure _

lemma require_inherited : C (catalog.require path) := by
  refine hC.bind (loadClass_inherited hC hresolve) fun found => ?_
  rcases found with _ | c
  · exact hC.mistaken _
  · exact hC.pure _

lemma constructor_inherited : C (catalog.constructor path) := by
  refine hC.bind (require_inherited hC hresolve) fun c => ?_
  rcases c.constructor with cause | callable
  · exact hC.mistaken _
  · exact hC.pure _

lemma method_inherited (hmark : ∀ id, C (Run.markAnnotated id)) (name : Text) :
    C (catalog.method path name) := by
  refine hC.bind (require_inherited hC hresolve) fun c => ?_
  refine hC.bind (reached_inherited hC (c.method name)) fun found => ?_
  -- asked for its annotations a class is marked first, whatever the answer is
  by_cases hkey : (name == Layer.annotationsKey) = true
  · simp only [hkey, if_true]
    rcases found with cause | callable
    · exact hC.bind (hmark _) fun _ => hC.mistaken _
    · exact hC.bind (hmark _) fun _ => hC.pure _
  · simp only [hkey]
    rcases found with cause | callable
    · exact hC.mistaken _
    · exact hC.pure _

end Answers

/-- A field is read off the class of a path, with a look at the classes that were asked for their
annotations. -/
lemma field_inherited {S : World → Prop} {C : ∀ {α : Type}, Run α → Prop}
    (hC : Run.InheritedFrom S C) {owner : Value} {name : Text}
    (hresolve : ∀ path, owner = .str path → C (catalog.resolve path))
    (hread : ∀ (c : Class) path,
      C (Run.annotated >>= fun annotated => reached (c.field? annotated path name))) :
    C (catalog.field owner name) := by
  cases owner with
  | str path => exact hC.bind (require_inherited hC (hresolve path rfl)) fun c => hread c path
  | _ => exact hC.fail _

/-! ## Look ups -/

/-- The property holds of the steps that look ups are put together from. -/
structure LookUp (C : ∀ {α : Type}, Run α → Prop) : Prop where
  inherited : Run.Inherited C
  imported : C Run.imported
  annotated : C Run.annotated
  markAnnotated : ∀ id, C (Run.markAnnotated id)
  importModule : ∀ path, C (catalog.importModule path)

namespace LookUp

variable {catalog} {C : ∀ {α : Type}, Run α → Prop} (hC : catalog.LookUp C)

include hC

lemma tryImport (moduleName : Text) : C (catalog.tryImport moduleName) := by
  refine hC.inherited.bind (hC.inherited.attempt (hC.importModule moduleName)) fun outcome => ?_
  rcases outcome with failure | _
  · cases failure with
    | moduleMissing name text =>
      show C (if isOwnMiss moduleName name then pure false
        else Run.fail (.moduleMissing name text) : Run Bool)
      split
      · exact hC.inherited.pure _
      · exact hC.inherited.fail _
    | _ => exact hC.inherited.fail _
  · exact hC.inherited.pure _

lemma firstClass (tried : List (Text × Text)) : C (catalog.firstClass tried) := by
  induction tried with
  | nil => exact hC.inherited.pure none
  | cons candidate rest ih =>
    obtain ⟨moduleName, qualifiedName⟩ := candidate
    rw [Catalog.firstClass]
    split
    · exact ih
    · refine hC.inherited.bind (hC.tryImport moduleName) fun isThere => ?_
      -- the rest is tried if the module is not there, or holds no class of that name
      cases isThere with
      | false => exact ih
      | true =>
        refine hC.inherited.bind hC.imported fun imported => ?_
        rcases classIn? catalog imported moduleName qualifiedName with _ | c
        · exact ih
        · exact hC.inherited.pure _

lemma resolve (path : Text) : C (catalog.resolve path) :=
  hC.firstClass _

lemma split (path : Text) : C (catalog.split path) := by
  refine hC.inherited.bind (hC.resolve path) fun found => ?_
  rcases found with _ | r
  · exact hC.inherited.pure _
  · exact hC.inherited.pure _

/-- What holds of the steps of look ups holds of all answers. -/
theorem answers : catalog.introspector.Answers C where
  exists? path := exists?_inherited hC.inherited (hC.resolve path)
  isInstantiable path := isInstantiable_inherited hC.inherited (hC.resolve path)
  constructor path := constructor_inherited hC.inherited (hC.resolve path)
  method path := method_inherited hC.inherited (hC.resolve path) hC.markAnnotated
  field _ _ := catalog.field_inherited hC.inherited (fun path _ => hC.resolve path) fun _ _ =>
    hC.inherited.bind hC.annotated fun _ => reached_inherited hC.inherited _

end LookUp

lemma lookUp_keeps : catalog.LookUp (Keeps World.files) where
  inherited := .keeps_files
  imported := fun _ _ => rfl
  annotated := fun _ _ => rfl
  markAnnotated := fun _ _ _ => rfl
  importModule := importModule_keeps catalog (fun _ _ => rfl) fun _ _ => rfl

/-- Splitting a class path leaves the files alone. -/
theorem split_keeps (path : Text) : Keeps World.files (split catalog path) :=
  (lookUp_keeps catalog).split path

/-- A class that is found stands under one of the candidates, with some of the modules imported. -/
lemma firstClass_ensures (tried : List (Text × Text)) :
    (catalog.firstClass tried).Ensures
      (fun found => ∀ r, found = some r → (r.moduleName, r.qualifiedName) ∈ tried ∧
        ∃ imported, classIn? catalog imported r.moduleName r.qualifiedName = some r.cls)
      fun _ => True := by
  induction tried with
  | nil =>
    rw [firstClass]
    exact Run.Ensures.pure nofun
  | cons candidate rest ih =>
    obtain ⟨moduleName, qualifiedName⟩ := candidate
    have hrest := ih.mono (fun found h r hr =>
      (h r hr).imp_left (List.mem_cons_of_mem (moduleName, qualifiedName))) fun _ => id
    rw [firstClass]
    split
    · exact hrest
    · refine Run.Ensures.bind (Run.Ensures.always _) fun isThere _ => ?_
      split
      · refine Run.Ensures.bind (Run.Ensures.always _) fun imported _ => ?_
        split
        · refine Run.Ensures.pure ?_
          rintro r hr
          obtain rfl := Option.some.inj hr
          exact ⟨List.mem_cons_self, imported, ‹_›⟩
        · exact hrest
      · exact hrest

end Blueprint.Catalog
