/-
# What asking a catalog fails of

To answer a question about a class, a catalog looks its path up, which imports modules.  A module
that is missing is passed over together with the candidate that it is the module of, or a package
around; so looking up fails only where the path starts with a dot, or as some module does that
cannot be made (`LookUpFault`).

Once that is over, an answer fails of a mistake, for a class that is not there or cannot be read
(`AnswerFault`).  An answer about an attribute fails also where the attribute is out of reach.  What
a compilation asks for a definition is about the classes that the definition names and the
attributes that it binds; what is no text names no class, and nothing can be looked up for it
(`refuses_fault`).
-/
import Blueprint.Proofs.Faults
import Blueprint.Proofs.Imports
import Blueprint.Proofs.Misses

namespace Blueprint

/-- The definition names a class: its own, or the owner of a field. -/
def Definition.Names (d : Definition) (path : Text) : Prop :=
  path = d.className ∨ ∃ b ∈ d.fields, fieldOwner b.owner d.className = .str path

namespace Catalog

open Run

variable {catalog : Catalog} {current : Option Value} {failure : Failure}

/-! ## Importing -/

/-- A module cannot be made, and fails like this. -/
def ModuleFault (catalog : Catalog) (failure : Failure) : Prop :=
  ∃ m ∈ catalog.modules, m.fault = some failure

/-- What looking a path up fails of. -/
inductive LookUpFault (catalog : Catalog) (path : Text) : Failure → Prop where
  /-- The module of a candidate starts with a dot. -/
  | relative {cut : Text × Text} (hcut : cut ∈ candidates path)
      (h : Text.startsWith "." cut.1 = true) : LookUpFault catalog path (.relativeImport cut.1)
  /-- A module cannot be made. -/
  | module {failure : Failure} (h : catalog.ModuleFault failure) :
      LookUpFault catalog path failure

lemma not_fails_imported : ¬ Fails current failure Run.imported := by
  rintro ⟨world, h⟩
  exact absurd h (by simp [Run.imported])

lemma not_fails_annotated : ¬ Fails current failure Run.annotated := by
  rintro ⟨world, h⟩
  exact absurd h (by simp [Run.annotated])

lemma not_fails_markAnnotated {id : ClassId} :
    ¬ Fails current failure (Run.markAnnotated id) := by
  rintro ⟨world, h⟩
  exact absurd h (by simp [Run.markAnnotated])

lemma execute_fault {m : Module} (h : Fails current failure m.execute) :
    m.fault = some failure := by
  obtain ⟨world, h⟩ := h
  rw [(execute_spec m).1] at h
  rcases hfault : m.fault with _ | failure' <;> rw [hfault] at h
  · exact absurd h (by simp [verdict])
  · rw [Except.error.inj h]

lemma make_fault {name : Text} (h : Fails current failure (catalog.make name)) :
    (∃ text, failure = .moduleMissing (some name) text) ∨ catalog.ModuleFault failure := by
  unfold make at h
  rcases hfind : catalog.find? name with _ | m <;> rw [hfind] at h
  · obtain rfl := h.of_fail
    exact .inl ⟨_, rfl⟩
  · exact .inr ⟨m, List.mem_of_find?_eq_some hfind, execute_fault h⟩

/-- A module that is not there has the name that was asked for. -/
lemma importOne_fault {parent : Option Text} {name : Text}
    (h : Fails current failure (importOne catalog parent name)) :
    (∃ text, failure = .moduleMissing (some name) text) ∨ catalog.ModuleFault failure := by
  rw [importOne] at h
  rcases h.of_bind with h | ⟨imported, -, h⟩
  · exact absurd h not_fails_imported
  by_cases hknown : (imported.contains name || name == builtinModule) = true
  · simp only [hknown, if_true] at h
    exact absurd h Fails.not_pure
  simp only [hknown, if_false, Bool.false_eq_true] at h
  rcases parent with _ | package
  · exact make_fault h
  by_cases hpackage : (!catalog.isPackage package) = true
  · -- what is in no package is missing, whether the catalog has a module of that name or not
    simp only [hpackage, if_true] at h
    obtain rfl := h.of_fail
    exact .inl ⟨_, rfl⟩
  · simp only [hpackage] at h
    exact make_fault h

/-- A module that is missing on the way is one of those that are opened. -/
lemma importChain_fault {front rest : List Text} {parent : Option Text}
    (h : Fails current failure (importChain catalog parent (prefixesFrom front rest))) :
    (∃ taken left text, taken ≠ [] ∧ taken ++ left = front ++ rest ∧
      failure = .moduleMissing (some (joined taken)) text) ∨ catalog.ModuleFault failure := by
  induction rest generalizing front parent with
  | nil => exact absurd h Fails.not_pure
  | cons part rest ih =>
    rw [prefixesFrom, importChain] at h
    -- the next module of the chain fails, or it is made and a later one fails
    rcases h.of_bind with h | ⟨_, -, h⟩
    · rcases importOne_fault h with ⟨text, rfl⟩ | hfault
      · have hne : front ++ [part] ≠ [] :=
          List.append_ne_nil_of_right_ne_nil front (List.cons_ne_nil part [])
        exact .inl ⟨front ++ [part], rest, text, hne, by simp, rfl⟩
      · exact .inr hfault
    · rw [List.append_cons]
      exact ih h

/-- A path starts with the name of the module that is missing on its way. -/
lemma importModule_fault {path : Text} (h : Fails current failure (catalog.importModule path)) :
    (∃ name text, Text.startsWith name path = true ∧
      failure = .moduleMissing (some name) text) ∨
      (Text.startsWith "." path = true ∧ failure = .relativeImport path) ∨
        catalog.ModuleFault failure := by
  unfold importModule at h
  split at h
  · rename_i hdot
    exact .inr (.inl ⟨hdot, h.of_fail⟩)
  · rw [pathPrefixes_eq] at h
    rcases importChain_fault h with ⟨taken, left, text, hne, htaken, rfl⟩ | hfault
    · refine .inl ⟨joined taken, text, ?_, rfl⟩
      rw [← intercalate_pathParts path, ← List.nil_append (pathParts path), ← htaken]
      exact startsWith_intercalate hne
    · exact .inr (.inr hfault)

/-! ## Looking up -/

/-- Such a module is passed over. -/
lemma tryImport_fault {m : Text} (h : Fails current failure (catalog.tryImport m)) :
    (Text.startsWith "." m = true ∧ failure = .relativeImport m) ∨
      catalog.ModuleFault failure := by
  obtain ⟨world, h⟩ := h
  rw [tryImport_apply] at h
  rcases himport : (catalog.importModule m current world).1 with failure' | _ <;>
    rw [himport] at h
  · rcases importModule_fault ⟨world, himport⟩ with ⟨name, text, hstart, rfl⟩ | hfault
    · -- a module on the way to the candidate is a miss of the candidate, so nothing fails
      rw [judged, isOwnMiss, if_pos hstart] at h
      exact absurd h (by simp)
    · -- what is judged to fail fails as the import did
      suffices hsame : failure = failure' from hsame ▸ hfault
      revert h
      unfold judged
      split
      · exact fun h => absurd h (by simp)
      · split
        · exact fun h => absurd h (by simp)
        · rename_i heq _
          exact fun h => (Except.error.inj h).symm.trans (Except.error.inj heq).symm
      · rename_i heq
        exact fun h => (Except.error.inj h).symm.trans (Except.error.inj heq).symm
  · exact absurd h (by simp [judged])

lemma firstClass_fault {tried : List (Text × Text)}
    (h : Fails current failure (catalog.firstClass tried)) :
    (∃ cut ∈ tried, Text.startsWith "." cut.1 = true ∧ failure = .relativeImport cut.1) ∨
      catalog.ModuleFault failure := by
  induction tried with
  | nil => exact absurd h Fails.not_pure
  | cons candidate rest ih =>
    obtain ⟨m, q⟩ := candidate
    have hrest : Fails current failure (catalog.firstClass rest) →
        (∃ cut ∈ (m, q) :: rest, Text.startsWith "." cut.1 = true ∧
          failure = .relativeImport cut.1) ∨ catalog.ModuleFault failure := by
      intro h
      rcases ih h with ⟨cut, hcut, hdot⟩ | hfault
      · exact .inl ⟨cut, List.mem_cons_of_mem _ hcut, hdot⟩
      · exact .inr hfault
    rcases hparts : m.isEmpty || q.isEmpty
    · -- the candidate is tried: its import fails, or the rest is left
      rw [firstClass_cons hparts] at h
      rcases h.of_bind with h | ⟨isThere, -, h⟩
      · rcases tryImport_fault h with hdot | hfault
        · exact .inl ⟨(m, q), List.mem_cons_self, hdot⟩
        · exact .inr hfault
      cases isThere with
      | false => exact hrest h
      | true =>
        rw [if_pos rfl] at h
        rcases h.of_bind with h | ⟨imported, -, h⟩
        · exact absurd h not_fails_imported
        split at h
        · exact absurd h Fails.not_pure
        · exact hrest h
    · rw [firstClass, if_pos hparts] at h
      exact hrest h

lemma resolve_fault {path : Text} (h : Fails current failure (catalog.resolve path)) :
    catalog.LookUpFault path failure := by
  rcases firstClass_fault h with ⟨cut, hcut, hdot, rfl⟩ | hfault
  · exact .relative hcut hdot
  · exact .module hfault

lemma loadClass_fault {path : Text} (h : Fails current failure (catalog.loadClass path)) :
    catalog.LookUpFault path failure :=
  resolve_fault h.of_map

/-- What a class path is split for fails of no more. -/
lemma split_fault {path : Text} (h : Fails current failure (catalog.split path)) :
    catalog.LookUpFault path failure := by
  rcases h.of_bind with h | ⟨found, -, h⟩
  · exact resolve_fault h
  · cases found <;> exact absurd h Fails.not_pure

/-- A path starts with the module of any candidate. -/
lemma startsWith_of_mem_candidates {path : Text} {cut : Text × Text}
    (hcut : cut ∈ candidates path) : Text.startsWith cut.1 path = true := by
  unfold candidates at hcut
  split at hcut
  · rename_i candidate hcolon
    obtain rfl := List.mem_singleton.1 hcut
    unfold splitAtColon? at hcolon
    simp only at hcolon
    split at hcolon
    · exact absurd hcolon nofun
    · obtain rfl := Option.some.inj hcolon
      rw [Text.startsWith, List.isPrefixOf_iff_prefix]
      exact List.takeWhile_prefix _
  · obtain ⟨⟨a, b⟩, hab, rfl⟩ := List.mem_map.1 hcut
    obtain ⟨ha, -, hparts⟩ := mem_cuts hab
    rw [← intercalate_pathParts path, ← hparts]
    exact startsWith_intercalate ha

/-! ## Answers -/

/-- What an answer about the class of a path fails of while an entry is being worked on. -/
inductive AnswerFault (catalog : Catalog) (path : Text) (current : Option Value) :
    Failure → Prop where
  /-- Looking the class up fails. -/
  | lookUp {failure : Failure} (h : catalog.LookUpFault path failure) :
      AnswerFault catalog path current failure
  /-- The class is not there, or cannot be read. -/
  | mistake {cause : Mistake} (h : AnswerMistake cause) :
      AnswerFault catalog path current (.mistake ⟨cause, current⟩)

/-- A method or a field that the definition binds is out of reach in the class that it is asked
of. -/
inductive OutOfReach (catalog : Catalog) (d : Definition) : Defect → Prop where
  | method {b : Binding} {c : Class} {defect : Defect} (hb : b ∈ d.methods)
      (hc : (catalog.require d.className).Yields (fun _ => True) c)
      (h : c.method b.method = .error defect) : OutOfReach catalog d defect
  | field {b : FieldBinding} {path : Text} {c : Class} {annotated : List ClassId}
      {defect : Defect} (hb : b ∈ d.fields) (howner : fieldOwner b.owner d.className = .str path)
      (hc : (catalog.require path).Yields (fun _ => True) c)
      (h : c.field? annotated path b.field = .error defect) : OutOfReach catalog d defect

/-- What an answer fails of that is asked for to compile the definition. -/
inductive RefusalFault (catalog : Catalog) (d : Definition) : Failure → Prop where
  /-- Of a class that the definition names. -/
  | answer {path : Text} {failure : Failure} (hnames : d.Names path)
      (h : catalog.AnswerFault path d.name.entry? failure) : RefusalFault catalog d failure
  /-- Of an attribute that it binds. -/
  | outOfReach {defect : Defect} (h : catalog.OutOfReach d defect) :
      RefusalFault catalog d (.defect defect)
  /-- Of the owner of a field, which is no text. -/
  | owner {b : FieldBinding} (hb : b ∈ d.fields)
      (howner : ∀ path, fieldOwner b.owner d.className ≠ .str path) :
      RefusalFault catalog d (ownerFailure (fieldOwner b.owner d.className))

variable {path : Text}

lemma require_fault (h : Fails current failure (catalog.require path)) :
    catalog.AnswerFault path current failure := by
  rcases h.of_bind with h | ⟨found, -, h⟩
  · exact .lookUp (loadClass_fault h)
  cases found with
  | none =>
    obtain rfl := h.of_mistaken
    exact .mistake (.unknownClass _)
  | some c => exact absurd h Fails.not_pure

lemma fails_reached {α : Type} {result : Except Defect α}
    (h : Fails current failure (reached result)) :
    ∃ defect, result = .error defect ∧ failure = .defect defect := by
  cases result with
  | ok a => exact absurd h Fails.not_pure
  | error defect => exact ⟨defect, rfl, h.of_fail⟩

lemma constructor_fault (h : Fails current failure (catalog.constructor path)) :
    catalog.AnswerFault path current failure := by
  rcases h.of_bind with h | ⟨c, -, h⟩
  · exact require_fault h
  split at h
  · exact absurd h Fails.not_pure
  · obtain rfl := h.of_mistaken
    exact .mistake (.unreadableConstructor _ _)

lemma method_fault {name : Text} (h : Fails current failure (catalog.method path name)) :
    catalog.AnswerFault path current failure ∨
      ∃ c defect, (catalog.require path).Yields (fun _ => True) c ∧
        c.method name = .error defect ∧ failure = .defect defect := by
  rcases h.of_bind with h | ⟨c, hc, h⟩
  · exact .inl (require_fault h)
  rcases h.of_bind with h | ⟨found, -, h⟩
  · obtain ⟨defect, hdefect, rfl⟩ := fails_reached h
    exact .inr ⟨c, defect, hc, hdefect, rfl⟩
  have hmarked : ∀ next : Run (Option Callable), Fails current failure
      (if (name == Layer.annotationsKey) = true then Run.markAnnotated c.own.id >>= fun _ => next
        else next) → Fails current failure next := by
    intro next h
    split at h
    · rcases h.of_bind with h | ⟨_, -, h⟩
      · exact absurd h not_fails_markAnnotated
      · exact h
    · exact h
  cases found with
  | ok callable => exact absurd (hmarked _ h) Fails.not_pure
  | error cause =>
    obtain rfl := (hmarked _ h).of_mistaken
    exact .inl (.mistake (.unreadableSignature _ _ _))

lemma field_fault {name : Text} (h : Fails current failure (catalog.field (.str path) name)) :
    catalog.AnswerFault path current failure ∨
      ∃ c annotated defect, (catalog.require path).Yields (fun _ => True) c ∧
        c.field? annotated path name = .error defect ∧ failure = .defect defect := by
  rcases h.of_bind with h | ⟨c, hc, h⟩
  · exact .inl (require_fault h)
  rcases h.of_bind with h | ⟨annotated, -, h⟩
  · exact absurd h not_fails_annotated
  · obtain ⟨defect, hdefect, rfl⟩ := fails_reached h
    exact .inr ⟨c, annotated, defect, hc, hdefect, rfl⟩

/-- No class can be looked up for an owner that is no text. -/
lemma field_owner_fault {owner : Value} {name : Text} (howner : ∀ path, owner ≠ .str path)
    (h : Fails current failure (catalog.field owner name)) : failure = ownerFailure owner := by
  cases owner with
  | str path => exact absurd rfl (howner path)
  | _ => exact h.of_fail

/-- An answer that a compilation asks for fails like this: it is about a class that the definition
names, about an attribute that it binds, or about the owner of a field that is no text. -/
theorem refuses_fault {d : Definition} (h : catalog.introspector.Refuses d failure) :
    catalog.RefusalFault d failure := by
  cases h with
  | exists? h => exact .answer (.inl rfl) (.lookUp (loadClass_fault h.of_map))
  | isInstantiable h => exact .answer (.inl rfl) (.lookUp (loadClass_fault h.of_map))
  | constructor h => exact .answer (.inl rfl) (constructor_fault h)
  | method hb h =>
    rcases method_fault h with h | ⟨c, defect, hc, hdefect, rfl⟩
    · exact .answer (.inl rfl) h
    · exact .outOfReach (.method hb hc hdefect)
  | @field b hb h =>
    by_cases howner : ∃ path, fieldOwner b.owner d.className = .str path
    · obtain ⟨path, howner⟩ := howner
      rw [howner] at h
      rcases field_fault h with h | ⟨c, annotated, defect, hc, hdefect, rfl⟩
      · exact .answer (.inr ⟨b, hb, howner⟩) h
      · exact .outOfReach (.field hb howner hc hdefect)
    · have howner : ∀ path, fieldOwner b.owner d.className ≠ .str path :=
        fun path hpath => howner ⟨path, hpath⟩
      obtain rfl := field_owner_fault howner h
      exact .owner hb howner

/-! ## Described modules -/

/-- A described module is missing on purpose, or cannot be made. -/
lemma makeModule_fault {d : ModuleDescription} (h : (makeModule d).fault = some failure) :
    (∃ name text, failure = .moduleMissing name text) ∨ ∃ defect, failure = .defect defect := by
  unfold makeModule at h
  split at h
  · exact .inl ⟨_, _, (Option.some.inj h).symm⟩
  · split at h
    · exact absurd h (by simp)
    · exact .inr ⟨_, (Option.some.inj h).symm⟩

/-- Looking up among described modules never fails of a mistake. -/
lemma lookUpFault_ofDescriptions {descriptions : List ModuleDescription} {path : Text}
    (h : (ofDescriptions descriptions).LookUpFault path failure) :
    (∃ m, failure = .relativeImport m) ∨ (∃ name text, failure = .moduleMissing name text) ∨
      ∃ defect, failure = .defect defect := by
  cases h with
  | relative hcut hdot => exact .inl ⟨_, rfl⟩
  | module h =>
    obtain ⟨m, hm, hfault⟩ := h
    refine .inr ?_
    rcases List.mem_cons.1 hm with rfl | hm
    · exact absurd hfault nofun
    · obtain ⟨d, -, rfl⟩ := List.mem_map.1 hm
      exact makeModule_fault hfault

/-- Where all modules can be made, looking up fails only of a path that starts with a dot. -/
lemma lookUpFault_of_sound {path : Text} (hmodules : ∀ m ∈ catalog.modules, m.fault = none)
    (h : catalog.LookUpFault path failure) :
    Text.startsWith "." path = true ∧ ∃ m, failure = .relativeImport m := by
  cases h with
  | relative hcut hdot =>
    have hstart := startsWith_of_mem_candidates hcut
    rw [Text.startsWith, List.isPrefixOf_iff_prefix] at hdot hstart
    refine ⟨?_, _, rfl⟩
    rw [Text.startsWith, List.isPrefixOf_iff_prefix]
    exact hdot.trans hstart
  | module h =>
    obtain ⟨m, hm, hfault⟩ := h
    exact absurd (hmodules m hm) (by simp [hfault])

end Catalog

end Blueprint
