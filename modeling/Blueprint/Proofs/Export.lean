/-
# What an export leaves behind

An export compiles, makes its directory, writes the payload and only then makes and writes the
module of factories.  So it does not keep to all or nothing: where the plans have a payload but no
module, the payload is written before that is found out.  The main statement says that this is the
only way out.  An export that succeeds leaves both files, with the texts of the same plans; one that
fails because of what it was to compile either leaves every file as it was, or fails at the module
and has written the payload, and no other file.

What is asked of the answers about classes and of the splitter is that they leave the files alone,
which those of a registry and of a catalog do.
-/
import Blueprint.Files.Export
import Blueprint.Proofs.Answers
import Blueprint.Proofs.Emission.Splits
import Blueprint.Proofs.Lookup

namespace Blueprint

/-- What failed is what was to be compiled: it does not compile, cannot be rendered, or repeats an
entry. -/
def Failure.Rejects (failure : Failure) : Prop :=
  failure.isCompilation = true ∨ ∃ name, failure = .duplicateEntry name

lemma Failure.not_rejects {failure : Failure} (hcompilation : failure.isCompilation = false)
    (hduplicate : ∀ name, failure ≠ .duplicateEntry name) : ¬ failure.Rejects := by
  rintro (h | ⟨name, h⟩)
  · exact Bool.false_ne_true (hcompilation.symm.trans h)
  · exact hduplicate name h

/-! ## Trees -/

namespace FileTree

variable {tree tree' : FileTree} {path : FilePath} {place : Place}

/-- The file of a path holds a text. -/
def Holds (tree : FileTree) (path : FilePath) (text : Text) : Prop :=
  ∃ bytes, Text.Utf8.encodeText text = .ok bytes ∧ tree.read path = .ok bytes

/-- No file but that of a path has changed. -/
def KeptBut (path : FilePath) (before after : FileTree) : Prop :=
  ∀ place, after.locate path ≠ .ok place → after.bytes? place = before.bytes? place

/-- Where a path leads depends on the directories only. -/
lemma walk_congr {parts : List String} {start : Place} (h : tree.walk start parts = .ok place)
    (hd : tree'.directories = tree.directories) : tree'.walk start parts = .ok place := by
  have hdirectory : ∀ p, tree'.hasDirectory p = tree.hasDirectory p := by
    intro p
    rw [hasDirectory, hasDirectory, hd]
  induction parts generalizing start with
  | nil => exact h
  | cons part rest ih =>
    rw [walk] at h ⊢
    rw [hdirectory]
    -- both walks stop at the same check, or take the same step
    split at h
    · exact absurd h (by simp)
    · rename_i hstart
      rw [if_neg hstart]
      split at h
      · exact absurd h (by simp)
      · rename_i hlong
        rw [if_neg hlong]
        exact ih h

lemma locate_congr (h : tree.locate path = .ok place)
    (hd : tree'.directories = tree.directories) : tree'.locate path = .ok place := by
  rw [locate] at h ⊢
  split at h
  · exact absurd h (by simp)
  · rename_i hlong
    rw [if_neg hlong]
    exact walk_congr h hd

lemma walk_append {start : Place} {parts : List String} {part : String}
    (h : tree.walk start (parts ++ [part]) = .ok place) :
    ∃ around : Place, place = around.enter part := by
  induction parts generalizing start with
  | nil =>
    simp only [List.nil_append, walk] at h
    split at h
    · exact absurd h (by simp)
    · split at h
      · exact absurd h (by simp)
      · exact ⟨start, (Except.ok.inj h).symm⟩
  | cons first rest ih =>
    rw [List.cons_append, walk] at h
    split at h
    · exact absurd h (by simp)
    · split at h
      · exact absurd h (by simp)
      · exact ih h

lemma getLast?_of_locate_child {part : String} (hpart : part ≠ aroundName)
    (h : tree.locate (path.child part) = .ok place) : place.getLast? = some part := by
  rw [locate] at h
  split at h
  · exact absurd h (by simp)
  · obtain ⟨around, rfl⟩ := walk_append h
    simp [Place.enter, hpart]

/-- Two names in one directory are two places. -/
lemma locate_child_ne {part part' : String} {place' : Place} (hpart : part ≠ aroundName)
    (hpart' : part' ≠ aroundName) (hne : part ≠ part')
    (h : tree.locate (path.child part) = .ok place)
    (h' : tree'.locate (path.child part') = .ok place') : place ≠ place' := by
  rintro rfl
  have hlast := getLast?_of_locate_child hpart h
  exact hne (Option.some.inj (hlast.symm.trans (getLast?_of_locate_child hpart' h')))

lemma read_eq_ok {bytes : List UInt8} :
    tree.read path = .ok bytes ↔ ∃ place, tree.locate path = .ok place ∧
      tree.hasDirectory place = false ∧ tree.bytes? place = some bytes := by
  unfold read
  -- the path leads nowhere, or to a directory, or to what is or is not a file
  rcases hlocate : tree.locate path with fault | place
  · exact iff_of_false nofun nofun
  · simp only [bind, Except.bind, Except.ok.injEq, exists_eq_left']
    split
    · rename_i hdirectory
      simp [hdirectory]
    · rename_i hdirectory
      rcases hbytes : tree.bytes? place with _ | bytes' <;> simp [hdirectory]

/-- A file is written: it holds the text, and nothing else has changed. -/
structure Writes (path : FilePath) (text : Text) (before after : FileTree) : Prop where
  directories : after.directories = before.directories
  holds : after.Holds path text
  kept : KeptBut path before after

lemma writes_of_write {bytes : List UInt8} {text : Text}
    (henc : Text.Utf8.encodeText text = .ok bytes) (h : tree.write path bytes = .ok tree') :
    Writes path text tree tree' := by
  unfold write at h
  rcases hlocate : tree.locate path with fault | place <;> rw [hlocate] at h
  · exact absurd h nofun
  simp only [bind, Except.bind] at h
  split at h
  · exact absurd h nofun
  rename_i hdirectory
  obtain rfl := Except.ok.inj h
  -- the path still leads to the same place, and there are the bytes that were put
  have hlocate' :
      ({ tree with files := Entries.put place bytes tree.files } : FileTree).locate path =
        .ok place := locate_congr hlocate rfl
  have hfile : tree.hasDirectory place = false := by simpa using hdirectory
  have hread := read_eq_ok.2 ⟨place, hlocate', hfile, Entries.get?_put_self place bytes tree.files⟩
  refine ⟨rfl, ⟨bytes, henc, hread⟩, fun other hother => ?_⟩
  refine Entries.get?_put_of_ne ?_ bytes tree.files
  rintro rfl
  exact hother hlocate'

/-- What a file holds stays when another of the same directory is written. -/
lemma Writes.holds_child {part part' : String} {text text' : Text} (hpart : part ≠ aroundName)
    (hpart' : part' ≠ aroundName) (hne : part ≠ part')
    (h : Writes (path.child part') text' tree tree') (hholds : tree.Holds (path.child part) text) :
    tree'.Holds (path.child part) text := by
  obtain ⟨bytes, henc, hread⟩ := hholds
  obtain ⟨place, hlocate, hdirectory, hbytes⟩ := read_eq_ok.1 hread
  have hdirectory' : tree'.hasDirectory place = false := by
    rw [hasDirectory, h.directories]
    exact hdirectory
  refine ⟨bytes, henc, read_eq_ok.2 ⟨place, locate_congr hlocate h.directories, hdirectory', ?_⟩⟩
  rw [h.kept place fun hlocate' => locate_child_ne hpart hpart' hne hlocate hlocate' rfl]
  exact hbytes

lemma makeDirectory_files (h : tree.makeDirectory path = .ok tree') : tree'.files = tree.files := by
  unfold makeDirectory at h
  rcases hlocate : tree.locate path with fault | place <;> rw [hlocate] at h
  · exact absurd h nofun
  · simp only [bind, Except.bind] at h
    split at h
    · exact absurd h nofun
    · rw [← Except.ok.inj h]

end FileTree

/-! ## Using files -/

namespace Run

variable {path : FilePath} {entry : Option Value} {world world' : World}

lemma useFiles_cases {α : Type} (path : FilePath) (use : FileTree → Except FileFault α)
    (entry : Option Value) (world : World) :
    (∃ a, use world.files = .ok a ∧ useFiles path use entry world = (.ok a, world)) ∨
      ∃ failure, ¬ failure.Rejects ∧ useFiles path use entry world = (.error failure, world) := by
  unfold useFiles
  by_cases hp : path.holdsNull = true
  · simp only [hp, if_true]
    exact .inr ⟨.nullInPath, Failure.not_rejects rfl (by simp), rfl⟩
  · simp only [hp]
    rcases hu : use world.files with fault | a
    · refine .inr ⟨.file fault path.text, Failure.not_rejects rfl (by simp), ?_⟩
      simp only [bind_apply, files_apply, hu, Bool.false_eq_true, if_false, fail_apply]
    · refine .inl ⟨a, rfl, ?_⟩
      simp only [bind_apply, files_apply, hu, Bool.false_eq_true, if_false, pure_apply]

/-- Writing succeeds, or fails for what has nothing to do with where the text comes from. -/
lemma writeText_cases (path : FilePath) (text : Text) (entry : Option Value) (world : World) :
    (∃ world', writeText path text entry world = (.ok (), world') ∧
        FileTree.Writes path text world.files world'.files) ∨
      ∃ failure world', writeText path text entry world = (.error failure, world') ∧
        ¬ failure.Rejects := by
  unfold writeText
  rcases henc : Text.Utf8.encodeText text with fault | bytes
  · -- a text that cannot be encoded leaves an empty file behind and fails
    right
    rcases useFiles_cases path (fun tree => tree.write path []) entry world with
      ⟨tree, -, hr⟩ | ⟨failure, hf, hr⟩
    · have hspared : ¬ (Failure.unencodable fault).Rejects := Failure.not_rejects rfl (by simp)
      refine ⟨.unencodable fault, { world with files := tree }, ?_, hspared⟩
      simp only [bind_apply, hr, setFiles_apply, fail_apply]
    · exact ⟨failure, world, by simp only [bind_apply, hr], hf⟩
  · rcases useFiles_cases path (fun tree => tree.write path bytes) entry world with
      ⟨tree, hu, hr⟩ | ⟨failure, hf, hr⟩
    · exact .inl ⟨{ world with files := tree }, by simp only [bind_apply, hr, setFiles_apply],
        FileTree.writes_of_write henc hu⟩
    · exact .inr ⟨failure, world, by simp only [bind_apply, hr], hf⟩

/-- The run changes no file, and does not fail for what was to be compiled. -/
def IsMild {α : Type} (x : Run α) : Prop :=
  ∀ entry world, (x entry world).2.files.files = world.files.files ∧
    ∀ failure, (x entry world).1 = .error failure → ¬ failure.Rejects

namespace IsMild

variable {α β : Type} {x : Run α}

protected lemma pure (a : α) : IsMild (Pure.pure a : Run α) :=
  fun _ _ => ⟨rfl, nofun⟩

lemma fail {failure : Failure} (h : ¬ failure.Rejects) : IsMild (Run.fail failure : Run α) :=
  fun _ _ => ⟨rfl, fun _ he => Except.error.inj he ▸ h⟩

protected lemma bind {f : α → Run β} (hx : IsMild x) (hf : ∀ a, IsMild (f a)) :
    IsMild (x >>= f) := by
  intro entry world
  obtain ⟨hfiles, hfails⟩ := hx entry world
  rw [bind_apply]
  rcases hw : x entry world with ⟨failure | a, w⟩ <;> rw [hw] at hfiles hfails
  · exact ⟨hfiles, fun _ he => hfails _ (Except.error.inj he ▸ rfl)⟩
  · obtain ⟨hfiles', hfails'⟩ := hf a entry w
    exact ⟨hfiles'.trans hfiles, hfails'⟩

protected lemma recover {handler : Failure → Run α} (hx : IsMild x)
    (hh : ∀ failure, ¬ failure.Rejects → IsMild (handler failure)) :
    IsMild (x.recover handler) := by
  intro entry world
  obtain ⟨hfiles, hfails⟩ := hx entry world
  simp only [Run.recover_apply]
  rcases hw : x entry world with ⟨failure | a, w⟩ <;> rw [hw] at hfiles hfails
  · obtain ⟨hfiles', hfails'⟩ := hh failure (hfails failure rfl) entry w
    exact ⟨hfiles'.trans hfiles, hfails'⟩
  · refine ⟨hfiles, fun failure he => ?_⟩
    cases he

end IsMild

lemma makeOneDirectory_isMild (path : FilePath) : IsMild (makeOneDirectory path) := by
  intro entry world
  unfold makeOneDirectory
  rcases useFiles_cases path (fun tree => tree.makeDirectory path) entry world with
    ⟨tree, hu, hr⟩ | ⟨failure, hf, hr⟩
  · simp only [bind_apply, hr, setFiles_apply]
    exact ⟨FileTree.makeDirectory_files hu, nofun⟩
  · simp only [bind_apply, hr]
    exact ⟨trivial, fun _ he => Except.error.inj he ▸ hf⟩

lemma ensureDirectory_isMild (path : FilePath) :
    IsMild (ensureDirectory path (makeOneDirectory path)) := by
  refine .recover (makeOneDirectory_isMild path) fun failure hf => ?_
  have hthere : IsMild (do
      if !(← files).leadsToDirectory path then fail failure : Run Unit) := by
    refine .bind (fun _ _ => ⟨rfl, nofun⟩) fun tree => ?_
    cases tree.leadsToDirectory path with
    | true => exact .pure ()
    | false => exact .fail hf
  -- what is there already is asked for, unless the directory around it is missing
  cases failure with
  | file fault place =>
    cases fault with
    | missing => exact .fail hf
    | _ => exact hthere
  | _ => exact .fail hf

lemma makeDirectoryFrom_isMild (slashes : Nat) (parts : List String) :
    IsMild (makeDirectoryFrom slashes parts) := by
  induction parts with
  | nil => exact ensureDirectory_isMild _
  | cons part rest ih =>
    refine .recover (ensureDirectory_isMild _) fun failure hf => ?_
    -- for want of the directory around it that one is made first
    cases failure with
    | file fault place =>
      cases fault with
      | missing => exact .bind ih fun _ => ensureDirectory_isMild _
      | _ => exact .fail hf
    | _ => exact .fail hf

/-- Making directories changes no file, and fails for nothing that was to be compiled. -/
lemma makeDirectory_isMild (path : FilePath) : IsMild (makeDirectory path) :=
  makeDirectoryFrom_isMild path.slashes path.parts.reverse

end Run

/-! ## Exports -/

section Export

variable {types : Introspector} {split : Factory.Splitter}

/-- What an export does once its directory is there. -/
def writePlans (split : Factory.Splitter) (compiled : CompiledEntries) (directory : FilePath) :
    Run CompiledEntries := do
  Run.writeText (directory.child payloadFile) (← Run.ofExcept (compiledText compiled))
  Run.writeText (directory.child factoriesFile) (← FactoryModule.text split compiled)
  Run.note (.wrote (directory.child payloadFile).text (directory.child factoriesFile).text)
  return compiled

lemma exportDefinitions_eq (ds : List Definition) (directory : String) :
    exportDefinitions types split ds directory = (do
      let compiled ← compileAll types ds
      Run.makeDirectory (FilePath.ofText directory)
      writePlans split compiled (FilePath.ofText directory)) :=
  rfl

/-- The two files of an export are not the same. -/
lemma payloadFile_ne_factoriesFile :
    payloadFile ≠ aroundName ∧ factoriesFile ≠ aroundName ∧ payloadFile ≠ factoriesFile := by
  decide

/-- Once the directory is there, both files are written, from the same plans; or what fails has
nothing to do with the plans; or they have no payload, and nothing is written; or they have no
module, and the payload has been written. -/
lemma writePlans_cases (hsplit : ∀ path, Run.Keeps World.files (split path))
    (compiled : CompiledEntries) (directory : FilePath) (entry : Option Value) (world : World) :
    (∃ text factories world', compiledText compiled = .ok text ∧
        (∃ w, (FactoryModule.text split compiled entry w).1 = .ok factories) ∧
        world'.files.Holds (directory.child payloadFile) text ∧
        world'.files.Holds (directory.child factoriesFile) factories ∧
        writePlans split compiled directory entry world = (.ok compiled, world')) ∨
      ∃ failure world', writePlans split compiled directory entry world = (.error failure, world') ∧
        (¬ failure.Rejects ∨ (compiledText compiled = .error failure ∧ world' = world) ∨
          ∃ text, compiledText compiled = .ok text ∧
            (∃ w, (FactoryModule.text split compiled entry w).1 = .error failure) ∧
            FileTree.Writes (directory.child payloadFile) text world.files world'.files) := by
  unfold writePlans
  rcases hc : compiledText compiled with failure | text
  · refine .inr ⟨failure, world, ?_, .inr (.inl ⟨rfl, rfl⟩)⟩
    simp only [Run.bind_apply, Run.ofExcept, Run.fail_apply]
  simp only [Run.bind_apply, Run.ofExcept, Run.pure_apply]
  rcases Run.writeText_cases (directory.child payloadFile) text entry world with
    ⟨world₁, hw, hwrites⟩ | ⟨failure, world', hw, hf⟩
  rotate_left
  · exact .inr ⟨failure, world', by simp only [hw], .inl hf⟩
  have hkeeps : (FactoryModule.text split compiled entry world₁).2.files = world₁.files :=
    FactoryModule.text_inherited .keeps_files hsplit compiled entry world₁
  rcases hm : FactoryModule.text split compiled entry world₁ with ⟨failure | factories, world₂⟩ <;>
    rw [hm] at hkeeps
  · -- the module cannot be made, and the payload has been written
    refine .inr ⟨failure, world₂, by simp only [hw, hm],
      .inr (.inr ⟨text, rfl, ⟨world₁, by rw [hm]⟩, ?_⟩)⟩
    rw [hkeeps]
    exact hwrites
  rcases Run.writeText_cases (directory.child factoriesFile) factories entry world₂ with
    ⟨world₃, hw', hwrites'⟩ | ⟨failure, world', hw', hf⟩
  rotate_left
  · exact .inr ⟨failure, world', by simp only [hw, hm, hw'], .inl hf⟩
  obtain ⟨hpayload, hfactories, hne⟩ := payloadFile_ne_factoriesFile
  rw [← hkeeps] at hwrites
  refine .inl ⟨text, factories, _, rfl, ⟨world₁, by rw [hm]⟩, ?_, ?_,
    by simp only [hw, hm, hw']; rfl⟩
  · exact hwrites'.holds_child hpayload hfactories hne hwrites.holds
  · exact hwrites'.holds

/-- An export that succeeds leaves both files, with the texts of the same plans. -/
lemma exportDefinitions_of_ok (hsplit : ∀ path, Run.Keeps World.files (split path))
    {ds : List Definition} {directory : String} {entry : Option Value} {world world' : World}
    {compiled : CompiledEntries}
    (h : exportDefinitions types split ds directory entry world = (.ok compiled, world')) :
    (compileAll types ds entry world).1 = .ok compiled ∧
      ∃ text factories, compiledText compiled = .ok text ∧
        (∃ w, (FactoryModule.text split compiled entry w).1 = .ok factories) ∧
        world'.files.Holds ((FilePath.ofText directory).child payloadFile) text ∧
        world'.files.Holds ((FilePath.ofText directory).child factoriesFile) factories := by
  rw [exportDefinitions_eq] at h
  obtain ⟨compiled', world₁, hall, h⟩ := Run.bind_eq_ok h
  obtain ⟨-, world₂, -, h⟩ := Run.bind_eq_ok h
  rcases writePlans_cases hsplit compiled' (FilePath.ofText directory) entry world₂ with
    ⟨text, factories, world₃, htext, hfactories, hholds, hholds', hwrite⟩ | ⟨_, _, hwrite, -⟩
  · obtain ⟨hc, rfl⟩ := Prod.mk.inj (hwrite.symm.trans h)
    obtain rfl := Except.ok.inj hc
    exact ⟨by rw [hall], text, factories, htext, hfactories, hholds, hholds'⟩
  · exact absurd (Prod.mk.inj (hwrite.symm.trans h)).1 (by simp)

/-- An export that fails for what was to be compiled has changed no file where there are no plans or
they have no payload; where they have one, it fails at the text of the module, and has written the
payload and no other file. -/
lemma exportDefinitions_of_error (htypes : types.Answers (Run.Keeps World.files))
    (hsplit : ∀ path, Run.Keeps World.files (split path)) {ds : List Definition}
    {directory : String} {entry : Option Value} {world world' : World} {failure : Failure}
    (h : exportDefinitions types split ds directory entry world = (.error failure, world'))
    (hrejects : failure.Rejects) :
    ((∀ place, world'.files.bytes? place = world.files.bytes? place) ∧
      ((compileAll types ds entry world).1 = .error failure ∨
        ∃ compiled, (compileAll types ds entry world).1 = .ok compiled ∧
          compiledText compiled = .error failure)) ∨
      ∃ compiled text, (compileAll types ds entry world).1 = .ok compiled ∧
        compiledText compiled = .ok text ∧
        (∃ w, (FactoryModule.text split compiled entry w).1 = .error failure) ∧
        world'.files.Holds ((FilePath.ofText directory).child payloadFile) text ∧
        FileTree.KeptBut ((FilePath.ofText directory).child payloadFile) world.files
          world'.files := by
  have hfiles := compileAll_inherited .keeps_files htypes ds entry world
  rw [exportDefinitions_eq] at h
  rcases Run.bind_eq_error h with hall | ⟨compiled, world₁, hall, h⟩
  · rw [hall] at hfiles
    exact .inl ⟨fun place => by rw [hfiles], .inl (by rw [hall])⟩
  rw [hall] at hfiles
  obtain ⟨hkept, hspared⟩ := Run.makeDirectory_isMild (FilePath.ofText directory) entry world₁
  rcases Run.bind_eq_error h with hmake | ⟨_, world₂, hmake, h⟩
  · exact absurd hrejects (hspared failure (by rw [hmake]))
  rw [hmake] at hkept
  have hbytes : ∀ place, world₂.files.bytes? place = world.files.bytes? place := by
    intro place
    rw [← hfiles]
    exact congrArg (Entries.get? place) hkept
  rcases writePlans_cases hsplit compiled (FilePath.ofText directory) entry world₂ with
    ⟨_, _, _, -, -, -, -, hwrite⟩ | ⟨failure', world₃, hwrite, hcases⟩
  · exact absurd (Prod.mk.inj (hwrite.symm.trans h)).1 nofun
  obtain ⟨hf, rfl⟩ := Prod.mk.inj (hwrite.symm.trans h)
  obtain rfl := Except.error.inj hf
  rcases hcases with hspared | ⟨htext, rfl⟩ | ⟨text, htext, hmodule, hwrites⟩
  · exact absurd hrejects hspared
  · exact .inl ⟨hbytes, .inr ⟨compiled, by rw [hall], htext⟩⟩
  · refine .inr ⟨compiled, text, by rw [hall], htext, hmodule, hwrites.holds, ?_⟩
    intro place hplace
    rw [hwrites.kept place hplace, hbytes]

/-- An export that succeeds leaves both files, with the texts of the same plans.  One that fails for
what was to be compiled has changed no file where there are no plans or they have no payload; where
they have one, it fails at the text of the module, and has written the payload and no other file. -/
theorem exportDefinitions_files (htypes : types.Answers (Run.Keeps World.files))
    (hsplit : ∀ path, Run.Keeps World.files (split path)) (ds : List Definition)
    (directory : String) (entry : Option Value) (world : World) :
    (∀ compiled world', exportDefinitions types split ds directory entry world =
        (.ok compiled, world') →
      (compileAll types ds entry world).1 = .ok compiled ∧
        ∃ text factories, compiledText compiled = .ok text ∧
          (∃ w, (FactoryModule.text split compiled entry w).1 = .ok factories) ∧
          world'.files.Holds ((FilePath.ofText directory).child payloadFile) text ∧
          world'.files.Holds ((FilePath.ofText directory).child factoriesFile) factories) ∧
      ∀ failure world', exportDefinitions types split ds directory entry world =
          (.error failure, world') → failure.Rejects →
        ((∀ place, world'.files.bytes? place = world.files.bytes? place) ∧
          ((compileAll types ds entry world).1 = .error failure ∨
            ∃ compiled, (compileAll types ds entry world).1 = .ok compiled ∧
              compiledText compiled = .error failure)) ∨
          ∃ compiled text, (compileAll types ds entry world).1 = .ok compiled ∧
            compiledText compiled = .ok text ∧
            (∃ w, (FactoryModule.text split compiled entry w).1 = .error failure) ∧
            world'.files.Holds ((FilePath.ofText directory).child payloadFile) text ∧
            FileTree.KeptBut ((FilePath.ofText directory).child payloadFile) world.files
              world'.files := by
  constructor
  · exact fun compiled world' h => exportDefinitions_of_ok hsplit h
  · exact fun failure world' h hrejects => exportDefinitions_of_error htypes hsplit h hrejects

end Export

/-! ## An export into a directory that is in use -/

/-- A registry of a class that no module holds. -/
def Registry.unqualified : Registry :=
  ⟨[{ name := "Widget", isInstantiable := true, constructor := none, methods := [], fields := [] }]⟩

/-- A definition of that class. -/
def widget : Definition :=
  { name := .str "w", className := "Widget", isLazy := false, constructor := none, fields := [],
    methods := [] }

/-- A world with the files of an earlier export. -/
def exportedBefore : World :=
  { files := ⟨[(["out", payloadFile], [1]), (["out", factoriesFile], [2])], [["out"]]⟩ }

/-- The class compiles and has no text: the payload is new, and the factories are still the old
ones. -/
theorem widget_export :
    ∃ world' text,
      exportDefinitions Registry.unqualified.introspector (Catalog.split ⟨[]⟩) [widget] "out" none
          exportedBefore = (.error (.mismatch (.unqualifiedClass "Widget")), world') ∧
        world'.files.Holds ((FilePath.ofText "out").child payloadFile) text ∧
        world'.files.bytes? ["out", factoriesFile] = some [2] := by
  have htypes : Registry.unqualified.introspector.Answers (Run.Keeps World.files) :=
    Registry.introspector_answers .keeps_files _
  obtain ⟨-, hfails⟩ :=
    exportDefinitions_files htypes (Catalog.split_keeps ⟨[]⟩) [widget] "out" none exportedBefore
  let plans : CompiledEntries := [(.str "w", [.construct "Widget" [] []])]
  let compiledWorld : World :=
    { exportedBefore with log := [.compiling (.str "w") "Widget", .compiled 1] }
  have hall : compileAll Registry.unqualified.introspector [widget] none exportedBefore =
      (.ok plans, compiledWorld) := by rfl
  have hmake : Run.makeDirectory (FilePath.ofText "out") none compiledWorld =
      (.ok (), compiledWorld) := by rfl
  obtain ⟨payload, hpayload⟩ : ∃ payload, compiledText plans = .ok payload := by
    obtain ⟨json, hjson⟩ : ∃ json, Json.ofValue (compiledPayload plans) = .ok json := ⟨_, by rfl⟩
    have hdata : compiledData plans = .ok (compiledPayload plans) := by rfl
    refine ⟨json.toText, ?_⟩
    simp only [compiledText, hdata, bind, Except.bind, hjson]
    rfl
  obtain ⟨bytes, henc⟩ : ∃ bytes, Text.Utf8.encodeText (Text.ofString payload) = .ok bytes :=
    ⟨_, by rw [Text.Utf8.encodeText, Text.chars?_ofString]⟩
  let written : World :=
    { compiledWorld with
      files := ⟨[(["out", payloadFile], bytes), (["out", factoriesFile], [2])], [["out"]]⟩ }
  have hwrite :
      Run.writeText ((FilePath.ofText "out").child payloadFile) payload none compiledWorld =
        (.ok (), written) := by
    simp only [Run.writeText, henc]
    rfl
  have hmodule : (FactoryModule.text (Catalog.split ⟨[]⟩) plans none written).1 =
      .error (.mismatch (.unqualifiedClass "Widget")) := by rfl
  have hout : (exportDefinitions Registry.unqualified.introspector (Catalog.split ⟨[]⟩) [widget]
      "out" none exportedBefore).1 = .error (.mismatch (.unqualifiedClass "Widget")) := by
    rcases hm : FactoryModule.text (Catalog.split ⟨[]⟩) plans none written with ⟨result, world'⟩
    rw [hm] at hmodule
    obtain rfl : result = .error (.mismatch (.unqualifiedClass "Widget")) := hmodule
    have hread : Run.ofExcept (compiledText plans) none compiledWorld =
        (.ok payload, compiledWorld) := by
      rw [hpayload]
      rfl
    rw [exportDefinitions_eq, Run.bind_of_ok hall, Run.bind_of_ok hmake, writePlans,
      Run.bind_of_ok hread, Run.bind_of_ok hwrite, Run.bind_of_error hm]
  rcases hr : exportDefinitions Registry.unqualified.introspector (Catalog.split ⟨[]⟩) [widget]
    "out" none exportedBefore with ⟨outcome, world'⟩
  rw [hr] at hout
  obtain rfl : outcome = .error (.mismatch (.unqualifiedClass "Widget")) := hout
  refine ⟨world', ?_⟩
  rcases hfails _ world' hr (.inl rfl) with ⟨-, hfailed | ⟨compiled, hok, hno⟩⟩ |
    ⟨compiled, text, -, -, -, hholds, hkept⟩
  · rw [hall] at hfailed
    exact absurd hfailed nofun
  · rw [hall] at hok
    obtain rfl := Except.ok.inj hok
    exact absurd (hno.symm.trans hpayload) nofun
  · refine ⟨text, rfl, hholds, (hkept _ fun hlocate => ?_).trans (by rfl)⟩
    have hlast := FileTree.getLast?_of_locate_child payloadFile_ne_factoriesFile.1 hlocate
    exact absurd hlast (by decide)

end Blueprint
