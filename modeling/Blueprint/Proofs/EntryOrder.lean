/-
# The order of entries does not matter

Definitions with different names compile to the same plans in any order, and the payload of an
export is the same text.  Three things come together.  A pass over definitions whose names differ
succeeds if and only if each of them compiles, so it succeeds in every order, and its plans are
those of the definitions.  The members of an object are in the order of their keys, so the payloads
of the plans have one JSON text.  And what an export does to the files depends on them and on that
text: what two such exports do apart is to write to the log, and to write the module of factories,
which is in another file.
-/
import Blueprint.Proofs.Export
import Blueprint.Proofs.KeyOrder
import Blueprint.Proofs.Pass

namespace Blueprint

/-! ## Passes -/

namespace Pass

variable {types : Introspector} {ds ds' : List Definition}

/-- Where each definition compiles, and no two have one name, no definition ends the pass. -/
lemma not_endsAt_of_names (hnames : ds.Pairwise fun d e => d.name.Differs e.name)
    (hkeys : ∀ d ∈ ds, d.name.unhashable? = none)
    (hplans : ∀ d ∈ ds, ∃ plan, types.outcome d = .ok plan) :
    ∀ i failure, ¬ EndsAt types ds i failure := by
  rintro i failure ⟨d, hd, he⟩
  obtain ⟨hi, rfl⟩ := List.getElem?_eq_some_iff.1 hd
  have hmem : ds[i] ∈ ds := List.getElem_mem hi
  refine not_ends_iff.2 ⟨hkeys _ hmem, ?_, .inl (hplans _ hmem)⟩ failure he
  rintro ⟨e, he, -, hsame⟩
  have hdiffers := (List.pairwise_append.1 (List.take_append_drop i ds ▸ hnames)).2.2 e he ds[i]
    (by rw [List.drop_eq_getElem_cons hi]; exact List.mem_cons_self)
  exact Bool.false_ne_true (hdiffers.1.symm.trans hsame)

/-- A pass over definitions whose names differ succeeds in every order, with the same plans. -/
lemma compileAll_of_perm (h : types.Answers Run.Steady)
    (hnames : ds.Pairwise fun d e => d.name.Differs e.name) (hperm : ds.Perm ds')
    {compiled : CompiledEntries} {entry : Option Value} {world : World}
    (hok : (compileAll types ds entry world).1 = .ok compiled) :
    compiled = plans types ds ∧ (plans types ds).Perm (plans types ds') ∧
      ∀ entry world, (compileAll types ds' entry world).1 = .ok (plans types ds') := by
  obtain ⟨hends, hmistakes, rfl⟩ := (compileAll_eq_ok_iff h entry world).1 hok
  refine ⟨rfl, hperm.filterMap _, fun entry world => ?_⟩
  have hnames' : ds'.Pairwise fun d e => d.name.Differs e.name :=
    (hperm.pairwise_iff fun h => h.symm).1 hnames
  have hkeys : ∀ d ∈ ds', d.name.unhashable? = none := by
    intro d hd
    obtain ⟨i, hi, rfl⟩ := List.getElem_of_mem (hperm.mem_iff.2 hd)
    have hgoes : ∀ failure, ¬ Ends types _ _ failure :=
      fun failure he => hends i failure ⟨_, List.getElem?_eq_getElem hi, he⟩
    exact (not_ends_iff.1 hgoes).1
  have hplans : ∀ d ∈ ds', ∃ plan, types.outcome d = .ok plan :=
    fun d hd => exists_plan hends hmistakes (hperm.mem_iff.2 hd)
  have hmistakes' : mistakes types ds' = [] :=
    (hmistakes ▸ hperm.filterMap _ : List.Perm [] (mistakes types ds')).nil_eq.symm
  exact (compileAll_eq_ok_iff h entry world).2
    ⟨not_endsAt_of_names hnames' hkeys hplans, hmistakes', rfl⟩

/-- The plans of a pass have the names of its definitions. -/
lemma exists_of_mem_plans {e : Value × Plan} (he : e ∈ plans types ds) :
    ∃ d ∈ ds, e.1 = d.name := by
  obtain ⟨d, hd, hplan⟩ := List.mem_filterMap.1 he
  refine ⟨d, hd, ?_⟩
  rcases ho : types.outcome d with failure | plan <;> rw [ho] at hplan
  · cases hplan
  · rw [← Option.some.inj hplan]

lemma pairwise_differs_plans (hnames : ds.Pairwise fun d e => d.name.Differs e.name) :
    (plans types ds).Pairwise fun a b => a.1.Differs b.1 := by
  refine List.pairwise_filterMap.2 (hnames.imp fun {d e} hdiffers a ha b hb => ?_)
  rcases hd : types.outcome d with failure | plan <;> rw [hd] at ha
  · cases ha
  rcases he : types.outcome e with failure | plan' <;> rw [he] at hb
  · cases hb
  rw [← Option.some.inj ha, ← Option.some.inj hb]
  exact hdiffers

end Pass

/-! ## Payloads -/

lemma jsonEntries_eq_map (entries : List (Value × Value)) :
    jsonEntries entries = entries.map fun e => (e.1, Json.ofValue e.2) := by
  induction entries with
  | nil => rw [jsonEntries, List.map_nil]
  | cons e rest ih => rw [jsonEntries, ih, List.map_cons]

/-- The keys of members can be their names. -/
lemma memberName_of_members {entries : List (Value × Except Failure Json)}
    {ms : List (Text × Json)} (h : members entries = .ok ms) :
    ∀ e ∈ entries, ∃ name, memberName e.1 = .ok name := by
  induction entries generalizing ms with
  | nil => simp
  | cons entry rest ih =>
    rw [members] at h
    -- the members are there, so neither a name, nor an item, nor the rest has failed
    rcases hname : memberName entry.1 with failure | name <;> rw [hname] at h
    · cases h
    rcases hitem : entry.2 with failure | json <;> rw [hitem] at h
    · cases h
    rcases hrest : members rest with failure | ms' <;> rw [hrest] at h
    · cases h
    intro e he
    rcases List.mem_cons.1 he with rfl | he
    · exact ⟨name, hname⟩
    · exact ih hrest e he

/-- A dictionary has one form in JSON, in whichever order its entries stand. -/
lemma Json.ofValue_dict_of_perm {entries entries' : List (Value × Value)} {json : Json}
    (hnan : ∀ e ∈ entries, e.1.number? ≠ some (.inr .nan))
    (hapart : entries.Pairwise fun a b => a.1.Differs b.1) (hperm : entries.Perm entries')
    (h : Json.ofValue (.dict entries) = .ok json) : Json.ofValue (.dict entries') = .ok json := by
  rw [Json.ofValue, jsonEntries_eq_map] at h ⊢
  rcases hsorted : sortEntries (entries.map fun e => (e.1, Json.ofValue e.2)) with
    failure | sorted <;> rw [hsorted] at h
  · cases h
  rcases hmembers : members sorted with failure | ms
  · simp [bind, Except.bind, hmembers] at h
  have hsorted' : sortEntries (entries'.map fun e => (e.1, Json.ofValue e.2)) = .ok sorted := by
    refine sortEntries_of_perm (fun e he => ?_) (fun e he => ?_) (List.pairwise_map.2 hapart)
      (hperm.map _) hsorted
    · exact memberName_of_members hmembers e ((sortEntries_perm hsorted).mem_iff.2 he)
    · obtain ⟨e', he', rfl⟩ := List.mem_map.1 he
      exact hnan e' he'
  rw [hsorted']
  exact h

/-- A text of named plans is their text in every order. -/
lemma compiledText_of_perm {compiled compiled' : CompiledEntries} {text : String}
    (hnan : ∀ e ∈ compiled, e.1.number? ≠ some (.inr .nan))
    (hapart : compiled.Pairwise fun a b => a.1.Differs b.1) (hperm : compiled.Perm compiled')
    (h : compiledText compiled = .ok text) : compiledText compiled' = .ok text := by
  have hone : ∀ entries : List (Value × Value),
      Json.ofValue (record [("entries", .dict entries)]) =
        (Json.ofValue (.dict entries)).map fun json => .object [("entries", json)] := by
    intro entries
    rw [record, List.map_cons, List.map_nil, Json.ofValue, jsonEntries, jsonEntries]
    rcases Json.ofValue (.dict entries) <;> rfl
  have hwritten : (compiled'.all fun e => planKeysWritten e.2) =
      compiled.all fun e => planKeysWritten e.2 := by
    rw [Bool.eq_iff_iff, List.all_eq_true, List.all_eq_true]
    exact forall_congr' fun e => imp_congr_left hperm.mem_iff.symm
  unfold compiledText compiledData at h ⊢
  rw [hwritten]
  rcases hkeys : compiled.all fun e => planKeysWritten e.2 with _ | _ <;>
    simp only [hkeys, if_true, Bool.false_eq_true, if_false, compiledPayload, bind, Except.bind,
      hone] at h ⊢
  · cases h
  rcases hjson : Json.ofValue (.dict (compiled.map fun e => (e.1, .list (planPayload e.2)))) with
    failure | json
  · simp only [hjson] at h
    cases h
  have hnan' : ∀ e ∈ compiled.map fun e => (e.1, Value.list (planPayload e.2)),
      e.1.number? ≠ some (.inr .nan) := by
    intro e he
    obtain ⟨e', he', rfl⟩ := List.mem_map.1 he
    exact hnan e' he'
  have hjson' :=
    Json.ofValue_dict_of_perm hnan' (List.pairwise_map.2 hapart) (hperm.map _) hjson
  simp only [hjson] at h
  simp only [hjson']
  exact h

/-- Named plans have one text, in whichever order they stand. -/
lemma compiledText_perm_iff {compiled compiled' : CompiledEntries}
    (hnan : ∀ e ∈ compiled, e.1.number? ≠ some (.inr .nan))
    (hapart : compiled.Pairwise fun a b => a.1.Differs b.1) (hperm : compiled.Perm compiled')
    (text : String) : compiledText compiled = .ok text ↔ compiledText compiled' = .ok text := by
  refine ⟨compiledText_of_perm hnan hapart hperm, compiledText_of_perm ?_ ?_ hperm.symm⟩
  · exact fun e he => hnan e (hperm.mem_iff.2 he)
  · exact (hperm.pairwise_iff fun h => h.symm).1 hapart

/-! ## Files -/

/-- What holds a text reads as its bytes. -/
lemma FileTree.Holds.read_eq {tree tree' : FileTree} {path : FilePath} {text : Text}
    (h : tree.Holds path text) (h' : tree'.Holds path text) : tree.read path = tree'.read path := by
  obtain ⟨bytes, henc, hread⟩ := h
  obtain ⟨bytes', henc', hread'⟩ := h'
  obtain rfl := Except.ok.inj (henc.symm.trans henc')
  exact hread.trans hread'.symm

namespace Run

variable {path : FilePath}

/-- The run sees nothing of the world but its files, where it changes them. -/
abbrev FollowsFiles {α : Type} (x : Run α) : Prop :=
  SteadyUpTo (fun world world' => world.files = world'.files) x

lemma files_followsFiles : FollowsFiles files :=
  fun _ _ _ h => ⟨congrArg Except.ok h, h⟩

lemma setFiles_followsFiles (tree : FileTree) : FollowsFiles (setFiles tree) :=
  fun _ _ _ _ => ⟨rfl, rfl⟩

lemma useFiles_followsFiles {α : Type} (use : FileTree → Except FileFault α) :
    FollowsFiles (useFiles path use) := by
  unfold useFiles
  split
  · exact .fail _
  · refine .bind files_followsFiles fun tree => ?_
    split
    · exact .pure _
    · exact .fail _

lemma writeText_followsFiles (path : FilePath) (text : Text) :
    FollowsFiles (writeText path text) := by
  have hwrite : ∀ bytes, FollowsFiles (do
      setFiles (← useFiles path fun tree => tree.write path bytes)) :=
    fun bytes => .bind (useFiles_followsFiles _) setFiles_followsFiles
  unfold writeText
  split
  · exact hwrite _
  · exact .bind (hwrite _) fun _ => .fail _

lemma ensureDirectory_followsFiles {make : Run Unit} (h : FollowsFiles make) :
    FollowsFiles (ensureDirectory path make) := by
  refine .recover h fun failure => ?_
  split
  · exact .fail _
  · refine .bind files_followsFiles fun tree => ?_
    split
    · exact .fail _
    · exact .pure _
  · exact .fail _

lemma makeDirectoryFrom_followsFiles (slashes : Nat) (parts : List String) :
    FollowsFiles (makeDirectoryFrom slashes parts) := by
  have hone : ∀ path, FollowsFiles (ensureDirectory path (makeOneDirectory path)) := fun path =>
    ensureDirectory_followsFiles (.bind (useFiles_followsFiles _) setFiles_followsFiles)
  induction parts with
  | nil => exact hone _
  | cons part rest ih =>
    refine .recover (hone _) fun failure => ?_
    split
    · exact .bind ih fun _ => hone _
    · exact .fail _

lemma makeDirectory_followsFiles (path : FilePath) : FollowsFiles (makeDirectory path) :=
  makeDirectoryFrom_followsFiles path.slashes path.parts.reverse

/-- Writing a file leaves what another file of the same directory holds, whether it succeeds or
not. -/
lemma writeText_stays {part part' : String} (text text' : Text) (hpart : part ≠ aroundName)
    (hpart' : part' ≠ aroundName) (hne : part ≠ part') :
    Stays (fun world => world.files.Holds (path.child part) text)
      (writeText (path.child part') text') := by
  have hwrite : ∀ {written bytes}, Text.Utf8.encodeText written = .ok bytes →
      Stays (fun world => world.files.Holds (path.child part) text) (do
        setFiles (← useFiles (path.child part') fun tree =>
          tree.write (path.child part') bytes)) := by
    intro written bytes henc entry world hholds
    rcases useFiles_cases (path.child part') (fun tree => tree.write (path.child part') bytes)
      entry world with ⟨tree, hu, hr⟩ | ⟨failure, -, hr⟩
    · simp only [bind_apply, hr, setFiles]
      exact (FileTree.writes_of_write henc hu).holds_child hpart hpart' hne hholds
    · simp only [bind_apply, hr]
      exact hholds
  have hempty : Text.Utf8.encodeText ⟨[]⟩ = .ok [] := by
    simp [Text.Utf8.encodeText, Text.chars?, Text.Utf8.encode]
  unfold writeText
  -- where the text cannot be encoded an empty file is written first
  rcases henc : Text.Utf8.encodeText text' with fault | bytes
  · exact .bind (hwrite hempty) (.always _) fun _ _ => .fail _
  · exact hwrite henc

end Run

/-! ## Exports -/

section Export

variable {types : Introspector} {split : Factory.Splitter}

/-- What the file of a payload reads as. -/
def payloadIn (directory : FilePath) (world : World) : Except FileFault (List UInt8) :=
  world.files.read (directory.child payloadFile)

lemma payloadIn_congr (directory : FilePath) {world world' : World}
    (h : world.files = world'.files) : payloadIn directory world = payloadIn directory world' := by
  rw [payloadIn, payloadIn, h]

/-- Two runs that start alike leave one payload if they do so from where the start succeeds. -/
lemma payloadIn_bind {α β : Type} {x : Run α} {f g : α → Run β} (hx : Run.FollowsFiles x)
    (directory : FilePath) {entry : Option Value} {world world' : World}
    (h : world.files = world'.files)
    (hfg : ∀ a w w', x entry world = (.ok a, w) → x entry world' = (.ok a, w') →
      w.files = w'.files →
        payloadIn directory (f a entry w).2 = payloadIn directory (g a entry w').2) :
    payloadIn directory ((x >>= f) entry world).2 =
      payloadIn directory ((x >>= g) entry world').2 := by
  obtain ⟨hsame, hfiles⟩ := hx entry world world' h
  rcases hw : x entry world with ⟨failure | a, w⟩ <;>
    rcases hw' : x entry world' with ⟨failure' | a', w'⟩ <;>
    rw [hw, hw'] at hsame hfiles
  · rw [Run.bind_of_error hw, Run.bind_of_error hw']
    exact payloadIn_congr directory hfiles
  · exact absurd hsame (by simp)
  · exact absurd hsame (by simp)
  · obtain rfl : a = a' := Except.ok.inj hsame
    rw [Run.bind_of_ok hw, Run.bind_of_ok hw']
    exact hfg a w w' hw hw' hfiles

/-- Once the payload is written, what an export goes on to do leaves it. -/
lemma writePlans_stays (hsplit : ∀ path, Run.Keeps World.files (split path))
    (compiled : CompiledEntries) (directory : FilePath) (text : Text) :
    Run.Stays (fun world => world.files.Holds (directory.child payloadFile) text) (do
      Run.writeText (directory.child factoriesFile) (← FactoryModule.text split compiled)
      Run.note (.wrote (directory.child payloadFile).text (directory.child factoriesFile).text)
      return compiled) := by
  obtain ⟨hpayload, hfactories, hne⟩ := payloadFile_ne_factoriesFile
  have hmodule : Run.Stays (fun world => world.files.Holds (directory.child payloadFile) text)
      (FactoryModule.text split compiled) := by
    intro entry world hholds
    rw [FactoryModule.text_inherited .keeps_files hsplit compiled entry world]
    exact hholds
  refine .bind hmodule (.always _) fun factories _ => ?_
  refine .bind (Run.writeText_stays text factories hpayload hfactories hne) (.always _)
    fun _ _ => ?_
  exact .bind (fun _ _ => id) (.always _) fun _ _ => .pure _

/-- Plans with one text, or with none, leave one payload in the same files. -/
lemma writePlans_read (hsplit : ∀ path, Run.Keeps World.files (split path))
    {compiled compiled' : CompiledEntries}
    (htext : ∀ text, compiledText compiled = .ok text ↔ compiledText compiled' = .ok text)
    (directory : FilePath) (entry : Option Value) {world world' : World}
    (hfiles : world.files = world'.files) :
    payloadIn directory (writePlans split compiled directory entry world).2 =
      payloadIn directory (writePlans split compiled' directory entry world').2 := by
  unfold writePlans
  rcases hc : compiledText compiled with failure | text
  · -- neither has a text, so no file is written
    obtain ⟨failure', hc'⟩ : ∃ failure', compiledText compiled' = .error failure' := by
      rcases hc' : compiledText compiled' with failure' | text
      · exact ⟨failure', rfl⟩
      · exact absurd (hc.symm.trans ((htext text).2 hc')) (by simp)
    simp only [hc', Run.bind_apply, Run.ofExcept, Run.fail]
    exact payloadIn_congr directory hfiles
  · have hc' : compiledText compiled' = .ok text := (htext text).1 hc
    simp only [hc', Run.ofExcept, pure_bind]
    have hholds : ∀ {w w₁},
        Run.writeText (directory.child payloadFile) text entry w = (.ok (), w₁) →
          w₁.files.Holds (directory.child payloadFile) text := by
      intro w w₁ hw
      rcases Run.writeText_cases (directory.child payloadFile) text entry w with
        ⟨w₂, hw', hwrites⟩ | ⟨failure, w₂, hw', -⟩
      · obtain ⟨-, rfl⟩ := Prod.mk.inj (hw.symm.trans hw')
        exact hwrites.holds
      · exact absurd (Prod.mk.inj (hw.symm.trans hw')).1 (by simp)
    refine payloadIn_bind (Run.writeText_followsFiles _ text) directory hfiles ?_
    intro _ w w' hw hw' _
    have hstays := writePlans_stays hsplit compiled directory text entry w (hholds hw)
    have hstays' := writePlans_stays hsplit compiled' directory text entry w' (hholds hw')
    exact hstays.read_eq hstays'

/-- Definitions that compile to plans with one text, or with none, leave one payload in the same
world. -/
lemma exportDefinitions_read (htypes : types.Answers (Run.Keeps World.files))
    (hsplit : ∀ path, Run.Keeps World.files (split path)) {ds ds' : List Definition}
    {compiled compiled' : CompiledEntries} {entry : Option Value} {world : World}
    (hok : (compileAll types ds entry world).1 = .ok compiled)
    (hok' : (compileAll types ds' entry world).1 = .ok compiled')
    (htext : ∀ text, compiledText compiled = .ok text ↔ compiledText compiled' = .ok text)
    (directory : String) :
    payloadIn (FilePath.ofText directory)
        (exportDefinitions types split ds directory entry world).2 =
      payloadIn (FilePath.ofText directory)
        (exportDefinitions types split ds' directory entry world).2 := by
  have hfiles : (compileAll types ds entry world).2.files =
      (compileAll types ds' entry world).2.files :=
    (compileAll_inherited .keeps_files htypes ds entry world).trans
      (compileAll_inherited .keeps_files htypes ds' entry world).symm
  rcases hw : compileAll types ds entry world with ⟨outcome, w⟩
  rcases hw' : compileAll types ds' entry world with ⟨outcome', w'⟩
  rw [hw] at hok hfiles
  rw [hw'] at hok' hfiles
  obtain rfl : outcome = .ok compiled := hok
  obtain rfl : outcome' = .ok compiled' := hok'
  rw [exportDefinitions_eq, exportDefinitions_eq, Run.bind_of_ok hw, Run.bind_of_ok hw']
  refine payloadIn_bind (Run.makeDirectory_followsFiles _) (FilePath.ofText directory) hfiles ?_
  exact fun _ _ _ _ _ hmade => writePlans_read hsplit htext _ entry hmade

end Export

/-- Definitions whose names differ, and that compile, compile in every order, each to the same plan.
The plans have the same text in every order, the file of the payload reads the same after an export,
whatever becomes of it, and after one that succeeds it holds this text.  Of the names only the
number that is no number is excepted there, as it has no place in the order of keys; the names of
entries are texts. -/
theorem Registry.export_of_perm (registry : Registry) (catalog : Catalog) {ds ds' : List Definition}
    {compiled : CompiledEntries} {entry : Option Value} {world : World}
    (hnames : ds.Pairwise fun d e => d.name.Differs e.name) (hperm : ds.Perm ds')
    (hok : (compileAll registry.introspector ds entry world).1 = .ok compiled) :
    ∃ compiled' : CompiledEntries,
      (∀ entry world, (compileAll registry.introspector ds' entry world).1 = .ok compiled') ∧
      compiled'.Perm compiled ∧
      ((∀ d ∈ ds, d.name.number? ≠ some (.inr .nan)) →
        (∀ text, compiledText compiled' = .ok text ↔ compiledText compiled = .ok text) ∧
        (∀ directory entry world,
          payloadIn (FilePath.ofText directory)
              (exportDefinitions registry.introspector catalog.split ds' directory entry world).2 =
            payloadIn (FilePath.ofText directory)
              (exportDefinitions registry.introspector catalog.split ds directory entry world).2) ∧
        ∀ directory entry world exported world',
          exportDefinitions registry.introspector catalog.split ds' directory entry world =
              (.ok exported, world') →
            ∃ text, compiledText compiled = .ok text ∧
              world'.files.Holds ((FilePath.ofText directory).child payloadFile) text) := by
  have hsteady : registry.introspector.Answers Run.Steady :=
    Registry.introspector_answers .steady _
  have hkeeps : registry.introspector.Answers (Run.Keeps World.files) :=
    Registry.introspector_answers .keeps_files _
  obtain ⟨rfl, hplans, hok'⟩ := Pass.compileAll_of_perm hsteady hnames hperm hok
  obtain ⟨-, -, hagain⟩ := Pass.compileAll_of_perm hsteady hnames (.refl ds) hok
  refine ⟨_, hok', hplans.symm, fun hnan => ?_⟩
  have hnan' : ∀ e ∈ Pass.plans registry.introspector ds, e.1.number? ≠ some (.inr .nan) := by
    intro e he
    obtain ⟨d, hd, hname⟩ := Pass.exists_of_mem_plans he
    exact hname ▸ hnan d hd
  have htext := compiledText_perm_iff hnan' (Pass.pairwise_differs_plans hnames) hplans
  have hsplit := Catalog.split_keeps catalog
  refine ⟨fun text => (htext text).symm, fun directory entry world => ?_, ?_⟩
  · exact (exportDefinitions_read hkeeps hsplit (hagain entry world) (hok' entry world) htext
      directory).symm
  · intro directory entry world exported world' hexport
    obtain ⟨hall, text, -, hexported, -, hholds, -⟩ := exportDefinitions_of_ok hsplit hexport
    obtain rfl := Except.ok.inj ((hok' entry world).symm.trans hall)
    exact ⟨text, (htext text).2 hexported, hholds⟩

/-- Two definitions of one class, in either order: they have a payload, and the file of it reads the
same. -/
theorem export_of_perm_swapped :
    ∃ compiled' text,
      (compileAll Registry.oneClass.introspector [Pass.bare "b" "app.A", Pass.bare "a" "app.A"] none
          {}).1 = .ok compiled' ∧
        compiledText compiled' = .ok text ∧
        payloadIn (FilePath.ofText "out") (exportDefinitions Registry.oneClass.introspector
            (Catalog.split ⟨[]⟩) [Pass.bare "b" "app.A", Pass.bare "a" "app.A"] "out" none {}).2 =
          payloadIn (FilePath.ofText "out") (exportDefinitions Registry.oneClass.introspector
            (Catalog.split ⟨[]⟩) [Pass.bare "a" "app.A", Pass.bare "b" "app.A"] "out" none
              {}).2 := by
  let plans : CompiledEntries :=
    [(.str "a", [.construct "app.A" [] []]), (.str "b", [.construct "app.A" [] []])]
  have hnames : [Pass.bare "a" "app.A", Pass.bare "b" "app.A"].Pairwise
      fun d e => d.name.Differs e.name :=
    List.pairwise_pair.2 ⟨rfl, rfl⟩
  have hok : (compileAll Registry.oneClass.introspector
      [Pass.bare "a" "app.A", Pass.bare "b" "app.A"] none {}).1 = .ok plans := by rfl
  obtain ⟨text, htext⟩ : ∃ text, compiledText plans = .ok text := by
    obtain ⟨json, hjson⟩ : ∃ json, Json.ofValue (compiledPayload plans) = .ok json := ⟨_, by rfl⟩
    have hdata : compiledData plans = .ok (compiledPayload plans) := by rfl
    refine ⟨json.toText, ?_⟩
    simp only [compiledText, hdata, bind, Except.bind, hjson]
    rfl
  obtain ⟨compiled', hok', -, hsame⟩ :=
    Registry.export_of_perm Registry.oneClass ⟨[]⟩ hnames (.swap _ _ _) hok
  obtain ⟨htexts, hread, -⟩ := hsame (by simp [Pass.bare, Value.number?])
  exact ⟨compiled', text, hok' none {}, (htexts text).2 htext, hread "out" none {}⟩

end Blueprint
