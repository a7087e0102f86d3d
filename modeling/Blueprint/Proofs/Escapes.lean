/-
# What gets through the front ends

The command line and the tools take definitions from outside, and both answer for most of what can
go wrong with them: a session reports it in its log and is rejected, a tool answers with its text.
This file follows the rest.  With modules that can all be made, what gets through is one of these:

* a class path that starts with a dot, which is taken for a relative import;
* an owner of a field that is no text, for which no class can be looked up;
* an attribute that a definition binds and that is out of reach in its class;
* declared defaults of which more follow one on another than there are;
* for a session, plans whose payload has no JSON text;
* for a tool, a text that is misread, and a number that has too many digits to be written, both of
  which a session reports;
* for both, a stack with less room than the input has levels.

The first four are of a definition that the compilation comes to (`Catalog.Escape`).  The main
statement is `frontEnds_outcome`; it is put together from what each stage fails of, in the order in
which a session or a tool goes through them.
-/
import Blueprint.CommandLine.Session
import Blueprint.Proofs.CatalogFaults
import Blueprint.Proofs.FrontEnds
import Blueprint.Stack

namespace Blueprint

open Run

namespace Run

variable {α : Type} {Q : Failure → Prop}

/-- Results and failures are looked at apart. -/
lemma Ensures.of_fails {x : Run α} {P : α → Prop} (hP : x.Ensures P fun _ => True)
    (h : ∀ current failure, Fails current failure x → Q failure) : x.Ensures P Q := by
  intro entry world
  have hx := hP entry world
  rcases hr : (x entry world).1 with failure | a
  · exact h entry failure ⟨world, hr⟩
  · rw [hr] at hx
    exact hx

lemma Ensures.of_failed {x : Run α} {P : α → Prop} {current : Option Value} {failure : Failure}
    (h : x.Ensures P Q) (hx : Fails current failure x) : Q failure := by
  obtain ⟨world, hx⟩ := hx
  have hQ := h current world
  rw [hx] at hQ
  exact hQ

end Run

/-! ## Compiling -/

namespace Catalog

variable {catalog : Catalog} {d : Definition} {current : Option Value} {failure : Failure}

/-- What gets through of the compilation of a definition. -/
inductive Escape (catalog : Catalog) (d : Definition) : Failure → Prop where
  /-- A class path starts with a dot. -/
  | relative {e : Definition} {path m : Text}
      (he : catalog.introspector.Reaches (fun _ => True) (.definition d) e) (hnames : e.Names path)
      (hdot : Text.startsWith "." path = true) : Escape catalog d (.relativeImport m)
  /-- The owner of a field is no text. -/
  | owner {e : Definition} {b : FieldBinding}
      (he : catalog.introspector.Reaches (fun _ => True) (.definition d) e) (hb : b ∈ e.fields)
      (howner : ∀ path, fieldOwner b.owner e.className ≠ .str path) :
      Escape catalog d (ownerFailure (fieldOwner b.owner e.className))
  /-- An attribute that is bound is out of reach. -/
  | attribute {e : Definition} {defect : Defect}
      (he : catalog.introspector.Reaches (fun _ => True) (.definition d) e)
      (h : catalog.OutOfReach e defect) : Escape catalog d (.defect defect)
  /-- A value that is no operand cannot be quoted. -/
  | unquotable (h : catalog.introspector.Unquotable (.definition d)) :
      Escape catalog d (.longNumber none)
  /-- More declared defaults follow one on another than there are. -/
  | circular (h : catalog.introspector.Chains (catalog.introspector.depth + 1) (.definition d)) :
      Escape catalog d .circularDefaults

variable (hmodules : ∀ m ∈ catalog.modules, m.fault = none)

include hmodules

/-- Of a compilation no more gets through than that: all else is a mistake or does not fit. -/
theorem faults_escape (h : catalog.introspector.CompileFaults d failure) :
    (∃ m, failure = .mistake m) ∨ (∃ cause, failure = .mismatch cause) ∨
      catalog.Escape d failure := by
  cases h with
  | mismatch cause => exact .inr (.inl ⟨cause, rfl⟩)
  | unquotable h => exact .inr (.inr (.unquotable h))
  | circular h => exact .inr (.inr (.circular h))
  | own he h => exact .inl ⟨_, rfl⟩
  | answer he h =>
    cases refuses_fault h with
    | answer hnames hfault =>
      cases hfault with
      | lookUp hfault =>
        obtain ⟨hdot, m, rfl⟩ := lookUpFault_of_sound hmodules hfault
        exact .inr (.inr (.relative he hnames hdot))
      | mistake hcause => exact .inl ⟨_, rfl⟩
    | outOfReach hreach => exact .inr (.inr (.attribute he hreach))
    | owner hb howner => exact .inr (.inr (.owner he hb howner))

end Catalog

/-! ## Files and what they hold -/

namespace CommandLine

/-- Whatever the run fails of is reported. -/
abbrev Reports {α : Type} (x : Run α) (P : α → Prop) : Prop :=
  x.Ensures P fun failure => isReported failure = true

section Files

variable {α : Type} {path : FilePath}

lemma files_reports : Reports Run.files fun _ => True :=
  fun _ _ => trivial

lemma setFiles_reports (tree : FileTree) : Reports (Run.setFiles tree) fun _ => True :=
  fun _ _ => trivial

lemma useFiles_reports (use : FileTree → Except FileFault α) :
    Reports (Run.useFiles path use) fun _ => True := by
  unfold Run.useFiles
  by_cases hnull : path.holdsNull = true
  · simp only [hnull, if_true]
    exact .bind (.fail (P := fun _ => False) rfl) fun _ h => h.elim
  · simp only [hnull]
    refine .bind files_reports fun tree _ => ?_
    cases use tree with
    | ok a => exact .pure trivial
    | error fault => exact .fail rfl

lemma readText_reports : Reports (Run.readText path) fun _ => True := by
  refine .bind (useFiles_reports _) fun bytes _ => ?_
  cases Text.Utf8.decode bytes with
  | error fault => exact .fail rfl
  | ok text => exact .pure trivial

lemma writeText_reports (text : Text) : Reports (Run.writeText path text) fun _ => True := by
  have hwrite : ∀ bytes, Reports (do
      Run.setFiles (← Run.useFiles path fun tree => tree.write path bytes)) fun _ => True :=
    fun bytes => .bind (useFiles_reports _) fun tree _ => setFiles_reports tree
  unfold Run.writeText
  cases Text.Utf8.encodeText text with
  | ok bytes => exact hwrite bytes
  | error fault => exact .bind (hwrite []) fun _ _ => .fail rfl

lemma ensureDirectory_reports {make : Run Unit} (h : Reports make fun _ => True) :
    Reports (Run.ensureDirectory path make) fun _ => True := by
  refine .recover h fun failure hfailure => ?_
  split
  · exact .fail rfl
  · refine .bind files_reports fun tree _ => ?_
    split
    · exact .fail rfl
    · exact .pure trivial
  · exact .fail hfailure

lemma makeDirectory_reports : Reports (Run.makeDirectory path) fun _ => True := by
  have hone : ∀ path, Reports (Run.ensureDirectory path (Run.makeOneDirectory path))
      fun _ => True := fun path =>
    ensureDirectory_reports (.bind (useFiles_reports _) fun tree _ => setFiles_reports tree)
  unfold Run.makeDirectory
  induction path.parts.reverse with
  | nil => exact hone _
  | cons part rest ih =>
    refine .recover (hone _) fun failure hfailure => ?_
    split
    · exact .bind ih fun _ _ => hone _
    · exact .fail hfailure

end Files

/-! ## Reading definitions -/

lemma isReported_of_entryFault {name : Value} {json : Json} {failure : Failure}
    (h : Definition.EntryFault name json failure) : isReported failure = true := by
  cases h with
  | head h => rfl
  | reading h =>
    cases h with
    | misread h => cases h <;> rfl
    | _ => rfl

lemma loadEntries_reports (members : List (Text × Json)) :
    Reports (Definition.loadEntries members) fun ds => ∀ d ∈ ds, ∃ name, d.name = .str name := by
  induction members with
  | nil => exact .pure (List.forall_mem_nil _)
  | cons e rest ih =>
    obtain ⟨name, json⟩ := e
    have hentry : Reports (Definition.loadEntry (.str name) json) fun d => d.name = .str name :=
      .of_fails (Definition.loadEntry_name _ _) fun current failure h =>
        isReported_of_entryFault (Definition.loadEntry_fault h)
    refine .bind hentry fun d hd => .bind ih fun ds hds => .pure ?_
    exact List.forall_mem_cons.2 ⟨⟨name, hd⟩, hds⟩

/-- The definitions of a file have texts for names, and whatever keeps them from being read is
reported. -/
lemma loadDefinitions_reports (path : String) :
    Reports (loadDefinitions path) fun ds => ∀ d ∈ ds, ∃ name, d.name = .str name := by
  refine .bind readText_reports fun text _ => .bind (P := fun _ => True) ?_ fun json _ => ?_
  · unfold readJson
    cases Json.Reader.read text.toList with
    | ok json => exact .pure trivial
    | error fault => exact .fail rfl
  · cases json with
    | object members => exact loadEntries_reports members
    | _ => exact .mistaken fun _ => rfl

end CommandLine

/-! ## Rendering plans -/

section Rendering

variable {catalog : Catalog} {types : Introspector}

/-- The names of plans are those of definitions. -/
lemma Pass.go_names {ds rest : List Definition} {compiled : CompiledEntries}
    {ms : List EntryMistake} (hcompiled : ∀ e ∈ compiled, ∃ d ∈ ds, e.1 = d.name)
    (hrest : rest ⊆ ds) :
    (go types compiled ms rest).Ensures (fun compiled => ∀ e ∈ compiled, ∃ d ∈ ds, e.1 = d.name)
      fun _ => True := by
  induction rest generalizing compiled ms with
  | nil =>
    rw [go]
    split
    · exact .bind (.note _ (P := fun _ => True) trivial) fun _ _ => .pure hcompiled
    · exact .fail trivial
  | cons d rest ih =>
    obtain ⟨hd, hrest⟩ := List.cons_subset.1 hrest
    rw [go]
    split
    · exact .fail trivial
    split
    · exact .fail trivial
    refine .bind (.always _) fun result _ => ?_
    -- a plan is added under the name of its definition; a mistake adds nothing
    split
    · refine ih (fun e he => ?_) hrest
      rcases List.mem_append.1 he with he | he
      · exact hcompiled e he
      · obtain rfl := List.mem_singleton.1 he
        exact ⟨d, hd, rfl⟩
    · exact .bind (.note _ (P := fun _ => True) trivial) fun _ _ => ih hcompiled hrest
    · exact .fail trivial

lemma compileAll_names (ds : List Definition) :
    (compileAll types ds).Ensures (fun compiled => ∀ e ∈ compiled, ∃ d ∈ ds, e.1 = d.name)
      fun _ => True :=
  Pass.go_names (List.forall_mem_nil _) (List.Subset.refl ds)

/-- One of the plans cannot be drafted, has something that cannot be written, or mentions a class
path that starts with a dot. -/
inductive IsDraftFault (plans : List Plan) : Failure → Prop where
  | mismatch (cause : Mismatch) : IsDraftFault plans (.mismatch cause)
  | unwritten {plan : Plan} (hplan : plan ∈ plans) (h : planWritten plan = false) :
      IsDraftFault plans (.longNumber none)
  | relative {plan : Plan} {path : Text} (m : Text) (hplan : plan ∈ plans)
      (hpath : .path (classPath path) ∈ plan.mentions) (h : Text.startsWith "." path = true) :
      IsDraftFault plans (.relativeImport m)

lemma drafts_composes (plans : List Plan) :
    Composes fun {_} x => x.Ensures (fun _ => True) (IsDraftFault plans) where
  pure _ := .pure trivial
  mismatched _ := .mismatched (.mismatch _)
  bind hx hf := .bind hx fun a _ => hf a

lemma drafts_bears {plans : List Plan} {plan : Plan} (hplan : plan ∈ plans) :
    Bears (fun {_} x => x.Ensures (fun _ => True) (IsDraftFault plans)) (planWritten plan) :=
  fun hwritten => .fail (.unwritten hplan hwritten)

variable (hmodules : ∀ m ∈ catalog.modules, m.fault = none)

include hmodules

lemma Catalog.split_drafts {plans : List Plan} {plan : Plan} (hplan : plan ∈ plans) :
    Factory.Splitter.Answers catalog.split
      (fun {_} x => x.Ensures (fun _ => True) (IsDraftFault plans)) plan.mentions :=
  fun path hpath => .of_fails (.always _) fun current failure h => by
    obtain ⟨hdot, m, rfl⟩ := lookUpFault_of_sound hmodules (split_fault h)
    exact .relative m hplan hpath hdot

omit hmodules in
lemma exists_labels {compiled : CompiledEntries}
    (hnames : ∀ e ∈ compiled, ∃ name, e.1 = .str name) :
    ∃ labels, (compiled.map Prod.fst).mapM Factory.label = .ok labels := by
  induction compiled with
  | nil => exact ⟨[], rfl⟩
  | cons e rest ih =>
    obtain ⟨⟨name, hname⟩, hrest⟩ := List.forall_mem_cons.1 hnames
    obtain ⟨labels, hlabels⟩ := ih hrest
    refine ⟨Factory.sanitize name :: labels, ?_⟩
    rw [List.map_cons, List.mapM_cons, hname, hlabels]
    rfl

/-- For entries whose names are texts, a module of factories can be made, but for plans that cannot
be drafted. -/
lemma FactoryModule.text_drafts {compiled : CompiledEntries}
    (hnames : ∀ e ∈ compiled, ∃ name, e.1 = .str name) :
    (FactoryModule.text catalog.split compiled).Ensures (fun _ => True)
      (IsDraftFault (compiled.map Prod.snd)) := by
  obtain ⟨labels, hlabels⟩ := exists_labels hnames
  simp only [FactoryModule.text, hlabels]
  refine .bind (.pure (P := fun _ => True) trivial) fun labels _ => ?_
  have hplan : ∀ names : List Text, ∀ e ∈ names.zip (compiled.map Prod.snd),
      e.2 ∈ compiled.map Prod.snd := fun names e he => (List.of_mem_zip he).2
  refine .bind (factoryTexts_inherits (drafts_composes _) (fun _ => .mismatched (.mismatch _))
    (fun e he => ?_) fun e he => ?_) fun factories _ => .pure trivial
  · exact Catalog.split_drafts hmodules (hplan _ e he)
  · exact drafts_bears (hplan _ e he)

end Rendering

/-! ## Sessions -/

namespace CommandLine

/-- What gets through a session, given the definitions of its file. -/
inductive SessionEscape (catalog : Catalog) (ds : List Definition) : Failure → Prop where
  /-- It gets through the compilation of a definition. -/
  | definition {d : Definition} {failure : Failure} (hd : d ∈ ds) (h : catalog.Escape d failure) :
      SessionEscape catalog ds failure
  /-- The payload of the plans has no JSON text. -/
  | payload {compiled : CompiledEntries} {failure : Failure}
      (hcompiled : (compileAll catalog.introspector ds).Yields (fun _ => True) compiled)
      (h : compiledText compiled = .error failure) : SessionEscape catalog ds failure
  /-- A class path in a plan starts with a dot. -/
  | relative {compiled : CompiledEntries} {e : Value × Plan} {path : Text} (m : Text)
      (hcompiled : (compileAll catalog.introspector ds).Yields (fun _ => True) compiled)
      (he : e ∈ compiled) (hpath : .path (classPath path) ∈ e.2.mentions)
      (h : Text.startsWith "." path = true) : SessionEscape catalog ds (.relativeImport m)

section Session

variable {catalog : Catalog} {ds : List Definition} {current : Option Value} {failure : Failure}

lemma draftFault_escapes {compiled : CompiledEntries}
    (hcompiled : (compileAll catalog.introspector ds).Yields (fun _ => True) compiled)
    (h : IsDraftFault (compiled.map Prod.snd) failure) :
    isReported failure = true ∨ SessionEscape catalog ds failure := by
  cases h with
  | mismatch cause => exact .inl rfl
  | unwritten => exact .inl rfl
  | relative m hplan hpath hdot =>
    obtain ⟨e, he, rfl⟩ := List.mem_map.1 hplan
    exact .inr (.relative m hcompiled he hpath hdot)

/-- The text of plans fails of their payload, if it does. -/
lemma payload_escapes {compiled : CompiledEntries}
    (hcompiled : (compileAll catalog.introspector ds).Yields (fun _ => True) compiled)
    (h : Fails current failure (Run.ofExcept (compiledText compiled))) :
    SessionEscape catalog ds failure := by
  rcases htext : compiledText compiled with failure' | text <;> rw [htext] at h
  · obtain rfl := h.of_fail
    exact .payload hcompiled htext
  · exact absurd h Fails.not_pure

variable (hmodules : ∀ m ∈ catalog.modules, m.fault = none)
  (hnames : ∀ d ∈ ds, ∃ name, d.name = .str name)

include hmodules hnames

lemma compileAll_escapes (h : Fails current failure (compileAll catalog.introspector ds)) :
    isReported failure = true ∨ SessionEscape catalog ds failure := by
  cases compileAll_faults h with
  | mistakes h => exact .inl rfl
  | duplicate name => exact .inl rfl
  | unhashable hd hkey =>
    -- definitions that were loaded have texts for names, and a text is a key
    obtain ⟨name, hname⟩ := hnames _ hd
    rw [hname] at hkey
    exact absurd hkey nofun
  | definition hd h hmistake =>
    rcases Catalog.faults_escape hmodules h with ⟨m, rfl⟩ | ⟨cause, rfl⟩ | h
    · exact absurd rfl (hmistake m)
    · exact .inl rfl
    · exact .inr (.definition hd h)

omit hmodules in
/-- The plans of a pass have texts for names. -/
lemma names_of_yields {compiled : CompiledEntries}
    (hcompiled : (compileAll catalog.introspector ds).Yields (fun _ => True) compiled) :
    ∀ e ∈ compiled, ∃ name, e.1 = .str name := by
  intro e he
  obtain ⟨d, hd, hname⟩ := (compileAll_names ds).of_yields hcompiled e he
  rw [hname]
  exact hnames d hd

lemma text_escapes {compiled : CompiledEntries}
    (hcompiled : (compileAll catalog.introspector ds).Yields (fun _ => True) compiled)
    (h : Fails current failure (FactoryModule.text catalog.split compiled)) :
    isReported failure = true ∨ SessionEscape catalog ds failure :=
  draftFault_escapes hcompiled ((FactoryModule.text_drafts hmodules
    (names_of_yields hnames hcompiled)).of_failed h)

lemma exportDefinitions_escapes {directory : String}
    (h : Fails current failure
      (exportDefinitions catalog.introspector catalog.split ds directory)) :
    isReported failure = true ∨ SessionEscape catalog ds failure := by
  -- the definitions are compiled
  rcases h.of_bind with h | ⟨compiled, hcompiled, h⟩
  · exact compileAll_escapes hmodules hnames h
  -- the directory is made
  rcases h.of_bind with h | ⟨_, -, h⟩
  · exact .inl (makeDirectory_reports.of_failed h)
  -- the plans are put as JSON and written
  rcases h.of_bind with h | ⟨payload, -, h⟩
  · exact .inr (payload_escapes hcompiled h)
  rcases h.of_bind with h | ⟨_, -, h⟩
  · exact .inl ((writeText_reports _).of_failed h)
  -- the factories are put as text and written
  rcases h.of_bind with h | ⟨factories, -, h⟩
  · exact text_escapes hmodules hnames hcompiled h
  rcases h.of_bind with h | ⟨_, -, h⟩
  · exact .inl ((writeText_reports _).of_failed h)
  · exact absurd h.of_map Fails.not_note

lemma render_escapes {compiled : CompiledEntries} {format : Format}
    (hcompiled : (compileAll catalog.introspector ds).Yields (fun _ => True) compiled)
    (h : Fails current failure (render catalog.split compiled format)) :
    isReported failure = true ∨ SessionEscape catalog ds failure := by
  cases format with
  | json => exact .inr (payload_escapes hcompiled h.of_map)
  | python => exact text_escapes hmodules hnames hcompiled h

end Session

/-- What a session does fails of something that is reported, or of one of the few things that get
through. -/
lemma work_escapes {catalog : Catalog} (hmodules : ∀ m ∈ catalog.modules, m.fault = none)
    {here : String} {settings : Settings} {current : Option Value} {failure : Failure}
    (h : Fails current failure (work catalog.introspector catalog.split here settings)) :
    isReported failure = true ∨
      ∃ ds, (loadDefinitions settings.definitions).Yields (fun _ => True) ds ∧
        SessionEscape catalog ds failure := by
  rcases h.of_bind with h | ⟨ds, hds, h⟩
  · exact .inl ((loadDefinitions_reports _).of_failed h)
  have hnames := (loadDefinitions_reports _).of_yields hds
  suffices hescapes : isReported failure = true ∨ SessionEscape catalog ds failure by
    exact hescapes.imp_right fun hescape => ⟨ds, hds, hescape⟩
  split at h
  · rcases h.of_bind with h | ⟨compiled, -, h⟩
    · exact exportDefinitions_escapes hmodules hnames h
    · exact absurd h.of_map Fails.not_note
  · rcases h.of_bind with h | ⟨compiled, hcompiled, h⟩
    · exact compileAll_escapes hmodules hnames h
    · exact render_escapes hmodules hnames hcompiled h

/-- A session that starts prints what it was asked for, or is rejected, or fails of what gets
through. -/
lemma session_outcome {types : Introspector} {split : Factory.Splitter} {here : String}
    {arguments : List String} {settings : Settings} (hparse : parse arguments = .ok settings)
    (hpaths : ∀ path ∈ settings.paths, (FilePath.ofText path).holdsNull = false)
    (entry : Option Value) (world : World) :
    (∃ output, (session types split here arguments entry world).1 = .ok (.finished output)) ∨
      (session types split here arguments entry world).1 = .ok .rejected ∨
      ∃ failure, (session types split here arguments entry world).1 = .error failure ∧
        isReported failure = false ∧ Fails entry failure (work types split here settings) := by
  have hany : (settings.paths.any fun path => (FilePath.ofText path).holdsNull) = false := by
    simpa using hpaths
  have hsession : session types split here arguments =
      Run.recover (work types split here settings >>= fun output => pure (.finished output))
        fun failure =>
          if isReported failure then do
            Run.note (.failed failure.message)
            return .rejected
          else Run.fail failure := by
    simp only [session, hparse, hany]
    rfl
  rw [hsession, Run.recover_apply, Run.bind_apply]
  rcases hwork : work types split here settings entry world with ⟨failure | output, w⟩
  · -- a failure is reported, and the session rejected, or it gets through
    dsimp only
    by_cases hreported : isReported failure = true
    · rw [if_pos hreported]
      exact .inr (.inl rfl)
    · rw [if_neg hreported]
      refine .inr (.inr ⟨failure, rfl, Bool.eq_false_iff.2 hreported, world, ?_⟩)
      rw [hwork]
  · exact .inl ⟨output, rfl⟩

end CommandLine

/-! ## Tools -/

namespace Tool

/-- What gets through a tool, given the payload of an entry. -/
inductive Escape (catalog : Catalog) (name : Text) (json : Json) : Failure → Prop where
  /-- A text in the payload is misread. -/
  | misread {failure : Failure} (h : failure.IsMisread) : Escape catalog name json failure
  /-- It gets through the compilation of the definition. -/
  | definition {d : Definition} {failure : Failure}
      (hd : (Definition.loadEntry (.str name) json).Yields (fun _ => True) d)
      (h : catalog.Escape d failure) : Escape catalog name json failure
  /-- The payload of the plan has a key that cannot be written. -/
  | key {plan : Plan}
      (hplan : (planOf catalog.introspector name json).Yields (fun _ => True) plan)
      (h : planKeysWritten plan = false) : Escape catalog name json (.longNumber none)
  /-- The plan has something that cannot be written. -/
  | unwritten {plan : Plan}
      (hplan : (planOf catalog.introspector name json).Yields (fun _ => True) plan)
      (h : planWritten plan = false) : Escape catalog name json (.longNumber none)
  /-- A class path in the plan starts with a dot. -/
  | relative {plan : Plan} {path : Text} (m : Text)
      (hplan : (planOf catalog.introspector name json).Yields (fun _ => True) plan)
      (hpath : .path (classPath path) ∈ plan.mentions) (h : Text.startsWith "." path = true) :
      Escape catalog name json (.relativeImport m)

variable {catalog : Catalog} {name : Text} {json : Json} {current : Option Value}
  {failure : Failure} (hmodules : ∀ m ∈ catalog.modules, m.fault = none)

include hmodules

lemma planOf_escapes (h : Fails current failure (planOf catalog.introspector name json)) :
    failure.isCompilation = true ∨ Escape catalog name json failure := by
  -- the payload does not load, or what was loaded does not compile
  rcases h.of_bind with h | ⟨d, hd, h⟩
  · cases Definition.loadEntry_fault h with
    | head h => exact .inl rfl
    | reading h =>
      cases h with
      | misread h => exact .inr (.misread h)
      | _ => exact .inl rfl
  · rcases Catalog.faults_escape hmodules (compile_faults h) with ⟨m, rfl⟩ | ⟨cause, rfl⟩ | h
    · exact .inl rfl
    · exact .inl rfl
    · exact .inr (.definition hd h)

lemma sourceOf_escapes {plan : Plan}
    (hplan : (planOf catalog.introspector name json).Yields (fun _ => True) plan)
    (h : Fails current failure (sourceOf catalog.split name plan)) :
    failure.isCompilation = true ∨ Escape catalog name json failure := by
  have hmem : plan ∈ [plan] := List.mem_singleton_self plan
  have hdraft := Factory.ofPlan_inherits (drafts_composes [plan])
    (Factory.namePrefix ++ Factory.sanitize name) (.mismatched (.mismatch _))
    (Catalog.split_drafts hmodules hmem) (drafts_bears hmem)
  cases hdraft.of_failed h.of_map with
  | mismatch cause => exact .inl rfl
  | unwritten hother hwritten =>
    obtain rfl := List.mem_singleton.1 hother
    exact .inr (.unwritten hplan hwritten)
  | relative m hother hpath hdot =>
    obtain rfl := List.mem_singleton.1 hother
    exact .inr (.relative m hplan hpath hdot)

omit hmodules in
lemma planData_escapes {plan : Plan}
    (hplan : (planOf catalog.introspector name json).Yields (fun _ => True) plan)
    (h : planData plan = .error failure) : Escape catalog name json failure := by
  unfold planData at h
  split at h
  · exact absurd h nofun
  · rename_i hkeys
    obtain rfl := Except.error.inj h
    exact .key hplan (Bool.eq_false_iff.2 hkeys)

omit hmodules in
lemma answerOf_outcome (part : Text) {outcome : Except Failure Value}
    (h : ∀ failure, outcome = .error failure →
      failure.isCompilation = true ∨ Escape catalog name json failure) :
    (∃ part' value, answerOf part outcome = .ok (succeeded part' value)) ∨
      (∃ text, answerOf part outcome = .ok (failed text)) ∨
      ∃ failure, answerOf part outcome = .error failure ∧ failure.isCompilation = false ∧
        Escape catalog name json failure := by
  rcases outcome with failure | value
  · by_cases hc : failure.isCompilation = true
    · exact .inr (.inl ⟨_, answerOf_eq_failed_iff.2 ⟨failure, rfl, hc, rfl⟩⟩)
    · have hc := Bool.eq_false_iff.2 hc
      have hescape := (h failure rfl).resolve_left (by simp [hc])
      exact .inr (.inr ⟨failure, answerOf_eq_error_iff.2 ⟨rfl, hc⟩, hc, hescape⟩)
  · exact .inl ⟨part, value, rfl⟩

/-- A tool answers, or fails of what gets through. -/
lemma call_outcome (tool : Tool) (entry : Option Value) (world : World) :
    (∃ part value, (call catalog.introspector catalog.split name json tool entry world).1 =
        .ok (succeeded part value)) ∨
      (∃ text, (call catalog.introspector catalog.split name json tool entry world).1 =
        .ok (failed text)) ∨
      ∃ failure, (call catalog.introspector catalog.split name json tool entry world).1 =
        .error failure ∧ failure.isCompilation = false ∧ Escape catalog name json failure := by
  -- both tools need the plan; one puts it as data, the other as source
  cases tool with
  | compileDefinition =>
    rw [call_compileDefinition]
    refine answerOf_outcome _ fun failure h => ?_
    rcases hplan : (planOf catalog.introspector name json entry world).1 with failure' | plan <;>
      rw [hplan] at h
    · obtain rfl := Except.error.inj h
      exact planOf_escapes hmodules ⟨world, hplan⟩
    · exact .inr (planData_escapes ⟨entry, world, trivial, hplan⟩ h)
  | emitFactory =>
    rw [call_emitFactory]
    refine answerOf_outcome _ fun failure h => ?_
    rcases Fails.of_bind ⟨world, Except.map_eq_error_iff.1 h⟩ with h | ⟨plan, hplan, h⟩
    · exact planOf_escapes hmodules h
    · exact sourceOf_escapes hmodules hplan h

end Tool

/-! ## Both -/

/-- With modules that can all be made, a session that starts ends with code zero, or with code one
and without output, and a tool answers that it did its work or that it could not.  The only failures
that get through are those of `CommandLine.SessionEscape` and `Tool.Escape`, and of these only such
as are not reported; and on a stack that has less room than the input is large, that the stack is
exhausted.  What is gone down into are the brackets of a text, the parts of a path, and the modules
with the defaults declared there, so no more levels are open at once than there are parts of all
that. -/
theorem frontEnds_outcome {catalog : Catalog} (hmodules : ∀ m ∈ catalog.modules, m.fault = none)
    (room : Nat) :
    (∀ (here : String) (arguments : List String) (settings : CommandLine.Settings)
        (entry : Option Value) (world : World) (result : Except Failure CommandLine.Ending),
      CommandLine.parse arguments = .ok settings →
      (∀ path ∈ settings.paths, (FilePath.ofText path).holdsNull = false) →
      Stack.ComesTo room (sizeOf (catalog, here, arguments, world.files))
        (CommandLine.session catalog.introspector catalog.split here arguments entry world).1
        result →
      (∃ ending, result = .ok ending ∧ (ending.code = 0 ∨ ending.code = 1 ∧ ending.output = "")) ∨
        ∃ failure, result = .error failure ∧ CommandLine.isReported failure = false ∧
          ((∃ ds, (loadDefinitions settings.definitions).Yields (fun _ => True) ds ∧
              CommandLine.SessionEscape catalog ds failure) ∨
            failure = .stackExhausted ∧
              room < sizeOf (catalog, here, arguments, world.files))) ∧
    ∀ (tool : Tool) (name : Text) (json : Json) (entry : Option Value) (world : World)
        (result : Except Failure Value),
      Stack.ComesTo room (sizeOf (catalog, name, json))
        (Tool.call catalog.introspector catalog.split name json tool entry world).1 result →
      (∃ part value, result = .ok (Tool.succeeded part value)) ∨
        (∃ text, result = .ok (Tool.failed text)) ∨
        ∃ failure, result = .error failure ∧ failure.isCompilation = false ∧
          (Tool.Escape catalog name json failure ∨
            failure = .stackExhausted ∧ room < sizeOf (catalog, name, json)) := by
  constructor
  · intro here arguments settings entry world result hparse hpaths hresult
    -- the stack did not suffice, or the session came to what it comes to with all the room it needs
    cases hresult with
    | exhausted hroom => exact .inr ⟨_, rfl, rfl, .inr ⟨rfl, hroom⟩⟩
    | finished =>
      rcases CommandLine.session_outcome hparse hpaths entry world with
        ⟨output, h⟩ | h | ⟨failure, h, hreported, hwork⟩
      · exact .inl ⟨_, h, .inl rfl⟩
      · exact .inl ⟨_, h, .inr ⟨rfl, rfl⟩⟩
      · have hescape :=
          (CommandLine.work_escapes hmodules hwork).resolve_left (by simp [hreported])
        exact .inr ⟨failure, h, hreported, .inl hescape⟩
  · intro tool name json entry world result hresult
    cases hresult with
    | exhausted hroom => exact .inr (.inr ⟨_, rfl, rfl, .inr ⟨rfl, hroom⟩⟩)
    | finished =>
      rcases Tool.call_outcome hmodules tool entry world with h | h | ⟨failure, h, hc, hescape⟩
      · exact .inl h
      · exact .inr (.inl h)
      · exact .inr (.inr ⟨failure, h, hc, .inl hescape⟩)

/-- A payload of an entry whose class path starts with a dot. -/
def dottedPayload : Json :=
  .object [("class", .str ".x.Y")]

/-- The definition that it is read as. -/
def dottedDefinition : Definition :=
  { name := .str "e", className := ".x.Y", isLazy := false, constructor := none, fields := [],
    methods := [] }

/-- Without modules, a file that is not there rejects a session, and the class path gets through the
tool that compiles it. -/
theorem dottedPayload_outcome :
    (∃ ending, (CommandLine.session (Catalog.mk []).introspector (Catalog.mk []).split "/"
        ["defs.json"] none {}).1 = .ok ending ∧ ending.code = 1 ∧ ending.output = "") ∧
      (Tool.call (Catalog.mk []).introspector (Catalog.mk []).split "e" dottedPayload
        .compileDefinition none {}).1 = .error (.relativeImport ".x") ∧
      Tool.Escape (Catalog.mk []) "e" dottedPayload (.relativeImport ".x") := by
  obtain ⟨hsession, htool⟩ := @frontEnds_outcome (Catalog.mk []) (List.forall_mem_nil _) 0
  have hrejected : (CommandLine.session (Catalog.mk []).introspector (Catalog.mk []).split "/"
      ["defs.json"] none {}).1 = .ok .rejected := by rfl
  have hload : Definition.loadEntry (.str "e") dottedPayload none {} =
      (.ok dottedDefinition, {}) := by
    have hknown : Definition.unknownKeys [("class", .str ".x.Y")] = [] := List.mergeSort_nil
    rw [dottedPayload, Definition.loadEntry, Definition.loadHead, hknown,
      Definition.loadConstructor_eq, Definition.loadFields_eq, Definition.loadMethods_eq]
    rfl
  have hplan : (Tool.planOf (Catalog.mk []).introspector "e" dottedPayload none {}).1 =
      .error (.relativeImport ".x") := by
    rw [Tool.planOf, Run.bind_of_ok hload]
    rfl
  have hcall : (Tool.call (Catalog.mk []).introspector (Catalog.mk []).split "e" dottedPayload
      .compileDefinition none {}).1 = .error (.relativeImport ".x") := by
    rw [Tool.call_compileDefinition, hplan]
    rfl
  refine ⟨?_, hcall, ?_⟩
  · rcases hsession "/" ["defs.json"] ⟨"defs.json", none, .json, [], false⟩ none {} _ (by rfl)
      (List.forall_mem_nil _) .finished with ⟨ending, h, -⟩ | ⟨failure, h, -⟩
    · rw [hrejected] at h
      obtain rfl := Except.ok.inj h
      exact ⟨_, hrejected, rfl, rfl⟩
    · rw [hrejected] at h
      cases h
  · rcases htool .compileDefinition "e" dottedPayload none {} _ .finished with
      ⟨_, _, h⟩ | ⟨_, h⟩ | ⟨failure, h, -, hescape⟩
    · rw [hcall] at h
      cases h
    · rw [hcall] at h
      cases h
    · obtain rfl := Except.error.inj (hcall.symm.trans h)
      rcases hescape with hescape | ⟨hstack, -⟩
      · exact hescape
      · cases hstack

end Blueprint
