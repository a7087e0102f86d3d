/-
# Tools and passes agree

A tool compiles one definition and answers; a pass reads a whole payload, compiles its entries and
keeps their mistakes together.  On a payload of a single entry the two come to the same
(`frontEnds_agree`), from every world and for every payload.

Both compile the same definition in the same world (`solePass_outcome`), and they part in three
ways only.  The pass reports a mistake of the entry as the only one of a list, so that its text has
to be taken from there (`Failure.sole`); that no compilation fails with such a list of its own
accord is what the answers about classes have to grant.  The pass writes one line more to the log,
which the cutting of class paths does not look at (`lookUp_steadyUpTo_imports`).  And the module of
factories chooses the names of all factories together, which for a single entry leaves the name that
the tool gives (`FactoryModule.text_sole`).
-/
import Blueprint.Proofs.Emission.Faithful
import Blueprint.Proofs.Emission.Splits
import Blueprint.Proofs.Faults
import Blueprint.Proofs.Lookup
import Blueprint.Proofs.ReadingFaults
import Blueprint.Tool

namespace Blueprint

open Run (SteadyUpTo)

/-! ## Look ups and the log -/

namespace Catalog

/-- The worlds do not differ in what look ups depend on. -/
def SameImports (world world' : World) : Prop :=
  world.imported = world'.imported ∧ world.annotated = world'.annotated

lemma sameImports_inherited : Run.Inherited (SteadyUpTo SameImports) :=
  .steadyUpTo (fun _ _ _ => trivial) (fun _ _ _ _ h => h) fun _ _ _ _ h => h

lemma warnAll_steadyUpTo_imports (warnings : List Warning) :
    SteadyUpTo SameImports (warnings.forM Run.warn) := by
  induction warnings with
  | nil => exact .pure ()
  | cons warning rest ih =>
    exact SteadyUpTo.bind (sameImports_inherited.warn warning) fun _ => ih

lemma execute_steadyUpTo_imports (m : Module) : SteadyUpTo SameImports m.execute := by
  unfold Module.execute
  refine SteadyUpTo.bind (warnAll_steadyUpTo_imports _) fun _ => ?_
  split
  · exact .fail _
  · -- both worlds know the same imports, so both mark the module or neither does
    rintro entry world world' ⟨himported, hannotated⟩
    refine ⟨rfl, ?_⟩
    rw [Run.markImported, Run.keeping_apply, Run.keeping_apply, himported]
    dsimp only
    split
    · exact ⟨himported, hannotated⟩
    · exact ⟨rfl, hannotated⟩

lemma importOne_steadyUpTo_imports (catalog : Catalog) (parent : Option Text) (name : Text) :
    SteadyUpTo SameImports (catalog.importOne parent name) := by
  have himported : SteadyUpTo SameImports Run.imported :=
    fun _ _ _ h => ⟨congrArg Except.ok h.1, h⟩
  refine SteadyUpTo.bind himported fun imported => ?_
  by_cases hknown : (imported.contains name || name == builtinModule) = true
  · simp only [hknown, if_true]
    exact .pure ()
  simp only [hknown, if_false, Bool.false_eq_true]
  have hpackage : ∀ package (run : Run Unit), SteadyUpTo SameImports run →
      SteadyUpTo SameImports (if (!catalog.isPackage package) = true then
        (Run.fail (notInPackage name package) : Run Unit) >>= fun _ => run else run) := by
    intro package run hrun
    split
    · exact .bind (.fail _) fun _ => hrun
    · exact hrun
  -- the module is missing or there, and it is asked for on its own or within a package
  rcases catalog.find? name with _ | m
  · rcases parent with _ | package
    · exact .fail _
    · exact hpackage package _ (.fail _)
  · rcases parent with _ | package
    · exact execute_steadyUpTo_imports m
    · exact hpackage package _ (execute_steadyUpTo_imports m)

lemma importChain_steadyUpTo_imports (catalog : Catalog) (parent : Option Text)
    (names : List Text) : SteadyUpTo SameImports (catalog.importChain parent names) := by
  induction names generalizing parent with
  | nil => exact .pure ()
  | cons name rest ih =>
    have hone := importOne_steadyUpTo_imports catalog parent name
    exact SteadyUpTo.bind hone fun _ => ih _

lemma importModule_steadyUpTo_imports (catalog : Catalog) (path : Text) :
    SteadyUpTo SameImports (catalog.importModule path) := by
  unfold importModule
  split
  · exact .fail _
  · exact importChain_steadyUpTo_imports catalog _ _

/-- What a look up comes to depends on nothing but what was imported, and which classes were asked
for their annotations. -/
lemma lookUp_steadyUpTo_imports (catalog : Catalog) :
    catalog.LookUp (SteadyUpTo SameImports) where
  inherited := sameImports_inherited
  imported := fun _ _ _ h => ⟨congrArg Except.ok h.1, h⟩
  annotated := fun _ _ _ h => ⟨congrArg Except.ok h.2, h⟩
  markAnnotated := fun id _ _ _ h => ⟨rfl, h.1, congrArg (id :: ·) h.2⟩
  importModule := importModule_steadyUpTo_imports catalog

end Catalog

/-! ## A pass over one entry -/

/-- What reading and compiling a payload comes to that holds one entry. -/
def solePass (types : Introspector) (name : Text) (json : Json) : Run CompiledEntries := do
  compileAll types (← Definition.loadAll (.object [(name, json)]))

/-- A failure without the list around a single mistake. -/
def Failure.sole : Failure → Failure
  | .mistakes [m] => .mistake m
  | failure => failure

lemma Failure.sole_eq_self {failure : Failure} (h : ∀ ms, failure ≠ .mistakes ms) :
    failure.sole = failure := by
  cases failure with
  | mistakes ms => exact absurd rfl (h ms)
  | _ => rfl

lemma Failure.ne_mistakes_of_other {failure : Failure} (h : failure.isCompilation = false)
    (ms : List EntryMistake) : failure ≠ .mistakes ms := by
  rintro rfl
  exact absurd h Bool.noConfusion

lemma solePass_eq (types : Introspector) (name : Text) (json : Json) :
    solePass types name json =
      Definition.loadEntry (.str name) json >>= fun d => compileAll types [d] := by
  simp only [solePass, Definition.loadAll, Definition.loadEntries, pure_bind, bind_assoc]

section Pass

variable {types : Introspector} {name : Text} {json : Json} {entry : Option Value} {world : World}

/-- A pass over one definition compiles it, and goes by what that comes to. -/
lemma compileAll_sole (d : Definition) (hname : d.name = .str name) :
    compileAll types [d] entry world =
      match compile types d entry world with
      | (.ok plan, w) => (.ok [(.str name, plan)], { w with log := w.log ++ [.compiled 1] })
      | (.error (.mistake m), w) =>
        (.error (.mistakes [m]), { w with log := w.log ++ [.rejected (.str name) m.cause] })
      | (.error failure, w) => (.error failure, w) := by
  have hn : (Value.str name).unhashable? = none := rfl
  simp only [compileAll, Pass.go, hname, hn, Entries.contains, List.any_nil, Bool.false_eq_true,
    if_false, Run.bind_apply, Run.attempt_apply]
  rcases compile types d entry world with ⟨failure | plan, w⟩
  · cases failure <;> rfl
  · rfl

variable (world) in
/-- A tool and a pass compile the entry to the same plan, in worlds that differ in the log only, or
both fail, with the same failure but for a list around it. -/
theorem solePass_outcome
    (hlist : ∀ ms, ¬ Run.Fails entry (.mistakes ms) (Tool.planOf types name json)) :
    (∃ plan w log, Tool.planOf types name json entry world = (.ok plan, w) ∧
        solePass types name json entry world = (.ok [(.str name, plan)], { w with log := log })) ∨
      ∃ failure w failure' w', Tool.planOf types name json entry world = (.error failure, w) ∧
        solePass types name json entry world = (.error failure', w') ∧ failure'.sole = failure ∧
          failure'.isCompilation = failure.isCompilation := by
  rw [solePass_eq]
  have hname := Definition.loadEntry_name (.str name) json entry world
  rcases hload : Definition.loadEntry (.str name) json entry world with ⟨failure | d, w⟩
  · have hplan : Tool.planOf types name json entry world = (.error failure, w) :=
      Run.bind_of_error hload
    have hne : ∀ ms, failure ≠ .mistakes ms := by
      rintro ms rfl
      exact hlist ms ⟨world, by rw [hplan]⟩
    exact .inr ⟨failure, w, failure, w, hplan, Run.bind_of_error hload,
      Failure.sole_eq_self hne, rfl⟩
  rw [hload] at hname
  have hplan : Tool.planOf types name json entry world = compile types d entry w :=
    Run.bind_of_ok hload
  rw [Run.bind_of_ok hload, compileAll_sole d hname, hplan]
  rcases hcompile : compile types d entry w with ⟨failure | plan, w'⟩
  · have hne : ∀ ms, failure ≠ .mistakes ms := by
      rintro ms rfl
      exact hlist ms ⟨world, by rw [hplan, hcompile]⟩
    cases failure with
    | mistake m => exact .inr ⟨_, _, _, _, rfl, rfl, rfl, rfl⟩
    | mistakes ms => exact absurd rfl (hne ms)
    | _ => exact .inr ⟨_, _, _, _, rfl, rfl, rfl, rfl⟩
  · exact .inl ⟨plan, w', _, rfl, rfl⟩

end Pass

lemma Except.map_eq_error_iff {α β : Type} {f : α → β} {outcome : Except Failure α}
    {failure : Failure} : outcome.map f = .error failure ↔ outcome = .error failure := by
  rcases outcome with failure' | a
  · simp only [Except.map, Except.error.injEq]
  · exact iff_of_false nofun nofun

/-! ## A module of one factory -/

/-- What the factory of an entry is called where it is the only one. -/
def Factory.soleName (name : Text) : Text :=
  Factory.namePrefix ++ Factory.sanitize name

/-- The table of a module that holds one factory. -/
def FactoryModule.soleTable (name : Text) : Text :=
  "FACTORIES = \x7b\n    " ++ Text.quote name ++ ": " ++ Factory.soleName name ++ ",\n\x7d"

/-- The text of a module that holds one factory. -/
def FactoryModule.soleText (name source : Text) : Text :=
  FactoryModule.header ++ "\n\n\n" ++ source ++ "\n\n\n" ++ FactoryModule.soleTable name ++ "\n"

lemma FactoryModule.tableText_sole (name : Text) :
    FactoryModule.tableText [(.str name, Factory.soleName name)] =
      FactoryModule.soleTable name := by
  have hopen : ("FACTORIES = \x7b\n    " : Text) =
      "FACTORIES = \x7b" ++ "\n" ++ Factory.indent 1 := by decide
  have hclose : (",\n\x7d" : Text) = "," ++ "\n" ++ "\x7d" := by decide
  rw [FactoryModule.soleTable, hopen, hclose]
  simp only [FactoryModule.tableText, List.map_cons, List.map_nil, List.singleton_append,
    Text.intercalate, Text.append_assoc]
  rfl

lemma FactoryModule.text_sole (split : Factory.Splitter) (name : Text) (plan : Plan) :
    FactoryModule.text split [(.str name, plan)] =
      Tool.sourceOf split name plan >>= fun source =>
        pure (FactoryModule.soleText name source) := by
  have hlabels : [Value.str name].mapM Factory.label = Except.ok [Factory.sanitize name] := rfl
  have hnames : Factory.uniqueNames [] [Factory.sanitize name] = [Factory.soleName name] := rfl
  simp only [FactoryModule.text, List.map_cons, List.map_nil, hlabels, Run.ofExcept, hnames,
    List.zip_cons_cons, List.zip_nil_right, FactoryModule.factoryTexts, Tool.sourceOf,
    pure_bind, bind_assoc]
  rw [FactoryModule.tableText_sole]
  refine congrArg _ (funext fun f => congrArg pure ?_)
  simp only [FactoryModule.soleText, List.cons_append, List.nil_append, Text.intercalate,
    Text.append_assoc]

/-- The text of a factory starts with the head of the function that it is. -/
lemma Factory.text_head (f : Factory) :
    ∃ body, f.text = "def " ++ f.name ++ "(container, proxy_factory):" ++ body := by
  rw [Factory.text, Factory.lines, List.cons_append]
  generalize (f.imports.map fun name => indent 1 ++ "import " ++ name) ++ blockLines 1 f.body = rest
  rcases rest with _ | ⟨line, rest⟩
  · exact ⟨"", congrArg Text.mk (List.append_nil _).symm⟩
  · refine ⟨"\n" ++ Text.intercalate "\n" (line :: rest), ?_⟩
    rw [Text.intercalate_cons _ _ (List.cons_ne_nil line rest), Text.append_assoc _ "\n"]

/-- The source of a factory is that of a function of the name that the entry gives. -/
lemma Tool.sourceOf_ensures (split : Factory.Splitter) (name : Text) (plan : Plan) :
    (Tool.sourceOf split name plan).Ensures
      (fun source => ∃ body,
        source = "def " ++ Factory.soleName name ++ "(container, proxy_factory):" ++ body)
      fun _ => True := by
  have hname : (Factory.ofPlan split (Factory.soleName name) plan).Ensures
      (fun f => f.name = Factory.soleName name) fun _ => True := by
    intro entry world
    rcases hf : (Factory.ofPlan split (Factory.soleName name) plan entry world).1 with _ | f
    · trivial
    · exact (Factory.ofPlan_inv hf).1
  refine Run.Ensures.bind hname fun f hf => .pure ?_
  rw [← hf]
  exact f.text_head

/-! ## Tools -/

namespace Tool

lemma succeeded_ne_failed (part : Text) (value : Value) (text : Text) :
    succeeded part value ≠ failed text := by
  intro h
  have hok := (List.cons.inj (Value.dict.inj h)).1
  exact absurd (Value.bool.inj (Prod.mk.inj hok).2) (by decide)

lemma succeeded_inj {part : Text} {value value' : Value} :
    succeeded part value = succeeded part value' ↔ value = value' := by
  refine ⟨fun h => ?_, fun h => by rw [h]⟩
  have hpart := (List.cons.inj (List.cons.inj (Value.dict.inj h)).2).1
  exact (Prod.mk.inj hpart).2

lemma failed_inj {text text' : Text} : failed text = failed text' ↔ text = text' := by
  refine ⟨fun h => ?_, fun h => by rw [h]⟩
  have hpart := (List.cons.inj (List.cons.inj (Value.dict.inj h)).2).1
  exact Value.str.inj (Prod.mk.inj hpart).2

/-- The answer that is made of an outcome: of what goes wrong in a compilation, too, but of no other
failure. -/
def answerOf (part : Text) : Except Failure Value → Except Failure Value
  | .ok value => .ok (succeeded part value)
  | .error failure =>
    if failure.isCompilation then .ok (failed failure.message) else .error failure

section Answers

variable {part : Text} {outcome : Except Failure Value}

lemma answerOf_eq_succeeded_iff {value : Value} :
    answerOf part outcome = .ok (succeeded part value) ↔ outcome = .ok value := by
  rcases outcome with failure | value'
  · rw [answerOf]
    split
    · exact iff_of_false (fun h => succeeded_ne_failed _ _ _ (Except.ok.inj h).symm) nofun
    · exact iff_of_false nofun nofun
  · rw [answerOf, Except.ok.injEq, Except.ok.injEq, succeeded_inj]

lemma answerOf_eq_failed_iff {text : Text} :
    answerOf part outcome = .ok (failed text) ↔
      ∃ failure, outcome = .error failure ∧ failure.isCompilation = true ∧
        text = failure.message := by
  rcases outcome with failure | value
  · rw [answerOf]
    -- only failures of compiling are answered with a text
    by_cases hc : failure.isCompilation = true
    · rw [if_pos hc, Except.ok.injEq, failed_inj]
      simp only [Except.error.injEq, exists_eq_left', hc, true_and, eq_comm]
    · rw [if_neg hc]
      simp only [Except.error.injEq, exists_eq_left', hc, false_and, reduceCtorEq]
  · simp only [answerOf, Except.ok.injEq, succeeded_ne_failed, reduceCtorEq, false_and,
      exists_false]

lemma answerOf_eq_error_iff {failure : Failure} :
    answerOf part outcome = .error failure ↔
      outcome = .error failure ∧ failure.isCompilation = false := by
  rcases outcome with failure' | value
  · rw [answerOf]
    by_cases hc : failure'.isCompilation = true
    · rw [if_pos hc]
      refine iff_of_false nofun ?_
      rintro ⟨h, hf⟩
      obtain rfl := Except.error.inj h
      exact absurd (hc.symm.trans hf) (by decide)
    · rw [if_neg hc]
      refine ⟨fun h => ⟨h, ?_⟩, And.left⟩
      obtain rfl := Except.error.inj h
      exact Bool.eq_false_iff.2 hc
  · simp only [answerOf, reduceCtorEq, false_and]

end Answers

lemma answering_apply (x : Run Value) (part : Text) (entry : Option Value) (world : World) :
    (answering (x >>= fun value => pure (succeeded part value)) entry world).1 =
      answerOf part (x entry world).1 := by
  rw [answering, Run.recover_apply, Run.bind_apply]
  rcases x entry world with ⟨failure | value, w⟩
  · dsimp only [answerOf]
    split <;> rfl
  · rfl

variable {types : Introspector} {split : Factory.Splitter} {name : Text} {json : Json}
  {entry : Option Value} {world : World}

/-- What the tool for instructions answers is decided by the plan. -/
lemma call_compileDefinition :
    (call types split name json .compileDefinition entry world).1 =
      answerOf "instructions" ((planOf types name json entry world).1.bind planData) := by
  have hcall : call types split name json .compileDefinition =
      answering ((planOf types name json >>= fun plan => Run.ofExcept (planData plan)) >>=
        fun value => pure (succeeded "instructions" value)) := by
    simp only [call, bind_assoc]
  rw [hcall, answering_apply, Run.bind_apply]
  rcases planOf types name json entry world with ⟨failure | plan, w⟩
  · rfl
  · show answerOf _ (Run.ofExcept (planData plan) entry w).1 = answerOf _ (planData plan)
    rcases planData plan with failure | value <;> rfl

/-- What the tool for factories answers is decided by the source of the plan. -/
lemma call_emitFactory :
    (call types split name json .emitFactory entry world).1 =
      answerOf "source" (((planOf types name json >>= sourceOf split name) entry world).1.map
        .str) := by
  have hcall : call types split name json .emitFactory =
      answering (((planOf types name json >>= sourceOf split name) >>= fun source =>
        pure (.str source)) >>= fun value => pure (succeeded "source" value)) := by
    simp only [call, bind_assoc, pure_bind]
  rw [hcall, answering_apply, Run.bind_apply]
  rcases (planOf types name json >>= sourceOf split name) entry world with
    ⟨failure | source, w⟩ <;> rfl

end Tool

/-! ## Agreement -/

/-- What the tools answer about an entry, and what a pass over a payload that holds just this entry
comes to, in the same world. -/
structure FrontEndsAgree (types : Introspector) (split : Factory.Splitter) (name : Text)
    (json : Json) (entry : Option Value) (world : World) : Prop where
  /-- The instructions of the tool are those in the payload of the pass. -/
  compiled : ∀ instructions,
    (Tool.call types split name json .compileDefinition entry world).1 =
        .ok (Tool.succeeded "instructions" instructions) ↔
      ∃ plans, (solePass types name json entry world).1 = .ok plans ∧
        compiledData plans = .ok (record [("entries", record [(name, instructions)])])
  /-- The refusal of the tool is that of the pass, in the same words. -/
  refused : ∀ text,
    (Tool.call types split name json .compileDefinition entry world).1 =
        .ok (Tool.failed text) ↔
      ∃ failure, (solePass types name json entry world).1 = .error failure ∧
        failure.isCompilation = true ∧ text = failure.sole.message
  /-- Whatever else makes the pass fail makes the tool fail, and so does what keeps the plans of the
  pass from becoming a payload. -/
  escaped : ∀ failure,
    (Tool.call types split name json .compileDefinition entry world).1 = .error failure ↔
      ((solePass types name json entry world).1 = .error failure ∧
        failure.isCompilation = false) ∨
      ∃ plans, (solePass types name json entry world).1 = .ok plans ∧
        compiledData plans = .error failure
  /-- The source of the tool stands in the module of the pass, which knows its function by the name
  of the entry. -/
  emitted : ∀ source,
    (Tool.call types split name json .emitFactory entry world).1 =
        .ok (Tool.succeeded "source" (.str source)) →
      (∃ body, source =
        "def " ++ Factory.soleName name ++ "(container, proxy_factory):" ++ body) ∧
      ((solePass types name json >>= FactoryModule.text split) entry world).1 =
        .ok (FactoryModule.soleText name source)
  /-- The refusal of the tool is that of the pass, or else that of its module, in the same words. -/
  unrendered : ∀ text,
    (Tool.call types split name json .emitFactory entry world).1 = .ok (Tool.failed text) ↔
      (∃ failure, (solePass types name json entry world).1 = .error failure ∧
        failure.isCompilation = true ∧ text = failure.sole.message) ∨
      ∃ plans w failure, solePass types name json entry world = (.ok plans, w) ∧
        (FactoryModule.text split plans entry w).1 = .error failure ∧
          failure.isCompilation = true ∧ text = failure.message

/-- The payload of a pass over one entry is that of its plan, under the name of the entry. -/
lemma compiledData_sole (name : Text) (plan : Plan) :
    compiledData [(.str name, plan)] =
      (planData plan).map fun value => record [("entries", record [(name, value)])] := by
  simp only [compiledData, planData, List.all_cons, List.all_nil, Bool.and_true]
  cases planKeysWritten plan <;> rfl

lemma compiledData_sole_iff {name : Text} {plan : Plan} {instructions : Value} :
    compiledData [(.str name, plan)] = .ok (record [("entries", record [(name, instructions)])]) ↔
      planData plan = .ok instructions := by
  rw [compiledData_sole]
  rcases planData plan with failure | value
  · exact iff_of_false nofun nofun
  · refine ⟨fun h => ?_, fun h => by rw [Except.ok.inj h]; rfl⟩
    have hentries := (Prod.mk.inj (List.cons.inj (Value.dict.inj (Except.ok.inj h))).1).2
    rw [(Prod.mk.inj (List.cons.inj (Value.dict.inj hentries)).1).2]

/-- A plan that does not become a payload has a number that cannot be written. -/
lemma planData_eq_error {plan : Plan} {failure : Failure} (h : planData plan = .error failure) :
    failure = .longNumber none := by
  unfold planData at h
  split at h
  · exact absurd h nofun
  · exact (Except.error.inj h).symm

section Agreement

variable {types : Introspector} {split : Factory.Splitter} {name : Text} {json : Json}
  {entry : Option Value} {world : World}

variable (name entry world) in
/-- The module of a pass comes to what the source of the tool comes to, whatever was logged in
between. -/
lemma moduleText_sole (hsplit : ∀ path, SteadyUpTo Catalog.SameImports (split path)) (plan : Plan)
    (log : List Event) :
    (FactoryModule.text split [(.str name, plan)] entry { world with log := log }).1 =
      (Tool.sourceOf split name plan entry world).1.map (FactoryModule.soleText name) := by
  have hsteady : SteadyUpTo Catalog.SameImports (Tool.sourceOf split name plan) :=
    SteadyUpTo.bind (Factory.ofPlan_inherits Catalog.sameImports_inherited.composes _
      (.fail _) (fun path _ => hsplit path) fun _ => .fail _) fun f => .pure f.text
  have hsame := (hsteady entry { world with log := log } world ⟨rfl, rfl⟩).1
  rw [FactoryModule.text_sole, Run.bind_apply, ← hsame]
  rcases Tool.sourceOf split name plan entry { world with log := log } with
    ⟨failure | source, w⟩ <;> rfl

/-- Where there is a plan, the tool for factories goes on to its source. -/
lemma frontEndsAgree_of_compiled (hsplit : ∀ path, SteadyUpTo Catalog.SameImports (split path))
    {plan : Plan} {w : World} {log : List Event}
    (hplan : Tool.planOf types name json entry world = (.ok plan, w))
    (hpass : solePass types name json entry world =
      (.ok [(.str name, plan)], { w with log := log })) :
    FrontEndsAgree types split name json entry world := by
  have hmodule := moduleText_sole name entry w hsplit plan log
  have hcall : (Tool.call types split name json .compileDefinition entry world).1 =
      Tool.answerOf "instructions" (planData plan) := by
    rw [Tool.call_compileDefinition, hplan]
    rfl
  have hemit : (Tool.call types split name json .emitFactory entry world).1 =
      Tool.answerOf "source" ((Tool.sourceOf split name plan entry w).1.map .str) := by
    rw [Tool.call_emitFactory, Run.bind_of_ok hplan]
  refine ⟨fun instructions => ?compiled, fun text => ?refused, fun failure => ?escaped,
    fun source h => ?emitted, fun text => ?unrendered⟩
  case compiled =>
    rw [hcall, Tool.answerOf_eq_succeeded_iff, hpass]
    simp only [Except.ok.injEq, exists_eq_left', compiledData_sole_iff]
  case refused =>
    -- a plan that does not become a payload is no failed compilation
    have hno : ¬ ∃ failure, planData plan = .error failure ∧ failure.isCompilation = true ∧
        text = failure.message := by
      rintro ⟨failure, hdata, hc, -⟩
      rw [planData_eq_error hdata] at hc
      exact absurd hc (by decide)
    rw [hcall, Tool.answerOf_eq_failed_iff, hpass]
    simp only [reduceCtorEq, false_and, exists_false, iff_false]
    exact hno
  case escaped =>
    have hother : planData plan = .error failure → failure.isCompilation = false := by
      intro hdata
      rw [planData_eq_error hdata]
      rfl
    rw [hcall, Tool.answerOf_eq_error_iff, hpass, and_iff_left_of_imp hother]
    simp only [reduceCtorEq, false_and, false_or, Except.ok.injEq, exists_eq_left',
      compiledData_sole, Except.map_eq_error_iff]
  case emitted =>
    rw [hemit, Tool.answerOf_eq_succeeded_iff] at h
    rw [Run.bind_of_ok hpass, hmodule]
    have hhead := Tool.sourceOf_ensures split name plan entry w
    rcases hsource : (Tool.sourceOf split name plan entry w).1 with failure | source' <;>
      rw [hsource] at h hhead
    · exact absurd h nofun
    · obtain rfl := Value.str.inj (Except.ok.inj h)
      exact ⟨hhead, rfl⟩
  case unrendered =>
    rw [hemit, Tool.answerOf_eq_failed_iff, hpass]
    simp only [reduceCtorEq, false_and, exists_false, false_or, Prod.mk.injEq, Except.ok.injEq,
      and_assoc, exists_and_left, exists_eq_left', hmodule, Except.map_eq_error_iff]

/-- Where the plan is refused, the factories are not reached. -/
lemma frontEndsAgree_of_refused {failure : Failure} {w w' : World}
    (hplan : Tool.planOf types name json entry world = (.error failure.sole, w))
    (hpass : solePass types name json entry world = (.error failure, w'))
    (hc : failure.isCompilation = failure.sole.isCompilation) :
    FrontEndsAgree types split name json entry world := by
  have hcall : (Tool.call types split name json .compileDefinition entry world).1 =
      Tool.answerOf "instructions" (.error failure.sole) := by
    rw [Tool.call_compileDefinition, hplan]
    rfl
  have hemit : (Tool.call types split name json .emitFactory entry world).1 =
      Tool.answerOf "source" (.error failure.sole) := by
    rw [Tool.call_emitFactory, Run.bind_of_error hplan]
    rfl
  have hnever : ∀ plans, (solePass types name json entry world).1 ≠ .ok plans := by
    rw [hpass]
    exact fun _ => nofun
  -- a failure that is no failed compilation is no list of mistakes, so it is the same for both
  have hsame : failure.isCompilation = false → failure.sole = failure := fun hother =>
    Failure.sole_eq_self (Failure.ne_mistakes_of_other hother)
  refine ⟨fun instructions => ?compiled, fun text => ?refused, fun failure' => ?escaped,
    fun source h => ?emitted, fun text => ?unrendered⟩
  case compiled =>
    rw [hcall, Tool.answerOf_eq_succeeded_iff]
    exact iff_of_false nofun fun ⟨plans, hplans, _⟩ => hnever plans hplans
  case refused =>
    rw [hcall, Tool.answerOf_eq_failed_iff, hpass]
    simp only [Except.error.injEq, exists_eq_left', hc]
  case escaped =>
    have hno : ¬ ∃ plans, (solePass types name json entry world).1 = .ok plans ∧
        compiledData plans = .error failure' := fun ⟨plans, hplans, _⟩ => hnever plans hplans
    rw [hcall, Tool.answerOf_eq_error_iff, or_iff_left hno, hpass]
    simp only [Except.error.injEq]
    constructor
    · rintro ⟨rfl, hother⟩
      exact ⟨(hsame (hc.trans hother)).symm, hother⟩
    · rintro ⟨rfl, hother⟩
      exact ⟨hsame hother, hother⟩
  case emitted =>
    rw [hemit, Tool.answerOf_eq_succeeded_iff] at h
    exact absurd h nofun
  case unrendered =>
    -- the module is not reached
    have hno : ¬ ∃ plans w failure, solePass types name json entry world = (.ok plans, w) ∧
        (FactoryModule.text split plans entry w).1 = .error failure ∧
          failure.isCompilation = true ∧ text = failure.message :=
      fun ⟨plans, w, _, hplans, _⟩ => hnever plans (congrArg Prod.fst hplans)
    rw [hemit, Tool.answerOf_eq_failed_iff, or_iff_left hno, hpass]
    simp only [Except.error.injEq, exists_eq_left', hc]

/-- Tools and passes agree where the plan is not refused with a list of mistakes. -/
theorem frontEndsAgree_of_plan (hsplit : ∀ path, SteadyUpTo Catalog.SameImports (split path))
    (hlist : ∀ ms, ¬ Run.Fails entry (.mistakes ms) (Tool.planOf types name json)) :
    FrontEndsAgree types split name json entry world := by
  rcases solePass_outcome world hlist with
    ⟨plan, w, log, hplan, hpass⟩ | ⟨_, w, failure, w', hplan, hpass, rfl, hc⟩
  · exact frontEndsAgree_of_compiled hsplit hplan hpass
  · exact frontEndsAgree_of_refused hplan hpass hc

end Agreement

/-! ## The tools of a registry and of a catalog -/

/-- Reading finds one mistake at a time. -/
lemma Definition.loadEntry_not_fails_mistakes {name : Value} {json : Json} {entry : Option Value}
    (ms : List EntryMistake) : ¬ Run.Fails entry (.mistakes ms) (loadEntry name json) := by
  intro h
  cases loadEntry_fault h with
  | reading hfault =>
    cases hfault with
    | misread hmisread => cases hmisread

/-- The tools of an introspector agree with its passes if none of its answers fails with a list of
mistakes. -/
theorem frontEndsAgree_of_answers {types : Introspector} {split : Factory.Splitter}
    (hsplit : ∀ path, SteadyUpTo Catalog.SameImports (split path))
    (hanswers : ∀ d ms, ¬ types.Refuses d (.mistakes ms)) (name : Text) (json : Json)
    (entry : Option Value) (world : World) :
    FrontEndsAgree types split name json entry world := by
  refine frontEndsAgree_of_plan hsplit fun ms h => ?_
  rcases h.of_bind with h | ⟨d, -, h⟩
  · exact Definition.loadEntry_not_fails_mistakes ms h
  · cases compile_faults h with
    | answer _ h => exact hanswers _ ms h

/-- An answer of a registry does not fail with a list of mistakes. -/
lemma Registry.not_refuses_mistakes (registry : Registry) (d : Definition)
    (ms : List EntryMistake) : ¬ registry.introspector.Refuses d (.mistakes ms) := by
  intro h
  rcases Registry.refuses_fault h with ⟨cause, -, heq⟩ | ⟨typeName, heq⟩
  · exact absurd heq nofun
  · exact absurd heq nofun

/-- For every registry, name and payload the front ends agree: the tool for instructions and a pass
over the payload of this one entry refuse the same, in the same words, and otherwise have the same
instructions; and the source of the tool for factories is what the module of the pass holds between
its header and its table, which has one row, that of the name with the function of the source. -/
theorem Registry.frontEnds_agree (registry : Registry) (catalog : Catalog) (name : Text)
    (json : Json) (entry : Option Value) (world : World) :
    FrontEndsAgree registry.introspector catalog.split name json entry world :=
  frontEndsAgree_of_answers (Catalog.lookUp_steadyUpTo_imports catalog).split
    registry.not_refuses_mistakes name json entry world

end Blueprint
