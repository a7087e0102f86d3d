/-
# Drafted factories do what their plans do

The statements that a plan is drafted to, run as a block, do what carrying out the plan does: the
same operands are made in the same order, and what is nested is built by a function that is called
where the operand stands.  The proof goes by recursion on values and plans together.  For a value it
shows that the functions that its expression calls are defined before it (`ValueDrafted`), for the
rest of a plan that it goes on from the object that is built so far (`StepsDrafted`).

Along the way the factory is shown to be sound: it imports the modules of the classes that it names,
and the names in it are those that the plan mentions.
-/
import Blueprint.Proofs.Calls
import Blueprint.Proofs.Emission.Drafting

namespace Blueprint

namespace Factory

variable {m : Type → Type} [Monad m] {O : Type} {host : Host m O} {P : Text → Prop}
  {split : Splitter} {d d' : Draft}

attribute [local simp] draftValue draftItems draftEntries draftSteps executeValue executeItems
  executeEntries executeSteps values entryValues Expr.value Expr.IsSound runBlock BlockSound

/-! ## Operands -/

/-- The expression of the value makes the object of the value, once the statements before it are
run. -/
def ValueDrafted (host : Host m O) (P : Text → Prop) (split : Splitter) (v : Value) : Prop :=
  ∀ d drafted d', Drafts (draftValue split v) d drafted d' →
    drafted.2.IsSound ∧ Ready host P d d' drafted.1 fun locals =>
      drafted.2.value host locals = executeValue host v

lemma draftItems_eq_map (items : List Value) :
    draftItems split items = items.map (draftValue split) := by
  induction items with
  | nil => simp
  | cons item rest ih => simp [ih]

lemma executeItems_eq_map (items : List Value) :
    executeItems host items = items.map (executeValue host) := by
  induction items with
  | nil => simp
  | cons item rest ih => simp [ih]

/-- Expressions that are drafted one after the other make the objects of their values in order. -/
lemma draftAll_ready {items : List Value} (h : ∀ v ∈ items, ValueDrafted host P split v)
    {drafted : List Statement × List Expr}
    (hd : Drafts (draftAll (items.map (draftValue split))) d drafted d') :
    drafted.2.length = items.length ∧ ItemsSound drafted.2 ∧
      Ready host P d d' drafted.1 fun locals =>
        values host locals drafted.2 = inOrder (items.map (executeValue host)) := by
  induction items generalizing d drafted with
  | nil =>
    obtain ⟨rfl, rfl⟩ := hd.pure_inv
    exact ⟨rfl, trivial, Ready.nil (Grows.refl _) fun locals => by rw [values]; rfl⟩
  | cons item rest ih =>
    obtain ⟨entry, world, world', hd⟩ := hd
    obtain ⟨before, e, d₁, world₁, more, es, hitem, hrest, rfl⟩ := LeadsTo.all_cons_inv hd
    obtain ⟨hsound, hready⟩ := h item List.mem_cons_self d _ d₁ hitem.drafts
    obtain ⟨hlength, hsounds, hreadies⟩ :=
      ih (fun v hv => h v (List.mem_cons_of_mem item hv)) hrest.drafts
    refine ⟨congrArg Nat.succ hlength, ⟨hsound, hsounds⟩, (hready.append hreadies).mono ?_⟩
    rintro locals ⟨hv, hvs⟩
    rw [values, hv, hvs]
    rfl

/-! ## Calls -/

/-- What is ready once the arguments of a call are drafted. -/
structure CallDrafted (host : Host m O) (P : Text → Prop) (arguments : List Value)
    (keywords : List Text) (callee : Callee) (d d' : Draft) (drafted : List Statement × Call) :
    Prop where
  /-- What is called. -/
  callee_eq : drafted.2.callee = callee
  /-- The names of the arguments by name. -/
  names : drafted.2.keywords.map Prod.fst = keywords
  /-- The arguments in order are sound. -/
  positional : ItemsSound drafted.2.positional
  /-- The arguments by name are sound. -/
  named : ItemsSound (drafted.2.keywords.map Prod.snd)
  /-- The objects of the arguments. -/
  ready : Ready host P d d' drafted.1 fun locals =>
    values host locals drafted.2.positional =
        inOrder ((executeItems host arguments).take (arguments.length - keywords.length)) ∧
      values host locals (drafted.2.keywords.map Prod.snd) =
        inOrder ((executeItems host arguments).drop (arguments.length - keywords.length))

lemma draftCall_ready {arguments : List Value} {keywords : List Text} {callee : Callee}
    (h : ∀ v ∈ arguments, ValueDrafted host P split v) (hnodup : keywords.Nodup)
    (hlength : keywords.length ≤ arguments.length) {drafted : List Statement × Call}
    (hd : Drafts (draftCall callee (draftItems split arguments) keywords) d drafted d') :
    CallDrafted host P arguments keywords callee d d' drafted := by
  have hcount : (draftItems split arguments).length = arguments.length := by
    rw [draftItems_eq_map, List.length_map]
  have hlast : keywords.length =
      ((arguments.drop (arguments.length - keywords.length)).map (draftValue split)).length := by
    rw [List.length_map, List.length_drop]
    omega
  obtain ⟨entry, world, world', hd⟩ := hd
  obtain ⟨before, es, d₁, _, more, named, hpositional, hnamed, rfl⟩ := LeadsTo.call_inv hd
  rw [splitArguments_eq hnodup (by rw [hcount]; exact hlength), hcount, draftItems_eq_map,
    ← List.map_take, ← List.map_drop] at hpositional hnamed
  obtain ⟨hdrafted, hnames⟩ := hnamed.named_inv
  rw [List.map_snd_zip (Nat.le_of_eq hlast.symm)] at hdrafted
  rw [List.map_fst_zip (Nat.le_of_eq hlast)] at hnames
  obtain ⟨-, hsound, hready⟩ :=
    draftAll_ready (fun v hv => h v (List.mem_of_mem_take hv)) hpositional.drafts
  obtain ⟨-, hsound', hready'⟩ :=
    draftAll_ready (fun v hv => h v (List.mem_of_mem_drop hv)) hdrafted.drafts
  refine ⟨rfl, hnames, hsound, hsound', ?_⟩
  rw [executeItems_eq_map, ← List.map_take, ← List.map_drop]
  exact hready.append hready'

/-- The path of a class that is called. -/
def Callee.path? : Callee → Option (List Text)
  | member moduleName qualifiedName =>
    some (Catalog.pathParts moduleName ++ Catalog.pathParts qualifiedName)
  | builtin name => some [name]
  | method _ _ => none

lemma perform_of_path {c : Call} {path : List Text} (h : c.callee.path? = some path)
    (locals : Locals m O) :
    c.perform host locals = (do
      let os ← values host locals c.positional
      let ks ← values host locals (c.keywords.map Prod.snd)
      host.construct path os ((c.keywords.map Prod.fst).zip ks)) := by
  obtain ⟨callee, positional, keywords⟩ := c
  cases callee with
  | member moduleName qualifiedName =>
    obtain rfl := Option.some.inj h
    rfl
  | builtin name =>
    obtain rfl := Option.some.inj h
    rfl
  | method target name => exact absurd h nofun

/-- The class of a path is called by its parts. -/
lemma draftClass_ready (hsplit : Splitter.IsCutting split) {className : Text}
    (hfit : (Mention.path (classPath className)).IsFit P) {callee : Callee}
    (h : Drafts (draftClass split className) d callee d') :
    callee.path? = some (classPath className) ∧ Grows P d d' ∧ d'.count = d.count ∧
      ∀ imports, (∀ n ∈ d'.modules, n ∈ imports) → callee.IsSound P imports := by
  obtain ⟨entry, world, world', h⟩ := h
  obtain ⟨m, q, hcut, ⟨-, hmem, rfl, rfl⟩ | ⟨hempty, rfl, rfl⟩⟩ := LeadsTo.class_inv h
  · have hpath : ∀ name ∈ builtinNames, classPath name = [name] := by decide
    refine ⟨?_, Grows.refl _, rfl, fun imports _ => hmem⟩
    rw [hpath className hmem]
    rfl
  · have hcuts := hsplit className entry world
    rw [hcut] at hcuts
    have hpath : Catalog.pathParts m ++ Catalog.pathParts q = classPath className :=
      hcuts.resolve_left (by simp [hempty])
    have hparts : ∀ part ∈ classPath className, P part := by
      intro part hpart
      refine hfit.2 part ?_
      have hlength : (classPath className).length ≠ 1 := by
        have hm := List.length_pos_iff.2 (Catalog.pathParts_ne_nil m)
        have hq := List.length_pos_iff.2 (Catalog.pathParts_ne_nil q)
        rw [← hpath, List.length_append]
        omega
      rw [Mention.bareNames, if_neg hlength]
      exact hpart
    rw [← hpath] at hparts
    refine ⟨congrArg some hpath,
      ⟨Nat.le_refl _, fun n hn => mem_withModule.2 (.inl hn), fun n hn => ?_⟩, rfl, ?_⟩
    · rcases mem_withModule.1 hn with hn | rfl
      · exact .inl hn
      · exact .inr fun part hpart => hparts part (List.mem_append_left _ hpart)
    · exact fun imports hi => ⟨hi _ (mem_withModule.2 (.inr rfl)), hparts⟩

/-! ## Instructions -/

/-- Statements that are sound and, as the rest of a block that builds its object under a local name,
do what the instructions do. -/
structure StepsReady (host : Host m O) (P : Text → Prop) (target : Local) (plan : Plan)
    (d d' : Draft) (statements : List Statement) : Prop extends Grows P d d' where
  /-- The statements are sound. -/
  sound : ∀ imports, (∀ n ∈ d'.modules, n ∈ imports) → BlockSound P imports statements
  /-- What they do, from the object that is built so far. -/
  runs : ∀ locals current, (∀ o, current = some o → locals target = some (.object o)) →
    (current = none → startsWithObject plan = true) →
    runBlock host (statements ++ [.result target]) locals = executeSteps host plan current

/-- The instructions are drafted to statements that do what they do. -/
def StepsDrafted (host : Host m O) (P : Text → Prop) (split : Splitter) (plan : Plan) : Prop :=
  ∀ target d statements d', Drafts (draftSteps split target plan) d statements d' →
    target.number ≤ d.count → StepsReady host P target plan d d' statements

lemma stepsDrafted_nil : StepsDrafted host P split [] := by
  rintro target d statements d' ⟨entry, world, world', hd⟩ _
  obtain ⟨rfl, rfl, rfl⟩ := LeadsTo.steps_nil_inv hd
  refine ⟨Grows.refl _, fun _ _ => BlockSound.nil, fun locals current hcurrent hstart => ?_⟩
  cases current with
  | none => exact absurd (hstart rfl) (by simp [startsWithObject])
  | some o =>
    rw [List.nil_append, runBlock, object, hcurrent o rfl, executeSteps]
    rfl

omit [Monad m] in
/-- The object that is made under the local name is the one that is built so far. -/
lemma bind_self (locals : Locals m O) (l : Local) (o : O) :
    ∀ o', some o = some o' → (locals.bind l (.object o)) l = some (.object o') := by
  intro o' he
  rw [Locals.bind, if_pos rfl, Option.some.inj he]

lemma stepsDrafted_construct [LawfulMonad m] (hsplit : Splitter.IsCutting split) {className : Text}
    {arguments : List Value} {keywords : List Text} {rest : Plan}
    (hpath : (Mention.path (classPath className)).IsFit P)
    (hkeywords : (Mention.keywords keywords arguments.length).IsFit P)
    (harguments : ∀ v ∈ arguments, ValueDrafted host P split v)
    (hrest : StepsDrafted host P split rest) :
    StepsDrafted host P split (.construct className arguments keywords :: rest) := by
  rintro target d statements d' ⟨entry, world, world', hd⟩ htarget
  obtain ⟨callee, d₁, _, before, call, d₂, _, more, hclass, hcall, hmore, rfl⟩ :=
    LeadsTo.construct_inv hd
  obtain ⟨hpath', hgrows, hcount, hcallee⟩ := draftClass_ready hsplit hpath hclass.drafts
  have hdrafted := draftCall_ready harguments hkeywords.1.1 hkeywords.1.2 hcall.drafts
  have htarget₂ : target.number ≤ d₂.count := Nat.le_trans htarget
    (Nat.le_trans hgrows.count_le hdrafted.ready.count_le)
  have hsteps := hrest target d₂ more d' hmore.drafts htarget₂
  refine ⟨hgrows.trans (hdrafted.ready.toGrows.trans hsteps.toGrows), fun imports hi => ?_,
    fun locals current _ _ => ?_⟩
  · have hi₂ : ∀ n ∈ d₂.modules, n ∈ imports := fun n hn => hi n (hsteps.keeps n hn)
    have hi₁ : ∀ n ∈ d₁.modules, n ∈ imports := fun n hn => hi₂ n (hdrafted.ready.keeps n hn)
    refine (hdrafted.ready.sound imports hi₂).append ?_
    rw [BlockSound]
    refine ⟨⟨?_, hdrafted.positional, hdrafted.named, ?_, ?_⟩, hsteps.sound imports hi⟩
    · rw [hdrafted.callee_eq]
      exact hcallee imports hi₁
    · rw [hdrafted.names]
      exact hkeywords.2
    · rw [hdrafted.names]
      exact hkeywords.1.1
  · obtain ⟨locals', -, hrun, hready⟩ :=
      hdrafted.ready.prepares (.bind target call :: more ++ [.result target]) locals
    obtain ⟨hpositional, hnamed⟩ := hready locals' (Agree.refl _ _)
    have hperform : call.callee.path? = some (classPath className) := by
      rw [hdrafted.callee_eq, hpath']
    rw [List.append_assoc, hrun, List.cons_append, runBlock, perform_of_path hperform, hpositional,
      hnamed, hdrafted.names, executeSteps]
    simp only [bind_assoc]
    refine congrArg _ (funext fun os => congrArg _ (funext fun ks => ?_))
    refine congrArg _ (funext fun o => ?_)
    exact hsteps.runs _ (some o) (bind_self _ _ _) fun h => absurd h (by simp)

lemma stepsDrafted_assign [LawfulMonad m] {field : Text} {value : Value} {rest : Plan}
    (hfield : (Mention.field field).IsFit P) (hvalue : ValueDrafted host P split value)
    (hrest : StepsDrafted host P split rest) :
    StepsDrafted host P split (.assign field value :: rest) := by
  rintro target d statements d' ⟨entry, world, world', hd⟩ htarget
  obtain ⟨before, e, d₁, _, more, he, hmore, rfl⟩ := LeadsTo.assign_inv hd
  obtain ⟨hsound, hdrafted⟩ := hvalue d _ d₁ he.drafts
  have hsteps := hrest target d₁ more d' hmore.drafts (Nat.le_trans htarget hdrafted.count_le)
  have hbare : Text.isIdentifier field = true → P field := by
    intro h
    refine hfield.2 field ?_
    rw [Mention.bareNames, if_pos h]
    exact List.mem_cons_self
  refine ⟨hdrafted.toGrows.trans hsteps.toGrows, fun imports hi => ?_,
    fun locals current hcurrent hstart => ?_⟩
  · refine (hdrafted.sound imports fun n hn => hi n (hsteps.keeps n hn)).append ?_
    rw [BlockSound]
    exact ⟨hbare, hsound, hsteps.sound imports hi⟩
  · cases current with
    | none => exact absurd (hstart rfl) (by simp [startsWithObject])
    | some o =>
      obtain ⟨locals', hagree, hrun, hready⟩ :=
        hdrafted.prepares (.assign target field e :: more ++ [.result target]) locals
      have hobject : locals' target = some (.object o) := by
        rw [← hagree target htarget]
        exact hcurrent o rfl
      have hassign : performAssign host locals' target field e =
          executeValue host value >>= fun v => host.assign o field v := by
        rw [performAssign, object, hobject, hready locals' (Agree.refl _ _)]
        split <;> simp only [pure_bind]
      have hnext := hsteps.runs locals' (some o)
        (fun o' ho' => by rw [hobject, Option.some.inj ho']) fun h => absurd h (by simp)
      rw [List.append_assoc, hrun, List.cons_append, runBlock, hassign, hnext, executeSteps]
      simp only [Host.current, bind_assoc, pure_bind]

lemma stepsDrafted_invoke [LawfulMonad m] {method : Text} {arguments : List Value}
    {keywords : List Text}
    {rest : Plan} (hmethod : (Mention.method method).IsFit P)
    (hkeywords : (Mention.keywords keywords arguments.length).IsFit P)
    (harguments : ∀ v ∈ arguments, ValueDrafted host P split v)
    (hrest : StepsDrafted host P split rest) :
    StepsDrafted host P split (.invoke method arguments keywords :: rest) := by
  rintro target d statements d' ⟨entry, world, world', hd⟩ htarget
  obtain ⟨before, call, d₁, _, more, hcall, hmore, rfl⟩ := LeadsTo.invoke_inv hd
  have hdrafted := draftCall_ready harguments hkeywords.1.1 hkeywords.1.2 hcall.drafts
  have hsteps :=
    hrest target d₁ more d' hmore.drafts (Nat.le_trans htarget hdrafted.ready.count_le)
  refine ⟨hdrafted.ready.toGrows.trans hsteps.toGrows, fun imports hi => ?_,
    fun locals current hcurrent hstart => ?_⟩
  · refine (hdrafted.ready.sound imports fun n hn => hi n (hsteps.keeps n hn)).append ?_
    rw [BlockSound]
    refine ⟨⟨?_, hdrafted.positional, hdrafted.named, ?_, ?_⟩, hsteps.sound imports hi⟩
    · rw [hdrafted.callee_eq]
      exact hmethod.2 method List.mem_cons_self
    · rw [hdrafted.names]
      exact hkeywords.2
    · rw [hdrafted.names]
      exact hkeywords.1.1
  · cases current with
    | none => exact absurd (hstart rfl) (by simp [startsWithObject])
    | some o =>
      obtain ⟨locals', hagree, hrun, hready⟩ :=
        hdrafted.ready.prepares (.perform call :: more ++ [.result target]) locals
      obtain ⟨hpositional, hnamed⟩ := hready locals' (Agree.refl _ _)
      have hobject : locals' target = some (.object o) := by
        rw [← hagree target htarget]
        exact hcurrent o rfl
      have hperform : call.perform host locals' = (do
          let os ← values host locals' call.positional
          let ks ← values host locals' (call.keywords.map Prod.snd)
          host.invoke o method os ((call.keywords.map Prod.fst).zip ks)) := by
        have hcallee : call.callee = .method target method := hdrafted.callee_eq
        simp only [Call.perform, hcallee, hobject]
      have hnext := hsteps.runs locals' (some o)
        (fun o' ho' => by rw [hobject, Option.some.inj ho']) fun h => absurd h (by simp)
      rw [List.append_assoc, hrun, List.cons_append, runBlock, hperform, hpositional, hnamed,
        hdrafted.names, hnext, executeSteps]
      simp only [Host.current, bind_assoc, pure_bind]

/-! ## Blocks -/

/-- A block of its own that does what a plan does, whatever is bound around it. -/
structure BlockReady (host : Host m O) (P : Text → Prop) (plan : Plan) (d d' : Draft)
    (body : List Statement) : Prop extends Grows P d d' where
  /-- The block is sound. -/
  sound : ∀ imports, (∀ n ∈ d'.modules, n ∈ imports) → BlockSound P imports body
  /-- What it does. -/
  runs : ∀ locals, runBlock host body locals = executeSteps host plan none

lemma inBlock_ready {plan : Plan} (hblock : (Mention.block (startsWithObject plan)).IsFit P)
    (hsteps : StepsDrafted host P split plan) {body : List Statement}
    (hd : Drafts (draftPlan split plan) d body d') : BlockReady host P plan d d' body := by
  obtain ⟨entry, world, world', hd⟩ := hd
  obtain ⟨target, d₁, _, statements, hfresh, hstatements, rfl⟩ := LeadsTo.plan_inv hd
  obtain ⟨rfl, rfl, rfl⟩ := hfresh.fresh_inv
  have hready := hsteps _ _ statements d' hstatements.drafts (Nat.le_refl _)
  have hgrows : Grows P d { d with count := d.count + 1 } :=
    ⟨Nat.le_succ _, fun _ => id, fun _ => .inl⟩
  refine ⟨hgrows.trans hready.toGrows, fun imports hi => ?_, fun locals => ?_⟩
  · refine (hready.sound imports hi).append ?_
    rw [BlockSound]
    exact BlockSound.nil
  · exact hready.runs locals none (fun o h => absurd h (by simp)) fun _ => hblock.1

/-- A function that is defined under a new name does what its plan does. -/
lemma define_ready {plan : Plan} {role : Role} {l : Local} {d₁ : Draft}
    (hfresh : Drafts (fresh role) d l d₁) {body : List Statement}
    (hbody : BlockReady host P plan d₁ d' body) :
    Ready host P d d' [.define l body] fun locals =>
      locals l = some (.routine (executeSteps host plan none)) := by
  refine ⟨(Grows.of_fresh hfresh).trans hbody.toGrows, fun imports hi => ?_,
    fun rest locals => ?_⟩
  · rw [BlockSound]
    exact ⟨hbody.sound imports hi, BlockSound.nil⟩
  · -- the number of the function is new, so that binding it changes no earlier name
    obtain ⟨rfl, rfl⟩ := hfresh.fresh_inv
    refine ⟨locals.bind ⟨role, d.count + 1⟩ (.routine (executeSteps host plan none)),
      Agree.bind (Nat.lt_succ_self _) _ _, ?_, fun locals'' h'' => ?_⟩
    · rw [List.cons_append, List.nil_append, runBlock, hbody.runs]
    · rw [← h'' _ hbody.count_le, Locals.bind, if_pos rfl]

lemma stepsDrafted_placeholder {className : Text} {initializer rest : Plan}
    (hblock : (Mention.block (startsWithObject initializer)).IsFit P)
    (hinitializer : StepsDrafted host P split initializer)
    (hrest : StepsDrafted host P split rest) :
    StepsDrafted host P split (.placeholder className initializer :: rest) := by
  rintro target d statements d' ⟨entry, world, world', hd⟩ htarget
  obtain ⟨builder, d₁, _, body, d₂, _, more, hfresh, hbody, hmore, rfl⟩ :=
    LeadsTo.placeholder_inv hd
  have hdefine := define_ready hfresh.drafts (inBlock_ready hblock hinitializer hbody.drafts)
  have hsteps := hrest target d₂ more d' hmore.drafts (Nat.le_trans htarget hdefine.count_le)
  refine ⟨hdefine.toGrows.trans hsteps.toGrows, fun imports hi => ?_,
    fun locals current _ _ => ?_⟩
  · have hproxy : BlockSound P imports (.proxy target className builder :: more) := by
      rw [BlockSound]
      exact hsteps.sound imports hi
    exact (hdefine.sound imports fun n hn => hi n (hsteps.keeps n hn)).append hproxy
  · obtain ⟨locals', -, hrun, hready⟩ :=
      hdefine.prepares (.proxy target className builder :: more ++ [.result target]) locals
    have hbuilder := hready locals' (Agree.refl _ _)
    have hdefined : runBlock host
        (.define builder body :: .proxy target className builder :: more ++ [.result target])
          locals = runBlock host
            (.proxy target className builder :: more ++ [.result target]) locals' := hrun
    rw [hdefined, List.cons_append, runBlock, performProxy, hbuilder, executeSteps]
    refine congrArg _ (funext fun o => ?_)
    exact hsteps.runs _ (some o) (bind_self _ _ _) fun h => absurd h (by simp)

lemma stepsDrafted_stray {value : Value} {rest : Plan} :
    StepsDrafted host P split (.stray value :: rest) := by
  rintro target d statements d' ⟨entry, world, world', hd⟩ _
  exact (LeadsTo.stray_inv hd).elim

/-! ## Values -/

/-- A value whose expression needs nothing before it. -/
lemma valueDrafted_of_eq {v w : Value} {e : Expr}
    (h : draftValue split v = ifWritten w (pure ([], e)))
    (hsound : e.IsSound) (he : ∀ locals, e.value host locals = executeValue host v) :
    ValueDrafted host P split v := by
  intro d drafted d' hd
  rw [h] at hd
  obtain ⟨rfl, rfl⟩ := hd.ifWritten_inv.2.pure_inv
  exact ⟨hsound, Ready.nil (Grows.refl _) he⟩

lemma valueDrafted_refused {v : Value} (h : draftValue split v = refuseConstant v) :
    ValueDrafted host P split v := by
  intro d drafted d' hd
  rw [h] at hd
  exact hd.refuseConstant_inv.elim

lemma valueDrafted_literal {v : Value} (h : v.isBuiltin = true) :
    ValueDrafted host P split v := by
  have hsound : (Expr.constant v).IsSound := by simpa using h
  cases v with
  | null | bool | int | float | str | bytes =>
    exact valueDrafted_of_eq (draftValue_literal rfl) hsound fun _ => by simp
  | _ => exact absurd h (by simp [Value.isBuiltin, Value.isLiteral])

lemma valueDrafted_reference {entry : Value} (hentry : (Mention.entry entry).IsFit P) :
    ValueDrafted host P split (.reference entry) := by
  have hsound : (Expr.lookup entry).IsSound := by
    rw [Expr.IsSound]
    exact hentry.1
  exact valueDrafted_of_eq (by rw [draftValue]) hsound fun _ => by simp

/-- A nested plan is carried out where the function that carries it out is called. -/
lemma valueDrafted_nested {className : Text} {plan : Plan}
    (hblock : (Mention.block (startsWithObject plan)).IsFit P)
    (hsteps : StepsDrafted host P split plan) :
    ValueDrafted host P split (.nested className plan) := by
  rintro d drafted d' ⟨entry, world, world', hd⟩
  obtain ⟨builder, d₁, _, body, hfresh, hbody, rfl⟩ := LeadsTo.nested_inv hd
  have hdefine := define_ready hfresh.drafts (inBlock_ready hblock hsteps hbody.drafts)
  refine ⟨by rw [Expr.IsSound]; trivial, hdefine.mono fun locals hbuilder => ?_⟩
  rw [Expr.value, routine, hbuilder, executeValue]

/-- A list and a tuple alike are put together from what is made of their items. -/
lemma valueDrafted_items {v : Value} {items : List Value} {collect : List Expr → Expr}
    (hdraft : draftValue split v = draftAll (draftItems split items) >>= fun drafted =>
      pure (drafted.1, collect drafted.2))
    (hsound : ∀ es, ItemsSound es → (collect es).IsSound)
    (hvalue : ∀ es locals, values host locals es = inOrder (executeItems host items) →
      (collect es).value host locals = executeValue host v)
    (h : ∀ v ∈ items, ValueDrafted host P split v) : ValueDrafted host P split v := by
  rintro d drafted d' ⟨entry, world, world', hd⟩
  rw [hdraft, draftItems_eq_map] at hd
  obtain ⟨before, es, hall, rfl⟩ := LeadsTo.gathered_inv hd
  obtain ⟨-, hes, hready⟩ := draftAll_ready h hall.drafts
  refine ⟨hsound es hes, hready.mono fun locals hvalues => hvalue es locals ?_⟩
  rw [hvalues, executeItems_eq_map]

/-- Keys and values are made in turn. -/
lemma draftEntries_ready {entries : List (Value × Value)}
    (h : ∀ e ∈ entries, ValueDrafted host P split e.1 ∧ ValueDrafted host P split e.2)
    {drafted : List Statement × List (Expr × Expr)}
    (hd : Drafts (draftEntries split entries) d drafted d') :
    EntriesSound drafted.2 ∧ Ready host P d d' drafted.1 fun locals =>
      entryValues host locals drafted.2 = executeEntries host entries := by
  induction entries generalizing d drafted with
  | nil =>
    obtain ⟨entry, world, world', hd⟩ := hd
    obtain ⟨rfl, rfl, rfl⟩ := LeadsTo.entries_nil_inv hd
    refine ⟨trivial, Ready.nil (Grows.refl _) fun locals => ?_⟩
    rw [entryValues, executeEntries]
  | cons pair rest ih =>
    obtain ⟨key, item⟩ := pair
    obtain ⟨entry, world, world', hd⟩ := hd
    obtain ⟨before, k, d₁, _, middle, v, d₂, _, more, es, hkey, hitem, hrest, rfl⟩ :=
      LeadsTo.entries_cons_inv hd
    obtain ⟨hk, hv⟩ := h (key, item) List.mem_cons_self
    obtain ⟨hsoundk, hreadyk⟩ := hk d _ d₁ hkey.drafts
    obtain ⟨hsoundv, hreadyv⟩ := hv d₁ _ d₂ hitem.drafts
    obtain ⟨hsounds, hreadies⟩ := ih (fun e he => h e (List.mem_cons_of_mem _ he)) hrest.drafts
    refine ⟨⟨hsoundk, hsoundv, hsounds⟩, ((hreadyk.append hreadyv).append hreadies).mono ?_⟩
    rintro locals ⟨⟨hkey', hitem'⟩, hrest'⟩
    rw [entryValues, hkey', hitem', hrest', executeEntries]

lemma valueDrafted_dict {entries : List (Value × Value)}
    (h : ∀ e ∈ entries, ValueDrafted host P split e.1 ∧ ValueDrafted host P split e.2) :
    ValueDrafted host P split (.dict entries) := by
  rintro d drafted d' ⟨entry, world, world', hd⟩
  rw [draftValue] at hd
  obtain ⟨before, es, hentries, rfl⟩ := LeadsTo.gathered_inv hd
  obtain ⟨hsound, hready⟩ := draftEntries_ready h hentries.drafts
  refine ⟨by rw [Expr.IsSound]; exact hsound, hready.mono fun locals hvalues => ?_⟩
  rw [Expr.value, hvalues, executeValue]

/-! ## Plans -/

mutual

/-- Every value that mentions nothing unfit is drafted to what makes its object. -/
lemma valueDrafted [LawfulMonad m] (hsplit : Splitter.IsCutting split) :
    ∀ v : Value, (∀ u ∈ v.mentions, u.IsFit P) → ValueDrafted host P split v
  | .null, _ => valueDrafted_literal rfl
  | .bool _, _ => valueDrafted_literal rfl
  | .int _, _ => valueDrafted_literal rfl
  | .float _, _ => valueDrafted_literal rfl
  | .str _, _ => valueDrafted_literal rfl
  | .bytes _, _ => valueDrafted_literal rfl
  | .derived form literal, h => by
    rw [Value.mentions] at h
    exact absurd (h _ List.mem_cons_self).1 not_false
  | .reference entry, h => by
    rw [Value.mentions] at h
    exact valueDrafted_reference (h _ List.mem_cons_self)
  | .nested _ plan, h => by
    rw [Value.mentions, List.forall_mem_cons] at h
    exact valueDrafted_nested h.1 (stepsDrafted hsplit plan h.2)
  | .list items, h => by
    rw [Value.mentions] at h
    exact valueDrafted_items (by rw [draftValue])
      (fun _ hes => by rw [Expr.IsSound]; exact hes)
      (fun _ _ heq => by rw [Expr.value, heq, executeValue]) (itemsDrafted hsplit items h)
  | .tuple items, h => by
    rw [Value.mentions] at h
    exact valueDrafted_items (by rw [draftValue])
      (fun _ hes => by rw [Expr.IsSound]; exact hes)
      (fun _ _ heq => by rw [Expr.value, heq, executeValue]) (itemsDrafted hsplit items h)
  | .dict entries, h => by
    rw [Value.mentions] at h
    exact valueDrafted_dict (entriesDrafted hsplit entries h)
  | .useDefault, _ => valueDrafted_refused (by rw [draftValue])
  | .definition _, _ => valueDrafted_refused (by rw [draftValue])
  | .set _, _ => valueDrafted_refused (by rw [draftValue])
  | .foreign _, _ => valueDrafted_refused (by rw [draftValue])
  | .enumMember .., _ => valueDrafted_refused (by rw [draftValue])

lemma itemsDrafted [LawfulMonad m] (hsplit : Splitter.IsCutting split) :
    ∀ items : List Value, (∀ u ∈ itemMentions items, u.IsFit P) →
      ∀ v ∈ items, ValueDrafted host P split v
  | [], _ => List.forall_mem_nil _
  | item :: rest, h => by
    rw [itemMentions, List.forall_mem_append] at h
    exact List.forall_mem_cons.2 ⟨valueDrafted hsplit item h.1, itemsDrafted hsplit rest h.2⟩

lemma entriesDrafted [LawfulMonad m] (hsplit : Splitter.IsCutting split) :
    ∀ entries : List (Value × Value), (∀ u ∈ entryMentions entries, u.IsFit P) →
      ∀ e ∈ entries, ValueDrafted host P split e.1 ∧ ValueDrafted host P split e.2
  | [], _ => List.forall_mem_nil _
  | (key, item) :: rest, h => by
    rw [entryMentions, List.forall_mem_append, List.forall_mem_append] at h
    obtain ⟨⟨hkey, hitem⟩, hrest⟩ := h
    have hfirst := And.intro (valueDrafted hsplit key hkey) (valueDrafted hsplit item hitem)
    exact List.forall_mem_cons.2 ⟨hfirst, entriesDrafted hsplit rest hrest⟩

/-- Every plan that mentions nothing unfit is drafted to what carries it out. -/
lemma stepsDrafted [LawfulMonad m] (hsplit : Splitter.IsCutting split) :
    ∀ plan : List Instruction, (∀ u ∈ stepMentions plan, u.IsFit P) →
      StepsDrafted host P split plan
  | [], _ => stepsDrafted_nil
  | .construct className arguments keywords :: rest, h => by
    rw [stepMentions, List.forall_mem_append, List.forall_mem_cons, List.forall_mem_cons] at h
    obtain ⟨harguments, hpath, hkeywords, hrest⟩ := h
    exact stepsDrafted_construct hsplit hpath hkeywords (itemsDrafted hsplit arguments harguments)
      (stepsDrafted hsplit rest hrest)
  | .assign field value :: rest, h => by
    rw [stepMentions, List.forall_mem_append, List.forall_mem_cons] at h
    exact stepsDrafted_assign h.2.1 (valueDrafted hsplit value h.1) (stepsDrafted hsplit rest h.2.2)
  | .invoke method arguments keywords :: rest, h => by
    rw [stepMentions, List.forall_mem_append, List.forall_mem_cons, List.forall_mem_cons] at h
    obtain ⟨harguments, hmethod, hkeywords, hrest⟩ := h
    exact stepsDrafted_invoke hmethod hkeywords (itemsDrafted hsplit arguments harguments)
      (stepsDrafted hsplit rest hrest)
  | .placeholder className initializer :: rest, h => by
    rw [stepMentions, List.forall_mem_cons, List.forall_mem_append] at h
    exact stepsDrafted_placeholder h.1 (stepsDrafted hsplit initializer h.2.1)
      (stepsDrafted hsplit rest h.2.2)
  | .stray _ :: _, _ => stepsDrafted_stray

end

/-- The block of a plan does what the plan does. -/
theorem draftPlan_ready [LawfulMonad m] (hsplit : Splitter.IsCutting split) {plan : Plan}
    (h : ∀ u ∈ plan.mentions, u.IsFit P) {body : List Statement}
    (hd : Drafts (draftPlan split plan) d body d') : BlockReady host P plan d d' body := by
  rw [Plan.mentions, List.forall_mem_cons] at h
  exact inBlock_ready h.1 (stepsDrafted hsplit plan h.2) hd

end Factory

end Blueprint
