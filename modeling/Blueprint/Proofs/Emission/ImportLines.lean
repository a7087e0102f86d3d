/-
# Which modules a factory imports

The modules of a factory are collected while its body is drafted, and stand before it.  Which they
are can be told from the plan alone, given how the class paths in it are split:
`Plan.constructed` are the paths of the classes of which the plan constructs objects, at any depth,
each before those in the arguments of its own call.  They are split in this order, one after the
other, each in the world that the one before it leaves (`SplitInTurn`).

The imports of the factory are the modules of these cuts, in the order of their first occurrence and
each once; and the calls of classes in its body, each before those in the functions for its
arguments, are those of the cuts (`Factory.ofPlan_imports`).  No other class path of the plan is
ever split: neither that of a placeholder nor that of an object that is built in place.

Of several arguments for one keyword only the last is passed, and what the others construct needs no
module (`doubledKeyword_imports`).
-/
import Blueprint.Proofs.Emission.Uses
import Blueprint.Proofs.Splitting

namespace Blueprint

open Run (Stays)

/-! ## Constructed classes -/

/-- The class path that the use is of, if it is one. -/
def Use.className? : Use → Option Text
  | path className => some className
  | _ => none

/-- The class paths among uses. -/
def classNames (us : List Use) : List Text :=
  us.filterMap Use.className?

/-- The classes of which a plan constructs objects, at any depth, in the order of their calls, each
before those in its arguments. -/
def Plan.constructed (plan : Plan) : List Text :=
  classNames plan.uses

@[simp]
lemma classNames_nil : classNames [] = [] := rfl

lemma classNames_append (us us' : List Use) :
    classNames (us ++ us') = classNames us ++ classNames us' :=
  List.filterMap_append

/-- A use of anything else. -/
lemma classNames_cons {u : Use} (h : u.className? = none) (us : List Use) :
    classNames (u :: us) = classNames us :=
  List.filterMap_cons_none h

namespace Factory

/-- The class paths are split one after the other, from the first world to the last, and each is
called as it was split: as a member of its module, or if there is none, by its bare name, which is
that of a built in class. -/
inductive SplitInTurn (split : Splitter) (entry : Option Value) :
    List Text → World → List (Text × Text) → List Callee → World → Prop where
  | nil (world : World) : SplitInTurn split entry [] world [] [] world
  | member {className m q : Text} {rest : List Text} {cuts : List (Text × Text)}
      {callees : List Callee} {world world₁ world' : World}
      (hcut : split className entry world = (.ok (m, q), world₁)) (hm : m.isEmpty = false)
      (h : SplitInTurn split entry rest world₁ cuts callees world') :
      SplitInTurn split entry (className :: rest) world ((m, q) :: cuts) (.member m q :: callees)
        world'
  | builtin {className m q : Text} {rest : List Text} {cuts : List (Text × Text)}
      {callees : List Callee} {world world₁ world' : World}
      (hcut : split className entry world = (.ok (m, q), world₁)) (hm : m.isEmpty = true)
      (hname : className ∈ builtinNames)
      (h : SplitInTurn split entry rest world₁ cuts callees world') :
      SplitInTurn split entry (className :: rest) world ((m, q) :: cuts)
        (.builtin className :: callees) world'

/-- The modules of cuts, but for those without one. -/
def modulesOf (cuts : List (Text × Text)) : List Text :=
  (cuts.map Prod.fst).filter fun m => !m.isEmpty

lemma modulesOf_append (cuts cuts' : List (Text × Text)) :
    modulesOf (cuts ++ cuts') = modulesOf cuts ++ modulesOf cuts' := by
  rw [modulesOf, List.map_append, List.filter_append]
  rfl

namespace SplitInTurn

variable {split : Splitter} {entry : Option Value} {names names' : List Text}
  {cuts cuts' : List (Text × Text)} {callees callees' : List Callee} {world world₁ world' : World}

lemma append (h : SplitInTurn split entry names world cuts callees world₁)
    (h' : SplitInTurn split entry names' world₁ cuts' callees' world') :
    SplitInTurn split entry (names ++ names') world (cuts ++ cuts') (callees ++ callees')
      world' := by
  induction h with
  | nil => exact h'
  | member hcut hm _ ih => exact .member hcut hm (ih h')
  | builtin hcut hm hname _ ih => exact .builtin hcut hm hname (ih h')

/-- A member is called of a module of a cut. -/
lemma mem_modulesOf (h : SplitInTurn split entry names world cuts callees world') {m q : Text}
    (hcall : .member m q ∈ callees) : m ∈ modulesOf cuts := by
  induction h with
  | nil => exact absurd hcall List.not_mem_nil
  | member hcut hm _ ih =>
    rw [modulesOf, List.map_cons, List.filter_cons_of_pos (by simp [hm])]
    -- it is the class that was cut last, or one of those before
    rcases List.mem_cons.1 hcall with heq | hcall
    · rw [(Callee.member.inj heq).1]
      exact List.mem_cons_self
    · exact List.mem_cons_of_mem _ (ih hcall)
  | builtin hcut hm hname _ ih =>
    rw [modulesOf, List.map_cons, List.filter_cons_of_neg (by simp [hm])]
    exact ih ((List.mem_cons.1 hcall).resolve_left nofun)

/-- Each cut is the answer of the splitter in one of the worlds on the way. -/
lemma exists_split {S : World → Prop} (hS : ∀ className, Stays S (split className))
    (h : SplitInTurn split entry names world cuts callees world') (hworld : S world) :
    ∀ pair ∈ names.zip cuts, ∃ world₁, S world₁ ∧ (split pair.1 entry world₁).1 = .ok pair.2 := by
  induction h with
  | nil => exact List.forall_mem_nil _
  | member hcut _ _ ih | builtin hcut _ _ _ ih =>
    rw [List.zip_cons_cons, List.forall_mem_cons]
    have hnext : S _ := congrArg Prod.snd hcut ▸ hS _ entry _ hworld
    exact ⟨⟨_, hworld, congrArg Prod.fst hcut⟩, ih hnext⟩

end SplitInTurn

/-! ## Modules that are collected -/

/-- Modules that are collected one after the other are those, each at its first occurrence. -/
lemma foldl_withModule (modules names : List Text) :
    names.foldl withModule modules = modules ++ (names.removeAll modules).eraseDups := by
  induction names generalizing modules with
  | nil => simp [List.removeAll]
  | cons name rest ih =>
    rw [List.foldl_cons, ih, withModule]
    by_cases hname : modules.contains name = true
    · have hrest : (name :: rest).removeAll modules = rest.removeAll modules :=
        List.filter_cons_of_neg (by simpa using hname)
      rw [if_pos hname, hrest]
    · have hrest : (name :: rest).removeAll modules = name :: rest.removeAll modules :=
        List.filter_cons_of_pos (by simpa using hname)
      have hmore : rest.removeAll (modules ++ [name]) =
          (rest.removeAll modules).filter fun n => !n == name := by
        simp only [List.removeAll, List.filter_filter]
        refine List.filter_congr fun n _ => ?_
        have hlast : (n == name) = decide (n = name) := by
          rw [Bool.eq_iff_iff, beq_iff_eq, decide_eq_true_iff]
        simp [hlast, Bool.and_comm]
      rw [if_neg hname, hrest, List.eraseDups_cons, hmore, List.append_assoc,
        List.singleton_append]

lemma nodup_foldl_withModule {modules : List Text} (h : modules.Nodup) (names : List Text) :
    (names.foldl withModule modules).Nodup := by
  induction names generalizing modules with
  | nil => exact h
  | cons name rest ih =>
    rw [List.foldl_cons]
    refine ih ?_
    rw [withModule]
    split
    · exact h
    · -- a module is put at the end only if it is not there yet
      rename_i hname
      refine List.nodup_append.2 ⟨h, by simp, fun m hm n hn => ?_⟩
      rw [List.mem_singleton.1 hn]
      rintro rfl
      exact hname (by simpa using hm)

/-! ## Calls of classes -/

/-- The classes that a block calls, at any depth, after those that functions before it call.  A call
comes before those in the functions that are defined for its arguments, which stand before it. -/
def classCalls (pending : List Callee) : List Statement → List Callee
  | [] => pending
  | .define _ body :: rest => classCalls (pending ++ classCalls [] body) rest
  | .bind _ call :: rest => call.callee :: (pending ++ classCalls [] rest)
  | .assign .. :: rest | .perform _ :: rest | .proxy .. :: rest | .result _ :: rest =>
    pending ++ classCalls [] rest

/-- The classes that a factory calls, each before those in the functions for its arguments. -/
def calledClasses (f : Factory) : List Callee :=
  classCalls [] f.body

/-- The statements are definitions of functions that call these classes. -/
def Defers (before : List Statement) (callees : List Callee) : Prop :=
  ∀ pending rest, classCalls pending (before ++ rest) = classCalls (pending ++ callees) rest

lemma Defers.nil : Defers [] [] := by
  intro pending rest
  rw [List.nil_append, List.append_nil]

lemma Defers.append {before before' : List Statement} {callees callees' : List Callee}
    (h : Defers before callees) (h' : Defers before' callees') :
    Defers (before ++ before') (callees ++ callees') := by
  intro pending rest
  rw [List.append_assoc, h, h', List.append_assoc]

lemma Defers.define (builder : Local) (body : List Statement) :
    Defers [.define builder body] (classCalls [] body) := by
  intro pending rest
  rw [List.singleton_append, classCalls]

/-! ## What drafting collects -/

/-- From the one draft and world to the other ones, the class paths of the uses were split in turn,
and the modules of the cuts collected; the classes are called as they were split. -/
def Collects (split : Splitter) (entry : Option Value) (us : List Use) (d : Draft) (world : World)
    (callees : List Callee) (d' : Draft) (world' : World) : Prop :=
  ∃ cuts, SplitInTurn split entry (classNames us) world cuts callees world' ∧
    d'.modules = (modulesOf cuts).foldl withModule d.modules

namespace Collects

variable {split : Splitter} {entry : Option Value} {us us' : List Use} {d d₁ d' : Draft}
  {world world₁ world' : World} {callees callees' : List Callee}

lemma nothing {us : List Use} (hus : classNames us = []) (h : d'.modules = d.modules) :
    Collects split entry us d world [] d' world := by
  refine ⟨[], ?_, h⟩
  rw [hus]
  exact .nil world

lemma append (h : Collects split entry us d world callees d₁ world₁)
    (h' : Collects split entry us' d₁ world₁ callees' d' world') :
    Collects split entry (us ++ us') d world (callees ++ callees') d' world' := by
  obtain ⟨cuts, hcuts, hmodules⟩ := h
  obtain ⟨cuts', hcuts', hmodules'⟩ := h'
  refine ⟨cuts ++ cuts', ?_, ?_⟩
  · rw [classNames_append]
    exact hcuts.append hcuts'
  · rw [modulesOf_append, List.foldl_append, ← hmodules, hmodules']

/-- Other uses make no difference. -/
lemma congr (h : Collects split entry us d world callees d' world')
    (hus : classNames us' = classNames us) :
    Collects split entry us' d world callees d' world' := by
  obtain ⟨cuts, hcuts, hmodules⟩ := h
  exact ⟨cuts, hus ▸ hcuts, hmodules⟩

/-- The draft that is counted on collects the same. -/
lemma of_modules {d₀ : Draft} (h : Collects split entry us d₀ world callees d' world')
    (hd : d₀.modules = d.modules) : Collects split entry us d world callees d' world' := by
  obtain ⟨cuts, hcuts, hmodules⟩ := h
  exact ⟨cuts, hcuts, hd ▸ hmodules⟩

end Collects

section Drafting

variable {split : Splitter} {entry : Option Value} {d d' : Draft} {world world' : World}

/-- Drafting an expression collects what the uses need, and defines functions for the calls before
it. -/
def ExprCollects (x : Drafting Drafted) (split : Splitter) (us : List Use) : Prop :=
  ∀ entry d world drafted d' world', LeadsTo x entry d world drafted d' world' →
    ∃ callees, Collects split entry us d world callees d' world' ∧ Defers drafted.1 callees

lemma draftAll_collects {items : List Value}
    (h : ∀ v ∈ items, ExprCollects (draftValue split v) split v.uses)
    {drafted : List Statement × List Expr}
    (hd : LeadsTo (draftAll (items.map (draftValue split))) entry d world drafted d' world') :
    ∃ callees, Collects split entry (items.map Value.uses).flatten d world callees d' world' ∧
      Defers drafted.1 callees := by
  induction items generalizing d world drafted with
  | nil =>
    obtain ⟨rfl, rfl, rfl⟩ := hd.pure_inv
    exact ⟨[], .nothing rfl rfl, .nil⟩
  | cons item rest ih =>
    obtain ⟨before, e, d₁, world₁, more, es, hitem, hrest, rfl⟩ := hd.all_cons_inv
    obtain ⟨callees, hcollects, hbefore⟩ := h item List.mem_cons_self entry _ _ _ _ _ hitem
    obtain ⟨callees', hcollects', hmore⟩ :=
      ih (fun v hv => h v (List.mem_cons_of_mem item hv)) hrest
    exact ⟨callees ++ callees', hcollects.append hcollects', hbefore.append hmore⟩

/-- The names that arguments are passed by are no classes. -/
lemma classNames_named (named : List (Text × Value)) :
    classNames (named.flatMap fun e => .keyword e.1 :: e.2.uses) =
      classNames ((named.map Prod.snd).map Value.uses).flatten := by
  induction named with
  | nil => rfl
  | cons e rest ih =>
    rw [List.flatMap_cons, List.cons_append, classNames_cons rfl, classNames_append, ih,
      List.map_cons, List.map_cons, List.flatten_cons, classNames_append]

lemma draftNamed_collects {named : List (Text × Value)}
    (h : ∀ e ∈ named, ExprCollects (draftValue split e.2) split e.2.uses)
    {drafted : List Statement × List (Text × Expr)}
    (hd : LeadsTo (draftNamed (named.map fun e => (e.1, draftValue split e.2))) entry d world
      drafted d' world') :
    ∃ callees, Collects split entry (named.flatMap fun e => .keyword e.1 :: e.2.uses) d world
        callees d' world' ∧ Defers drafted.1 callees := by
  obtain ⟨hall, -⟩ := hd.namedValues_inv
  obtain ⟨callees, hcollects, hbefore⟩ := draftAll_collects (List.forall_mem_map.2 h) hall
  exact ⟨callees, hcollects.congr (classNames_named named), hbefore⟩

/-- A call collects what its arguments need, first those in order and then those by name. -/
lemma draftCall_collects {arguments : List Value} {keywords : List Text} {callee : Callee}
    (h : ∀ v ∈ arguments, ExprCollects (draftValue split v) split v.uses)
    {drafted : List Statement × Call}
    (hd : LeadsTo (draftCall callee (draftItems split arguments) keywords) entry d world drafted d'
      world') :
    drafted.2.callee = callee ∧
      ∃ callees, Collects split entry (callUses (itemUses arguments) keywords) d world callees d'
        world' ∧ Defers drafted.1 callees := by
  obtain ⟨before, es, d₁, world₁, more, ks, hpositional, hnamed, rfl⟩ := hd.call_inv
  rw [draftItems_eq_map, splitArguments_map] at hpositional hnamed
  obtain ⟨callees, hcollects, hbefore⟩ := draftAll_collects
    (fun v hv => h v (mem_of_mem_splitArguments (.inl hv))) hpositional
  obtain ⟨callees', hcollects', hmore⟩ := draftNamed_collects
    (fun e he => h e.2 (mem_of_mem_splitArguments (.inr ⟨e, he, rfl⟩))) hnamed
  refine ⟨rfl, callees ++ callees', ?_, hbefore.append hmore⟩
  rw [callUses_itemUses]
  exact hcollects.append hcollects'

/-- A class path is split, and its module collected. -/
lemma draftClass_collects {className : Text} {callee : Callee}
    (h : LeadsTo (draftClass split className) entry d world callee d' world') :
    Collects split entry [.path className] d world [callee] d' world' := by
  obtain ⟨m, q, hsplit, ⟨hempty, hmem, rfl, rfl⟩ | ⟨hempty, rfl, rfl⟩⟩ := h.class_inv
  · refine ⟨[(m, q)], .builtin hsplit hempty hmem (.nil _), ?_⟩
    rw [modulesOf, List.map_singleton, List.filter_cons_of_neg (by simp [hempty])]
    rfl
  · refine ⟨[(m, q)], .member hsplit hempty (.nil _), ?_⟩
    rw [modulesOf, List.map_singleton, List.filter_cons_of_pos (by simp [hempty])]
    rfl

/-! ## Instructions and blocks -/

/-- Drafting instructions collects what they use, and calls the classes. -/
def StepsCollect (split : Splitter) (plan : Plan) : Prop :=
  ∀ target entry d world statements d' world',
    LeadsTo (draftSteps split target plan) entry d world statements d' world' →
      ∃ callees, Collects split entry (stepUses plan) d world callees d' world' ∧
        ∀ rest, classCalls [] (statements ++ rest) = callees ++ classCalls [] rest

lemma stepsCollect_nil : StepsCollect split [] := by
  intro target entry d world statements d' world' hd
  obtain ⟨rfl, rfl, rfl⟩ := hd.steps_nil_inv
  rw [stepUses]
  exact ⟨[], .nothing rfl rfl, fun _ => rfl⟩

lemma stepsCollect_construct {className : Text} {arguments : List Value} {keywords : List Text}
    {rest : Plan} (harguments : ∀ v ∈ arguments, ExprCollects (draftValue split v) split v.uses)
    (hrest : StepsCollect split rest) :
    StepsCollect split (.construct className arguments keywords :: rest) := by
  intro target entry d world statements d' world' hd
  obtain ⟨callee, d₁, world₁, before, call, d₂, world₂, more, hclass, hcall, hmore, rfl⟩ :=
    hd.construct_inv
  obtain ⟨rfl, inner, hinner, hbefore⟩ := draftCall_collects harguments hcall
  obtain ⟨callees, hsteps, hcalls⟩ := hrest target entry _ _ _ _ _ hmore
  rw [stepUses]
  refine ⟨call.callee :: (inner ++ callees),
    (draftClass_collects hclass).append (hinner.append hsteps), fun rest => ?_⟩
  -- the call stands behind the functions for its arguments
  rw [List.append_assoc, List.cons_append, hbefore, classCalls, hcalls, List.nil_append,
    List.cons_append, List.append_assoc]

lemma stepsCollect_assign {field : Text} {value : Value} {rest : Plan}
    (hvalue : ExprCollects (draftValue split value) split value.uses)
    (hrest : StepsCollect split rest) : StepsCollect split (.assign field value :: rest) := by
  intro target entry d world statements d' world' hd
  obtain ⟨before, e, d₁, world₁, more, he, hmore, rfl⟩ := hd.assign_inv
  obtain ⟨inner, hinner, hbefore⟩ := hvalue entry _ _ _ _ _ he
  obtain ⟨callees, hsteps, hcalls⟩ := hrest target entry _ _ _ _ _ hmore
  rw [stepUses]
  refine ⟨inner ++ callees, (hinner.append hsteps).congr ?_, fun rest => ?_⟩
  · rw [classNames_append, classNames_append, classNames_cons rfl]
  · rw [List.append_assoc, List.cons_append, hbefore, classCalls, hcalls, List.nil_append,
      List.append_assoc]

lemma stepsCollect_invoke {method : Text} {arguments : List Value} {keywords : List Text}
    {rest : Plan} (harguments : ∀ v ∈ arguments, ExprCollects (draftValue split v) split v.uses)
    (hrest : StepsCollect split rest) :
    StepsCollect split (.invoke method arguments keywords :: rest) := by
  intro target entry d world statements d' world' hd
  obtain ⟨before, call, d₁, world₁, more, hcall, hmore, rfl⟩ := hd.invoke_inv
  obtain ⟨-, inner, hinner, hbefore⟩ := draftCall_collects harguments hcall
  obtain ⟨callees, hsteps, hcalls⟩ := hrest target entry _ _ _ _ _ hmore
  rw [stepUses]
  refine ⟨inner ++ callees, (hinner.append hsteps).congr ?_, fun rest => ?_⟩
  · rw [classNames_append, classNames_append, classNames_cons rfl]
  · rw [List.append_assoc, List.cons_append, hbefore, classCalls, hcalls, List.nil_append,
      List.append_assoc]

lemma inBlock_collects {plan : Plan} (hsteps : StepsCollect split plan) {body : List Statement}
    (hd : LeadsTo (draftPlan split plan) entry d world body d' world') :
    Collects split entry (stepUses plan) d world (classCalls [] body) d' world' := by
  obtain ⟨target, d₁, world₁, statements, hfresh, hstatements, rfl⟩ := hd.plan_inv
  obtain ⟨rfl, rfl, rfl⟩ := hfresh.fresh_inv
  obtain ⟨callees, hcollects, hcalls⟩ := hsteps _ entry _ _ _ _ _ hstatements
  rw [hcalls, classCalls, classCalls, List.append_nil, List.append_nil]
  exact hcollects.of_modules rfl

/-- The class path of a placeholder is not split. -/
lemma stepsCollect_placeholder {className : Text} {initializer rest : Plan}
    (hinitializer : StepsCollect split initializer) (hrest : StepsCollect split rest) :
    StepsCollect split (.placeholder className initializer :: rest) := by
  intro target entry d world statements d' world' hd
  obtain ⟨builder, d₁, world₁, body, d₂, world₂, more, hfresh, hbody, hmore, rfl⟩ :=
    hd.placeholder_inv
  obtain ⟨rfl, rfl, rfl⟩ := hfresh.fresh_inv
  have hblock := (inBlock_collects hinitializer hbody).of_modules (d := d) rfl
  obtain ⟨callees, hsteps, hcalls⟩ := hrest target entry _ _ _ _ _ hmore
  rw [stepUses]
  refine ⟨classCalls [] body ++ callees, (hblock.append hsteps).congr ?_, fun rest => ?_⟩
  · rw [classNames_cons rfl, classNames_cons rfl, classNames_append, classNames_append,
      classNames_cons rfl]
  · rw [List.cons_append, List.cons_append, classCalls, classCalls, hcalls, List.nil_append,
      List.append_assoc]

/-! ## Values -/

lemma exprCollects_literal {v : Value} (h : v.isLiteral = true) :
    ExprCollects (draftValue split v) split v.uses := by
  intro entry d world drafted d' world' hd
  rw [draftValue_literal h] at hd
  obtain ⟨rfl, rfl, rfl⟩ := hd.literal_inv
  refine ⟨[], .nothing ?_ rfl, .nil⟩
  rcases uses_of_isLiteral h with ⟨-, huses⟩ | ⟨-, huses⟩ <;> rw [huses] <;> rfl

lemma exprCollects_refused {v : Value} {us : List Use}
    (h : draftValue split v = refuseConstant v) : ExprCollects (draftValue split v) split us := by
  intro entry d world drafted d' world' hd
  rw [h] at hd
  exact hd.refuseConstant_inv.elim

/-- Nor is that of an object that is built in place. -/
lemma exprCollects_nested {className : Text} {plan : Plan} (h : StepsCollect split plan) :
    ExprCollects (draftValue split (.nested className plan)) split
      (Value.nested className plan).uses := by
  intro entry d world drafted d' world' hd
  obtain ⟨builder, d₁, world₁, body, hfresh, hbody, rfl⟩ := hd.nested_inv
  obtain ⟨rfl, rfl, rfl⟩ := hfresh.fresh_inv
  rw [Value.uses]
  refine ⟨_, ((inBlock_collects h hbody).of_modules rfl).congr ?_, .define _ body⟩
  rw [classNames_cons rfl, classNames_cons rfl]

lemma exprCollects_items {items : List Value} {collect : List Expr → Expr}
    (h : ∀ v ∈ items, ExprCollects (draftValue split v) split v.uses) :
    ExprCollects (draftAll (draftItems split items) >>= fun drafted =>
      pure (drafted.1, collect drafted.2)) split (itemUses items).flatten := by
  intro entry d world drafted d' world' hd
  rw [draftItems_eq_map] at hd
  obtain ⟨before, es, hall, rfl⟩ := hd.gathered_inv
  rw [itemUses_eq_map]
  exact draftAll_collects h hall

lemma draftEntries_collects {entries : List (Value × Value)}
    (h : ∀ e ∈ entries, ExprCollects (draftValue split e.1) split e.1.uses ∧
      ExprCollects (draftValue split e.2) split e.2.uses)
    {drafted : List Statement × List (Expr × Expr)}
    (hd : LeadsTo (draftEntries split entries) entry d world drafted d' world') :
    ∃ callees, Collects split entry (entryUses entries) d world callees d' world' ∧
      Defers drafted.1 callees := by
  induction entries generalizing d world drafted with
  | nil =>
    obtain ⟨rfl, rfl, rfl⟩ := hd.entries_nil_inv
    rw [entryUses]
    exact ⟨[], .nothing rfl rfl, .nil⟩
  | cons pair rest ih =>
    obtain ⟨key, item⟩ := pair
    obtain ⟨before, k, d₁, world₁, middle, v, d₂, world₂, more, es, hkey, hitem, hrest, rfl⟩ :=
      hd.entries_cons_inv
    obtain ⟨hk, hv⟩ := h (key, item) List.mem_cons_self
    obtain ⟨callees, hcollects, hbefore⟩ := hk entry _ _ _ _ _ hkey
    obtain ⟨callees', hcollects', hmiddle⟩ := hv entry _ _ _ _ _ hitem
    obtain ⟨callees'', hcollects'', hmore⟩ :=
      ih (fun e he => h e (List.mem_cons_of_mem _ he)) hrest
    rw [entryUses]
    refine ⟨callees ++ (callees' ++ callees''),
      hcollects.append (hcollects'.append hcollects''), ?_⟩
    have hall := hbefore.append (hmiddle.append hmore)
    rwa [← List.append_assoc] at hall

mutual

/-- Drafting a value collects what the value uses. -/
lemma valueCollects (split : Splitter) :
    ∀ v : Value, ExprCollects (draftValue split v) split v.uses
  | .null | .bool _ | .int _ | .float _ | .str _ | .bytes _ | .derived .. =>
    exprCollects_literal rfl
  | .reference _ => by
    intro entry d world drafted d' world' hd
    rw [draftValue] at hd
    obtain ⟨rfl, rfl, rfl⟩ := hd.ifWritten_inv.2.pure_inv
    rw [Value.uses]
    exact ⟨[], .nothing rfl rfl, .nil⟩
  | .nested _ plan => exprCollects_nested (stepsCollect split plan)
  | .list items => by
    rw [draftValue, Value.uses]
    exact exprCollects_items (itemsCollect split items)
  | .tuple items => by
    rw [draftValue, Value.uses]
    exact exprCollects_items (itemsCollect split items)
  | .dict entries => by
    intro entry d world drafted d' world' hd
    rw [draftValue] at hd
    obtain ⟨before, es, hentries, rfl⟩ := hd.gathered_inv
    rw [Value.uses]
    exact draftEntries_collects (entriesCollect split entries) hentries
  | .useDefault | .definition _ | .set _ | .foreign _ | .enumMember .. =>
    exprCollects_refused (by rw [draftValue])

lemma itemsCollect (split : Splitter) :
    ∀ items : List Value, ∀ v ∈ items, ExprCollects (draftValue split v) split v.uses
  | [] => List.forall_mem_nil _
  | item :: rest => List.forall_mem_cons.2 ⟨valueCollects split item, itemsCollect split rest⟩

lemma entriesCollect (split : Splitter) :
    ∀ entries : List (Value × Value), ∀ e ∈ entries,
      ExprCollects (draftValue split e.1) split e.1.uses ∧
        ExprCollects (draftValue split e.2) split e.2.uses
  | [] => List.forall_mem_nil _
  | (key, item) :: rest =>
    List.forall_mem_cons.2 ⟨⟨valueCollects split key, valueCollects split item⟩,
      entriesCollect split rest⟩

/-- Drafting instructions collects what they use. -/
lemma stepsCollect (split : Splitter) : ∀ plan : List Instruction, StepsCollect split plan
  | [] => stepsCollect_nil
  | .construct _ arguments _ :: rest =>
    stepsCollect_construct (itemsCollect split arguments) (stepsCollect split rest)
  | .assign _ value :: rest =>
    stepsCollect_assign (valueCollects split value) (stepsCollect split rest)
  | .invoke _ arguments _ :: rest =>
    stepsCollect_invoke (itemsCollect split arguments) (stepsCollect split rest)
  | .placeholder _ initializer :: rest =>
    stepsCollect_placeholder (stepsCollect split initializer) (stepsCollect split rest)
  | .stray _ :: _ => by
    intro target entry d world statements d' world' hd
    exact hd.stray_inv.elim

end

end Drafting

/-! ## Factories -/

variable {split : Splitter} {name : Text} {plan : Plan} {entry : Option Value}
  {world world' : World} {f : Factory}

/-- A factory that was drafted has the drafted body and the modules of the draft. -/
lemma leadsTo_of_ofPlan (h : ofPlan split name plan entry world = (.ok f, world')) :
    ∃ draft, LeadsTo (draftPlan split plan) entry ⟨0, []⟩ world f.body draft world' ∧
      f.imports = draft.modules := by
  rw [ofPlan] at h
  by_cases hid : Text.isIdentifier name = true
  · rw [if_neg (by simp [hid])] at h
    have hdrafted : ((draftPlan split plan).run ⟨0, []⟩ >>= fun drafted =>
        pure ⟨name, drafted.2.modules, drafted.1⟩ : Run Factory) entry world = (.ok f, world') := h
    rw [Run.bind_apply] at hdrafted
    rcases hd : (draftPlan split plan).run ⟨0, []⟩ entry world with
      ⟨failure | ⟨body, draft⟩, world₁⟩ <;> rw [hd] at hdrafted
    · cases (Prod.mk.inj hdrafted).1
    · obtain ⟨hf, rfl⟩ := Prod.mk.inj hdrafted
      obtain rfl : (⟨name, draft.modules, body⟩ : Factory) = f := Except.ok.inj hf
      exact ⟨draft, hd, rfl⟩
  · rw [if_pos (by simp [hid])] at h
    cases (Prod.mk.inj h).1

/-- The class paths of a plan are split in turn, from the world that the factory is drafted in to
the one that this leads to; one that ends with a name is split as it would be in any other sound
world.  The factory imports the modules that they are split into, in the order of their first
occurrence and each once, with a line for each after its head; and it calls the classes as they are
split, each as a member of a module that it imports, or by its bare name if it has no module and is
built in. -/
theorem ofPlan_imports {catalog : Catalog} (hworld : catalog.Sound world)
    (h : ofPlan catalog.split name plan entry world = (.ok f, world')) :
    ∃ cuts, SplitInTurn catalog.split entry plan.constructed world cuts f.calledClasses world' ∧
      (∀ pair ∈ plan.constructed.zip cuts, Catalog.EndsWithName pair.1 →
        ∀ world₁, catalog.Sound world₁ → (catalog.split pair.1 entry world₁).1 = .ok pair.2) ∧
      f.imports = (modulesOf cuts).eraseDups ∧ f.imports.Nodup ∧
      (∀ m q, .member m q ∈ f.calledClasses → m ∈ f.imports) ∧
      f.lines = ("def " ++ f.name ++ "(container, proxy_factory):") ::
        ((f.imports.map fun m => Text.ofChars (List.replicate 4 ' ') ++ "import " ++ m) ++
          blockLines 1 f.body) := by
  obtain ⟨draft, hd, himports⟩ := leadsTo_of_ofPlan h
  obtain ⟨cuts, hcuts, hmodules⟩ := inBlock_collects (stepsCollect catalog.split plan) hd
  have hdistinct : f.imports = (modulesOf cuts).eraseDups := by
    rw [himports, hmodules, foldl_withModule]
    simp [List.removeAll]
  have hconstructed : plan.constructed = classNames (stepUses plan) := by
    rw [Plan.constructed, Plan.uses, classNames_cons rfl]
  rw [hconstructed]
  refine ⟨cuts, hcuts, fun pair hpair hends world₁ hworld₁ => ?_, hdistinct, ?_,
    fun m q hcall => ?_, ?_⟩
  · obtain ⟨world₂, hworld₂, hsplit⟩ :=
      hcuts.exists_split Catalog.lookUp_stays.split hworld pair hpair
    rw [← hsplit]
    exact Catalog.split_same hends hworld₁ hworld₂
  · rw [himports, hmodules]
    exact nodup_foldl_withModule List.nodup_nil _
  · rw [hdistinct, List.mem_eraseDups]
    exact hcuts.mem_modulesOf hcall
  · rw [lines, List.cons_append]
    rfl

/-- The factory with nested objects and a placeholder imports their one module once. -/
theorem nestedFactory_imports :
    (⟨[]⟩ : Catalog).Sound {} ∧
      ofPlan (Catalog.split ⟨[]⟩) "build_pair" nestedPlan none {} = (.ok nestedFactory, {}) ∧
        nestedPlan.constructed = ["app.Pair", "app.Item", "app.Item"] ∧
          nestedFactory.calledClasses =
            [.member "app" "Pair", .member "app" "Item", .member "app" "Item"] ∧
            nestedFactory.imports.Nodup := by
  have hdrafted : ofPlan (Catalog.split ⟨[]⟩) "build_pair" nestedPlan none {} =
      (.ok nestedFactory, {}) := by
    rfl
  obtain ⟨-, -, -, -, hnodup, -⟩ := ofPlan_imports Catalog.fresh_sound hdrafted
  have hcalled : nestedFactory.calledClasses =
      [.member "app" "Pair", .member "app" "Item", .member "app" "Item"] := by
    simp [calledClasses, nestedFactory, classCalls]
  exact ⟨Catalog.fresh_sound, hdrafted, by rfl, hcalled, hnodup⟩

/-- A plan that binds one keyword to two objects, each built in place. -/
def doubledKeyword : Plan :=
  [.construct "app.X"
    [.nested "a.Y" [.construct "a.Y" [] []], .nested "b.Z" [.construct "b.Z" [] []]] ["k", "k"]]

/-- Only the second of them is passed, so that the module of the first is not imported, though its
class is constructed in an argument. -/
theorem doubledKeyword_imports :
    (Catalog.split ⟨[]⟩ "a.Y" none {}).1 = .ok (("a" : Text), ("Y" : Text)) ∧
      ∃ f, (ofPlan (Catalog.split ⟨[]⟩) "build_x" doubledKeyword none {}).1 = .ok f ∧
        f.imports = ["app", "b"] ∧ ("a" : Text) ∉ f.imports := by
  refine ⟨by rfl, _, by rfl, by rfl, by decide⟩

end Factory

end Blueprint
