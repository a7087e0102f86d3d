/-
# How a factory is laid out

The body of a factory is a block, and so is that of each function within it.  `BlockOf` says what a
block of a plan is, without a look at how it is drafted: for every instruction in order there are
the functions that it needs, one for each plan that is nested in its operands or for its
initializer, and then its one statement, which uses just these functions, each once and in their
order; the block ends by returning its object.

A block takes the local names between two numbers, each for one object or one function
(`BlockOf.numbers`), and every function is used by one statement only (`BlockOf.used`).

What is drafted is a block of the plan (`draftPlan_blockOf`).  The proof goes along the recursion of
the drafting, with the number of the last local name as what one step hands to the next.
-/
import Mathlib.Data.List.Nodup
import Blueprint.Proofs.Emission.Uses

namespace Blueprint

/-! ## Plans within operands -/

mutual

/-- The plans nested in an operand, from left to right.  What is nested in them in turn is
theirs. -/
def Value.nestedPlans : Value → List Plan
  | .nested _ plan => [plan]
  | .list items => itemPlans items
  | .tuple items => itemPlans items
  | .dict entries => entryPlans entries
  | _ => []

/-- The plans nested in operands. -/
def itemPlans : List Value → List Plan
  | [] => []
  | item :: rest => item.nestedPlans ++ itemPlans rest

/-- The plans nested in keys and values, each key before its value. -/
def entryPlans : List (Value × Value) → List Plan
  | [] => []
  | (key, item) :: rest => key.nestedPlans ++ item.nestedPlans ++ entryPlans rest

end

lemma itemPlans_eq_flatMap (items : List Value) :
    itemPlans items = items.flatMap Value.nestedPlans := by
  induction items with
  | nil => rw [itemPlans, List.flatMap_nil]
  | cons item rest ih => rw [itemPlans, ih, List.flatMap_cons]

/-- The arguments of a call as they are passed: those in order, then those by name. -/
def passedArguments (arguments : List Value) (keywords : List Text) : List Value :=
  (splitArguments arguments keywords).1 ++ (splitArguments arguments keywords).2.map Prod.snd

namespace Factory

/-- The plans that an instruction needs functions for, and what these are. -/
def neededPlans : Instruction → List (Role × Plan)
  | .construct _ arguments keywords | .invoke _ arguments keywords =>
    (itemPlans (passedArguments arguments keywords)).map (.nested, ·)
  | .assign _ value => value.nestedPlans.map (.nested, ·)
  | .placeholder _ initializer => [(.initializer, initializer)]
  | .stray _ => []

/-! ## Functions that are used -/

mutual

/-- The functions that an expression calls, from left to right. -/
def Expr.builders : Expr → List Local
  | .constant _ | .lookup _ => []
  | .build builder => [builder]
  | .list items => itemBuilders items
  | .tuple items => itemBuilders items
  | .dict entries => entryBuilders entries

/-- The functions that expressions call. -/
def itemBuilders : List Expr → List Local
  | [] => []
  | e :: rest => e.builders ++ itemBuilders rest

/-- The functions that keys and values call. -/
def entryBuilders : List (Expr × Expr) → List Local
  | [] => []
  | (k, v) :: rest => k.builders ++ v.builders ++ entryBuilders rest

end

/-- The functions that the arguments of a call call. -/
def Call.builders (c : Call) : List Local :=
  itemBuilders c.positional ++ itemBuilders (c.keywords.map Prod.snd)

/-- The functions that a statement uses, but for what is within a function. -/
def Statement.builders : Statement → List Local
  | .bind _ call | .perform call => call.builders
  | .assign _ _ value => value.builders
  | .proxy _ _ initializer => [initializer]
  | .define .. | .result _ => []

/-- The functions that a block uses, at any depth. -/
def usedBuilders : List Statement → List Local
  | [] => []
  | .define _ body :: rest => usedBuilders body ++ usedBuilders rest
  | .bind _ call :: rest | .perform call :: rest => call.builders ++ usedBuilders rest
  | .assign _ _ value :: rest => value.builders ++ usedBuilders rest
  | .proxy _ _ initializer :: rest => initializer :: usedBuilders rest
  | .result _ :: rest => usedBuilders rest

/-- The functions that a block defines, at any depth. -/
def definedBuilders : List Statement → List Local
  | [] => []
  | .define name body :: rest => name :: (definedBuilders body ++ definedBuilders rest)
  | .bind .. :: rest | .assign .. :: rest | .perform _ :: rest | .proxy .. :: rest
  | .result _ :: rest => definedBuilders rest

/-- The local names that a block introduces, at any depth: those of its functions, and of the
objects that it and they return. -/
def declared : List Statement → List Local
  | [] => []
  | .define name body :: rest => name :: (declared body ++ declared rest)
  | .result target :: rest => target :: declared rest
  | .bind .. :: rest | .assign .. :: rest | .perform _ :: rest | .proxy .. :: rest => declared rest

/-! ## Blocks -/

/-- The statement is that of the instruction, for the object that is built. -/
inductive StatementOf (target : Local) : Instruction → Statement → Prop where
  | construct (className : Text) (arguments : List Value) (keywords : List Text) (call : Call) :
      StatementOf target (.construct className arguments keywords) (.bind target call)
  | assign (field : Text) (value : Value) (e : Expr) :
      StatementOf target (.assign field value) (.assign target field e)
  | invoke (method : Text) (arguments : List Value) (keywords : List Text)
      (positional : List Expr) (named : List (Text × Expr)) :
      StatementOf target (.invoke method arguments keywords)
        (.perform ⟨.method target method, positional, named⟩)
  | placeholder (className : Text) (initializer : Plan) (builder : Local) :
      StatementOf target (.placeholder className initializer) (.proxy target className builder)

mutual

/-- The statements are a block of the plan, with the local names from the number `n` on, up to
`n'`. -/
inductive BlockOf : Nat → Plan → List Statement → Nat → Prop where
  | mk {n n' : Nat} {plan : Plan} {statements : List Statement}
      (h : StepsOf ⟨.object, n + 1⟩ (n + 1) plan statements n') :
      BlockOf n plan (statements ++ [.result ⟨.object, n + 1⟩]) n'

/-- The statements are those of the instructions, for the object that is built. -/
inductive StepsOf : Local → Nat → Plan → List Statement → Nat → Prop where
  | nil (target : Local) (n : Nat) : StepsOf target n [] [] n
  | cons {target : Local} {n n₁ n' : Nat} {i : Instruction} {rest : Plan} {names : List Local}
      {functions more : List Statement} {s : Statement}
      (hfunctions : FunctionsFor n (neededPlans i) names functions n₁) (hs : StatementOf target i s)
      (huses : s.builders = names) (hrest : StepsOf target n₁ rest more n') :
      StepsOf target n (i :: rest) (functions ++ s :: more) n'

/-- The statements define functions for the plans, under these names. -/
inductive FunctionsFor : Nat → List (Role × Plan) → List Local → List Statement → Nat → Prop where
  | nil (n : Nat) : FunctionsFor n [] [] [] n
  | cons {n n₁ n' : Nat} {role : Role} {plan : Plan} {rest : List (Role × Plan)}
      {names : List Local} {body more : List Statement} (hbody : BlockOf (n + 1) plan body n₁)
      (hrest : FunctionsFor n₁ rest names more n') :
      FunctionsFor n ((role, plan) :: rest) (⟨role, n + 1⟩ :: names)
        (.define ⟨role, n + 1⟩ body :: more) n'

end

lemma FunctionsFor.append {n n₁ n' : Nat} {plans plans' : List (Role × Plan)}
    {names names' : List Local} {functions functions' : List Statement}
    (h : FunctionsFor n plans names functions n₁)
    (h' : FunctionsFor n₁ plans' names' functions' n') :
    FunctionsFor n (plans ++ plans') (names ++ names') (functions ++ functions') n' := by
  induction plans generalizing n names functions with
  | nil =>
    cases h with
    | nil => exact h'
  | cons plan rest ih =>
    cases h with
    | cons hbody hrest => exact .cons hbody (ih hrest)

/-! ## Numbers -/

/-- The numbers after the first one, up to the second. -/
def numbersAfter (n n' : Nat) : List Nat :=
  List.range' (n + 1) (n' - n)

lemma numbersAfter_self (n : Nat) : numbersAfter n n = [] := by
  rw [numbersAfter, Nat.sub_self, List.range'_zero]

lemma numbersAfter_append {n n₁ n' : Nat} (h : n ≤ n₁) (h' : n₁ ≤ n') :
    numbersAfter n n₁ ++ numbersAfter n₁ n' = numbersAfter n n' := by
  have hstart : n₁ + 1 = n + 1 + (n₁ - n) := by omega
  have hlength : n₁ - n + (n' - n₁) = n' - n := by omega
  rw [numbersAfter, numbersAfter, hstart, List.range'_append_1, hlength]
  rfl

lemma numbersAfter_succ {n n' : Nat} (h : n < n') :
    (n + 1) :: numbersAfter (n + 1) n' = numbersAfter n n' := by
  have hlength : n' - n = n' - (n + 1) + 1 := by omega
  rw [numbersAfter, numbersAfter, hlength, List.range'_succ]

section Declared

variable {n n' : Nat} {target : Local} {plan : Plan} {body : List Statement}

lemma declared_append (body body' : List Statement) :
    declared (body ++ body') = declared body ++ declared body' := by
  induction body with
  | nil => rw [declared, List.nil_append, List.nil_append]
  | cons s rest ih =>
    cases s <;> simp only [List.cons_append, declared, ih, List.append_assoc]

lemma StatementOf.declared_cons {i : Instruction} {s : Statement} (h : StatementOf target i s)
    (rest : List Statement) : declared (s :: rest) = declared rest := by
  cases h <;> rw [declared]

mutual

/-- A block takes each number after the first one for one local name. -/
theorem BlockOf.numbers : ∀ {n n' : Nat} {plan : Plan} {body : List Statement},
    BlockOf n plan body n' →
      n < n' ∧ ((declared body).map Local.number).Perm (numbersAfter n n')
  | n, n', _, _, .mk h => by
    obtain ⟨hle, hperm⟩ := h.numbers
    refine ⟨hle, ?_⟩
    rw [declared_append, declared, declared, List.map_append, List.map_singleton,
      ← numbersAfter_succ hle]
    exact (List.perm_append_singleton _ _).trans (hperm.cons _)

theorem StepsOf.numbers : ∀ {target : Local} {n n' : Nat} {plan : Plan} {body : List Statement},
    StepsOf target n plan body n' →
      n ≤ n' ∧ ((declared body).map Local.number).Perm (numbersAfter n n')
  | _, n, _, _, _, .nil _ _ => by
    rw [declared, List.map_nil, numbersAfter_self]
    exact ⟨Nat.le_refl n, .nil⟩
  | _, n, n', _, _, .cons hfunctions hs _ hrest => by
    obtain ⟨hle, hperm⟩ := hfunctions.numbers
    obtain ⟨hle', hperm'⟩ := hrest.numbers
    refine ⟨Nat.le_trans hle hle', ?_⟩
    rw [declared_append, hs.declared_cons, List.map_append, ← numbersAfter_append hle hle']
    exact hperm.append hperm'

theorem FunctionsFor.numbers : ∀ {n n' : Nat} {plans : List (Role × Plan)} {names : List Local}
    {body : List Statement}, FunctionsFor n plans names body n' →
      n ≤ n' ∧ ((declared body).map Local.number).Perm (numbersAfter n n')
  | n, _, _, _, _, .nil _ => by
    rw [declared, List.map_nil, numbersAfter_self]
    exact ⟨Nat.le_refl n, .nil⟩
  | n, n', _, _, _, .cons hbody hrest => by
    obtain ⟨hlt, hperm⟩ := hbody.numbers
    obtain ⟨hle, hperm'⟩ := hrest.numbers
    refine ⟨by omega, ?_⟩
    rw [declared, List.map_cons, List.map_append, ← numbersAfter_succ (by omega),
      ← numbersAfter_append (Nat.le_of_lt hlt) hle]
    exact (hperm.append hperm').cons _

end

end Declared

/-! ## Uses -/

lemma definedBuilders_append (body body' : List Statement) :
    definedBuilders (body ++ body') = definedBuilders body ++ definedBuilders body' := by
  induction body with
  | nil => rw [definedBuilders, List.nil_append, List.nil_append]
  | cons s rest ih =>
    cases s <;> simp only [List.cons_append, definedBuilders, ih, List.append_assoc]

lemma usedBuilders_append (body body' : List Statement) :
    usedBuilders (body ++ body') = usedBuilders body ++ usedBuilders body' := by
  induction body with
  | nil => rw [usedBuilders, List.nil_append, List.nil_append]
  | cons s rest ih =>
    cases s <;> simp only [List.cons_append, usedBuilders, ih, List.append_assoc]

lemma StatementOf.builders_cons {target : Local} {i : Instruction} {s : Statement}
    (h : StatementOf target i s) (rest : List Statement) :
    usedBuilders (s :: rest) = s.builders ++ usedBuilders rest ∧
      definedBuilders (s :: rest) = definedBuilders rest := by
  cases h <;> rw [usedBuilders, definedBuilders, Statement.builders] <;> exact ⟨rfl, rfl⟩

mutual

/-- What a block defines it uses once, and it uses nothing else. -/
theorem BlockOf.used : ∀ {n n' : Nat} {plan : Plan} {body : List Statement},
    BlockOf n plan body n' → (usedBuilders body).Perm (definedBuilders body)
  | _, _, _, _, .mk h => by
    have hperm := h.used
    rw [usedBuilders_append, definedBuilders_append]
    simp only [usedBuilders, definedBuilders, List.append_nil]
    exact hperm

theorem StepsOf.used : ∀ {target : Local} {n n' : Nat} {plan : Plan} {body : List Statement},
    StepsOf target n plan body n' → (usedBuilders body).Perm (definedBuilders body)
  | _, _, _, _, _, .nil _ _ => by
    rw [usedBuilders, definedBuilders]
  | _, _, _, _, _, .cons hfunctions hs huses hrest => by
    have hperm := hfunctions.used
    have hperm' := hrest.used
    obtain ⟨hused, hdefined⟩ := hs.builders_cons _
    rw [usedBuilders_append, definedBuilders_append, hused, hdefined, huses]
    rw [← List.append_assoc]
    exact (List.perm_append_comm.trans hperm).append hperm'

/-- The functions are used by what comes after them, and what is within them is used within them. -/
theorem FunctionsFor.used : ∀ {n n' : Nat} {plans : List (Role × Plan)} {names : List Local}
    {body : List Statement}, FunctionsFor n plans names body n' →
      (names ++ usedBuilders body).Perm (definedBuilders body)
  | _, _, _, _, _, .nil _ => by
    rw [usedBuilders, definedBuilders]
    exact .nil
  | _, _, _, _, _, .cons hbody hrest => by
    have hperm := hbody.used
    have hperm' := hrest.used
    rw [usedBuilders, definedBuilders, List.cons_append]
    refine List.Perm.cons _ ?_
    refine List.Perm.trans ?_ (hperm.append hperm')
    rw [← List.append_assoc, ← List.append_assoc]
    exact List.perm_append_comm.append_right _

end

/-- Functions are among the local names that a block introduces. -/
lemma definedBuilders_sublist : ∀ body : List Statement,
    (definedBuilders body).Sublist (declared body)
  | [] => by
    rw [definedBuilders]
    exact List.nil_sublist _
  | .define _ body :: rest => by
    rw [definedBuilders, declared]
    exact ((definedBuilders_sublist body).append (definedBuilders_sublist rest)).cons_cons _
  | .result _ :: rest => by
    rw [definedBuilders, declared]
    exact (definedBuilders_sublist rest).cons _
  | .bind .. :: rest | .assign .. :: rest | .perform _ :: rest | .proxy .. :: rest => by
    rw [definedBuilders, declared]
    exact definedBuilders_sublist rest

section Counting

variable {n n' : Nat} {plan : Plan} {body : List Statement}

/-- No two local names of a block have the same number. -/
lemma BlockOf.nodup (h : BlockOf n plan body n') : ((declared body).map Local.number).Nodup :=
  h.numbers.2.nodup_iff.2 List.nodup_range'

/-- Every function of a block is used once. -/
theorem BlockOf.count_used (h : BlockOf n plan body n') {builder : Local}
    (hb : builder ∈ definedBuilders body) : (usedBuilders body).count builder = 1 := by
  have hdefined : (definedBuilders body).Nodup :=
    (List.Nodup.of_map _ h.nodup).sublist (definedBuilders_sublist body)
  exact List.count_eq_one_of_mem (h.used.nodup_iff.2 hdefined) (h.used.mem_iff.2 hb)

end Counting

/-! ## What is drafted is a block -/

section Drafting

variable {split : Splitter} {d d' : Draft}

/-- What drafting an expression leaves before it are functions for the plans, in their order, and
these are what the expression calls. -/
def ExprLaidOut (x : Drafting Drafted) (plans : List Plan) : Prop :=
  ∀ d drafted d', Drafts x d drafted d' →
    FunctionsFor d.count (plans.map (.nested, ·)) drafted.2.builders drafted.1 d'.count

/-- What drafting instructions leaves are their statements. -/
def StepsLaidOut (split : Splitter) (plan : Plan) : Prop :=
  ∀ target d statements d', Drafts (draftSteps split target plan) d statements d' →
    StepsOf target d.count plan statements d'.count

lemma itemPlans_append (items items' : List Value) :
    itemPlans (items ++ items') = itemPlans items ++ itemPlans items' := by
  rw [itemPlans_eq_flatMap, itemPlans_eq_flatMap, itemPlans_eq_flatMap, List.flatMap_append]

lemma draftAll_laidOut {items : List Value}
    (h : ∀ v ∈ items, ExprLaidOut (draftValue split v) v.nestedPlans)
    {drafted : List Statement × List Expr}
    (hd : Drafts (draftAll (items.map (draftValue split))) d drafted d') :
    FunctionsFor d.count ((itemPlans items).map (.nested, ·)) (itemBuilders drafted.2) drafted.1
      d'.count := by
  induction items generalizing d drafted with
  | nil =>
    obtain ⟨rfl, rfl⟩ := hd.pure_inv
    rw [itemPlans, itemBuilders]
    exact .nil _
  | cons item rest ih =>
    obtain ⟨entry, world, world', hd⟩ := hd
    obtain ⟨before, e, d₁, _, more, es, hitem, hrest, rfl⟩ := LeadsTo.all_cons_inv hd
    have hhead := h item List.mem_cons_self d _ d₁ hitem.drafts
    have htail := ih (fun v hv => h v (List.mem_cons_of_mem item hv)) hrest.drafts
    rw [itemPlans, itemBuilders, List.map_append]
    exact hhead.append htail

/-- A call has functions for its arguments: first for those in order, then for those by name. -/
lemma draftCall_laidOut {arguments : List Value} {keywords : List Text} {callee : Callee}
    (h : ∀ v ∈ arguments, ExprLaidOut (draftValue split v) v.nestedPlans)
    {drafted : List Statement × Call}
    (hd : Drafts (draftCall callee (draftItems split arguments) keywords) d drafted d') :
    drafted.2.callee = callee ∧
      FunctionsFor d.count ((itemPlans (passedArguments arguments keywords)).map (.nested, ·))
        drafted.2.builders drafted.1 d'.count := by
  obtain ⟨entry, world, world', hd⟩ := hd
  obtain ⟨before, es, d₁, _, more, ks, hpositional, hnamed, rfl⟩ := LeadsTo.call_inv hd
  rw [draftItems_eq_map, splitArguments_map] at hpositional hnamed
  have hfirst := draftAll_laidOut
    (fun v hv => h v (mem_of_mem_splitArguments (.inl hv))) hpositional.drafts
  obtain ⟨hnamed, -⟩ := hnamed.namedValues_inv
  have hsecond := draftAll_laidOut (List.forall_mem_map.2 fun e he =>
    h e.2 (mem_of_mem_splitArguments (.inr ⟨e, he, rfl⟩))) hnamed.drafts
  rw [passedArguments, itemPlans_append, List.map_append]
  exact ⟨rfl, hfirst.append hsecond⟩

/-- The class of a path takes no local name. -/
lemma draftClass_count {className : Text} {callee : Callee}
    (h : Drafts (draftClass split className) d callee d') : d'.count = d.count := by
  obtain ⟨entry, world, world', h⟩ := h
  obtain ⟨m, q, -, ⟨-, -, -, rfl⟩ | ⟨-, -, rfl⟩⟩ := LeadsTo.class_inv h <;> rfl

lemma inBlock_laidOut {plan : Plan} (hsteps : StepsLaidOut split plan) {body : List Statement}
    (hd : Drafts (draftPlan split plan) d body d') : BlockOf d.count plan body d'.count := by
  obtain ⟨entry, world, world', hd⟩ := hd
  obtain ⟨target, d₁, _, statements, hfresh, hstatements, rfl⟩ := LeadsTo.plan_inv hd
  obtain ⟨rfl, rfl, rfl⟩ := hfresh.fresh_inv
  exact .mk (hsteps _ _ _ _ hstatements.drafts)

/-! ## Instructions -/

lemma stepsLaidOut_construct {className : Text} {arguments : List Value} {keywords : List Text}
    {rest : Plan} (harguments : ∀ v ∈ arguments, ExprLaidOut (draftValue split v) v.nestedPlans)
    (hrest : StepsLaidOut split rest) :
    StepsLaidOut split (.construct className arguments keywords :: rest) := by
  rintro target d statements d' ⟨entry, world, world', hd⟩
  obtain ⟨callee, d₁, _, before, call, d₂, _, more, hclass, hcall, hmore, rfl⟩ :=
    LeadsTo.construct_inv hd
  obtain ⟨-, hfunctions⟩ := draftCall_laidOut harguments hcall.drafts
  rw [draftClass_count hclass.drafts] at hfunctions
  exact .cons hfunctions (.construct className arguments keywords call) rfl
    (hrest target d₂ more d' hmore.drafts)

lemma stepsLaidOut_assign {field : Text} {value : Value} {rest : Plan}
    (hvalue : ExprLaidOut (draftValue split value) value.nestedPlans)
    (hrest : StepsLaidOut split rest) : StepsLaidOut split (.assign field value :: rest) := by
  rintro target d statements d' ⟨entry, world, world', hd⟩
  obtain ⟨before, e, d₁, _, more, he, hmore, rfl⟩ := LeadsTo.assign_inv hd
  exact .cons (hvalue d _ d₁ he.drafts) (.assign field value e) rfl
    (hrest target d₁ more d' hmore.drafts)

lemma stepsLaidOut_invoke {method : Text} {arguments : List Value} {keywords : List Text}
    {rest : Plan} (harguments : ∀ v ∈ arguments, ExprLaidOut (draftValue split v) v.nestedPlans)
    (hrest : StepsLaidOut split rest) :
    StepsLaidOut split (.invoke method arguments keywords :: rest) := by
  rintro target d statements d' ⟨entry, world, world', hd⟩
  obtain ⟨before, call, d₁, _, more, hcall, hmore, rfl⟩ := LeadsTo.invoke_inv hd
  obtain ⟨hcallee, hfunctions⟩ := draftCall_laidOut harguments hcall.drafts
  obtain ⟨callee, positional, named⟩ := call
  obtain rfl : callee = .method target method := hcallee
  exact .cons hfunctions (.invoke method arguments keywords positional named) rfl
    (hrest target d₁ more d' hmore.drafts)

lemma stepsLaidOut_placeholder {className : Text} {initializer rest : Plan}
    (hinitializer : StepsLaidOut split initializer) (hrest : StepsLaidOut split rest) :
    StepsLaidOut split (.placeholder className initializer :: rest) := by
  rintro target d statements d' ⟨entry, world, world', hd⟩
  obtain ⟨builder, d₁, _, body, d₂, _, more, hfresh, hbody, hmore, rfl⟩ :=
    LeadsTo.placeholder_inv hd
  obtain ⟨rfl, rfl, rfl⟩ := hfresh.fresh_inv
  have hblock := inBlock_laidOut hinitializer hbody.drafts
  exact .cons (.cons hblock (.nil _)) (.placeholder className initializer _) rfl
    (hrest target d₂ more d' hmore.drafts)

/-! ## Values -/

lemma exprLaidOut_simple {v w : Value} {e : Expr}
    (h : draftValue split v = ifWritten w (pure ([], e))) (he : e.builders = [])
    (hplans : v.nestedPlans = []) : ExprLaidOut (draftValue split v) v.nestedPlans := by
  intro d drafted d' hd
  rw [h] at hd
  obtain ⟨rfl, rfl⟩ := hd.ifWritten_inv.2.pure_inv
  rw [hplans, he]
  exact .nil _

lemma exprLaidOut_refused {v : Value} {plans : List Plan}
    (h : draftValue split v = refuseConstant v) : ExprLaidOut (draftValue split v) plans := by
  intro d drafted d' hd
  rw [h] at hd
  exact hd.refuseConstant_inv.elim

lemma exprLaidOut_nested {className : Text} {plan : Plan} (h : StepsLaidOut split plan) :
    ExprLaidOut (draftValue split (.nested className plan))
      (Value.nested className plan).nestedPlans := by
  rintro d drafted d' ⟨entry, world, world', hd⟩
  obtain ⟨builder, d₁, _, body, hfresh, hbody, rfl⟩ := LeadsTo.nested_inv hd
  obtain ⟨rfl, rfl, rfl⟩ := hfresh.fresh_inv
  rw [Value.nestedPlans, Expr.builders]
  exact .cons (inBlock_laidOut h hbody.drafts) (.nil _)

lemma exprLaidOut_items {items : List Value} {collect : List Expr → Expr}
    (h : ∀ v ∈ items, ExprLaidOut (draftValue split v) v.nestedPlans)
    (hcollect : ∀ es, (collect es).builders = itemBuilders es) :
    ExprLaidOut (draftAll (draftItems split items) >>= fun drafted =>
      pure (drafted.1, collect drafted.2)) (itemPlans items) := by
  rintro d drafted d' ⟨entry, world, world', hd⟩
  rw [draftItems_eq_map] at hd
  obtain ⟨before, es, hall, rfl⟩ := LeadsTo.gathered_inv hd
  rw [hcollect]
  exact draftAll_laidOut h hall.drafts

lemma draftEntries_laidOut {entries : List (Value × Value)}
    (h : ∀ e ∈ entries, ExprLaidOut (draftValue split e.1) e.1.nestedPlans ∧
      ExprLaidOut (draftValue split e.2) e.2.nestedPlans)
    {drafted : List Statement × List (Expr × Expr)}
    (hd : Drafts (draftEntries split entries) d drafted d') :
    FunctionsFor d.count ((entryPlans entries).map (.nested, ·)) (entryBuilders drafted.2)
      drafted.1 d'.count := by
  induction entries generalizing d drafted with
  | nil =>
    obtain ⟨entry, world, world', hd⟩ := hd
    obtain ⟨rfl, rfl, rfl⟩ := LeadsTo.entries_nil_inv hd
    rw [entryPlans, entryBuilders]
    exact .nil _
  | cons pair rest ih =>
    obtain ⟨key, item⟩ := pair
    obtain ⟨entry, world, world', hd⟩ := hd
    obtain ⟨before, k, d₁, _, middle, v, d₂, _, more, es, hkey, hitem, hrest, rfl⟩ :=
      LeadsTo.entries_cons_inv hd
    obtain ⟨hk, hv⟩ := h (key, item) List.mem_cons_self
    have htail := ih (fun e he => h e (List.mem_cons_of_mem _ he)) hrest.drafts
    rw [entryPlans, entryBuilders, List.map_append, List.map_append]
    exact ((hk d _ d₁ hkey.drafts).append (hv d₁ _ d₂ hitem.drafts)).append htail

mutual

/-- What drafting a value leaves is laid out as the value is. -/
lemma valueLaidOut (split : Splitter) :
    ∀ v : Value, ExprLaidOut (draftValue split v) v.nestedPlans
  | .null | .bool _ | .int _ | .float _ | .str _ | .bytes _ | .derived .. =>
    exprLaidOut_simple (draftValue_literal rfl) (by rw [Expr.builders])
      (by simp only [Value.nestedPlans])
  | .reference _ =>
    exprLaidOut_simple (by rw [draftValue]) (by rw [Expr.builders])
      (by simp only [Value.nestedPlans])
  | .nested _ plan => exprLaidOut_nested (stepsLaidOut split plan)
  | .list items => by
    rw [draftValue, Value.nestedPlans]
    exact exprLaidOut_items (itemsLaidOut split items) fun es => by rw [Expr.builders]
  | .tuple items => by
    rw [draftValue, Value.nestedPlans]
    exact exprLaidOut_items (itemsLaidOut split items) fun es => by rw [Expr.builders]
  | .dict entries => by
    rintro d drafted d' ⟨entry, world, world', hd⟩
    rw [draftValue] at hd
    obtain ⟨before, es, hentries, rfl⟩ := LeadsTo.gathered_inv hd
    rw [Value.nestedPlans, Expr.builders]
    exact draftEntries_laidOut (entriesLaidOut split entries) hentries.drafts
  | .useDefault | .definition _ | .set _ | .foreign _ | .enumMember .. =>
    exprLaidOut_refused (by rw [draftValue])

lemma itemsLaidOut (split : Splitter) :
    ∀ items : List Value, ∀ v ∈ items, ExprLaidOut (draftValue split v) v.nestedPlans
  | [] => List.forall_mem_nil _
  | item :: rest => List.forall_mem_cons.2 ⟨valueLaidOut split item, itemsLaidOut split rest⟩

lemma entriesLaidOut (split : Splitter) :
    ∀ entries : List (Value × Value), ∀ e ∈ entries,
      ExprLaidOut (draftValue split e.1) e.1.nestedPlans ∧
        ExprLaidOut (draftValue split e.2) e.2.nestedPlans
  | [] => List.forall_mem_nil _
  | (key, item) :: rest =>
    List.forall_mem_cons.2 ⟨⟨valueLaidOut split key, valueLaidOut split item⟩,
      entriesLaidOut split rest⟩

/-- What drafting instructions leaves are their statements. -/
lemma stepsLaidOut (split : Splitter) : ∀ plan : List Instruction, StepsLaidOut split plan
  | [] => by
    rintro target d statements d' ⟨entry, world, world', hd⟩
    obtain ⟨rfl, rfl, rfl⟩ := LeadsTo.steps_nil_inv hd
    exact .nil _ _
  | .construct _ arguments _ :: rest =>
    stepsLaidOut_construct (itemsLaidOut split arguments) (stepsLaidOut split rest)
  | .assign _ value :: rest =>
    stepsLaidOut_assign (valueLaidOut split value) (stepsLaidOut split rest)
  | .invoke _ arguments _ :: rest =>
    stepsLaidOut_invoke (itemsLaidOut split arguments) (stepsLaidOut split rest)
  | .placeholder _ initializer :: rest =>
    stepsLaidOut_placeholder (stepsLaidOut split initializer) (stepsLaidOut split rest)
  | .stray _ :: _ => by
    rintro target d statements d' ⟨entry, world, world', hd⟩
    exact (LeadsTo.stray_inv hd).elim

end

/-- What is drafted for a plan is a block of it. -/
theorem draftPlan_blockOf (split : Splitter) {plan : Plan} {body : List Statement}
    (h : Drafts (draftPlan split plan) d body d') : BlockOf d.count plan body d'.count :=
  inBlock_laidOut (stepsLaidOut split plan) h

end Drafting

end Factory

end Blueprint
