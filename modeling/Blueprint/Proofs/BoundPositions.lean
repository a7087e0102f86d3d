/-
# What becomes of bound positions

A binding can have values for positions that its callable does not have.  This file accounts for
every position that is bound in a definition, at every depth of its compilation: its value is the
argument at that position, or a warning names the position.  A class without a constructor is the
exception: its objects are made without arguments, and no warning says what became of those that
were bound.

The warnings of a compilation are exactly those of the calls in it.
-/
import Blueprint.Proofs.Derivation
import Mathlib.Data.List.Forall2

namespace Blueprint

/-! ## What stands in an operand -/

/-- The operands of a step. -/
def Instruction.operands : Instruction → List Value
  | .construct _ arguments _ => arguments
  | .assign _ value => [value]
  | .invoke _ arguments _ => arguments
  | .placeholder .. => []
  | .stray value => [value]

/-- The step is one of a plan, or of the plan of a placeholder in it. -/
inductive Plan.Includes : Plan → Instruction → Prop where
  | here {plan : Plan} {step : Instruction} (h : step ∈ plan) : Includes plan step
  | later {plan initializer : Plan} {className : Text} {step : Instruction}
      (hp : .placeholder className initializer ∈ plan) (h : Includes initializer step) :
      Includes plan step

/-- One operand stands in another: in an item, under a key, or in a step of a nested plan. -/
inductive Value.Contains : Value → Value → Prop where
  | self (v : Value) : Contains v v
  | list {items : List Value} {v x : Value} (hv : v ∈ items) (h : Contains v x) :
      Contains (.list items) x
  | tuple {items : List Value} {v x : Value} (hv : v ∈ items) (h : Contains v x) :
      Contains (.tuple items) x
  | dict {entries : List (Value × Value)} {e : Value × Value} {x : Value} (he : e ∈ entries)
      (h : Contains e.2 x) : Contains (.dict entries) x
  | nested {className : Text} {plan : Plan} {step : Instruction} {v x : Value}
      (hstep : Plan.Includes plan step) (hv : v ∈ step.operands) (h : Contains v x) :
      Contains (.nested className plan) x

namespace Worksheet

variable {w : Worksheet}

lemma includes_of_eager {step : Instruction} (h : step ∈ w.eager) :
    Plan.Includes w.plan step := by
  rw [plan]
  split
  · exact .later List.mem_cons_self (.here h)
  · exact .here h

/-- Everything that was compiled is an operand of a step. -/
lemma exists_step_of_mem {c : Compiled} (hc : c ∈ w.compiled) :
    ∃ step, Plan.Includes w.plan step ∧ c.operand ∈ step.operands := by
  rw [compiled, List.mem_append, List.mem_append] at hc
  rcases hc with hc | hc | hc
  · exact ⟨_, includes_of_eager List.mem_cons_self, List.mem_map_of_mem hc⟩
  · obtain ⟨x, hx, rfl⟩ := List.mem_map.1 hc
    refine ⟨x.step, includes_of_eager (List.mem_cons_of_mem _ ?_), List.mem_singleton.2 rfl⟩
    exact List.mem_append_left _ (List.mem_map_of_mem hx)
  · obtain ⟨x, hx, hc⟩ := List.mem_flatMap.1 hc
    refine ⟨x.step, includes_of_eager (List.mem_cons_of_mem _ ?_), List.mem_map_of_mem hc⟩
    exact List.mem_append_right _ (List.mem_map_of_mem hx)

end Worksheet

/-! ## What a call warns of -/

/-- The warning says which of its bound positions a call does not use: those beyond the parameters,
in increasing order, where there are some. -/
def Ignores (b : Option Binding) (c : Callable) (warning : Warning) : Prop :=
  ∃ call positions, b = some call ∧
    positions.Perm (call.boundPositions.filter fun i => decide (c.parameters.length ≤ i)) ∧
    positions.Pairwise (· ≤ ·) ∧ positions ≠ [] ∧
    warning = .unusedPositions c.name c.parameters.length positions

lemma Resolution.positions_boundValues (call : Binding) :
    (Resolution.boundValues (some call)).map Prod.fst = call.boundPositions := by
  rw [Resolution.boundValues, Binding.boundPositions, List.map_map]
  rfl

lemma Resolution.pairwise_mergeSort (ns : List Nat) : ns.mergeSort.Pairwise (· ≤ ·) := by
  have htrans : ∀ a b c : Nat, decide (a ≤ b) = true → decide (b ≤ c) = true →
      decide (a ≤ c) = true := by
    simp only [decide_eq_true_iff]
    omega
  have htotal : ∀ a b : Nat, (decide (a ≤ b) || decide (b ≤ a)) = true := by
    simp only [Bool.or_eq_true, decide_eq_true_iff]
    omega
  have h := List.pairwise_mergeSort htrans htotal ns
  simpa only [decide_eq_true_iff] using h

lemma mem_callWarnings_iff {b : Option Binding} {c : Callable} {warning : Warning} :
    warning ∈ callWarnings b (some c) ↔ Ignores b c warning := by
  cases b with
  | none =>
    -- nothing is bound, so nothing can be left over
    constructor
    · intro h
      exact absurd h (by simp [callWarnings, Resolution.boundValues, Resolution.unused])
    · rintro ⟨call, _, hb, _⟩
      exact absurd hb (by simp)
  | some call =>
    rw [callWarnings, Resolution.positions_boundValues, Resolution.unused]
    constructor
    · intro h
      split at h
      · exact absurd h (by simp)
      · rename_i hne
        have hwarning := List.mem_singleton.1 h
        rw [List.isEmpty_iff] at hne
        exact ⟨call, _, rfl, List.mergeSort_perm _ _, Resolution.pairwise_mergeSort _, hne,
          hwarning⟩
    · -- there is one way only to sort the positions that are left over
      rintro ⟨call', positions, hcall, hperm, hsorted, hne, rfl⟩
      obtain rfl := Option.some.inj hcall
      have hpositions : positions = (call.boundPositions.filter
          fun i => decide (c.parameters.length ≤ i)).mergeSort :=
        List.Perm.eq_of_pairwise (fun _ _ _ _ => Nat.le_antisymm) hsorted
          (Resolution.pairwise_mergeSort _)
          (hperm.trans (List.mergeSort_perm _ _).symm)
      rw [← hpositions, if_neg (by rwa [List.isEmpty_iff])]
      exact List.mem_singleton.2 rfl

/-! ## Accounts -/

namespace Registry

variable {registry : Registry} {schema : TypeSchema} {d e : Definition} {ws : List Warning}

/-- Compiled on its own, the value returns the operand, whatever the entry and the world. -/
def Returns (registry : Registry) (v operand : Value) : Prop :=
  ∀ entry world, (compileOperand (some registry.introspector) v entry world).1 = .ok operand

/-- Every position that a call gives a value of its own is accounted for: what the value returns is
the argument at that position, or the callable has no such position and a warning says so. -/
def Settles (registry : Registry) (ws : List Warning) (b : Option Binding) (c : Callable)
    (arguments : List Value) : Prop :=
  ∀ call i, b = some call → call.get i ≠ .useDefault →
    (i < c.parameters.length ∧
      ∃ operand, arguments[i]? = some operand ∧ registry.Returns (call.get i) operand) ∨
    (c.parameters.length ≤ i ∧ ∃ positions, i ∈ positions ∧
      .unusedPositions c.name c.parameters.length positions ∈ ws)

/-- A plan of a definition, with an account of every bound position in `ws` or in the plan. -/
inductive AccountsFor (registry : Registry) (ws : List Warning) (d : Definition)
    (schema : TypeSchema) : Plan → Prop where
  | mk {eager plan : Plan} {arguments : List Value} {assignments calls : Plan}
      (lazy : plan = if d.isLazy then [.placeholder d.className eager] else eager)
      (steps : eager =
        .construct d.className arguments (keywordsOf schema.constructor) :: (assignments ++ calls))
      (constructs : ∀ c, schema.constructor = some c →
        arguments.length = c.parameters.length ∧ registry.Settles ws d.constructor c arguments)
      -- what is bound to a constructor that is missing is not mentioned anywhere
      (missing : schema.constructor = none → arguments = [])
      (assigns : List.Forall₂ (fun b step => ∃ operand, step = .assign b.field operand ∧
        registry.Returns b.value operand) d.fields assignments)
      (invokes : List.Forall₂ (fun b step => ∃ c arguments,
        Entries.get? b.method schema.methods = some c ∧
        step = .invoke b.method arguments c.keywords ∧
        arguments.length = c.parameters.length ∧ registry.Settles ws (some b) c arguments)
        d.methods calls) : AccountsFor registry ws d schema plan

lemma settles_of_supplies {b : Option Binding} {c : Callable} {arguments : List Compiled}
    (hsupplies : Supplies b (some c) arguments) (h : ∀ x ∈ arguments, registry.Derives x)
    (hws : ∀ warning, Ignores b c warning → warning ∈ ws) :
    (arguments.map Compiled.operand).length = c.parameters.length ∧
      registry.Settles ws b c (arguments.map Compiled.operand) := by
  cases hsupplies with
  | call length supply =>
  refine ⟨by rw [List.length_map, length], ?_⟩
  intro call i hb hne
  by_cases hi : i < c.parameters.length
  · have hlt : i < arguments.length := by omega
    obtain ⟨s, hs, hv⟩ := supply i _ _ (List.getElem?_eq_getElem hi) (List.getElem?_eq_getElem hlt)
    obtain rfl := hs.unique (.bound hb hne)
    have hvalue : arguments[i].value = call.get i := hv
    refine .inl ⟨hi, arguments[i].operand, ?_, ?_⟩
    · rw [List.getElem?_map, List.getElem?_eq_getElem hlt, Option.map_some]
    · intro entry world
      rw [← hvalue]
      exact (h _ (List.getElem_mem hlt)).returns entry world
  · have hbound : i ∈ call.boundPositions.filter fun i => decide (c.parameters.length ≤ i) := by
      rw [List.mem_filter, decide_eq_true_iff]
      exact ⟨List.mem_map_of_mem (Binding.mem_of_get hne), by omega⟩
    have hperm := List.mergeSort_perm
      (call.boundPositions.filter fun i => decide (c.parameters.length ≤ i))
      (fun a b => decide (a ≤ b))
    have hi' := hperm.mem_iff.2 hbound
    refine .inr ⟨by omega, _, hi', hws _ ⟨call, _, hb, hperm, ?_, List.ne_nil_of_mem hi', rfl⟩⟩
    exact Resolution.pairwise_mergeSort _

/-- The plan of a worksheet accounts for the bound positions of its definition. -/
lemma Prepares.accountsFor {w : Worksheet} (hw : registry.Prepares schema w)
    (h : ∀ c ∈ w.compiled, registry.Derives c) (hws : ∀ warning ∈ w.warnings, warning ∈ ws) :
    registry.AccountsFor ws w.definition schema w.plan := by
  have hconstruct : ∀ c, schema.constructor = some c →
      (w.arguments.map Compiled.operand).length = c.parameters.length ∧
        registry.Settles ws w.definition.constructor c (w.arguments.map Compiled.operand) := by
    intro c hc
    have hcallable := hw.callable.trans hc
    have hsupplies := hw.arguments
    rw [hcallable] at hsupplies
    have harguments : ∀ x ∈ w.arguments, registry.Derives x :=
      fun x hx => h x (Worksheet.mem_compiled_of_argument hx)
    refine settles_of_supplies hsupplies harguments ?_
    intro warning hwarning
    refine hws warning (List.mem_append_left _ (List.mem_append_left _ ?_))
    rw [hcallable]
    exact mem_callWarnings_iff.2 hwarning
  have hmissing : schema.constructor = none → w.arguments.map Compiled.operand = [] := by
    intro hc
    rw [hw.arguments.eq_nil_of_missing (hw.callable.trans hc), List.map_nil]
  refine .mk rfl (by rw [← hw.callable]; rfl) hconstruct hmissing ?_ ?_
  · rw [← hw.fields, List.forall₂_map_left_iff, List.forall₂_map_right_iff, List.forall₂_same]
    intro x hx
    refine ⟨x.compiled.operand, rfl, ?_⟩
    intro entry world
    rw [← hw.values x hx]
    exact (h x.compiled (Worksheet.mem_compiled_of_assignment hx)).returns entry world
  · rw [← hw.methods, List.forall₂_map_left_iff, List.forall₂_map_right_iff, List.forall₂_same]
    intro x hx
    refine ⟨x.callable, _, hw.callables x hx, rfl, settles_of_supplies (hw.supplies x hx) ?_ ?_⟩
    · exact fun c hc => h c (Worksheet.mem_compiled_of_invocation hx hc)
    · intro warning hwarning
      refine hws warning (List.mem_append_right _ (List.mem_append_right _ ?_))
      exact List.mem_flatMap.2 ⟨x, hx, List.mem_append_left _ (mem_callWarnings_iff.2 hwarning)⟩

/-- The warnings of a worksheet are those of its calls, and those of what was compiled. -/
lemma Prepares.mem_warnings_iff {w : Worksheet} (hw : registry.Prepares schema w)
    {warning : Warning} :
    warning ∈ w.warnings ↔ (∃ b c, registry.Calls w.definition b c ∧ Ignores b c warning) ∨
      ∃ c ∈ w.compiled, warning ∈ c.warnings := by
  have hd := hw.fits.instantiates.1
  simp only [Worksheet.warnings, Worksheet.compiled, Invocation.warnings, List.mem_append,
    List.mem_flatMap, List.mem_map]
  constructor
  · rintro ((h | ⟨c, hc, h⟩) | ⟨x, hx, h⟩ | ⟨x, hx, h | ⟨c, hc, h⟩⟩)
    · rcases hc : w.callable with _ | c <;> rw [hc] at h
      · exact absurd h (by simp [callWarnings])
      · exact .inl ⟨_, c, hw.calls_construct hc, mem_callWarnings_iff.1 h⟩
    · exact .inr ⟨c, .inl hc, h⟩
    · exact .inr ⟨x.compiled, .inr (.inl ⟨x, hx, rfl⟩), h⟩
    · exact .inl ⟨_, x.callable, hw.calls_invoke hx, mem_callWarnings_iff.1 h⟩
    · exact .inr ⟨c, .inr (.inr ⟨x, hx, hc⟩), h⟩
  · rintro (⟨b, c, hcall, h⟩ | ⟨c, hc | ⟨x, hx, rfl⟩ | ⟨x, hx, hc⟩, h⟩)
    · cases hcall with
      | construct hd' hc =>
        obtain rfl := Option.some.inj (hd.symm.trans hd')
        refine .inl (.inl ?_)
        rw [hw.callable.trans hc]
        exact mem_callWarnings_iff.2 h
      | invoke hd' hb hc =>
        obtain rfl := Option.some.inj (hd.symm.trans hd')
        rw [← hw.methods] at hb
        obtain ⟨x, hx, rfl⟩ := List.mem_map.1 hb
        obtain rfl := Option.some.inj (hc.symm.trans (hw.callables x hx))
        exact .inr (.inr ⟨x, hx, .inl (mem_callWarnings_iff.2 h)⟩)
    · exact .inl (.inr ⟨c, hc, h⟩)
    · exact .inr (.inl ⟨x, hx, h⟩)
    · exact .inr (.inr ⟨x, hx, .inr ⟨c, hc, h⟩⟩)

/-- What is reached in a derivation has a derivation, whose operand and warnings are part of it. -/
theorem Derives.reaches {c : Compiled} {v : Value} (h : registry.Derives c)
    (hr : registry.Reaches c.value v) :
    ∃ c', registry.Derives c' ∧ c'.value = v ∧ c.operand.Contains c'.operand ∧
      ∀ warning ∈ c'.warnings, warning ∈ c.warnings := by
  induction h with
  | @literal u hl =>
    cases hr with
    | refl => exact ⟨_, .literal hl, rfl, .self _, fun _ h => h⟩
    | _ => exact absurd hl (by simp [Value.isLiteral])
  | reference entry =>
    cases hr with
    | refl => exact ⟨_, .reference entry, rfl, .self _, fun _ h => h⟩
  | @list items hitems ih =>
    cases hr with
    | refl => exact ⟨_, .list hitems, rfl, .self _, fun _ h => h⟩
    | list hu hr =>
      obtain ⟨c, hc, rfl⟩ := List.mem_map.1 hu
      obtain ⟨c', h', hv, hcontains, hws⟩ := ih c hc hr
      exact ⟨c', h', hv, .list (List.mem_map_of_mem hc) hcontains,
        fun warning hw => List.mem_flatMap.2 ⟨c, hc, hws warning hw⟩⟩
  | @tuple items hitems ih =>
    cases hr with
    | refl => exact ⟨_, .tuple hitems, rfl, .self _, fun _ h => h⟩
    | tuple hu hr =>
      obtain ⟨c, hc, rfl⟩ := List.mem_map.1 hu
      obtain ⟨c', h', hv, hcontains, hws⟩ := ih c hc hr
      exact ⟨c', h', hv, .tuple (List.mem_map_of_mem hc) hcontains,
        fun warning hw => List.mem_flatMap.2 ⟨c, hc, hws warning hw⟩⟩
  | @dict entries hentries ih =>
    cases hr with
    | refl => exact ⟨_, .dict hentries, rfl, .self _, fun _ h => h⟩
    | dict hu hr =>
      obtain ⟨e, he, rfl⟩ := List.mem_map.1 hu
      obtain ⟨c', h', hv, hcontains, hws⟩ := ih e he hr
      have hmem : (e.1, e.2.operand) ∈ entries.map fun e => (e.1, e.2.operand) :=
        List.mem_map.2 ⟨e, he, rfl⟩
      exact ⟨c', h', hv, .dict hmem hcontains,
        fun warning hw => List.mem_flatMap.2 ⟨e, he, hws warning hw⟩⟩
  | @definition w schema hw hcompiled ih =>
    cases hr with
    | refl => exact ⟨_, .definition hw hcompiled, rfl, .self _, fun _ h => h⟩
    | operand hd hs hr =>
      obtain rfl := Option.some.inj (hd.symm.trans hw.fits.instantiates.1)
      obtain ⟨c, hc, hv⟩ := hw.mem_of_operand hs
      rw [← hv] at hr
      obtain ⟨c', h', hv', hcontains, hws⟩ := ih c hc hr
      obtain ⟨step, hstep, hoperand⟩ := Worksheet.exists_step_of_mem hc
      exact ⟨c', h', hv', .nested hstep hoperand hcontains,
        fun warning hwarning => hw.mem_warnings_iff.2 (.inr ⟨c, hc, hws warning hwarning⟩)⟩

/-- The warnings of a derivation are those of the calls of the definitions that it reaches. -/
theorem Derives.mem_warnings_iff {c : Compiled} (h : registry.Derives c) {warning : Warning} :
    warning ∈ c.warnings ↔ ∃ e b callable, registry.Reaches c.value (.definition e) ∧
      registry.Calls e b callable ∧ Ignores b callable warning := by
  constructor
  · intro hwarning
    induction h with
    | literal => exact absurd hwarning (by simp)
    | reference => exact absurd hwarning (by simp)
    | list _ ih =>
      obtain ⟨c, hc, hwarning⟩ := List.mem_flatMap.1 hwarning
      obtain ⟨e, b, callable, hr, h⟩ := ih c hc hwarning
      exact ⟨e, b, callable, .list (List.mem_map_of_mem hc) hr, h⟩
    | tuple _ ih =>
      obtain ⟨c, hc, hwarning⟩ := List.mem_flatMap.1 hwarning
      obtain ⟨e, b, callable, hr, h⟩ := ih c hc hwarning
      exact ⟨e, b, callable, .tuple (List.mem_map_of_mem hc) hr, h⟩
    | dict _ ih =>
      obtain ⟨x, hx, hwarning⟩ := List.mem_flatMap.1 hwarning
      obtain ⟨e, b, callable, hr, h⟩ := ih x hx hwarning
      exact ⟨e, b, callable, .dict (List.mem_map_of_mem hx) hr, h⟩
    | @definition w _ hw _ ih =>
      rcases hw.mem_warnings_iff.1 hwarning with ⟨b, callable, h⟩ | ⟨c, hc, hwarning⟩
      · exact ⟨w.definition, b, callable, .refl _, h⟩
      · obtain ⟨e, b, callable, hr, h⟩ := ih c hc hwarning
        exact ⟨e, b, callable, hw.reaches_of_mem hc hr, h⟩
  · rintro ⟨e, b, callable, hr, hcall, hignores⟩
    -- what is reached has a derivation of its own, and the warning is in it
    obtain ⟨c', h', hv, -, hws⟩ := h.reaches hr
    refine hws warning ?_
    cases h' with
    | literal hl => subst hv; exact absurd hl (by simp [Value.isLiteral])
    | definition hw hcompiled =>
      obtain rfl := Value.definition.inj hv
      exact hw.mem_warnings_iff.2 (.inl ⟨b, callable, hcall, hignores⟩)
    | _ => exact absurd hv (by simp)

/-- A compilation adds warnings to the earlier ones.  The plan of every definition that is compiled
stands in the plan that it returns, and accounts for every bound position of that definition; and
nothing is warned of but the positions that its calls do not use. -/
theorem compile_accounts {plan : Plan} {entry : Option Value} {world world' : World}
    (h : compile registry.introspector d entry world = (.ok plan, world')) :
    ∃ ws, world'.warnings = world.warnings ++ ws ∧
      (∀ e, registry.Reaches (.definition d) (.definition e) → ∃ schema p,
        registry.find? e.className = some schema ∧ registry.AccountsFor ws e schema p ∧
          (Value.nested d.className plan).Contains (.nested e.className p)) ∧
      ∀ warning, warning ∈ ws ↔ ∃ e b callable,
        registry.Reaches (.definition d) (.definition e) ∧ registry.Calls e b callable ∧
          Ignores b callable warning := by
  obtain ⟨ws, hws, hderives⟩ := compile_tells registry d entry world plan world' h
  refine ⟨ws, hws, ?_, fun warning => hderives.mem_warnings_iff⟩
  intro e he
  obtain ⟨c, hc, hv, hcontains, hsub⟩ := hderives.reaches he
  cases hc with
  | literal hl => subst hv; exact absurd hl (by simp [Value.isLiteral])
  | @definition w schema hw hcompiled =>
    obtain rfl := Value.definition.inj hv
    exact ⟨schema, w.plan, hw.fits.instantiates.1, hw.accountsFor hcompiled hsub, hcontains⟩
  | _ => exact absurd hv (by simp)

/-- A registry of a class without a constructor, with a method of one parameter. -/
def unconstructed : Registry :=
  ⟨[{ name := "app.A", isInstantiable := true, constructor := none,
      methods := [("put", ⟨"put", [⟨"x", .required, false⟩]⟩)], fields := [] }]⟩

/-- A definition that binds a position of the constructor, and two of the method. -/
def overbound : Definition :=
  { name := .str "a", className := "app.A", isLazy := false,
    constructor := some ⟨constructorName, [(0, .int 5)]⟩, fields := [],
    methods := [⟨"put", [(0, .int 1), (3, .int 2)]⟩] }

/-- The position 3 of the method is warned of; the position 0 of the constructor is in no argument
and in no warning. -/
theorem overbound_accounted : ∃ plan world' ws,
    compile unconstructed.introspector overbound none {} = (.ok plan, world') ∧
    plan = [.construct "app.A" [] [], .invoke "put" [.int 1] []] ∧
    ws = [.unusedPositions "put" 1 [3]] ∧ world'.warnings = [] ++ ws ∧
    (∀ e, unconstructed.Reaches (.definition overbound) (.definition e) → ∃ schema p,
      unconstructed.find? e.className = some schema ∧ unconstructed.AccountsFor ws e schema p ∧
        (Value.nested "app.A" plan).Contains (.nested e.className p)) ∧
    ∀ warning, warning ∈ ws ↔ ∃ e b callable,
      unconstructed.Reaches (.definition overbound) (.definition e) ∧
        unconstructed.Calls e b callable ∧ Ignores b callable warning := by
  have h : compile unconstructed.introspector overbound none {} =
      (.ok [.construct "app.A" [] [], .invoke "put" [.int 1] []],
        { warnings := [.unusedPositions "put" 1 [3]],
          log := [.compiling (.str "a") "app.A"] }) := by
    with_unfolding_all rfl
  obtain ⟨ws, hws, haccounts, hwarnings⟩ := compile_accounts h
  exact ⟨_, _, ws, h, rfl, hws.symm, hws, haccounts, hwarnings⟩

end Registry

end Blueprint
