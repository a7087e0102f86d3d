/-
# Laziness makes no difference

A lazy definition compiles to a placeholder that holds a plan, an eager one to the plan itself. This
file shows that nothing else depends on the lazy flags, of a definition and of all that is nested in
its bound values: with any flags the compiler fails alike or returns plans that are the same once
every placeholder is replaced by what it holds, and it warns of the same.

Two definitions that differ in their flags only are the same once all flags are cleared.  So it is
enough to compare a definition with the one that `Definition.eager` makes of it, which is an
induction over value positions; two definitions are then compared through the one they share.
-/
import Blueprint.Proofs.Compilation

namespace Blueprint

/-! ## Clearing the flags -/

mutual

/-- The value with no definition lazy at its value positions. -/
def Value.eager : Value → Value
  | .list items => .list (eagerItems items)
  | .tuple items => .tuple (eagerItems items)
  | .dict entries => .dict (eagerEntries entries)
  | .definition d => .definition d.eager
  | v => v

/-- The items with no definition lazy. -/
def eagerItems : List Value → List Value
  | [] => []
  | item :: rest => item.eager :: eagerItems rest

/-- The values of a dictionary with no definition lazy; the keys stay as they are. -/
def eagerEntries : List (Value × Value) → List (Value × Value)
  | [] => []
  | (key, item) :: rest => (key, item.eager) :: eagerEntries rest

/-- The definition that is not lazy, and with no lazy one nested in what it binds. -/
def Definition.eager : Definition → Definition
  | ⟨name, className, _, constructor, fields, methods⟩ =>
    ⟨name, className, false, eagerConstructor constructor, eagerFields fields,
      eagerMethods methods⟩

/-- The constructor binding with no definition lazy. -/
def eagerConstructor : Option Binding → Option Binding
  | none => none
  | some b => some b.eager

/-- The binding with no definition lazy. -/
def Binding.eager : Binding → Binding
  | ⟨method, arguments⟩ => ⟨method, eagerArguments arguments⟩

/-- The arguments with no definition lazy. -/
def eagerArguments : List (Nat × Value) → List (Nat × Value)
  | [] => []
  | (position, value) :: rest => (position, value.eager) :: eagerArguments rest

/-- The field bindings with no definition lazy. -/
def eagerFields : List FieldBinding → List FieldBinding
  | [] => []
  | ⟨field, value, owner⟩ :: rest => ⟨field, value.eager, owner⟩ :: eagerFields rest

/-- The method bindings with no definition lazy. -/
def eagerMethods : List Binding → List Binding
  | [] => []
  | b :: rest => b.eager :: eagerMethods rest

end

lemma eagerItems_eq_map (items : List Value) : eagerItems items = items.map Value.eager := by
  induction items with
  | nil => rfl
  | cons item rest ih => rw [eagerItems, ih, List.map_cons]

lemma eagerEntries_eq_map (entries : List (Value × Value)) :
    eagerEntries entries = entries.map fun e => (e.1, e.2.eager) := by
  induction entries with
  | nil => rfl
  | cons e rest ih => rw [eagerEntries, ih, List.map_cons]

lemma eagerFields_eq_map (fields : List FieldBinding) :
    eagerFields fields = fields.map fun b => ⟨b.field, b.value.eager, b.owner⟩ := by
  induction fields with
  | nil => rfl
  | cons b rest ih =>
    cases b
    rw [eagerFields, ih, List.map_cons]

lemma eagerMethods_eq_map (methods : List Binding) :
    eagerMethods methods = methods.map Binding.eager := by
  induction methods with
  | nil => rfl
  | cons b rest ih => rw [eagerMethods, ih, List.map_cons]

namespace Definition

variable (d : Definition)

@[simp] lemma eager_name : d.eager.name = d.name := by
  cases d
  rfl

@[simp] lemma eager_className : d.eager.className = d.className := by
  cases d
  rfl

@[simp] lemma eager_isLazy : d.eager.isLazy = false := by
  cases d
  rfl

@[simp] lemma eager_constructor : d.eager.constructor = eagerConstructor d.constructor := by
  cases d
  rfl

@[simp] lemma eager_fields : d.eager.fields = eagerFields d.fields := by
  cases d
  rfl

@[simp] lemma eager_methods : d.eager.methods = eagerMethods d.methods := by
  cases d
  rfl

/-- The flag of a definition is one of those that are cleared. -/
@[simp] lemma withLazy_eager (flag : Bool) : (d.withLazy flag).eager = d.eager := by
  cases d
  rfl

end Definition

lemma Value.eager_literal {v : Value} (h : v.isLiteral = true) : v.eager = v := by
  cases v with
  | list | tuple | dict | definition => exact absurd h (by simp [Value.isLiteral])
  | _ => rfl

lemma Value.eager_unsupported {v : Value} (h : v.isUnsupported = true) : v.eager = v := by
  cases v with
  | list | tuple | dict | definition => exact absurd h (by simp [Value.isUnsupported])
  | _ => rfl

lemma Value.explicit?_eager (v : Value) : v.eager.explicit? = v.explicit?.map Value.eager := by
  cases v <;> rfl

/-- Which positions are bound, and which of them ask for the declared default, stays as it is. -/
lemma boundValues_eager (b : Option Binding) :
    Resolution.boundValues (eagerConstructor b) =
      (Resolution.boundValues b).map fun e => (e.1, e.2.map Value.eager) := by
  rcases b with _ | ⟨method, arguments⟩
  · rfl
  · simp only [eagerConstructor, Binding.eager, Resolution.boundValues]
    induction arguments with
    | nil => rfl
    | cons e rest ih =>
      obtain ⟨position, v⟩ := e
      simp only [eagerArguments, List.map_cons, Value.explicit?_eager, ih]

/-! ## Replacing the placeholders -/

mutual

/-- The operand with no placeholder in the plans at its value positions. -/
def Value.forced : Value → Value
  | .list items => .list (forcedItems items)
  | .tuple items => .tuple (forcedItems items)
  | .dict entries => .dict (forcedEntries entries)
  | .nested className plan => .nested className (forcedPlan plan)
  | v => v

/-- The items with no placeholder. -/
def forcedItems : List Value → List Value
  | [] => []
  | item :: rest => item.forced :: forcedItems rest

/-- The values of a dictionary with no placeholder. -/
def forcedEntries : List (Value × Value) → List (Value × Value)
  | [] => []
  | (key, item) :: rest => (key, item.forced) :: forcedEntries rest

/-- The plan with every placeholder replaced by what it holds. -/
def forcedPlan : List Instruction → List Instruction
  | [] => []
  | step :: rest => step.forced ++ forcedPlan rest

/-- The steps that stand for a step once no placeholder is left. -/
def Instruction.forced : Instruction → List Instruction
  | .construct className arguments keywords =>
    [.construct className (forcedItems arguments) keywords]
  | .assign field value => [.assign field value.forced]
  | .invoke method arguments keywords => [.invoke method (forcedItems arguments) keywords]
  | .placeholder _ initializer => forcedPlan initializer
  | .stray value => [.stray value.forced]

end

lemma forcedPlan_append (plan plan' : Plan) :
    forcedPlan (plan ++ plan') = forcedPlan plan ++ forcedPlan plan' := by
  induction plan with
  | nil => rw [List.nil_append, forcedPlan, List.nil_append]
  | cons step rest ih => rw [List.cons_append, forcedPlan, forcedPlan, ih, List.append_assoc]

/-- The two operands are the same but for placeholders. -/
def Value.SameForced (a b : Value) : Prop :=
  a.forced = b.forced

/-- The two lists of operands are the same but for placeholders. -/
def SameForcedItems (vs vs' : List Value) : Prop :=
  forcedItems vs = forcedItems vs'

/-- The two plans are the same but for placeholders. -/
def Plan.SameForced (plan plan' : Plan) : Prop :=
  forcedPlan plan = forcedPlan plan'

lemma SameForcedItems.cons {v v' : Value} {vs vs' : List Value} (hv : v.SameForced v')
    (hvs : SameForcedItems vs vs') : SameForcedItems (v :: vs) (v' :: vs') := by
  rw [SameForcedItems, forcedItems, forcedItems, hv, hvs]

lemma Plan.SameForced.cons {step step' : Instruction} {plan plan' : Plan}
    (hstep : step.forced = step'.forced) (h : plan.SameForced plan') :
    Plan.SameForced (step :: plan) (step' :: plan') := by
  rw [Plan.SameForced, forcedPlan, forcedPlan, hstep, h]

/-! ## The arguments of a call -/

variable {registry : Registry} {types : Option Introspector} {onDefault : Value → Run Value}

lemma blameDefault_mirrors {x y : Run Value} (parameter callable : Text)
    (h : Run.Mirrors Value.SameForced x y) :
    Run.Mirrors Value.SameForced (blameDefault parameter callable x)
      (blameDefault parameter callable y) := by
  refine h.recover fun failure => ?_
  cases failure with
  | mismatch cause => exact .mistaken _
  | _ => exact .fail _

/-- Resolution warns of the same whatever the log, and passes only what a call passes. -/
lemma resolve_mirrors (b : Option Binding) (c : Callable) :
    Run.Mirrors (fun sources sources' => sources = sources' ∧ ∀ e ∈ sources, Passes b c e.2)
      (Resolution.resolve (Resolution.boundValues b) c)
      (Resolution.resolve (Resolution.boundValues b) c) := by
  have hself : Run.Mirrors Eq (Resolution.resolve (Resolution.boundValues b) c)
      (Resolution.resolve (Resolution.boundValues b) c) := by
    unfold Resolution.resolve
    split
    · exact .mistaken _
    · refine Run.Mirrors.bind (S := fun _ _ => True) ?_ fun _ _ _ => .pure rfl
      rw [Resolution.warnUnused_eq]
      split
      · exact .pure trivial
      · exact .warn _
  refine (hself.and_left (Resolution.resolve_ensures b c)).mono ?_
  rintro sources _ ⟨rfl, -, hmem⟩
  exact ⟨rfl, fun e he => (hmem e.2).1 ⟨e.1, he⟩⟩

section Given

variable (hod : ∀ w, Run.Mirrors Value.SameForced (onDefault w) (onDefault w))

include hod

lemma compileSource_mirrors {s : Source Value} (callable parameter : Text)
    (h : ∀ v, s = .bound v → Run.Mirrors Value.SameForced (compileValue types onDefault v)
      (compileValue types onDefault v.eager)) :
    Run.Mirrors Value.SameForced (compileSource types onDefault callable parameter s)
      (compileSource types onDefault callable parameter (Resolution.mapSource Value.eager s)) := by
  rcases s with v | w
  · exact h v rfl
  · exact blameDefault_mirrors parameter callable (hod w)

lemma compileOperands_mirrors (callable : Text) {sources : List (Parameter × Source Value)}
    (h : ∀ e ∈ sources, ∀ v, e.2 = .bound v →
      Run.Mirrors Value.SameForced (compileValue types onDefault v)
        (compileValue types onDefault v.eager)) :
    Run.Mirrors SameForcedItems (compileOperands types onDefault callable sources)
      (compileOperands types onDefault callable
        (sources.map (Resolution.mapArgument Value.eager))) :=
  (compileOperands_traverses callable).mirrors (compileOperands_traverses callable) _ rfl .cons
    fun e he => compileSource_mirrors hod callable e.1.name (h e he)

/-- A call gets the same arguments but for placeholders, if the values that it passes do. -/
lemma compileArguments_mirrors (b : Option Binding) (callable : Option Callable)
    (h : ∀ call, b = some call → ∀ e ∈ call.arguments,
      Run.Mirrors Value.SameForced (compileValue types onDefault e.2)
        (compileValue types onDefault e.2.eager)) :
    Run.Mirrors SameForcedItems
      (compileArguments onDefault (boundRuns types onDefault b) callable)
      (compileArguments onDefault (boundRuns types onDefault (eagerConstructor b)) callable) := by
  rcases callable with _ | c
  · exact .pure rfl
  · rw [compileArguments_eq, compileArguments_eq, boundValues_eager, Resolution.resolve_map,
      bind_assoc]
    simp only [pure_bind]
    refine (resolve_mirrors b c).bind ?_
    rintro sources _ ⟨rfl, hpasses⟩
    refine compileOperands_mirrors hod c.name fun e he v hv => ?_
    have hp := hpasses e he
    rw [hv] at hp
    obtain ⟨call, e', hb, he', -, rfl⟩ := hp.exists_mem
    exact h call hb e' he'

/-! ## Definitions and values -/

omit hod in
lemma checkField_mirrors (owner : Value) (field : Text) :
    Run.Mirrors (fun _ _ => True) (checkField registry.introspector owner field)
      (checkField registry.introspector owner field) := by
  rcases Registry.checkField_cases registry owner field with
    ⟨-, h⟩ | ⟨-, ⟨cause, h⟩ | ⟨typeName, h⟩⟩ | ⟨-, cause, h⟩ <;> rw [h]
  · exact .pure trivial
  · exact .mistaken cause
  · exact .fail _
  · exact .mismatched cause

omit hod in
lemma compileFields_mirrors (className : Text) {fields : List FieldBinding}
    (h : ∀ b ∈ fields, Run.Mirrors Value.SameForced
      (compileValue (some registry.introspector) onDefault b.value)
      (compileValue (some registry.introspector) onDefault b.value.eager)) :
    Run.Mirrors Plan.SameForced
      (compileFields (some registry.introspector) registry.introspector onDefault className fields)
      (compileFields (some registry.introspector) registry.introspector onDefault className
        (eagerFields fields)) := by
  rw [eagerFields_eq_map]
  refine (compileFields_traverses className).mirrors (compileFields_traverses className) _ rfl .cons
    fun b hb => ?_
  refine (checkField_mirrors _ _).bind fun _ _ _ => (h b hb).bind fun v v' hv => .pure ?_
  rw [Instruction.forced, Instruction.forced, hv]

lemma compileMethods_mirrors {className : Text} {schema : TypeSchema} {methods : List Binding}
    (hs : registry.find? className = some schema)
    (h : ∀ b ∈ methods, ∀ e ∈ b.arguments, Run.Mirrors Value.SameForced
      (compileValue (some registry.introspector) onDefault e.2)
      (compileValue (some registry.introspector) onDefault e.2.eager)) :
    Run.Mirrors Plan.SameForced
      (compileMethods (some registry.introspector) registry.introspector onDefault className
        methods)
      (compileMethods (some registry.introspector) registry.introspector onDefault className
        (eagerMethods methods)) := by
  rw [eagerMethods_eq_map]
  refine (compileMethods_traverses className).mirrors (compileMethods_traverses className) _ rfl
    .cons fun b hb => ?_
  have hmethod : b.eager.method = b.method := by
    cases b
    rw [Binding.eager]
  rw [hmethod, Registry.introspector_method hs, pure_bind, pure_bind]
  rcases Entries.get? b.method schema.methods with _ | c
  · rw [compileCall, compileCall, hmethod]
    exact .mismatched _
  · have harguments := compileArguments_mirrors hod (some b) (some c) (by
      rintro call hcall
      obtain rfl := Option.some.inj hcall
      exact h b hb)
    rw [compileCall, compileCall, hmethod]
    refine harguments.bind fun vs vs' hvs => .pure ?_
    rw [Instruction.forced, Instruction.forced, hvs]

lemma declaredPlan_mirrors {d : Definition} {schema : TypeSchema}
    (hs : registry.find? d.className = some schema)
    (h : ∀ v, d.Binds v → Run.Mirrors Value.SameForced
      (compileValue (some registry.introspector) onDefault v)
      (compileValue (some registry.introspector) onDefault v.eager)) :
    Run.Mirrors Plan.SameForced (declaredPlan registry onDefault d schema)
      (declaredPlan registry onDefault d.eager schema) := by
  have hfields := compileFields_mirrors d.className fun b hb => h b.value (.assign hb)
  have hmethods := compileMethods_mirrors hod hs fun b hb e he => h e.2 (.invoke hb he)
  simp only [declaredPlan, Definition.eager_name, Definition.eager_className,
    Definition.eager_constructor, Definition.eager_fields, Definition.eager_methods]
  refine .note_left _ (.note_right _ ?_)
  refine (compileArguments_mirrors hod _ _ fun b hb e he => h e.2 (.construct hb he)).bind ?_
  intro arguments arguments' harguments
  refine hfields.bind ?_
  intro assignments assignments' hassignments
  refine hmethods.bind ?_
  intro calls calls' hcalls
  refine .pure ?_
  rw [Plan.SameForced, forcedPlan, forcedPlan, Instruction.forced, Instruction.forced,
    forcedPlan_append, forcedPlan_append, harguments, hassignments, hcalls]

/-- A definition compiles like the one whose flags are cleared, if the values that it binds do.  A
lazy one is checked twice and logged twice, which changes nothing. -/
lemma compileDefinition_mirrors {d : Definition}
    (h : ∀ v, d.Binds v → Run.Mirrors Value.SameForced
      (compileValue (some registry.introspector) onDefault v)
      (compileValue (some registry.introspector) onDefault v.eager)) :
    Run.Mirrors Plan.SameForced
      (compileDefinition (some registry.introspector) onDefault d)
      (compileDefinition (some registry.introspector) onDefault d.eager) := by
  rw [compileDefinition_eq, compileDefinition_eq, Definition.eager_name,
    Definition.eager_className, Definition.eager_isLazy]
  refine Run.Mirrors.within ?_ _
  rcases Registry.checkClass_cases registry d.name d.className with
    ⟨-, ⟨schema, hi⟩, hc⟩ | ⟨-, cause, hc⟩ | ⟨-, hc⟩
  -- the class passes, or the check finds a mistake or a mismatch on both sides
  · have hplan := declaredPlan_mirrors hod hi.1 h
    have hi' : registry.find? d.eager.className = some schema := by
      rw [Definition.eager_className, hi.1]
    simp only [hc, pure_bind, eagerPlan_eq_declaredPlan hi.1, eagerPlan_eq_declaredPlan hi',
      Bool.false_eq_true, if_false]
    split
    · -- forced, a placeholder is the plan that it runs on first use
      refine .note_left _ ?_
      rw [← bind_pure (declaredPlan registry onDefault d.eager schema)]
      refine hplan.bind fun plan plan' hforced => .pure ?_
      rw [Plan.SameForced, forcedPlan, Instruction.forced, forcedPlan, List.append_nil]
      exact hforced
    · exact hplan
  · rw [hc]
    exact Run.Mirrors.bind (S := fun _ _ => False) (.mistaken cause) fun _ _ => False.elim
  · rw [hc]
    exact Run.Mirrors.bind (S := fun _ _ => False) (.mismatched _) fun _ _ => False.elim

omit hod in
lemma compileItems_mirrors {items : List Value}
    (h : ∀ v ∈ items, Run.Mirrors Value.SameForced (compileValue types onDefault v)
      (compileValue types onDefault v.eager)) :
    Run.Mirrors SameForcedItems (compileItems types onDefault items)
      (compileItems types onDefault (eagerItems items)) := by
  rw [eagerItems_eq_map]
  exact compileItems_traverses.mirrors compileItems_traverses Value.eager rfl .cons h

omit hod in
lemma compileEntries_mirrors {entries : List (Value × Value)}
    (h : ∀ e ∈ entries, Run.Mirrors Value.SameForced (compileValue types onDefault e.2)
      (compileValue types onDefault e.2.eager)) :
    Run.Mirrors (fun vs vs' => forcedEntries vs = forcedEntries vs')
      (compileEntries types onDefault entries)
      (compileEntries types onDefault (eagerEntries entries)) := by
  rw [eagerEntries_eq_map]
  refine compileEntries_traverses.mirrors compileEntries_traverses _
    (S := fun x x' => x.1 = x'.1 ∧ x.2.SameForced x'.2) rfl ?_ fun e he =>
      (h e he).bind fun v v' hv => .pure ⟨rfl, hv⟩
  rintro ⟨key, v⟩ ⟨_, v'⟩ vs vs' ⟨rfl, hv⟩ hvs
  rw [forcedEntries, forcedEntries, hv, hvs]

/-- Every value compiles like the one with no lazy definition at its value positions. -/
lemma compileValue_mirrors (v : Value) :
    Run.Mirrors Value.SameForced (compileValue (some registry.introspector) onDefault v)
      (compileValue (some registry.introspector) onDefault v.eager) := by
  induction v using Value.positionInduct with
  | literal v h =>
    rw [Value.eager_literal h, compileValue_literal h]
    exact .pure rfl
  | reference entry =>
    simp only [Value.eager, compileValue]
    exact .pure rfl
  | useDefault =>
    simp only [Value.eager, compileValue]
    exact .mismatched _
  | unsupported v h =>
    rw [Value.eager_unsupported h, compileValue_unsupported h]
    exact .fail _
  | list items ih =>
    -- the plans of a collection have the same forced form as soon as those of its items have
    rw [Value.eager, compileValue, compileValue]
    refine (compileItems_mirrors ih).bind fun vs vs' hvs => .pure ?_
    rw [Value.SameForced, Value.forced, Value.forced, hvs]
  | tuple items ih =>
    rw [Value.eager, compileValue, compileValue]
    refine (compileItems_mirrors ih).bind fun vs vs' hvs => .pure ?_
    rw [Value.SameForced, Value.forced, Value.forced, hvs]
  | dict entries ih =>
    rw [Value.eager, compileValue, compileValue]
    refine (compileEntries_mirrors ih).bind fun vs vs' hvs => .pure ?_
    rw [Value.SameForced, Value.forced, Value.forced, hvs]
  | definition d ih =>
    rw [Value.eager, compileValue, compileValue]
    refine (compileDefinition_mirrors hod ih).bind fun plan plan' hplan => .pure ?_
    rw [Value.SameForced, Value.forced, Value.forced, hplan, Definition.eager_className]

end Given

lemma compileUpTo_mirrors (n : Nat) (w : Value) :
    Run.Mirrors Value.SameForced (compileUpTo registry.introspector n w)
      (compileUpTo registry.introspector n w) := by
  induction n generalizing w with
  | zero => exact .fail _
  | succ n ih =>
    have h : Run.Mirrors Value.SameForced (compileUpTo registry.introspector (n + 1) w)
        (compileUpTo registry.introspector (n + 1) w.eager) := compileValue_mirrors ih w
    refine (h.trans h.symm).mono ?_
    rintro a b ⟨c, hac, hbc⟩
    exact Eq.trans hac (Eq.symm hbc)

lemma compile_mirrors_eager (d : Definition) :
    Run.Mirrors Plan.SameForced (compile registry.introspector d)
      (compile registry.introspector d.eager) :=
  compileDefinition_mirrors (compileUpTo_mirrors registry.introspector.depth) fun v _ =>
    compileValue_mirrors (compileUpTo_mirrors registry.introspector.depth) v

/-- Definitions that differ only in lazy flags, their own and those of definitions at any depth in
what they bind, fail with the same failure or compile to plans that are the same once every
placeholder is replaced by what it holds; and the same warnings are issued. -/
theorem compile_eq_up_to_placeholders (registry : Registry) {d d' : Definition}
    (h : d.eager = d'.eager) (entry : Option Value) (world : World) :
    Run.Alike (fun plan plan' => forcedPlan plan = forcedPlan plan')
        (compile registry.introspector d entry world).1
        (compile registry.introspector d' entry world).1 ∧
      (compile registry.introspector d entry world).2.warnings =
        (compile registry.introspector d' entry world).2.warnings := by
  have hd : Run.Mirrors Plan.SameForced (compile registry.introspector d)
      (compile registry.introspector d.eager) := compile_mirrors_eager d
  have hd' : Run.Mirrors Plan.SameForced (compile registry.introspector d')
      (compile registry.introspector d'.eager) := compile_mirrors_eager d'
  rw [← h] at hd'
  have hmirrors : Run.Mirrors Plan.SameForced (compile registry.introspector d)
      (compile registry.introspector d') := by
    refine (hd.trans hd'.symm).mono ?_
    rintro plan plan' ⟨c, hc, hc'⟩
    exact Eq.trans hc (Eq.symm hc')
  exact hmirrors entry world world rfl

/-- A definition whose field holds, in a list, another one, each of them lazy or not. -/
def innerInList (outer inner : Bool) : Definition :=
  let d : Definition :=
    { name := .null, className := "app.A", isLazy := inner, constructor := none,
      fields := [], methods := [] }
  { name := .str "x", className := "app.A", isLazy := outer, constructor := none,
    fields := [⟨"items", .list [.definition d], .null⟩], methods := [] }

/-- A placeholder around the whole plan, and one for the object in the list, come to the same. -/
theorem innerInList_outer_or_inner :
    (innerInList true false).eager = (innerInList false true).eager ∧
      Run.Alike (fun plan plan' => forcedPlan plan = forcedPlan plan')
        (compile Registry.oneClass.introspector (innerInList true false) none {}).1
        (compile Registry.oneClass.introspector (innerInList false true) none {}).1 :=
  ⟨by rfl, (compile_eq_up_to_placeholders Registry.oneClass (by rfl) none {}).1⟩

end Blueprint
