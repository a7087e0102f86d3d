/-
# Bindings from the first on

A definition is compiled from its first binding to its last.  So what the first bindings come to
does not depend on those that follow: where they fail, the whole definition fails in the same way,
and where the whole definition compiles, its plan starts with theirs.

`Run.Begins` says so of two runs.  A run begins every run that goes on from its result, and stays
the beginning of the longer run if the same is done before both, or something is made of the result
of both; the main statement is put together from these rules.  It asks nothing of what is known
about classes: the answers may well depend on the world.
-/
import Blueprint.Proofs.Compilation

namespace Blueprint

/-! ## Runs that begin others -/

namespace Run

variable {α β γ : Type} {P : α → β → Prop} {x : Run α} {y : Run β}

/-- Where `x` fails, so does `y`, with the same failure and the same world; and where `y` has a
result, so has `x`, and the two results are related. -/
structure Begins (P : α → β → Prop) (x : Run α) (y : Run β) : Prop where
  fails : ∀ entry world failure after,
    x entry world = (.error failure, after) → y entry world = (.error failure, after)
  returns : ∀ entry world b last, y entry world = (.ok b, last) →
    ∃ a after, x entry world = (.ok a, after) ∧ P a b

namespace Begins

/-- A run begins what goes on from its result. -/
lemma of_bind (x : Run α) {f : α → Run β}
    (hf : ∀ a, (f a).Ensures (P a) fun _ => True) : Begins P x (x >>= f) where
  fails _ _ _ _ h := bind_of_error h
  returns := by
    intro entry world b last h
    obtain ⟨a, after, ha, hb⟩ := bind_eq_ok h
    have hP := hf a entry after
    rw [hb] at hP
    exact ⟨a, after, ha, hP⟩

/-- The same may be done first. -/
lemma after (z : Run γ) {f : γ → Run α} {g : γ → Run β} (h : ∀ c, Begins P (f c) (g c)) :
    Begins P (z >>= f) (z >>= g) where
  fails := by
    intro entry world failure last hx
    -- what both start with fails, or what follows it does
    rcases bind_eq_error hx with hz | ⟨c, middle, hz, hc⟩
    · exact bind_of_error hz
    · rw [bind_of_ok hz]
      exact (h c).fails entry middle failure last hc
  returns := by
    intro entry world b last hy
    obtain ⟨c, middle, hz, hc⟩ := bind_eq_ok hy
    rw [bind_of_ok hz]
    exact (h c).returns entry middle b last hc

/-- Something may be made of both results. -/
lemma map {α' β' : Type} {Q : α' → β' → Prop} (h : Begins P x y) {f : α → α'} {g : β → β'}
    (hQ : ∀ a b, P a b → Q (f a) (g b)) :
    Begins Q (x >>= fun a => Pure.pure (f a)) (y >>= fun b => Pure.pure (g b)) where
  fails := by
    intro entry world failure last hx
    rcases bind_eq_error hx with hxa | ⟨a, middle, -, ha⟩
    · exact bind_of_error (h.fails entry world failure last hxa)
    · exact absurd (congrArg Prod.fst ha) nofun
  returns := by
    intro entry world b' last hy
    obtain ⟨b, middle, hyb, hb⟩ := bind_eq_ok hy
    obtain rfl := Except.ok.inj (Prod.mk.inj hb).1
    obtain ⟨a, after, hx, hP⟩ := h.returns entry world b middle hyb
    exact ⟨f a, after, bind_of_ok hx, hQ a b hP⟩

protected lemma within (h : Begins P x y) (name : Option Value) :
    Begins P (Run.within name x) (Run.within name y) where
  fails _ world := h.fails name world
  returns _ world := h.returns name world

end Begins

end Run

/-! ## Definitions with fewer bindings -/

namespace Definition

/-- The definition with other bindings of fields and methods. -/
def withBindings (d : Definition) (fields : List FieldBinding) (methods : List Binding) :
    Definition :=
  { d with fields, methods }

section WithBindings

variable (d : Definition) (fields : List FieldBinding) (methods : List Binding)

@[simp] lemma withBindings_name : (d.withBindings fields methods).name = d.name := rfl

@[simp] lemma withBindings_className : (d.withBindings fields methods).className = d.className :=
  rfl

@[simp] lemma withBindings_isLazy : (d.withBindings fields methods).isLazy = d.isLazy := rfl

end WithBindings

/-- The first plan starts the second; where the definition is lazy, the same goes for what their
placeholders hold. -/
def Starts (d : Definition) (plan plan' : Plan) : Prop :=
  if d.isLazy then
    ∃ steps steps', steps <+: steps' ∧ plan = [.placeholder d.className steps] ∧
      plan' = [.placeholder d.className steps']
  else plan <+: plan'

end Definition

variable {types : Introspector} {onDefault : Value → Run Value} {d : Definition}

lemma eagerPlan_append_fields (fields more : List FieldBinding) (methods : List Binding) :
    eagerPlan types onDefault (d.withBindings (fields ++ more) methods) =
      eagerPlan types onDefault (d.withBindings fields []) >>= fun plan =>
        compileFields (some types) types onDefault d.className more >>= fun assignments =>
          compileMethods (some types) types onDefault d.className methods >>= fun calls =>
            pure (plan ++ (assignments ++ calls)) := by
  simp only [eagerPlan, Definition.withBindings, compileFields_append, compileMethods, bind_assoc,
    pure_bind, List.append_nil, List.cons_append, List.append_assoc]

/-- More fields and any methods are compiled after the first fields. -/
lemma eagerPlan_begins_fields (fields more : List FieldBinding) (methods : List Binding) :
    Run.Begins (· <+: ·) (eagerPlan types onDefault (d.withBindings fields []))
      (eagerPlan types onDefault (d.withBindings (fields ++ more) methods)) := by
  rw [eagerPlan_append_fields]
  refine .of_bind _ fun plan => ?_
  refine (Run.Ensures.always _).bind fun assignments _ => ?_
  exact (Run.Ensures.always _).bind fun calls _ => .pure (List.prefix_append _ _)

/-- More methods are compiled after all fields and the first methods. -/
lemma eagerPlan_begins_methods (fields : List FieldBinding) (methods more : List Binding) :
    Run.Begins (· <+: ·) (eagerPlan types onDefault (d.withBindings fields methods))
      (eagerPlan types onDefault (d.withBindings fields (methods ++ more))) := by
  have hmore : eagerPlan types onDefault (d.withBindings fields (methods ++ more)) =
      eagerPlan types onDefault (d.withBindings fields methods) >>= fun plan =>
        compileMethods (some types) types onDefault d.className more >>= fun calls =>
          pure (plan ++ calls) := by
    simp only [eagerPlan, Definition.withBindings, compileMethods_append, bind_assoc, pure_bind,
      List.cons_append, List.append_assoc]
  rw [hmore]
  refine .of_bind _ fun plan => ?_
  exact (Run.Ensures.always _).bind fun calls _ => .pure (List.prefix_append _ _)

/-- What is checked before the first binding, and what is put around the plan, is the same for all
bindings. -/
lemma compileDefinition_begins {fields fields' : List FieldBinding}
    {methods methods' : List Binding}
    (h : Run.Begins (· <+: ·) (eagerPlan types onDefault (d.withBindings fields methods))
      (eagerPlan types onDefault (d.withBindings fields' methods'))) :
    Run.Begins d.Starts
      (compileDefinition (some types) onDefault (d.withBindings fields methods))
      (compileDefinition (some types) onDefault (d.withBindings fields' methods')) := by
  rw [compileDefinition_eq, compileDefinition_eq]
  simp only [Definition.withBindings_name, Definition.withBindings_className,
    Definition.withBindings_isLazy]
  refine .within (.after _ fun _ => ?_) _
  by_cases hlazy : d.isLazy = true
  · -- the class is checked once more, and a placeholder put around the plan
    simp only [hlazy, if_true]
    refine .after _ fun _ => .after _ fun _ => h.map fun steps steps' hsteps => ?_
    rw [Definition.Starts, if_pos hlazy]
    exact ⟨steps, steps', hsteps, rfl, rfl⟩
  · have hstarts : d.Starts = (· <+: ·) := by
      funext plan plan'
      rw [Definition.Starts, if_neg hlazy]
    simp only [hlazy, hstarts]
    exact h

/-- The bindings are compiled one after the other, the fields first.  Where a definition with the
first bindings fails, that with all of them fails in the same way and leaves the same world, its
warnings included; and where that with all of them compiles, so does that with the first, to a plan
that the longer plan starts with. -/
theorem compile_begins (types : Introspector) (d : Definition) :
    (∀ fields more methods, Run.Begins d.Starts (compile types (d.withBindings fields []))
      (compile types (d.withBindings (fields ++ more) methods))) ∧
    ∀ fields methods more, Run.Begins d.Starts (compile types (d.withBindings fields methods))
      (compile types (d.withBindings fields (methods ++ more))) := by
  constructor
  · intro fields more methods
    exact compileDefinition_begins (eagerPlan_begins_fields fields more methods)
  · intro fields methods more
    exact compileDefinition_begins (eagerPlan_begins_methods fields methods more)

end Blueprint
