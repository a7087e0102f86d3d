/-
# Three ways to ask for a declared default

A call takes the declared default of a parameter if the position of the parameter is not bound, or
if it is bound to the mark for a declared default; and it takes the same value if the position is
bound to the value that is declared.  So a position may be marked or left out at will, and where a
definition compiles the declared defaults may be written out.

`Registry.Amends May v v'` is one such change: one call of one definition, anywhere in `v`, gains a
bound position.  What it may be bound to is left to `May`, which knows the callable: `IsMark` allows
the mark, and `IsDeclared` the declared default.  A change of one call is a change of its arguments
(`Binding.Gains`), and everything around the call is a context that keeps the relation between the
two compilations (`Amends.congruence`).  Any number of changes is a closure of the relation, so that
the main statement follows from the one step.
-/
import Blueprint.Proofs.Agreement
import Mathlib.Logic.Relation

namespace Blueprint

/-! ## One more bound position -/

/-- The second binding binds one more position than the first, to the value. -/
inductive Binding.Gains (i : Nat) (u : Value) : Binding → Binding → Prop where
  | intro {method : Text} {before after : List (Nat × Value)}
      (hfresh : i ∉ (before ++ after).map Prod.fst) :
      Gains i u ⟨method, before ++ after⟩ ⟨method, before ++ (i, u) :: after⟩

/-- The binding of the arguments of the constructor; without one nothing is bound. -/
def Definition.constructorBinding (d : Definition) : Binding :=
  d.constructor.getD ⟨constructorName, []⟩

namespace Registry

/-- The constructor that a registry declares for a class. -/
def constructor? (registry : Registry) (className : Text) : Option Callable :=
  (registry.find? className).bind TypeSchema.constructor

/-- The method that a registry declares for a class. -/
def method? (registry : Registry) (className method : Text) : Option Callable :=
  (registry.find? className).bind fun schema => Entries.get? method schema.methods

/-- One call of a definition, that may be nested in the value at any depth, binds one more position
in the second value.  The call is one of a callable that is declared or not, and `May` says what the
position may be bound to. -/
inductive Amends (registry : Registry) (May : Option Callable → Nat → Value → Prop) :
    Value → Value → Prop where
  /-- The call of the constructor. -/
  | construct {d : Definition} {b : Binding} {i : Nat} {u : Value}
      (hb : d.constructorBinding.Gains i u b) (h : May (registry.constructor? d.className) i u) :
      Amends registry May (.definition d) (.definition { d with constructor := some b })
  /-- The call of a method. -/
  | invoke {d : Definition} {before after : List Binding} {b b' : Binding} {i : Nat} {u : Value}
      (hd : d.methods = before ++ b :: after) (hb : b.Gains i u b')
      (h : May (registry.method? d.className b.method) i u) :
      Amends registry May (.definition d) (.definition { d with methods := before ++ b' :: after })
  /-- In an item of a list. -/
  | list {before after : List Value} {v v' : Value} (h : Amends registry May v v') :
      Amends registry May (.list (before ++ v :: after)) (.list (before ++ v' :: after))
  /-- In an item of a tuple. -/
  | tuple {before after : List Value} {v v' : Value} (h : Amends registry May v v') :
      Amends registry May (.tuple (before ++ v :: after)) (.tuple (before ++ v' :: after))
  /-- In a value of a dictionary. -/
  | dict {before after : List (Value × Value)} {key v v' : Value} (h : Amends registry May v v') :
      Amends registry May (.dict (before ++ (key, v) :: after))
        (.dict (before ++ (key, v') :: after))
  /-- In an argument of a constructor. -/
  | constructorArgument {d : Definition} {method : Text} {before after : List (Nat × Value)}
      {i : Nat} {v v' : Value} (hd : d.constructor = some ⟨method, before ++ (i, v) :: after⟩)
      (h : Amends registry May v v') :
      Amends registry May (.definition d)
        (.definition { d with constructor := some ⟨method, before ++ (i, v') :: after⟩ })
  /-- In the value of a field. -/
  | field {d : Definition} {before after : List FieldBinding} {field : Text} {v v' owner : Value}
      (hd : d.fields = before ++ ⟨field, v, owner⟩ :: after) (h : Amends registry May v v') :
      Amends registry May (.definition d)
        (.definition { d with fields := before ++ ⟨field, v', owner⟩ :: after })
  /-- In an argument of a method. -/
  | methodArgument {d : Definition} {earlier later : List Binding} {method : Text}
      {before after : List (Nat × Value)} {i : Nat} {v v' : Value}
      (hd : d.methods = earlier ++ ⟨method, before ++ (i, v) :: after⟩ :: later)
      (h : Amends registry May v v') :
      Amends registry May (.definition d)
        (.definition { d with
          methods := earlier ++ ⟨method, before ++ (i, v') :: after⟩ :: later })

/-- A parameter is marked: its position is one that the callable has. -/
def IsMark (callable : Option Callable) (i : Nat) (u : Value) : Prop :=
  u = .useDefault ∧ ∀ c, callable = some c → i < c.parameters.length

/-- The value is what a parameter of the callable declares as its default. -/
def IsDeclared (callable : Option Callable) (i : Nat) (u : Value) : Prop :=
  ∃ c p, callable = some c ∧ c.parameters[i]? = some p ∧ p.default = .declared u

end Registry

/-! ## Two bindings of a call -/

section Bindings

variable {T : Source Value → Source Value → Prop} {b b' : Binding} {c : Callable} {i : Nat}
  {u : Value}

/-- Which arguments a call passes depends on what it has for each position, and its warning on which
positions it binds. -/
lemma callsAlike_of_get
    (hunused : Resolution.unused b'.boundPositions c = Resolution.unused b.boundPositions c)
    (h : ∀ j p, c.parameters[j]? = some p →
      Resolution.Alike T (Resolution.argument c.name p (b.get j).explicit?)
        (Resolution.argument c.name p (b'.get j).explicit?)) :
    CallsAlike T (some b) c (some b') c where
  name := rfl
  names := rfl
  keywords := rfl
  unused := by
    have hpositions : ∀ call : Binding,
        (Resolution.boundValues (some call)).map Prod.fst = call.boundPositions := by
      intro call
      rw [Resolution.boundValues, List.map_map]
      rfl
    rw [hpositions, hpositions]
    exact hunused
  arguments := by
    intro j p p' hp hp'
    obtain rfl : p = p' := Option.some.inj (hp.symm.trans hp')
    rw [Resolution.lookup_boundValues, Resolution.lookup_boundValues]
    exact h j p hp

lemma Resolution.alike_refl (hT : ∀ s, T s s) (found : Except Mistake (Source Value)) :
    Resolution.Alike T found found := by
  rcases found with mistake | s
  · exact .error mistake
  · exact .ok (hT s)

namespace Binding.Gains

lemma method_eq (h : b.Gains i u b') : b'.method = b.method := by
  cases h
  rfl

lemma get_self (h : b.Gains i u b') : b.get i = .useDefault ∧ b'.get i = u := by
  obtain ⟨hfresh⟩ := h
  rw [List.map_append, List.mem_append, not_or] at hfresh
  rw [Binding.get, Binding.get, Entries.get?_append, Entries.get?_append,
    Entries.get?_eq_none hfresh.1, Entries.get?_eq_none hfresh.2, Entries.get?]
  simp

lemma get_of_ne (h : b.Gains i u b') {j : Nat} (hj : i ≠ j) : b'.get j = b.get j := by
  obtain ⟨hfresh⟩ := h
  rw [Binding.get, Binding.get, Entries.get?_append, Entries.get?_append, Entries.get?]
  simp [hj]

/-- The new position is one that the callable has, and so none to warn of. -/
lemma unused_eq (h : b.Gains i u b') (hi : i < c.parameters.length) :
    Resolution.unused b'.boundPositions c = Resolution.unused b.boundPositions c := by
  obtain ⟨hfresh⟩ := h
  rw [Resolution.unused, Resolution.unused, Binding.boundPositions, Binding.boundPositions]
  simp only [List.map_append, List.map_cons, List.filter_append]
  rw [List.filter_cons_of_neg (by simpa using hi)]

/-- The calls are alike if they are at the new position. -/
lemma callsAlike (h : b.Gains i u b') (hi : i < c.parameters.length) (hT : ∀ s, T s s)
    (hnew : ∀ p, c.parameters[i]? = some p → Resolution.Alike T
      (Resolution.argument c.name p none) (Resolution.argument c.name p u.explicit?)) :
    CallsAlike T (some b) c (some b') c := by
  refine callsAlike_of_get (h.unused_eq hi) fun j p hp => ?_
  -- only at the new position something else can be found
  by_cases hj : i = j
  · subst hj
    rw [h.get_self.1, h.get_self.2]
    exact hnew p hp
  · rw [h.get_of_ne hj]
    exact Resolution.alike_refl hT _

end Binding.Gains

/-- Where one argument is exchanged for another, each position has the same value as before, or the
one value instead of the other. -/
lemma Binding.get_exchange {method : Text} {before after : List (Nat × Value)} {v v' : Value}
    (j : Nat) :
    (⟨method, before ++ (i, v') :: after⟩ : Binding).get j =
        (⟨method, before ++ (i, v) :: after⟩ : Binding).get j ∨
      (⟨method, before ++ (i, v) :: after⟩ : Binding).get j = v ∧
        (⟨method, before ++ (i, v') :: after⟩ : Binding).get j = v' := by
  simp only [Binding.get, Entries.get?_append, Entries.get?]
  rcases Entries.get? j before with _ | w
  · by_cases hj : (i == j) = true
    · simp [hj]
    · simp [hj]
  · exact .inl rfl

end Bindings

/-! ## Contexts -/

namespace Registry

section Congruence

variable {C : ∀ {α : Type}, Run α → Run α → Prop} (hC : Run.Congruence C) {registry : Registry}
  {onDefault : Value → Run Value}

include hC

/-- A definition may bind other values, if what its calls and its fields come to is related. -/
lemma compileDefinition_congruence {d : Definition} (constructor : Option Binding)
    (fields : List FieldBinding) (methods : List Binding)
    (hconstructor : ∀ schema, registry.find? d.className = some schema →
      C (compileArguments onDefault (boundRuns (some registry.introspector) onDefault d.constructor)
          schema.constructor)
        (compileArguments onDefault (boundRuns (some registry.introspector) onDefault constructor)
          schema.constructor))
    (hfields :
      C (compileFields (some registry.introspector) registry.introspector onDefault d.className
          d.fields)
        (compileFields (some registry.introspector) registry.introspector onDefault d.className
          fields))
    (hmethods : ∀ schema, registry.find? d.className = some schema →
      C (compileMethods (some registry.introspector) registry.introspector onDefault d.className
          d.methods)
        (compileMethods (some registry.introspector) registry.introspector onDefault d.className
          methods)) :
    C (compileDefinition (some registry.introspector) onDefault d)
      (compileDefinition (some registry.introspector) onDefault
        { d with constructor, fields, methods }) := by
  rw [compileDefinition_eq, compileDefinition_eq]
  refine hC.within (hC.bind_of (hC.refl _) fun _ hchecked => ?_) _
  obtain ⟨-, schema, hi⟩ := (checkClass_decides d.name).of_yields hchecked
  have hplan : C (eagerPlan registry.introspector onDefault d)
      (eagerPlan registry.introspector onDefault { d with constructor, fields, methods }) := by
    have hf : registry.find? { d with constructor, fields, methods }.className = some schema := hi.1
    rw [eagerPlan_eq_declaredPlan hi.1, eagerPlan_eq_declaredPlan hf, declaredPlan, declaredPlan]
    refine hC.bind (hC.refl _) fun _ => hC.bind (hconstructor schema hi.1) fun arguments => ?_
    refine hC.bind hfields fun assignments => hC.bind (hmethods schema hi.1) fun calls => ?_
    exact hC.refl _
  split
  · refine hC.bind (hC.refl _) fun _ => hC.bind (hC.refl _) fun _ => ?_
    exact hC.bind hplan fun plan => hC.refl _
  · exact hplan

/-- The constructor may be called with another binding. -/
lemma construct_congruence {d : Definition} (b : Binding)
    (h : C (compileArguments onDefault
        (boundRuns (some registry.introspector) onDefault d.constructor)
        (registry.constructor? d.className))
      (compileArguments onDefault (boundRuns (some registry.introspector) onDefault (some b))
        (registry.constructor? d.className))) :
    C (compileDefinition (some registry.introspector) onDefault d)
      (compileDefinition (some registry.introspector) onDefault
        { d with constructor := some b }) := by
  refine compileDefinition_congruence hC (some b) d.fields d.methods ?_ (hC.refl _)
    fun _ _ => hC.refl _
  intro schema hf
  rw [constructor?, hf, Option.bind_some] at h
  exact h

lemma compileCall_congruence {className : Text} {b b' : Binding} (hmethod : b'.method = b.method)
    {callable : Option Callable}
    (h : C (compileArguments onDefault (boundRuns (some registry.introspector) onDefault (some b))
        callable)
      (compileArguments onDefault (boundRuns (some registry.introspector) onDefault (some b'))
        callable)) :
    C (compileCall (some registry.introspector) onDefault className b callable)
      (compileCall (some registry.introspector) onDefault className b' callable) := by
  rcases callable with _ | c
  · rw [compileCall, compileCall, hmethod]
    exact hC.refl _
  · rw [compileCall, compileCall, hmethod]
    exact hC.bind h fun vs => hC.refl _

/-- A method may be called with another binding. -/
lemma invoke_congruence {d : Definition} {before after : List Binding} {b : Binding} (b' : Binding)
    (hd : d.methods = before ++ b :: after) (hmethod : b'.method = b.method)
    (h : C (compileArguments onDefault (boundRuns (some registry.introspector) onDefault (some b))
        (registry.method? d.className b.method))
      (compileArguments onDefault (boundRuns (some registry.introspector) onDefault (some b'))
        (registry.method? d.className b.method))) :
    C (compileDefinition (some registry.introspector) onDefault d)
      (compileDefinition (some registry.introspector) onDefault
        { d with methods := before ++ b' :: after }) := by
  refine compileDefinition_congruence hC d.constructor d.fields _ (fun _ _ => hC.refl _)
    (hC.refl _) ?_
  intro schema hf
  rw [method?, hf, Option.bind_some] at h
  rw [hd]
  refine hC.exchange (compileMethods_traverses d.className) ?_ before after
  rw [introspector_method hf, introspector_method hf, pure_bind, pure_bind, hmethod]
  exact compileCall_congruence hC hmethod h

/-- An argument may be exchanged for one that compiles alike. -/
lemma compileArguments_exchange {method : Text} {before after : List (Nat × Value)} {i : Nat}
    {v v' : Value} (hv : v ≠ .useDefault) (hv' : v' ≠ .useDefault)
    (h : C (compileValue (some registry.introspector) onDefault v)
      (compileValue (some registry.introspector) onDefault v')) (callable : Option Callable) :
    C (compileArguments onDefault (boundRuns (some registry.introspector) onDefault
        (some ⟨method, before ++ (i, v) :: after⟩)) callable)
      (compileArguments onDefault (boundRuns (some registry.introspector) onDefault
        (some ⟨method, before ++ (i, v') :: after⟩)) callable) := by
  rcases callable with _ | c
  · rw [compileArguments, compileArguments]
    exact hC.refl _
  have halike : CallsAlike (fun s s' => s = s' ∨ s = .bound v ∧ s' = .bound v')
      (some ⟨method, before ++ (i, v) :: after⟩) c
      (some ⟨method, before ++ (i, v') :: after⟩) c := by
    refine callsAlike_of_get ?_ fun j p _ => ?_
    · simp only [Binding.boundPositions, List.map_append, List.map_cons]
    · -- the position has the same value as before, or it is the one that was exchanged
      rcases Binding.get_exchange j with hget | ⟨hget, hget'⟩
      · rw [hget]
        exact Resolution.alike_refl (fun _ => .inl rfl) _
      · rw [hget, hget', Value.explicit?_eq_some_iff.2 ⟨hv, rfl⟩,
          Value.explicit?_eq_some_iff.2 ⟨hv', rfl⟩]
        exact .ok (.inr ⟨rfl, rfl⟩)
  refine compileArguments_congruence hC halike (A := fun _ => True)
    (fun _ _ _ => .always _) ?_
  rintro j p s s' - - - (rfl | ⟨rfl, rfl⟩) -
  · exact hC.refl _
  · exact h

end Congruence

lemma Amends.ne_useDefault {registry : Registry} {May : Option Callable → Nat → Value → Prop}
    {v v' : Value} (h : registry.Amends May v v') : v ≠ .useDefault ∧ v' ≠ .useDefault := by
  cases h <;> exact ⟨nofun, nofun⟩

lemma boundRuns_constructorBinding {types : Option Introspector} {onDefault : Value → Run Value}
    (d : Definition) :
    boundRuns types onDefault (some d.constructorBinding) =
      boundRuns types onDefault d.constructor := by
  rw [Definition.constructorBinding]
  rcases d.constructor with _ | b <;> rfl

/-- A relation that holds of the two calls wherever a position may be bound holds of the two
compilations. -/
lemma Amends.congruence {C : ∀ {α : Type}, Run α → Run α → Prop} (hC : Run.Congruence C)
    {registry : Registry} {onDefault : Value → Run Value}
    {May : Option Callable → Nat → Value → Prop}
    (hMay : ∀ callable i u b b', May callable i u → b.Gains i u b' →
      C (compileArguments onDefault (boundRuns (some registry.introspector) onDefault (some b))
          callable)
        (compileArguments onDefault (boundRuns (some registry.introspector) onDefault (some b'))
          callable))
    {v v' : Value} (h : registry.Amends May v v') :
    C (compileValue (some registry.introspector) onDefault v)
      (compileValue (some registry.introspector) onDefault v') := by
  -- by the place of the change, from the call outwards
  induction h with
  | construct hb h =>
    rw [compileValue, compileValue]
    refine hC.bind (construct_congruence hC _ ?_) fun plan => hC.refl _
    rw [← boundRuns_constructorBinding]
    exact hMay _ _ _ _ _ h hb
  | invoke hd hb h =>
    rw [compileValue, compileValue]
    have hmethod := hb.method_eq
    exact hC.bind (invoke_congruence hC _ hd hmethod (hMay _ _ _ _ _ h hb)) fun plan => hC.refl _
  | list h ih =>
    rw [compileValue, compileValue]
    exact hC.bind (hC.exchange compileItems_traverses ih _ _) fun vs => hC.refl _
  | tuple h ih =>
    rw [compileValue, compileValue]
    exact hC.bind (hC.exchange compileItems_traverses ih _ _) fun vs => hC.refl _
  | dict h ih =>
    rw [compileValue, compileValue]
    refine hC.bind (hC.exchange compileEntries_traverses ?_ _ _) fun vs => hC.refl _
    exact hC.bind ih fun v => hC.refl _
  | constructorArgument hd h ih =>
    rw [compileValue, compileValue]
    refine hC.bind (construct_congruence hC _ ?_) fun plan => hC.refl _
    rw [hd]
    exact compileArguments_exchange hC h.ne_useDefault.1 h.ne_useDefault.2 ih _
  | @field d before after field v v' owner hd h ih =>
    rw [compileValue, compileValue]
    refine hC.bind (compileDefinition_congruence hC d.constructor _ d.methods
      (fun _ _ => hC.refl _) ?_ fun _ _ => hC.refl _) fun plan => hC.refl _
    rw [hd]
    refine hC.exchange (compileFields_traverses d.className) ?_ before after
    exact hC.bind (hC.refl _) fun _ => hC.bind ih fun v => hC.refl _
  | methodArgument hd h ih =>
    rw [compileValue, compileValue]
    refine hC.bind (invoke_congruence hC _ hd rfl ?_) fun plan => hC.refl _
    exact compileArguments_exchange hC h.ne_useDefault.1 h.ne_useDefault.2 ih _

/-! ## Marks and declared defaults -/

variable {registry : Registry}

/-- A mark below the number of parameters changes no call. -/
lemma IsMark.compileArguments_eq {onDefault : Value → Run Value} {callable : Option Callable}
    {i : Nat} {u : Value} {b b' : Binding} (h : IsMark callable i u) (hb : b.Gains i u b') :
    compileArguments onDefault (boundRuns (some registry.introspector) onDefault (some b))
        callable =
      compileArguments onDefault (boundRuns (some registry.introspector) onDefault (some b'))
        callable := by
  obtain ⟨rfl, hi⟩ := h
  rcases callable with _ | c
  · rw [compileArguments, compileArguments]
  have halike : CallsAlike Eq (some b) c (some b') c :=
    hb.callsAlike (hi c rfl) (fun _ => rfl) fun p _ => Resolution.alike_refl (fun _ => rfl) _
  refine compileArguments_congruence Run.Congruence.eq halike (A := fun _ => True)
    (fun _ _ _ => .always _) ?_
  rintro j p s _ - - - rfl -
  rfl

/-- The blame for a default goes only to where there is no result. -/
lemma blameDefault_refines (parameter callable : Text) (x : Run Value) :
    (blameDefault parameter callable x).Refines x := by
  intro entry world a after h
  rw [blameDefault, Run.recover_apply] at h
  rcases hx : x entry world with ⟨failure | a', w⟩ <;> rw [hx] at h
  · cases failure <;> cases (Prod.mk.inj h).1
  · exact h

/-- Where a call relies on a declared default and compiles, it compiles to the same with the
declared default written out. -/
lemma IsDeclared.compileArguments_refines {n : Nat} {callable : Option Callable} {i : Nat}
    {u : Value} {b b' : Binding} (h : IsDeclared callable i u) (hb : b.Gains i u b') :
    (compileArguments (compileUpTo registry.introspector n)
        (boundRuns (some registry.introspector) (compileUpTo registry.introspector n) (some b))
        callable).Refines
      (compileArguments (compileUpTo registry.introspector n)
        (boundRuns (some registry.introspector) (compileUpTo registry.introspector n) (some b'))
        callable) := by
  obtain ⟨c, p, rfl, hp, hdefault⟩ := h
  have halike : CallsAlike (fun s s' => s = s' ∨ s = .declared u ∧ s' = .bound u)
      (some b) c (some b') c := by
    refine hb.callsAlike (List.getElem?_eq_some_iff.1 hp).1 (fun _ => .inl rfl) fun q hq => ?_
    obtain rfl : p = q := Option.some.inj (hp.symm.trans hq)
    simp only [Resolution.argument, hdefault]
    by_cases hu : u = .useDefault
    · -- the declared default is the mark itself, so that it counts as unbound
      subst hu
      exact .ok (.inl rfl)
    · rw [Value.explicit?_eq_some_iff.2 ⟨hu, rfl⟩]
      exact .ok (.inr ⟨rfl, rfl⟩)
  refine compileArguments_congruence Run.Congruence.refines halike (A := fun _ => True)
    (fun _ _ _ => .always _) ?_
  rintro j q s s' - - - (rfl | ⟨rfl, rfl⟩) -
  · exact Run.Congruence.refines.refl _
  · exact (blameDefault_refines _ _ _).trans (compileUpTo_refines registry n u)

lemma Amends.compileValue_eq {onDefault : Value → Run Value} {v v' : Value}
    (h : registry.Amends IsMark v v') :
    compileValue (some registry.introspector) onDefault v =
      compileValue (some registry.introspector) onDefault v' :=
  h.congruence Run.Congruence.eq fun _ _ _ _ _ hmark hb => hmark.compileArguments_eq hb

lemma Amends.compileValue_refines {v v' : Value} (h : registry.Amends IsDeclared v v') (n : Nat) :
    (compileValue (some registry.introspector) (compileUpTo registry.introspector n) v).Refines
      (compileValue (some registry.introspector) (compileUpTo registry.introspector n) v') :=
  h.congruence Run.Congruence.refines fun _ _ _ _ _ hdeclared hb =>
    hdeclared.compileArguments_refines hb

end Registry

/-! ## Any number of changes -/

section Nested

variable {types : Option Introspector} {onDefault : Value → Run Value} {d d' : Definition}

/-- A definition as a value compiles to its plan with the class around it, which loses nothing. -/
lemma compileDefinition_eq_of_value
    (h : compileValue types onDefault (.definition d) =
      compileValue types onDefault (.definition d')) :
    compileDefinition types onDefault d = compileDefinition types onDefault d' := by
  rw [compileValue, compileValue] at h
  refine Run.ext fun entry world => ?_
  have hrun := congrArg (fun x : Run Value => x entry world) h
  rcases hd : compileDefinition types onDefault d entry world with ⟨failure | plan, w⟩ <;>
    rcases hd' : compileDefinition types onDefault d' entry world with ⟨failure' | plan', w'⟩
  · rw [Run.bind_of_error hd, Run.bind_of_error hd'] at hrun
    obtain ⟨hfailure, rfl⟩ := Prod.mk.inj hrun
    rw [Except.error.inj hfailure]
  · rw [Run.bind_of_error hd, Run.bind_of_ok hd'] at hrun
    cases (Prod.mk.inj hrun).1
  · rw [Run.bind_of_ok hd, Run.bind_of_error hd'] at hrun
    cases (Prod.mk.inj hrun).1
  · rw [Run.bind_of_ok hd, Run.bind_of_ok hd', Run.pure_apply, Run.pure_apply] at hrun
    obtain ⟨hnested, rfl⟩ := Prod.mk.inj hrun
    rw [(Value.nested.inj (Except.ok.inj hnested)).2]

lemma compileDefinition_refines_of_value
    (h : (compileValue types onDefault (.definition d)).Refines
      (compileValue types onDefault (.definition d'))) :
    (compileDefinition types onDefault d).Refines (compileDefinition types onDefault d') := by
  rw [compileValue, compileValue] at h
  intro entry world plan after hd
  obtain ⟨plan', w, hd', hw⟩ := Run.bind_eq_ok (h entry world _ after (Run.bind_of_ok hd))
  obtain ⟨hnested, rfl⟩ := Prod.mk.inj hw
  obtain ⟨-, rfl⟩ := Value.nested.inj (Except.ok.inj hnested)
  exact hd'

end Nested

/-- Marking positions, or leaving marked positions out, changes nothing about a compilation: not its
plan or its failure, and nothing that it leaves behind.  And where a definition compiles, it
compiles to the same plan, with the same warnings, if declared defaults that it relies on are
written out.  In both cases any number of positions may be changed, in calls of the definition and
of those that are nested in it. -/
theorem compile_rebound (registry : Registry) (d d' : Definition) :
    (Relation.EqvGen (registry.Amends Registry.IsMark) (.definition d) (.definition d') →
      compile registry.introspector d = compile registry.introspector d') ∧
    (Relation.ReflTransGen (registry.Amends Registry.IsDeclared) (.definition d) (.definition d') →
      (compile registry.introspector d).Refines (compile registry.introspector d')) := by
  constructor
  · intro h
    refine compileDefinition_eq_of_value ?_
    -- on the way from one definition to the other there may be any values
    generalize Value.definition d = v at h
    generalize Value.definition d' = v' at h
    induction h with
    | rel v v' h => exact h.compileValue_eq
    | refl v => rfl
    | symm v v' _ ih => exact ih.symm
    | trans u v w _ _ ihuv ihvw => exact ihuv.trans ihvw
  · intro h
    refine compileDefinition_refines_of_value ?_
    generalize Value.definition d' = v' at h
    induction h with
    | refl => exact Run.Congruence.refines.refl _
    | tail _ h ih => exact ih.trans (h.compileValue_refines _)

/-- A class whose constructor has two parameters with declared defaults. -/
def Registry.defaultedClass : Registry :=
  ⟨[{ name := "app.A", isInstantiable := true,
      constructor := some ⟨constructorName,
        [⟨"size", .declared (.int 5), false⟩, ⟨"items", .declared .null, false⟩]⟩,
      methods := [], fields := [] }]⟩

/-- A definition with a list that nests a definition which binds the arguments. -/
def nestedBinding (arguments : List (Nat × Value)) : Definition :=
  ⟨.str "a", "app.A", false, some ⟨constructorName, [(1, .list [.definition
    ⟨.str "b", "app.A", false, some ⟨constructorName, arguments⟩, [], []⟩])]⟩, [], []⟩

/-- The first parameter of the nested definition may be marked, or its default may be written
out. -/
theorem compile_rebound_nestedBinding :
    (compile Registry.defaultedClass.introspector (nestedBinding []) none {}).1 =
      .ok [.construct "app.A" [.int 5, .list [.nested "app.A"
        [.construct "app.A" [.int 5, .null] []]]] []] ∧
    compile Registry.defaultedClass.introspector (nestedBinding []) =
      compile Registry.defaultedClass.introspector (nestedBinding [(0, .useDefault)]) ∧
    (compile Registry.defaultedClass.introspector (nestedBinding [])).Refines
      (compile Registry.defaultedClass.introspector (nestedBinding [(0, .int 5)])) := by
  have hgains : ∀ u, Binding.Gains 0 u ⟨constructorName, []⟩ ⟨constructorName, [(0, u)]⟩ :=
    fun u => @Binding.Gains.intro 0 u constructorName [] [] (List.not_mem_nil)
  have hamends : ∀ (May : Option Callable → Nat → Value → Prop) (u : Value),
      May (Registry.defaultedClass.constructor? "app.A") 0 u →
        Registry.defaultedClass.Amends May (.definition (nestedBinding []))
          (.definition (nestedBinding [(0, u)])) := by
    intro May u h
    refine @Registry.Amends.constructorArgument _ _ (nestedBinding []) _ [] [] 1 _ _ rfl ?_
    exact @Registry.Amends.list _ _ [] [] _ _ (.construct (hgains u) h)
  refine ⟨by with_unfolding_all rfl, ?_, ?_⟩
  · refine (compile_rebound Registry.defaultedClass (nestedBinding []) _).1 (.rel _ _ ?_)
    refine hamends Registry.IsMark .useDefault ⟨rfl, ?_⟩
    intro c hc
    obtain rfl := Option.some.inj hc
    exact Nat.zero_lt_two
  · refine (compile_rebound Registry.defaultedClass (nestedBinding []) _).2 (.single ?_)
    exact hamends Registry.IsDeclared (.int 5) ⟨_, _, rfl, rfl, rfl⟩

end Blueprint
