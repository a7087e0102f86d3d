/-
# Declaring more types

A declaration that is refused leaves the registry as it was, and one that is not adds its type
behind the others (`Declaration.register_run`).  So the types that are known stay known as what they
are, however many declarations follow, whether they make sense or not (`Registry.extends_after`).

A compilation that asked for no unknown type comes to the same against more types
(`Registry.compile_of_more_types`).  The two compilations are followed side by side up to the first
question that the smaller registry cannot answer: that question ends the first compilation with a
mistake which reports a missing class, and no handler takes up mistakes.
-/
import Blueprint.Declaration
import Blueprint.Proofs.Steps

namespace Blueprint

variable {registry registry' : Registry}

/-! ## One declaration -/

namespace Declaration

variable {declaration : Declaration}

/-- What comes of a declaration: it is refused for its name, or because it makes no sense, or its
type is added. -/
lemma register_run (registry : Registry) (declaration : Declaration) :
    declaration.register.run registry =
      match registry.find? declaration.name with
      | some _ => (.error (.duplicate declaration.name), registry)
      | none =>
        match declaration.read with
        | .error refusal => (.error refusal, registry)
        | .ok spec => (.ok (), ⟨registry.types ++ [spec.schema]⟩) := by
  have hget : declaration.register.run registry =
      (if (registry.find? declaration.name).isSome then
        throw (.duplicate declaration.name)
      else do
        let spec ← declaration.read
        modify fun registry => ⟨registry.types ++ [spec.schema]⟩ :
          ExceptT Refusal (StateM Registry) Unit).run registry :=
    rfl
  rw [hget]
  rcases registry.find? declaration.name with _ | schema
  · rcases declaration.read with refusal | spec
    · rfl
    · rfl
  · rfl

lemma name_of_read {spec : TypeSpec} (h : declaration.read = .ok spec) :
    spec.name = declaration.name := by
  have hbind : ∀ {α : Type} {x : Except Refusal α} {f : α → Except Refusal TypeSpec},
      (x >>= f) = .ok spec → ∃ a, f a = .ok spec := by
    rintro α (refusal | a) f hx
    · exact absurd hx (by rintro ⟨⟩)
    · exact ⟨a, hx⟩
  -- only the last of the readings gives the result
  obtain ⟨readOnly, h⟩ := hbind h
  obtain ⟨constructor, h⟩ := hbind h
  obtain ⟨given, h⟩ := hbind h
  obtain ⟨methods, h⟩ := hbind h
  obtain ⟨fields, h⟩ := hbind h
  obtain rfl := Except.ok.inj h
  rfl

/-- A declaration that makes sense is taken as what it is read as. -/
theorem register_eq_register {spec : TypeSpec} (h : declaration.read = .ok spec) :
    (declaration.register.run registry).2 =
      match registry.register spec with
      | .ok registry' => registry'
      | .error _ => registry := by
  rw [register_run, h, Registry.register, name_of_read h]
  rcases registry.find? declaration.name with _ | schema
  · rfl
  · rfl

/-- A refusal leaves the registry as it was. -/
lemma register_of_refusal {refusal : Refusal} {after : Registry}
    (h : declaration.register.run registry = (.error refusal, after)) : after = registry := by
  rw [register_run] at h
  rcases hf : registry.find? declaration.name with _ | schema <;> rw [hf] at h
  · rcases hr : declaration.read with refusal' | spec <;> rw [hr] at h
    · exact (Prod.mk.inj h).2.symm
    · exact absurd (Prod.mk.inj h).1 (by simp)
  · exact (Prod.mk.inj h).2.symm

/-- A name that is taken is refused, and so is a declaration that makes no sense. -/
lemma register_refused (h : (registry.find? declaration.name).isSome ∨
    ∃ refusal, declaration.read = .error refusal) :
    ∃ refusal, declaration.register.run registry = (.error refusal, registry) := by
  rw [register_run]
  rcases hf : registry.find? declaration.name with _ | schema
  · rw [hf] at h
    obtain ⟨refusal, hr⟩ := h.resolve_left (by simp)
    exact ⟨refusal, by rw [hr]⟩
  · exact ⟨_, rfl⟩

end Declaration

namespace Registry

/-! ## More types -/

/-- The second registry has the types of the first, and others behind them. -/
def Extends (registry registry' : Registry) : Prop :=
  ∃ more, registry'.types = registry.types ++ more

namespace Extends

lemma refl (registry : Registry) : registry.Extends registry :=
  ⟨[], (List.append_nil _).symm⟩

lemma trans {registry'' : Registry} (h : registry.Extends registry')
    (h' : registry'.Extends registry'') : registry.Extends registry'' := by
  obtain ⟨more, hmore⟩ := h
  obtain ⟨more', hmore'⟩ := h'
  exact ⟨more ++ more', by rw [hmore', hmore, List.append_assoc]⟩

/-- The first declaration of a name counts. -/
lemma find? (h : registry.Extends registry') {name : Text} {schema : TypeSchema}
    (hf : registry.find? name = some schema) : registry'.find? name = some schema := by
  obtain ⟨more, hmore⟩ := h
  rw [Registry.find?] at hf
  rw [Registry.find?, hmore, List.find?_append, hf, Option.some_or]

lemma parameterCount_le (h : registry.Extends registry') :
    registry.parameterCount ≤ registry'.parameterCount := by
  obtain ⟨more, hmore⟩ := h
  rw [parameterCount, parameterCount, hmore, List.flatMap_append, List.length_append]
  exact Nat.le_add_right _ _

end Extends

lemma extends_register (registry : Registry) (declaration : Declaration) :
    registry.Extends (declaration.register.run registry).2 := by
  rw [Declaration.register_run]
  rcases registry.find? declaration.name with _ | schema
  · rcases declaration.read with refusal | spec
    · exact .refl registry
    · exact ⟨[spec.schema], rfl⟩
  · exact .refl registry

/-- No sequence of declarations takes a type away or changes it. -/
theorem extends_after (registry : Registry) (declarations : List Declaration) :
    registry.Extends (registry.after declarations) := by
  induction declarations generalizing registry with
  | nil => exact .refl registry
  | cons declaration rest ih =>
    have hstep : registry.Extends (declaration.register.run registry).2 :=
      extends_register registry declaration
    exact hstep.trans (ih _)

/-! ## Compiling against more types -/

end Registry

/-- The failure reports that a class does not exist: that of a definition, or the owner of a
field. -/
inductive Failure.ReportsMissing : Failure → Prop where
  /-- The class of a definition. -/
  | target (name : Value) (entry : Option Value) :
      ReportsMissing (.mistake ⟨.missingClass name, entry⟩)
  /-- The owner of a field, or a class that is looked up. -/
  | owner (path : Value) (entry : Option Value) :
      ReportsMissing (.mistake ⟨.unknownClass path, entry⟩)

namespace Registry

open Run

lemma congruence_missing :
    Run.Congruence fun {α} (x y : Run α) => Run.Persists Failure.ReportsMissing x y :=
  .persists fun _ h => by cases h

variable {d : Definition}

/-- More types answer the same question about a class in the same way, unless it was missing. -/
lemma Extends.checkClass (h : registry.Extends registry') (name : Value) (className : Text) :
    Run.Persists Failure.ReportsMissing (checkClass registry.introspector name className)
      (checkClass registry'.introspector name className) := by
  by_cases hn : IsNameable className
  · -- a class that was missing may be there now, and nothing is said of what follows
    rcases hf : registry.find? className with _ | schema
    · rw [checkClass_missing name hn hf]
      exact fun entry world => .inr ⟨_, .target name entry, rfl⟩
    · have hsame : Blueprint.checkClass registry'.introspector name className =
          Blueprint.checkClass registry.introspector name className := by
        simp only [Blueprint.checkClass, introspector, hf, h.find? hf]
      rw [hsame]
      exact .refl _ _
  · rw [checkClass_anonymous name hn, checkClass_anonymous name hn]
    exact .refl _ _

/-- So they do for a question about a field, unless its owner was missing. -/
lemma Extends.checkField (h : registry.Extends registry') (owner : Value) (field : Text) :
    Run.Persists Failure.ReportsMissing (checkField registry.introspector owner field)
      (checkField registry'.introspector owner field) := by
  by_cases ho : ∃ schema, registry.Owns owner schema
  · obtain ⟨schema, ho⟩ := ho
    have ho' : registry'.Owns owner schema := by
      obtain ⟨name, rfl, hf⟩ := ho
      exact ⟨name, rfl, h.find? hf⟩
    rw [Blueprint.checkField, Blueprint.checkField, introspector_field ho, introspector_field ho']
    exact .refl _ _
  · rw [not_exists] at ho
    rcases checkField_fails ho field with ⟨-, hc⟩ | ⟨typeName, hu, ht⟩
    · rw [hc]
      exact fun entry world => .inr ⟨_, .owner owner entry, rfl⟩
    · -- what cannot be looked up is no name, of whichever types there are
      have ho' : ∀ schema, ¬ registry'.Owns owner schema := by
        rintro schema ⟨name, rfl, -⟩
        exact absurd hu (by simp [Value.unhashable?])
      rcases checkField_fails ho' field with ⟨hu', -⟩ | ⟨typeName', hu', ht'⟩
      · exact absurd (hu.symm.trans hu') (by simp)
      · obtain rfl := Option.some.inj (hu.symm.trans hu')
        rw [ht, ht']
        exact .refl _ _

lemma Extends.agreesOn (h : registry.Extends registry') (d : Definition) :
    AgreesOn (fun {α} (x y : Run α) => Run.Persists Failure.ReportsMissing x y) registry registry'
      d where
  check name := h.checkClass name d.className
  assigns b _ := h.checkField (fieldOwner b.owner d.className) b.field
  declares schema hf :=
    ⟨schema, h.find? hf, optionRel_callsAlike_refl _ _, fun _ _ => optionRel_callsAlike_refl _ _⟩

/-- With the same number of steps for the defaults, a compilation against more types comes to the
same, unless a class was missing. -/
lemma Extends.compileDefinition_persists (h : registry.Extends registry') (n : Nat)
    (d : Definition) :
    Run.Persists Failure.ReportsMissing
      (compileDefinition (some registry.introspector) (compileUpTo registry.introspector n) d)
      (compileDefinition (some registry'.introspector) (compileUpTo registry'.introspector n)
        d) := by
  have halong : ∀ v, AgreesAlong (fun {α} (x y : Run α) =>
      Run.Persists Failure.ReportsMissing x y) registry registry' v :=
    fun v e _ => h.agreesOn e
  have hdefault : ∀ w, Run.Persists Failure.ReportsMissing
      (compileUpTo registry.introspector n w) (compileUpTo registry'.introspector n w) := by
    intro w
    have hzero : ∀ w, Run.Persists Failure.ReportsMissing
        (compileUpTo registry.introspector 0 w) (compileUpTo registry'.introspector 0 w) :=
      fun _ => .refl _ _
    have hmatched := compileUpTo_matched congruence_missing hzero n (halong w)
    rw [Nat.zero_add] at hmatched
    exact hmatched
  exact compileDefinition_matched congruence_missing (fun w _ _ => hdefault w)
    (fun v _ hv => matched_of_agreesAlong congruence_missing (fun w _ _ => hdefault w) hv)
    (halong (.definition d))

/-- Against more types, what compiled compiles to the same and leaves the same world. -/
lemma Extends.compile_of_ok (h : registry.Extends registry') {entry : Option Value}
    {world after : World} {plan : Plan}
    (hx : compile registry.introspector d entry world = (.ok plan, after)) :
    compile registry'.introspector d entry world = (.ok plan, after) := by
  have hdepth : registry.parameterCount ≤ registry'.introspector.depth :=
    Nat.le_trans h.parameterCount_le (Nat.le_succ _)
  -- first the steps of the larger registry, and then its types
  have hsteps := (Registry.compileDefinition_persists registry.introspector.depth hdepth
    d).apply_of_ok hx
  exact (h.compileDefinition_persists registry'.introspector.depth d).apply_of_ok hsteps

/-- Against more types, what failed fails in the same way, unless a class was missing. -/
lemma Extends.compile_of_error (h : registry.Extends registry') {entry : Option Value}
    {world : World} {failure : Failure} (hmissing : ¬ failure.ReportsMissing)
    (hx : (compile registry.introspector d entry world).1 = .error failure) :
    (compile registry'.introspector d entry world).1 = .error failure := by
  have hdepth : registry.parameterCount ≤ registry'.introspector.depth :=
    Nat.le_trans h.parameterCount_le (Nat.le_succ _)
  have hsteps :=
    compileDefinition_outcome (Nat.le_succ registry.parameterCount) hdepth d entry world
  have heq := (h.compileDefinition_persists registry'.introspector.depth d).apply_of_error hmissing
    (hsteps.trans hx)
  rw [compile, heq]
  exact hsteps.trans hx

/-- Declaring more types changes no earlier answer.  Whatever is declared after, new names, names
that are taken and declarations that make no sense, the refused ones leave the registry as it was;
what compiled before compiles to the same, with the same warnings, and what failed before fails in
the same way, unless the failure reported that a class does not exist. -/
theorem compile_of_more_types (registry : Registry) (declarations : List Declaration)
    (d : Definition) (entry : Option Value) (world : World) :
    (∀ declaration : Declaration, (registry.find? declaration.name).isSome ∨
        (∃ refusal, declaration.read = .error refusal) →
      ∃ refusal, declaration.register.run registry = (.error refusal, registry)) ∧
      (∀ (declaration : Declaration) refusal after,
        declaration.register.run registry = (.error refusal, after) → after = registry) ∧
      (∀ plan after, compile registry.introspector d entry world = (.ok plan, after) →
        compile (registry.after declarations).introspector d entry world = (.ok plan, after)) ∧
      ∀ failure, (compile registry.introspector d entry world).1 = .error failure →
        ¬ failure.ReportsMissing →
          (compile (registry.after declarations).introspector d entry world).1 =
            .error failure := by
  have hextends : registry.Extends (registry.after declarations) :=
    extends_after registry declarations
  refine ⟨fun _ => Declaration.register_refused, fun _ _ _ => Declaration.register_of_refusal,
    fun _ _ => hextends.compile_of_ok, ?_⟩
  intro failure hx hmissing
  exact hextends.compile_of_error hmissing hx

end Registry

end Blueprint
