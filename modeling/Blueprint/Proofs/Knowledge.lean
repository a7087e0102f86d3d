/-
# What a registry knows

A registry answers from its declarations alone: no answer depends on the entry or on the world, and
none changes the world.  So a question to a registry is a result that was there before, and the
checks that a compilation makes of the class, the fields and the methods of a definition become
conditions on declarations.
-/
import Blueprint.Proofs.Calls
import Blueprint.Proofs.Positions
import Blueprint.Registry

namespace Blueprint

/-! ## Occurrence -/

namespace Text

lemma occursAmong_iff {part points : List Point} :
    occursAmong part points = true ↔ part <:+: points := by
  induction points with
  | nil =>
    rw [occursAmong, List.isEmpty_iff, List.infix_nil]
  | cons p rest ih =>
    rw [occursAmong, Bool.or_eq_true, List.isPrefixOf_iff_prefix, ih, List.infix_cons_iff]

lemma occursIn_iff {part t : Text} : occursIn part t = true ↔ part.points <:+: t.points :=
  occursAmong_iff

end Text

/-- No mark of names that exist only where they were made occurs in the path. -/
def IsNameable (className : Text) : Prop :=
  ∀ mark ∈ anonymousMarks, ¬ mark.points <:+: className.points

lemma isAnonymous_eq_false_iff {className : Text} :
    isAnonymous className = false ↔ IsNameable className := by
  rw [isAnonymous, List.any_eq_false]
  constructor
  · intro h mark hmark
    rw [← Text.occursIn_iff]
    exact h mark hmark
  · intro h mark hmark
    rw [Text.occursIn_iff]
    exact h mark hmark

lemma exists_mark_of_not_nameable {className : Text} (h : ¬ IsNameable className) :
    ∃ mark ∈ anonymousMarks, mark.points <:+: className.points := by
  refine Classical.byContradiction fun hn => h fun mark hmark ho => ?_
  exact hn ⟨mark, hmark, ho⟩

namespace Registry

variable {registry : Registry} {schema : TypeSchema} {className : Text}

/-! ## Questions -/

lemma require_eq (h : registry.find? className = some schema) :
    registry.require className = pure schema := by
  rw [require, h]

lemma introspector_constructor (h : registry.find? className = some schema) :
    registry.introspector.constructor className = pure schema.constructor := by
  simp only [introspector, require_eq h, pure_bind]

lemma introspector_method (h : registry.find? className = some schema) (method : Text) :
    registry.introspector.method className method = pure (Entries.get? method schema.methods) := by
  simp only [introspector, require_eq h, pure_bind]

/-- The owner of a field is the class of a text that names one. -/
def Owns (registry : Registry) (owner : Value) (schema : TypeSchema) : Prop :=
  ∃ name, owner = .str name ∧ registry.find? name = some schema

lemma introspector_field {owner : Value} (h : registry.Owns owner schema) (field : Text) :
    registry.introspector.field owner field = pure (Entries.get? field schema.fields) := by
  obtain ⟨name, rfl, h⟩ := h
  simp only [introspector, requireOwner, require_eq h, pure_bind]

/-- An owner that is not declared is a mistake, or a value that cannot be looked up. -/
lemma requireOwner_fails {owner : Value} (h : ∀ schema, ¬ registry.Owns owner schema) :
    (owner.unhashable? = none ∧ registry.requireOwner owner = Run.mistaken (.unknownClass owner)) ∨
      ∃ typeName, owner.unhashable? = some typeName ∧
        registry.requireOwner owner = Run.fail (.unhashable typeName) := by
  -- a text names no type then; anything else is none, if it can be looked up at all
  by_cases hs : ∃ name, owner = .str name
  · obtain ⟨name, rfl⟩ := hs
    rcases hn : registry.find? name with _ | schema
    · exact .inl ⟨rfl, by simp only [requireOwner, require, hn]⟩
    · exact absurd ⟨name, rfl, hn⟩ (h schema)
  · rcases hu : owner.unhashable? with _ | typeName
    · refine .inl ⟨rfl, ?_⟩
      cases owner with
      | str name => exact absurd ⟨name, rfl⟩ hs
      | _ => simp only [requireOwner, hu]
    · refine .inr ⟨typeName, rfl, ?_⟩
      cases owner with
      | str name => exact absurd ⟨name, rfl⟩ hs
      | _ => simp only [requireOwner, hu]

lemma introspector_field_fails {owner : Value} (h : ∀ schema, ¬ registry.Owns owner schema)
    (field : Text) :
    (owner.unhashable? = none ∧
        registry.introspector.field owner field = Run.mistaken (.unknownClass owner)) ∨
      ∃ typeName, owner.unhashable? = some typeName ∧
        registry.introspector.field owner field = Run.fail (.unhashable typeName) := by
  rcases requireOwner_fails h with ⟨hu, hc⟩ | ⟨typeName, hu, ht⟩
  · refine .inl ⟨hu, ?_⟩
    simp only [introspector, hc]
    rfl
  · refine .inr ⟨typeName, hu, ?_⟩
    simp only [introspector, ht]
    rfl

/-! ## Checks -/

/-- The class of a path is declared and can be instantiated. -/
def Instantiates (registry : Registry) (className : Text) (schema : TypeSchema) : Prop :=
  registry.find? className = some schema ∧ schema.isInstantiable = true

lemma checkClass_eq_pure (name : Value) (hn : IsNameable className)
    (hi : registry.Instantiates className schema) :
    checkClass registry.introspector name className = pure () := by
  obtain ⟨hf, hi⟩ := hi
  simp only [checkClass, isAnonymous_eq_false_iff.2 hn, Bool.false_eq_true, if_false, introspector,
    pure_bind, hf, Option.any_some, hi, if_true]

lemma checkClass_anonymous (name : Value) (hn : ¬ IsNameable className) :
    checkClass registry.introspector name className = Run.mismatched .anonymousClass := by
  have ha : isAnonymous className = true := by
    rw [← Bool.not_eq_false, isAnonymous_eq_false_iff]
    exact hn
  simp only [checkClass, ha, if_true]
  rfl

lemma checkClass_missing (name : Value) (hn : IsNameable className)
    (hf : registry.find? className = none) :
    checkClass registry.introspector name className = Run.mistaken (.missingClass name) := by
  simp only [checkClass, isAnonymous_eq_false_iff.2 hn, Bool.false_eq_true, if_false, introspector,
    pure_bind, hf, Option.any_none, Option.isSome_none]

lemma checkClass_notInstantiable (name : Value) (hn : IsNameable className)
    (hf : registry.find? className = some schema) (hs : schema.isInstantiable = false) :
    checkClass registry.introspector name className = Run.mistaken (.notInstantiable name) := by
  simp only [checkClass, isAnonymous_eq_false_iff.2 hn, Bool.false_eq_true, if_false, introspector,
    pure_bind, hf, Option.any_some, hs, Option.isSome_some, if_true]

lemma checkClass_mistaken (name : Value) (hn : IsNameable className)
    (hi : ∀ schema, ¬ registry.Instantiates className schema) :
    ∃ cause, checkClass registry.introspector name className = Run.mistaken cause := by
  rcases hf : registry.find? className with _ | schema
  · exact ⟨_, checkClass_missing name hn hf⟩
  · have hs : schema.isInstantiable = false := by
      rw [← Bool.not_eq_true]
      exact fun h => hi schema ⟨hf, h⟩
    exact ⟨_, checkClass_notInstantiable name hn hf hs⟩

/-- A field that may be assigned from outside. -/
def Assignable (registry : Registry) (owner : Value) (field : Text) : Prop :=
  ∃ schema f, registry.Owns owner schema ∧ Entries.get? field schema.fields = some f ∧
    f.isPublic = true ∧ f.isWritable = true

/-- A field that its owner does not have, or has for itself, or has for reading only. -/
def Withheld (registry : Registry) (owner : Value) (field : Text) : Prop :=
  ∃ schema, registry.Owns owner schema ∧
    ∀ f, Entries.get? field schema.fields = some f → f.isPublic = false ∨ f.isWritable = false

lemma Owns.unique {owner : Value} {schema schema' : TypeSchema} (h : registry.Owns owner schema)
    (h' : registry.Owns owner schema') : schema = schema' := by
  obtain ⟨name, rfl, hs⟩ := h
  obtain ⟨name', he, hs'⟩ := h'
  obtain rfl : name = name' := Value.str.inj he
  exact Option.some.inj (hs.symm.trans hs')

lemma Withheld.not_assignable {owner : Value} {field : Text} (h : registry.Withheld owner field) :
    ¬ registry.Assignable owner field := by
  rintro ⟨schema, f, ho, hf, hp, hw⟩
  obtain ⟨schema', ho', h⟩ := h
  obtain rfl := ho.unique ho'
  rcases h f hf with h | h
  · rw [hp] at h
    exact absurd h (by simp)
  · rw [hw] at h
    exact absurd h (by simp)

/-- The owner of a field is looked up before the field. -/
lemma checkField_fails {owner : Value} (h : ∀ schema, ¬ registry.Owns owner schema)
    (field : Text) :
    (owner.unhashable? = none ∧
        checkField registry.introspector owner field = Run.mistaken (.unknownClass owner)) ∨
      ∃ typeName, owner.unhashable? = some typeName ∧
        checkField registry.introspector owner field = Run.fail (.unhashable typeName) := by
  rcases introspector_field_fails h field with ⟨hu, hc⟩ | ⟨typeName, hu, ht⟩
  · refine .inl ⟨hu, ?_⟩
    simp only [checkField, hc]
    rfl
  · refine .inr ⟨typeName, hu, ?_⟩
    simp only [checkField, ht]
    rfl

/-- The check of a field passes, or finds a mistake of the author or an owner that cannot be looked
up, or ends in a mismatch: the last only for a field that its owner withholds. -/
lemma checkField_cases (registry : Registry) (owner : Value) (field : Text) :
    (registry.Assignable owner field ∧ checkField registry.introspector owner field = pure ()) ∨
      (¬ registry.Assignable owner field ∧
        ((∃ cause, checkField registry.introspector owner field = Run.mistaken cause) ∨
          ∃ typeName,
            checkField registry.introspector owner field = Run.fail (.unhashable typeName))) ∨
      (registry.Withheld owner field ∧
        ∃ cause, checkField registry.introspector owner field = Run.mismatched cause) := by
  -- the owner is known: the field is missing, private, read-only, or can be assigned
  by_cases ho : ∃ schema, registry.Owns owner schema
  · obtain ⟨schema, ho⟩ := ho
    simp only [checkField, introspector_field ho, pure_bind]
    rcases hf : Entries.get? field schema.fields with _ | f
    · refine .inr (.inr ⟨⟨schema, ho, ?_⟩, _, rfl⟩)
      intro f h
      exact absurd (hf.symm.trans h) (by simp)
    · have hwithheld (h : f.isPublic = false ∨ f.isWritable = false) :
          registry.Withheld owner field := by
        refine ⟨schema, ho, ?_⟩
        intro f' hf'
        obtain rfl : f = f' := Option.some.inj (hf.symm.trans hf')
        exact h
      rcases hp : f.isPublic with _ | _
      · refine .inr (.inr ⟨hwithheld (.inl hp), .fieldNotPublic f.owner f.name, ?_⟩)
        simp only [hp, Bool.not_false, if_true]
      · rcases hw : f.isWritable with _ | _
        · refine .inr (.inr ⟨hwithheld (.inr hw), .fieldReadOnly f.owner f.name, ?_⟩)
          simp only [hp, hw, Bool.not_true, Bool.not_false, Bool.false_eq_true, if_false, if_true]
        · refine .inl ⟨⟨schema, f, ho, hf, hp, hw⟩, ?_⟩
          simp only [hp, hw, Bool.not_true, Bool.false_eq_true, if_false]
  · rw [not_exists] at ho
    have hnot : ¬ registry.Assignable owner field := fun ⟨schema, _, h, _⟩ => ho schema h
    refine .inr (.inl ⟨hnot, ?_⟩)
    rcases checkField_fails ho field with ⟨-, hc⟩ | ⟨typeName, -, ht⟩
    · exact .inl ⟨_, hc⟩
    · exact .inr ⟨typeName, ht⟩

/-- The check of a class passes, or finds a mistake of the author, or meets something anonymous. -/
lemma checkClass_cases (registry : Registry) (name : Value) (className : Text) :
    (IsNameable className ∧ (∃ schema, registry.Instantiates className schema) ∧
        checkClass registry.introspector name className = pure ()) ∨
      ((∀ schema, ¬ registry.Instantiates className schema) ∧
        ∃ cause, checkClass registry.introspector name className = Run.mistaken cause) ∨
      (¬ IsNameable className ∧
        checkClass registry.introspector name className = Run.mismatched .anonymousClass) := by
  by_cases hn : IsNameable className
  · by_cases hi : ∃ schema, registry.Instantiates className schema
    · obtain ⟨schema, hi⟩ := hi
      exact .inl ⟨hn, ⟨schema, hi⟩, checkClass_eq_pure name hn hi⟩
    · rw [not_exists] at hi
      exact .inr (.inl ⟨hi, checkClass_mistaken name hn hi⟩)
  · exact .inr (.inr ⟨hn, checkClass_anonymous name hn⟩)

lemma checkClass_decides (name : Value) :
    (checkClass registry.introspector name className).Decides
      (IsNameable className ∧ ∃ schema, registry.Instantiates className schema) := by
  rcases checkClass_cases registry name className with ⟨hn, hi, h⟩ | ⟨hi, cause, h⟩ | ⟨hn, h⟩ <;>
    rw [h]
  · exact (Run.Decides.pure ()).congr ⟨fun _ => ⟨hn, hi⟩, fun _ => trivial⟩
  · exact (Run.Decides.mistaken cause).congr ⟨False.elim, fun ⟨_, s, hs⟩ => hi s hs⟩
  · exact (Run.Decides.mismatched _).congr ⟨False.elim, fun h => hn h.1⟩

lemma checkField_decides (owner : Value) (field : Text) :
    (checkField registry.introspector owner field).Decides (registry.Assignable owner field) := by
  rcases checkField_cases registry owner field with
    ⟨ha, h⟩ | ⟨ha, ⟨cause, h⟩ | ⟨typeName, h⟩⟩ | ⟨hw, cause, h⟩ <;> rw [h]
  · exact (Run.Decides.pure ()).congr ⟨fun _ => ha, fun _ => trivial⟩
  · exact (Run.Decides.mistaken cause).congr ⟨False.elim, ha⟩
  · exact (Run.Decides.fail _).congr ⟨False.elim, ha⟩
  · exact (Run.Decides.mismatched cause).congr ⟨False.elim, hw.not_assignable⟩

/-- A registry of one class, with a field that can be assigned. -/
def oneClass : Registry :=
  ⟨[{ name := "app.A", isInstantiable := true, constructor := none, methods := [],
      fields := [("items", ⟨"items", "app.A", true, true⟩)] }]⟩

end Registry

end Blueprint
