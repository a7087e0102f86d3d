/-
# Running out of steps

A compilation follows declared defaults for a bounded number of steps, and gives up with
`Failure.circularDefaults` when there are none left.  This file shows that the bound is not felt:
with as many steps as the registry declares parameters, and with any number of steps beyond that, a
definition comes to the same (`compileDefinition_persists`).

One direction holds for any two numbers of steps: more of them change nothing unless the fewer ones
have run out (`Run.Persists`).  The other direction counts.  The defaults that run out of steps can
only become fewer as the steps grow; once they stay the same for one step they stay the same for
good, and there are no more of them than parameters.
-/
import Blueprint.Proofs.Agreement
import Blueprint.Proofs.Answers

namespace Blueprint

namespace Run

variable {α β : Type}

/-! ## Runs that differ only behind a failure -/

/-- Unless `x` fails in one of the ways `E`, `y` comes to the same and leaves the same world. -/
def Persists (E : Failure → Prop) (x y : Run α) : Prop :=
  ∀ entry world, y entry world = x entry world ∨
    ∃ failure, E failure ∧ (x entry world).1 = .error failure

namespace Persists

variable {E : Failure → Prop} {x y : Run α}

lemma refl (E : Failure → Prop) (x : Run α) : Persists E x x :=
  fun _ _ => .inl rfl

lemma of_error {failure : Failure} (hE : E failure)
    (h : ∀ entry world, (x entry world).1 = .error failure) : Persists E x y :=
  fun entry world => .inr ⟨failure, hE, h entry world⟩

/-- A run that has no failure of the kind is the same as the other. -/
lemma eq_of_never (h : Persists E x y)
    (hx : ∀ entry world failure, E failure → (x entry world).1 ≠ .error failure) : y = x := by
  refine Run.ext fun entry world => ?_
  rcases h entry world with hy | ⟨failure, hE, hfail⟩
  · exact hy
  · exact absurd hfail (hx entry world failure hE)

lemma apply_of_ok (h : Persists E x y) {entry : Option Value} {world after : World} {a : α}
    (hx : x entry world = (.ok a, after)) : y entry world = (.ok a, after) := by
  rcases h entry world with hy | ⟨failure, -, hfail⟩
  · exact hy.trans hx
  · rw [hx] at hfail
    exact absurd hfail (by simp)

lemma apply_of_error (h : Persists E x y) {entry : Option Value} {world : World} {failure : Failure}
    (hE : ¬ E failure) (hx : (x entry world).1 = .error failure) :
    y entry world = x entry world := by
  rcases h entry world with hy | ⟨failure', hE', hfail⟩
  · exact hy
  · obtain rfl : failure = failure' := Except.error.inj (hx.symm.trans hfail)
    exact absurd hE' hE

end Persists

/-- A failure that no handler takes up gets through. -/
lemma Congruence.persists {E : Failure → Prop} (hE : ∀ cause, ¬ E (.mismatch cause)) :
    Congruence fun {α} (x y : Run α) => Persists E x y where
  refl := Persists.refl E
  bind_of := by
    intro α β x y f g hxy hfg entry world
    rcases hx : x entry world with ⟨failure | a, w⟩
    · rcases hxy entry world with hy | ⟨failure', hE', hfail⟩
      · rw [hx] at hy
        exact .inl (by rw [bind_of_error hx, bind_of_error hy])
      · rw [hx] at hfail
        refine .inr ⟨failure', hE', ?_⟩
        rw [bind_of_error hx]
        exact congrArg Except.error (Except.error.inj hfail)
    · have hy : y entry world = (.ok a, w) := hxy.apply_of_ok hx
      rw [bind_of_ok hx, bind_of_ok hy]
      exact hfg a ⟨entry, world, trivial, by rw [hx]⟩ entry w
  within h name := fun _ world => h name world
  recover := by
    intro α x y handler hxy _ hpass entry world
    rcases hxy entry world with hy | ⟨failure, hE', hfail⟩
    · exact .inl (by rw [Run.recover_apply, Run.recover_apply, hy])
    · have hne : ∀ cause, failure ≠ .mismatch cause := by
        rintro cause rfl
        exact hE cause hE'
      rcases hx : x entry world with ⟨failure' | a, w⟩ <;> rw [hx] at hfail
      · obtain rfl : failure' = failure := Except.error.inj hfail
        have hhandled : (x.recover handler) entry world = handler failure' entry w := by
          rw [Run.recover_apply, hx]
        exact .inr ⟨failure', hE', by rw [hhandled, hpass failure' hne]; rfl⟩
      · exact absurd hfail (by simp)

/-! ## Runs that do not look at the entry -/

/-- Which entry is being worked on makes no difference to the run. -/
def Unaddressed (x : Run α) : Prop :=
  ∀ entry entry' world, x entry world = x entry' world

namespace Unaddressed

variable {x : Run α} {f : α → Run β}

protected lemma pure (a : α) : (Pure.pure a : Run α).Unaddressed :=
  fun _ _ _ => rfl

lemma fail (failure : Failure) : (Run.fail failure : Run α).Unaddressed :=
  fun _ _ _ => rfl

lemma within (name : Option Value) (x : Run α) : (Run.within name x).Unaddressed :=
  fun _ _ _ => rfl

protected lemma bind (hx : x.Unaddressed) (hf : ∀ a, (f a).Unaddressed) :
    (x >>= f).Unaddressed := by
  intro entry entry' world
  have hsame := hx entry entry' world
  rcases h : x entry world with ⟨failure | a, w⟩
  · rw [bind_of_error h, bind_of_error (hsame.symm.trans h)]
  · rw [bind_of_ok h, bind_of_ok (hsame.symm.trans h)]
    exact hf a entry entry' w

lemma traverses {γ : Type} {run : List α → Run (List γ)} {one : α → Run γ}
    (h : Traverses run one) {items : List α} (hitems : ∀ a ∈ items, (one a).Unaddressed) :
    (run items).Unaddressed := by
  induction items with
  | nil =>
    rw [h.nil]
    exact .pure []
  | cons a rest ih =>
    rw [h.cons]
    refine (hitems a List.mem_cons_self).bind fun v => ?_
    exact (ih fun b hb => hitems b (List.mem_cons_of_mem a hb)).bind fun vs => .pure (v :: vs)

end Unaddressed

end Run

/-! ## Values -/

/-- A value compiles in the same way wherever it stands: only definitions look at the entry, and
each looks at its own. -/
lemma compileValue_unaddressed (types : Introspector) (onDefault : Value → Run Value) (v : Value) :
    (compileValue (some types) onDefault v).Unaddressed := by
  induction v using Value.positionInduct with
  | literal v hv =>
    rw [compileValue_literal hv]
    exact .pure v
  | reference entry =>
    rw [compileValue]
    exact .pure _
  | useDefault =>
    rw [compileValue]
    exact .fail _
  | unsupported v hv =>
    rw [compileValue_unsupported hv]
    exact .fail _
  | list items ih =>
    have hitems := Run.Unaddressed.traverses compileItems_traverses ih
    rw [compileValue]
    exact hitems.bind fun vs => .pure _
  | tuple items ih =>
    have hitems := Run.Unaddressed.traverses compileItems_traverses ih
    rw [compileValue]
    exact hitems.bind fun vs => .pure _
  | dict entries ih =>
    have hentries := Run.Unaddressed.traverses compileEntries_traverses fun e he =>
      (ih e he).bind fun v => .pure (e.1, v)
    rw [compileValue]
    exact hentries.bind fun vs => .pure _
  | definition d _ =>
    -- a definition addresses its mistakes to itself, whoever asks for it
    rw [compileValue, compileDefinition_eq]
    exact (Run.Unaddressed.within _ _).bind fun plan => .pure _

lemma compileUpTo_unaddressed (types : Introspector) (n : Nat) (w : Value) :
    (compileUpTo types n w).Unaddressed := by
  cases n with
  | zero => exact .fail .circularDefaults
  | succ n => exact compileValue_unaddressed types (compileUpTo types n) w

namespace Registry

variable {registry : Registry} {n m : Nat} {w : Value}

lemma compileUpTo_steady (registry : Registry) (n : Nat) (w : Value) :
    (compileUpTo registry.introspector n w).Steady :=
  compileUpTo_inherited .steady n fun e _ =>
    (registry.introspector_answers .steady).serves e

/-! ## Having no steps left -/

/-- There are no steps left for the defaults. -/
abbrev IsCircular (failure : Failure) : Prop :=
  failure = .circularDefaults

/-- In so many steps the value cannot be compiled for want of more. -/
def RunsOut (registry : Registry) (n : Nat) (w : Value) : Prop :=
  ∃ entry world, (compileUpTo registry.introspector n w entry world).1 = .error .circularDefaults

/-- What runs out of steps does so in every world and whatever is being worked on. -/
lemma RunsOut.apply (h : registry.RunsOut n w) (entry : Option Value) (world : World) :
    (compileUpTo registry.introspector n w entry world).1 = .error .circularDefaults := by
  obtain ⟨entry', world', h⟩ := h
  rw [compileUpTo_unaddressed registry.introspector n w entry entry' world,
    compileUpTo_steady registry n w entry' world world', h]

lemma RunsOut.persists (h : registry.RunsOut n w) (y : Run Value) :
    Run.Persists IsCircular (compileUpTo registry.introspector n w) y :=
  .of_error rfl h.apply

lemma congruence_circular :
    Run.Congruence fun {α} (x y : Run α) => Run.Persists IsCircular x y :=
  .persists fun _ => by simp

lemma agreesAlong_circular (registry : Registry) (v : Value) :
    AgreesAlong (fun {α} (x y : Run α) => Run.Persists IsCircular x y) registry registry v :=
  fun e _ => .refl congruence_circular registry e

/-- More steps change nothing, unless the fewer ones have run out. -/
lemma compileUpTo_persists_of_le (hle : n ≤ m) (v : Value) :
    Run.Persists IsCircular (compileUpTo registry.introspector n v)
      (compileUpTo registry.introspector m v) := by
  obtain ⟨k, rfl⟩ : ∃ k, m = k + n := ⟨m - n, by omega⟩
  refine compileUpTo_matched congruence_circular ?_ n (agreesAlong_circular registry v)
  exact fun w => .of_error rfl fun _ _ => rfl

lemma compileUpTo_eq_of_not_runsOut (hle : n ≤ m) (h : ¬ registry.RunsOut n w) :
    compileUpTo registry.introspector m w = compileUpTo registry.introspector n w := by
  refine (compileUpTo_persists_of_le hle w).eq_of_never ?_
  rintro entry world failure rfl hfail
  exact h ⟨entry, world, hfail⟩

/-- What compiles without running out does so in more steps too. -/
lemma RunsOut.of_le (hle : n ≤ m) (h : registry.RunsOut m w) : registry.RunsOut n w := by
  by_contra hout
  obtain ⟨entry, world, hfail⟩ := h
  rw [compileUpTo_eq_of_not_runsOut hle hout] at hfail
  exact hout ⟨entry, world, hfail⟩

/-! ## Enough steps -/

/-- The defaults that run out in `n` steps still do so in `m` steps. -/
def Settled (registry : Registry) (n m : Nat) : Prop :=
  ∀ w ∈ registry.defaults, registry.RunsOut n w → registry.RunsOut m w

/-- Where the defaults are settled, the fewer steps come to the same as the more, except where the
more steps run out. -/
lemma Settled.persists (h : registry.Settled n m) (hle : n ≤ m) :
    ∀ w ∈ registry.defaults, Run.Persists IsCircular (compileUpTo registry.introspector m w)
      (compileUpTo registry.introspector n w) := by
  intro w hw
  by_cases hout : registry.RunsOut n w
  · exact (h w hw hout).persists _
  · rw [compileUpTo_eq_of_not_runsOut hle hout]
    exact .refl IsCircular _

/-- Then the same holds of all values, one step further. -/
lemma Settled.matched (h : registry.Settled n m) (hle : n ≤ m) (v : Value) :
    Run.Persists IsCircular (compileUpTo registry.introspector (m + 1) v)
      (compileUpTo registry.introspector (n + 1) v) :=
  matched_of_agreesAlong congruence_circular (fun w hw _ => h.persists hle w hw)
    (agreesAlong_circular registry v)

lemma Settled.succ (h : registry.Settled n m) (hle : n ≤ m) :
    registry.Settled (n + 1) (m + 1) := by
  intro w _ hout
  by_contra hmore
  obtain ⟨entry, world, hfail⟩ := hout
  have heq := (h.matched hle w).eq_of_never ?_
  · rw [heq] at hfail
    exact hmore ⟨entry, world, hfail⟩
  · rintro entry' world' failure rfl hfail'
    exact hmore ⟨entry', world', hfail'⟩

/-- A default that runs out in as many steps as there are parameters also runs out in one more. -/
lemma settled_succ (hn : registry.parameterCount ≤ n) : registry.Settled n (n + 1) := by
  have hgrows : ∀ n, ∀ w ∈ registry.defaults, ¬ registry.RunsOut n w →
      ¬ registry.RunsOut (n + 1) w :=
    fun n w _ h hout => h (hout.of_le n.le_succ)
  have hstops : ∀ n, (∀ w ∈ registry.defaults, ¬ registry.RunsOut (n + 1) w →
      ¬ registry.RunsOut n w) → ∀ w ∈ registry.defaults, ¬ registry.RunsOut (n + 2) w →
        ¬ registry.RunsOut (n + 1) w := by
    intro n hstop w hw h hout
    have hsettled : registry.Settled n (n + 1) :=
      fun u hu hout => not_not.1 fun h => hstop u hu h hout
    exact h (hsettled.succ n.le_succ w hw hout)
  -- the defaults that do not run out grow in number, until they stop for good
  have hstopped := stopped_of_length_le hgrows hstops
    (Nat.le_trans registry.length_defaults_le hn)
  exact fun w hw hout => not_not.1 fun h => hstopped w hw h hout

lemma settled_of_le (hn : registry.parameterCount ≤ n) (hle : n ≤ m) : registry.Settled n m := by
  induction hle with
  | refl => exact fun w _ hout => hout
  | @step m hle ih =>
    intro w hw hout
    exact settled_succ (Nat.le_trans hn hle) w hw (ih w hw hout)

/-- A default comes to the same in any number of steps, unless it runs out of them, and in at least
as many as there are parameters. -/
lemma compileUpTo_persists (n : Nat) (hm : registry.parameterCount ≤ m) :
    ∀ w ∈ registry.defaults, Run.Persists IsCircular (compileUpTo registry.introspector n w)
      (compileUpTo registry.introspector m w) := by
  intro w hw
  rcases Nat.le_total n m with hle | hle
  · exact compileUpTo_persists_of_le hle w
  · exact (settled_of_le hm hle).persists hle w hw

/-- So does a definition that relies on defaults. -/
theorem compileDefinition_persists (n : Nat) (hm : registry.parameterCount ≤ m) (d : Definition) :
    Run.Persists IsCircular
      (compileDefinition (some registry.introspector) (compileUpTo registry.introspector n) d)
      (compileDefinition (some registry.introspector) (compileUpTo registry.introspector m) d) := by
  have hdefault : ∀ w ∈ registry.defaults,
      AgreesAlong (fun {α} (x y : Run α) => Run.Persists IsCircular x y) registry registry w →
        Run.Persists IsCircular (compileUpTo registry.introspector n w)
          (compileUpTo registry.introspector m w) :=
    fun w hw _ => compileUpTo_persists n hm w hw
  exact compileDefinition_matched congruence_circular hdefault
    (fun v _ hv => matched_of_agreesAlong congruence_circular hdefault hv)
    (agreesAlong_circular registry (.definition d))

/-- With at least as many steps as there are parameters, it makes no difference how many there
are. -/
theorem compileDefinition_outcome (hn : registry.parameterCount ≤ n)
    (hm : registry.parameterCount ≤ m) (d : Definition) (entry : Option Value) (world : World) :
    (compileDefinition (some registry.introspector) (compileUpTo registry.introspector m) d entry
        world).1 =
      (compileDefinition (some registry.introspector) (compileUpTo registry.introspector n) d entry
        world).1 := by
  rcases compileDefinition_persists n hm d entry world with heq | ⟨failure, rfl, hfails⟩
  · rw [heq]
  · -- what runs out in one number of steps runs out in the other
    rcases compileDefinition_persists m hn d entry world with heq | ⟨failure, rfl, hfails'⟩
    · rw [heq]
    · rw [hfails, hfails']

end Registry

end Blueprint
