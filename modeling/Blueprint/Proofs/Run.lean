/-
# Reasoning about runs

A run is a function of the entry that is being worked on and of the world, and may fail.  This file
gives seven ways to speak about such a function without unfolding it, each with one rule for every
way in which runs are put together.

* `Run.Ensures x P Q`: whatever the entry and the world, a result of `x` satisfies `P` and a failure
  of `x` satisfies `Q`.
* `Run.Decides x A`: whatever the entry and the world, `x` succeeds if `A` holds, and fails if not.
* `Run.Mirrors S x y`: from worlds with the same warnings, `x` and `y` fail with the same failure or
  have results that are related by `S`, and leave worlds with the same warnings.
* `Run.Steady x`: what `x` comes to does not depend on the world.
* `Run.Keeps f x`: what `f` sees of the world is after `x` what it was before.
* `Run.Stays S x`: from the worlds `S`, `x` leads to such worlds again.
* `Run.SteadyUpTo R x`: from two worlds that `R` relates, `x` comes to the same and leads to two
  such worlds again.

The last four ask the same of every part of a run.  `Run.InheritedFrom` says so of a property in
general, so that what is put together from many parts is looked at once for all such properties.
What is done for the items of a list one after the other is a `Run.Traverses`; what is known of the
run for each item is put together there.
-/
import Blueprint.Run
import Mathlib.Tactic.Lemma

namespace Blueprint.Run

variable {α β γ δ : Type}

/-! ## Two runs, one after the other -/

section Inversion

variable {x : Run α} {f : α → Run β} {entry : Option Value} {world world' : World}

lemma bind_of_ok {a : α} {w : World} (h : x entry world = (.ok a, w)) :
    (x >>= f) entry world = f a entry w := by
  rw [bind_apply, h]

lemma bind_of_error {failure : Failure} {w : World} (h : x entry world = (.error failure, w)) :
    (x >>= f) entry world = (.error failure, w) := by
  rw [bind_apply, h]

lemma bind_eq_ok {b : β} (h : (x >>= f) entry world = (.ok b, world')) :
    ∃ a w, x entry world = (.ok a, w) ∧ f a entry w = (.ok b, world') := by
  rw [bind_apply] at h
  rcases hx : x entry world with ⟨failure | a, w⟩ <;> rw [hx] at h
  · exact absurd (Prod.mk.inj h).1 (by simp)
  · exact ⟨a, w, rfl, h⟩

lemma bind_eq_error {failure : Failure} (h : (x >>= f) entry world = (.error failure, world')) :
    x entry world = (.error failure, world') ∨
      ∃ a w, x entry world = (.ok a, w) ∧ f a entry w = (.error failure, world') := by
  rw [bind_apply] at h
  rcases hx : x entry world with ⟨failure' | a, w⟩ <;> rw [hx] at h
  · obtain ⟨hfailure, rfl⟩ := Prod.mk.inj h
    exact .inl (by rw [Except.error.inj hfailure])
  · exact .inr ⟨a, w, rfl, h⟩

/-- A run fails as it does before its result is put in another form. -/
lemma map_eq_error_iff {g : α → β} {failure : Failure} :
    (x >>= fun a => Pure.pure (g a)) entry world = (.error failure, world') ↔
      x entry world = (.error failure, world') := by
  constructor
  · intro h
    rcases bind_eq_error h with hx | ⟨_, _, -, hpure⟩
    · exact hx
    · exact absurd (congrArg Prod.fst hpure) nofun
  · exact bind_of_error

end Inversion

/-- Nothing is done after a mistake. -/
lemma mistaken_bind (cause : Mistake) (f : α → Run β) :
    (Run.mistaken cause >>= f) = Run.mistaken cause :=
  rfl

/-! ## Results and failures -/

/-- A result of the run satisfies `P`, and a failure of it satisfies `Q`. -/
def Ensures (x : Run α) (P : α → Prop) (Q : Failure → Prop) : Prop :=
  ∀ entry world,
    match (x entry world).1 with
    | .ok a => P a
    | .error failure => Q failure

namespace Ensures

variable {x : Run α} {f : α → Run β} {P P' : α → Prop} {R : β → Prop} {Q Q' : Failure → Prop}

lemma mono (h : x.Ensures P Q) (hP : ∀ a, P a → P' a) (hQ : ∀ failure, Q failure → Q' failure) :
    x.Ensures P' Q' := by
  intro entry world
  have hx := h entry world
  rcases hr : (x entry world).1 with failure | a
  · rw [hr] at hx
    exact hQ failure hx
  · rw [hr] at hx
    exact hP a hx

/-- Nothing is claimed of the run. -/
lemma always (x : Run α) : x.Ensures (fun _ => True) (fun _ => True) := by
  intro entry world
  rcases (x entry world).1 with failure | a <;> exact trivial

protected lemma pure {a : α} (h : P a) : (Pure.pure a : Run α).Ensures P Q :=
  fun _ _ => h

lemma fail {failure : Failure} (h : Q failure) : (Run.fail failure : Run α).Ensures P Q :=
  fun _ _ => h

lemma mistaken {cause : Mistake} (h : ∀ entry, Q (.mistake ⟨cause, entry⟩)) :
    (Run.mistaken cause : Run α).Ensures P Q :=
  fun entry _ => h entry

lemma mismatched {cause : Mismatch} (h : Q (.mismatch cause)) :
    (Run.mismatched cause : Run α).Ensures P Q :=
  fun _ _ => h

protected lemma bind (hx : x.Ensures P Q) (hf : ∀ a, P a → (f a).Ensures R Q) :
    (x >>= f).Ensures R Q := by
  intro entry world
  have h := hx entry world
  rw [bind_apply]
  rcases hr : x entry world with ⟨failure | a, world'⟩
  · rw [hr] at h
    exact h
  · rw [hr] at h
    exact hf a h entry world'

protected lemma within (h : x.Ensures P Q) (name : Option Value) :
    (Run.within name x).Ensures P Q :=
  fun _ world => h name world

protected lemma recover {handler : Failure → Run α} (h : x.Ensures P Q)
    (hh : ∀ failure, Q failure → (handler failure).Ensures P Q') :
    (x.recover handler).Ensures P Q' := by
  intro entry world
  have hx := h entry world
  simp only [Run.recover_apply]
  rcases hr : x entry world with ⟨failure | a, world'⟩
  · rw [hr] at hx
    exact hh failure hx entry world'
  · rw [hr] at hx
    exact hx

lemma note (event : Event) {P : Unit → Prop} (h : P ()) : (Run.note event).Ensures P Q :=
  fun _ _ => h

lemma warn (warning : Warning) {P : Unit → Prop} (h : P ()) : (Run.warn warning).Ensures P Q :=
  fun _ _ => h

end Ensures

/-! ## Success -/

/-- The run succeeds if `A` holds, and fails if it does not. -/
def Decides (x : Run α) (A : Prop) : Prop :=
  x.Ensures (fun _ => A) (fun _ => ¬ A)

namespace Decides

variable {x : Run α} {f : α → Run β} {A B : Prop}

lemma congr (h : x.Decides A) (hAB : A ↔ B) : x.Decides B :=
  h.mono (fun _ => hAB.1) (fun _ hA hB => hA (hAB.2 hB))

lemma returns_iff (h : x.Decides A) (entry : Option Value) (world : World) :
    (∃ a, (x entry world).1 = .ok a) ↔ A := by
  have hx := h entry world
  rcases hr : (x entry world).1 with failure | a
  · rw [hr] at hx
    constructor
    · rintro ⟨a, ha⟩
      exact absurd ha (by simp)
    · intro hA
      exact absurd hA hx
  · rw [hr] at hx
    exact ⟨fun _ => hx, fun _ => ⟨a, rfl⟩⟩

protected lemma pure (a : α) : (Pure.pure a : Run α).Decides True :=
  Ensures.pure trivial

lemma fail (failure : Failure) : (Run.fail failure : Run α).Decides False :=
  Ensures.fail id

lemma mistaken (cause : Mistake) : (Run.mistaken cause : Run α).Decides False :=
  Ensures.mistaken fun _ => id

lemma mismatched (cause : Mismatch) : (Run.mismatched cause : Run α).Decides False :=
  Ensures.mismatched id

/-- Two runs one after the other succeed if both do; the second is only reached if the first
succeeds. -/
protected lemma bind (hx : x.Decides A) (hf : A → ∀ a, (f a).Decides B) :
    (x >>= f).Decides (A ∧ B) := by
  refine Ensures.bind (P := fun _ => A) (hx.mono (fun _ => id) fun _ hA h => hA h.1) ?_
  intro a hA
  exact (hf hA a).mono (fun _ hB => ⟨hA, hB⟩) (fun _ hB h => hB h.2)

lemma map (hx : x.Decides A) (g : α → β) :
    (x >>= fun a => Pure.pure (g a)).Decides A :=
  (hx.bind fun _ a => Decides.pure (g a)).congr (by simp)

protected lemma within (h : x.Decides A) (name : Option Value) :
    (Run.within name x).Decides A :=
  Ensures.within h name

lemma note (event : Event) : (Run.note event).Decides True :=
  Ensures.note event trivial

end Decides

/-! ## Two runs alike -/

/-- Two outcomes are alike: the same failure, or results that are related. -/
def Alike (S : α → β → Prop) : Except Failure α → Except Failure β → Prop
  | .ok a, .ok b => S a b
  | .error failure, .error failure' => failure = failure'
  | _, _ => False

/-- From worlds with the same warnings the runs have outcomes that are alike and leave worlds with
the same warnings. -/
def Mirrors (S : α → β → Prop) (x : Run α) (y : Run β) : Prop :=
  ∀ entry world world', world.warnings = world'.warnings →
    Alike S (x entry world).1 (y entry world').1 ∧
      (x entry world).2.warnings = (y entry world').2.warnings

namespace Mirrors

variable {S S' : α → β → Prop} {T : γ → δ → Prop} {x : Run α} {y : Run β}

lemma mono (h : Mirrors S x y) (hS : ∀ a b, S a b → S' a b) : Mirrors S' x y := by
  intro entry world world' hw
  obtain ⟨ha, hw'⟩ := h entry world world' hw
  refine ⟨?_, hw'⟩
  rcases hx : (x entry world).1 with failure | a <;>
    rcases hy : (y entry world').1 with failure' | b <;> rw [hx, hy] at ha
  · exact ha
  · exact ha
  · exact ha
  · exact hS a b ha

/-- What is known of the results on one side can be used. -/
lemma and_left {P : α → Prop} {Q : Failure → Prop} (h : Mirrors S x y) (hx : x.Ensures P Q) :
    Mirrors (fun a b => S a b ∧ P a) x y := by
  intro entry world world' hw
  obtain ⟨ha, hw'⟩ := h entry world world' hw
  have hP := hx entry world
  refine ⟨?_, hw'⟩
  rcases hr : (x entry world).1 with failure | a <;>
    rcases hy : (y entry world').1 with failure' | b <;> rw [hr, hy] at ha <;> rw [hr] at hP
  · exact ha
  · exact ha
  · exact ha
  · exact ⟨ha, hP⟩

lemma symm (h : Mirrors S x y) : Mirrors (fun b a => S a b) y x := by
  intro entry world world' hw
  obtain ⟨ha, hw'⟩ := h entry world' world hw.symm
  refine ⟨?_, hw'.symm⟩
  rcases hx : (x entry world').1 with failure | a <;>
    rcases hy : (y entry world).1 with failure' | b <;> rw [hx, hy] at ha
  · exact Eq.symm ha
  · exact ha
  · exact ha
  · exact ha

lemma trans {z : Run γ} {U : β → γ → Prop} (h : Mirrors S x y) (h' : Mirrors U y z) :
    Mirrors (fun a c => ∃ b, S a b ∧ U b c) x z := by
  intro entry world world' hw
  obtain ⟨ha, hxy⟩ := h entry world world' hw
  obtain ⟨hb, hyz⟩ := h' entry world' world' rfl
  refine ⟨?_, hxy.trans hyz⟩
  rcases hx : (x entry world).1 with failure | a <;>
    rcases hy : (y entry world').1 with failure' | b <;>
    rcases hz : (z entry world').1 with failure'' | c <;>
    rw [hx, hy] at ha <;> rw [hy, hz] at hb
  -- all three fail, or all three return; in every other case two neighbours differ
  · exact Eq.trans ha hb
  · exact hb
  · exact ha.elim
  · exact ha.elim
  · exact ha.elim
  · exact ha.elim
  · exact hb
  · exact ⟨b, ha, hb⟩

protected lemma pure {a : α} {b : β} (h : S a b) : Mirrors S (Pure.pure a) (Pure.pure b) :=
  fun _ _ _ hw => ⟨h, hw⟩

lemma fail (failure : Failure) : Mirrors S (Run.fail failure) (Run.fail failure) :=
  fun _ _ _ hw => ⟨rfl, hw⟩

lemma mistaken (cause : Mistake) : Mirrors S (Run.mistaken cause) (Run.mistaken cause) :=
  fun _ _ _ hw => ⟨rfl, hw⟩

lemma mismatched (cause : Mismatch) : Mirrors S (Run.mismatched cause) (Run.mismatched cause) :=
  fun _ _ _ hw => ⟨rfl, hw⟩

protected lemma bind {f : α → Run γ} {g : β → Run δ} (h : Mirrors S x y)
    (hfg : ∀ a b, S a b → Mirrors T (f a) (g b)) : Mirrors T (x >>= f) (y >>= g) := by
  intro entry world world' hw
  obtain ⟨ha, hxy⟩ := h entry world world' hw
  rw [bind_apply, bind_apply]
  rcases hx : x entry world with ⟨failure | a, w⟩ <;>
    rcases hy : y entry world' with ⟨failure' | b, w'⟩ <;> rw [hx, hy] at ha hxy
  · exact ⟨ha, hxy⟩
  · exact ha.elim
  · exact ha.elim
  · exact hfg a b ha entry w w' hxy

protected lemma within (h : Mirrors S x y) (name : Option Value) :
    Mirrors S (Run.within name x) (Run.within name y) :=
  fun _ world world' hw => h name world world' hw

protected lemma recover {handler : Failure → Run α} {handler' : Failure → Run β}
    (h : Mirrors S x y) (hh : ∀ failure, Mirrors S (handler failure) (handler' failure)) :
    Mirrors S (x.recover handler) (y.recover handler') := by
  intro entry world world' hw
  obtain ⟨ha, hxy⟩ := h entry world world' hw
  simp only [Run.recover_apply]
  rcases hx : x entry world with ⟨failure | a, w⟩ <;>
    rcases hy : y entry world' with ⟨failure' | b, w'⟩ <;> rw [hx, hy] at ha hxy
  · obtain rfl : failure = failure' := ha
    exact hh failure entry w w' hxy
  · exact ha.elim
  · exact ha.elim
  · exact ⟨ha, hxy⟩

/-- The log plays no part: an event on either side, or on both, changes nothing. -/
lemma note_left (event : Event) (h : Mirrors S x y) :
    Mirrors S (do Run.note event; x) y :=
  fun entry world world' hw => h entry { world with log := world.log ++ [event] } world' hw

lemma note_right (event : Event) (h : Mirrors S x y) :
    Mirrors S x (do Run.note event; y) :=
  fun entry world world' hw => h entry world { world' with log := world'.log ++ [event] } hw

lemma warn (warning : Warning) :
    Mirrors (fun _ _ => True) (Run.warn warning) (Run.warn warning) := by
  intro entry world world' hw
  refine ⟨trivial, ?_⟩
  show world.warnings ++ [warning] = world'.warnings ++ [warning]
  rw [hw]

end Mirrors

/-! ## Outcomes that do not depend on the world -/

/-- What the run comes to is the same in every world. -/
def Steady (x : Run α) : Prop :=
  ∀ entry world world', (x entry world).1 = (x entry world').1

namespace Steady

variable {x : Run α} {f : α → Run β}

protected lemma pure (a : α) : (Pure.pure a : Run α).Steady :=
  fun _ _ _ => rfl

lemma fail (failure : Failure) : (Run.fail failure : Run α).Steady :=
  fun _ _ _ => rfl

lemma mistaken (cause : Mistake) : (Run.mistaken cause : Run α).Steady :=
  fun _ _ _ => rfl

protected lemma bind {P : α → Prop} (hx : x.Steady) (hP : x.Ensures P fun _ => True)
    (hf : ∀ a, P a → (f a).Steady) : (x >>= f).Steady := by
  intro entry world world'
  have h := hx entry world world'
  have ha := hP entry world
  rw [bind_apply, bind_apply]
  rcases hw : x entry world with ⟨failure | a, w⟩ <;>
    rcases hw' : x entry world' with ⟨failure' | a', w'⟩ <;> rw [hw, hw'] at h <;> rw [hw] at ha
  · exact congrArg Except.error (Except.error.inj h)
  · exact absurd h (by simp)
  · exact absurd h (by simp)
  · obtain rfl : a = a' := Except.ok.inj h
    exact hf a ha entry w w'

protected lemma within (h : x.Steady) (name : Option Value) : (Run.within name x).Steady :=
  fun _ world world' => h name world world'

protected lemma recover {handler : Failure → Run α} (h : x.Steady)
    (hh : ∀ failure, (handler failure).Steady) : (x.recover handler).Steady := by
  intro entry world world'
  have hx := h entry world world'
  simp only [Run.recover_apply]
  rcases hw : x entry world with ⟨failure | a, w⟩ <;>
    rcases hw' : x entry world' with ⟨failure' | a', w'⟩ <;> rw [hw, hw'] at hx
  · obtain rfl : failure = failure' := Except.error.inj hx
    exact hh failure entry w w'
  · exact absurd hx (by simp)
  · exact absurd hx (by simp)
  · exact hx

protected lemma attempt (h : x.Steady) : x.attempt.Steady :=
  fun entry world world' => congrArg Except.ok (h entry world world')

lemma note (event : Event) : (Run.note event).Steady :=
  fun _ _ _ => rfl

lemma warn (warning : Warning) : (Run.warn warning).Steady :=
  fun _ _ _ => rfl

end Steady

/-! ## Parts of the world that stay -/

/-- What `f` sees of the world is after the run what it was before, whether the run fails or
not. -/
def Keeps (f : World → γ) (x : Run α) : Prop :=
  ∀ entry world, f (x entry world).2 = f world

namespace Keeps

variable {x : Run α} {next : α → Run β} {f : World → γ}

protected lemma pure (a : α) : Keeps f (Pure.pure a : Run α) :=
  fun _ _ => rfl

lemma fail (failure : Failure) : Keeps f (Run.fail failure : Run α) :=
  fun _ _ => rfl

lemma mistaken (cause : Mistake) : Keeps f (Run.mistaken cause : Run α) :=
  fun _ _ => rfl

protected lemma bind {P : α → Prop} (hx : Keeps f x) (hP : x.Ensures P fun _ => True)
    (hnext : ∀ a, P a → Keeps f (next a)) : Keeps f (x >>= next) := by
  intro entry world
  have h := hx entry world
  have ha := hP entry world
  rw [bind_apply]
  rcases hw : x entry world with ⟨failure | a, w⟩ <;> rw [hw] at h ha
  · exact h
  · exact (hnext a ha entry w).trans h

protected lemma within (h : Keeps f x) (name : Option Value) : Keeps f (Run.within name x) :=
  fun _ world => h name world

protected lemma attempt (h : Keeps f x) : Keeps f x.attempt :=
  h

protected lemma recover {handler : Failure → Run α} (h : Keeps f x)
    (hh : ∀ failure, Keeps f (handler failure)) : Keeps f (x.recover handler) := by
  intro entry world
  have hx := h entry world
  simp only [Run.recover_apply]
  rcases hw : x entry world with ⟨failure | a, w⟩ <;> rw [hw] at hx
  · exact (hh failure entry w).trans hx
  · exact hx

lemma note (event : Event) (h : ∀ world log, f { world with log := log } = f world) :
    Keeps f (Run.note event) :=
  fun _ world => h world _

lemma warn (warning : Warning)
    (h : ∀ world warnings, f { world with warnings := warnings } = f world) :
    Keeps f (Run.warn warning) :=
  fun _ world => h world _

end Keeps

/-! ## Worlds of a sort -/

/-- From the worlds `S` the run leads to such worlds again, whether it fails or not. -/
def Stays (S : World → Prop) (x : Run α) : Prop :=
  ∀ entry world, S world → S (x entry world).2

namespace Stays

variable {S : World → Prop} {x : Run α} {f : α → Run β}

protected lemma pure (a : α) : Stays S (Pure.pure a : Run α) :=
  fun _ _ => id

lemma fail (failure : Failure) : Stays S (Run.fail failure : Run α) :=
  fun _ _ => id

lemma mistaken (cause : Mistake) : Stays S (Run.mistaken cause : Run α) :=
  fun _ _ => id

protected lemma bind {P : α → Prop} (hx : Stays S x) (hP : x.Ensures P fun _ => True)
    (hf : ∀ a, P a → Stays S (f a)) : Stays S (x >>= f) := by
  intro entry world h
  have hS := hx entry world h
  have ha := hP entry world
  rw [bind_apply]
  rcases hw : x entry world with ⟨failure | a, w⟩ <;> rw [hw] at hS ha
  · exact hS
  · exact hf a ha entry w hS

protected lemma within (h : Stays S x) (name : Option Value) : Stays S (Run.within name x) :=
  fun _ world => h name world

protected lemma attempt (h : Stays S x) : Stays S x.attempt :=
  h

protected lemma recover {handler : Failure → Run α} (h : Stays S x)
    (hh : ∀ failure, Stays S (handler failure)) : Stays S (x.recover handler) := by
  intro entry world hS
  have hx := h entry world hS
  simp only [Run.recover_apply]
  rcases hw : x entry world with ⟨failure | a, w⟩ <;> rw [hw] at hx
  · exact hh failure entry w hx
  · exact hx

end Stays

/-- The run has the result in one of the worlds `S`. -/
def Yields (S : World → Prop) (x : Run α) (a : α) : Prop :=
  ∃ entry world, S world ∧ (x entry world).1 = .ok a

lemma Ensures.of_yields {S : World → Prop} {x : Run α} {P : α → Prop} {Q : Failure → Prop} {a : α}
    (h : x.Ensures P Q) (ha : x.Yields S a) : P a := by
  obtain ⟨entry, world, -, ha⟩ := ha
  have hP := h entry world
  rw [ha] at hP
  exact hP

/-! ## Worlds that differ in what does not matter -/

/-- From two worlds that `R` relates the run comes to the same, and leads to two such worlds again.
-/
def SteadyUpTo (R : World → World → Prop) (x : Run α) : Prop :=
  ∀ entry world world', R world world' →
    (x entry world).1 = (x entry world').1 ∧ R (x entry world).2 (x entry world').2

namespace SteadyUpTo

variable {R T : World → World → Prop} {S : World → Prop} {x : Run α} {f : α → Run β}

protected lemma pure (a : α) : SteadyUpTo R (Pure.pure a : Run α) :=
  fun _ _ _ h => ⟨rfl, h⟩

lemma fail (failure : Failure) : SteadyUpTo R (Run.fail failure : Run α) :=
  fun _ _ _ h => ⟨rfl, h⟩

lemma mistaken (cause : Mistake) : SteadyUpTo R (Run.mistaken cause : Run α) :=
  fun _ _ _ h => ⟨rfl, h⟩

/-- After a first run that leads to worlds that are related more closely, by `T`, if it does not
fail, the second run has to be steady up to that only.  Results count that the first run has in
worlds `S` of which `R` relates some. -/
lemma bind_into (hS : ∀ world world', R world world' → S world)
    (hTR : ∀ world world', T world world' → R world world') (hx : SteadyUpTo R x)
    (hT : ∀ entry world world', R world world' → ∀ a, (x entry world).1 = .ok a →
      T (x entry world).2 (x entry world').2)
    (hf : ∀ a, x.Yields S a → SteadyUpTo T (f a)) : SteadyUpTo R (x >>= f) := by
  intro entry world world' h
  obtain ⟨hsame, hR⟩ := hx entry world world' h
  have ht := hT entry world world' h
  rw [bind_apply, bind_apply]
  rcases hw : x entry world with ⟨failure | a, w⟩ <;>
    rcases hw' : x entry world' with ⟨failure' | a', w'⟩ <;>
    rw [hw, hw'] at hsame hR ht
  · exact ⟨congrArg Except.error (Except.error.inj hsame), hR⟩
  · exact absurd hsame (by simp)
  · exact absurd hsame (by simp)
  · obtain rfl : a = a' := Except.ok.inj hsame
    have hyields : x.Yields S a := ⟨entry, world, hS world world' h, by rw [hw]⟩
    exact (hf a hyields entry w w' (ht a rfl)).imp_right (hTR _ _)

lemma bind_of (hS : ∀ world world', R world world' → S world) (hx : SteadyUpTo R x)
    (hf : ∀ a, x.Yields S a → SteadyUpTo R (f a)) : SteadyUpTo R (x >>= f) :=
  bind_into hS (fun _ _ => id) hx (fun entry world world' h _ _ => (hx entry world world' h).2) hf

protected lemma bind (hx : SteadyUpTo R x) (hf : ∀ a, SteadyUpTo R (f a)) :
    SteadyUpTo R (x >>= f) :=
  bind_of (fun _ _ _ => trivial) hx fun a (_ : x.Yields (fun _ => True) a) => hf a

protected lemma within (h : SteadyUpTo R x) (name : Option Value) :
    SteadyUpTo R (Run.within name x) :=
  fun _ world world' => h name world world'

protected lemma attempt (h : SteadyUpTo R x) : SteadyUpTo R x.attempt :=
  fun entry world world' hR => (h entry world world' hR).imp_left (congrArg Except.ok)

protected lemma recover {handler : Failure → Run α} (h : SteadyUpTo R x)
    (hh : ∀ failure, SteadyUpTo R (handler failure)) : SteadyUpTo R (x.recover handler) := by
  intro entry world world' hR
  obtain ⟨hsame, hw⟩ := h entry world world' hR
  simp only [Run.recover_apply]
  rcases hx : x entry world with ⟨failure | a, w⟩ <;>
    rcases hx' : x entry world' with ⟨failure' | a', w'⟩ <;>
    rw [hx, hx'] at hsame hw
  · obtain rfl : failure = failure' := Except.error.inj hsame
    exact hh failure entry w w' hw
  · exact absurd hsame (by simp)
  · exact absurd hsame (by simp)
  · exact ⟨hsame, hw⟩

end SteadyUpTo

/-! ## Properties that runs inherit from their parts -/

/-- The property holds of the runs of one step and passes from runs to what is put together from
them.  The steps are those of a compilation, which neither reads nor writes files.  Of the results
of a run those count that it has in one of the worlds `S`. -/
structure InheritedFrom (S : World → Prop) (C : ∀ {α : Type}, Run α → Prop) : Prop where
  pure : ∀ {α : Type} (a : α), C (Pure.pure a : Run α)
  fail : ∀ {α : Type} (failure : Failure), C (Run.fail failure : Run α)
  mistaken : ∀ {α : Type} (cause : Mistake), C (Run.mistaken cause : Run α)
  bind_of : ∀ {α β : Type} {x : Run α} {f : α → Run β}, C x →
    (∀ a, x.Yields S a → C (f a)) → C (x >>= f)
  within : ∀ {α : Type} {x : Run α}, C x → ∀ name, C (Run.within name x)
  recover : ∀ {α : Type} {x : Run α} {handler : Failure → Run α}, C x →
    (∀ failure, C (handler failure)) → C (x.recover handler)
  attempt : ∀ {α : Type} {x : Run α}, C x → C x.attempt
  note : ∀ event, C (Run.note event)
  warn : ∀ warning, C (Run.warn warning)

/-- All results count. -/
abbrev Inherited (C : ∀ {α : Type}, Run α → Prop) : Prop :=
  InheritedFrom (fun _ => True) C

/-- Nothing needs to be known of the result of the first of two runs. -/
lemma InheritedFrom.bind {S : World → Prop} {C : ∀ {α : Type}, Run α → Prop}
    (hC : InheritedFrom S C) {x : Run α} {f : α → Run β} (hx : C x) (hf : ∀ a, C (f a)) :
    C (x >>= f) :=
  hC.bind_of hx fun a _ => hf a

lemma Ensures.yields (x : Run α) : x.Ensures (x.Yields fun _ => True) fun _ => True := by
  intro entry world
  rcases hx : (x entry world).1 with failure | a
  · exact trivial
  · exact ⟨entry, world, trivial, hx⟩

lemma InheritedFrom.steady : Inherited Steady where
  pure := Steady.pure
  fail := Steady.fail
  mistaken := Steady.mistaken
  bind_of hx hf := hx.bind (Ensures.yields _) hf
  within := Steady.within
  recover := Steady.recover
  attempt := Steady.attempt
  note := Steady.note
  warn := Steady.warn

lemma InheritedFrom.keeps {f : World → γ}
    (hlog : ∀ world log, f { world with log := log } = f world)
    (hwarnings : ∀ world warnings, f { world with warnings := warnings } = f world) :
    Inherited (Keeps f) where
  pure := Keeps.pure
  fail := Keeps.fail
  mistaken := Keeps.mistaken
  bind_of hx hf := hx.bind (Ensures.yields _) hf
  within := Keeps.within
  recover := Keeps.recover
  attempt := Keeps.attempt
  note event := Keeps.note event hlog
  warn warning := Keeps.warn warning hwarnings

lemma InheritedFrom.keeps_files : Inherited (Keeps World.files) :=
  .keeps (fun _ _ => rfl) fun _ _ => rfl

lemma InheritedFrom.stays {S : World → Prop} (hnote : ∀ event, Stays S (Run.note event))
    (hwarn : ∀ warning, Stays S (Run.warn warning)) : Inherited (Stays S) where
  pure := Stays.pure
  fail := Stays.fail
  mistaken := Stays.mistaken
  bind_of hx hf := hx.bind (Ensures.yields _) hf
  within := Stays.within
  recover := Stays.recover
  attempt := Stays.attempt
  note := hnote
  warn := hwarn

lemma InheritedFrom.steadyUpTo {S : World → Prop} {R : World → World → Prop}
    (hS : ∀ world world', R world world' → S world)
    (hlog : ∀ world world' log log', R world world' →
      R { world with log := log } { world' with log := log' })
    (hwarnings : ∀ world world' warnings warnings', R world world' →
      R { world with warnings := warnings } { world' with warnings := warnings' }) :
    InheritedFrom S (SteadyUpTo R) where
  pure := SteadyUpTo.pure
  fail := SteadyUpTo.fail
  mistaken := SteadyUpTo.mistaken
  bind_of := SteadyUpTo.bind_of hS
  within := SteadyUpTo.within
  recover := SteadyUpTo.recover
  attempt := SteadyUpTo.attempt
  note _ := fun _ world world' h => ⟨rfl, hlog world world' _ _ h⟩
  warn _ := fun _ world world' h => ⟨rfl, hwarnings world world' _ _ h⟩

/-! ## Traversals -/

/-- The run does the same for each item of a list, one after the other. -/
structure Traverses (run : List α → Run (List γ)) (one : α → Run γ) : Prop where
  nil : run [] = Pure.pure []
  cons : ∀ a rest, run (a :: rest) =
    one a >>= fun v => run rest >>= fun vs => Pure.pure (v :: vs)

namespace Traverses

variable {run : List α → Run (List γ)} {one : α → Run γ} (ht : Traverses run one) {items : List α}

include ht

/-- What is known of the result for each item makes up what is known of all results. -/
lemma ensures {P : List α → List γ → Prop} {R : α → γ → Prop} {Q : Failure → Prop}
    (hnil : P [] []) (hcons : ∀ {a v rest vs}, R a v → P rest vs → P (a :: rest) (v :: vs))
    (h : ∀ a ∈ items, (one a).Ensures (R a) Q) : (run items).Ensures (P items) Q := by
  induction items with
  | nil =>
    rw [ht.nil]
    exact .pure hnil
  | cons a rest ih =>
    obtain ⟨hfirst, hrest⟩ := List.forall_mem_cons.1 h
    rw [ht.cons]
    refine hfirst.bind fun v hv => ?_
    refine (ih hrest).bind fun vs hvs => ?_
    exact .pure (hcons hv hvs)

/-- A traversal succeeds if what it does for each item does. -/
lemma decides {A : α → Prop} (h : ∀ a ∈ items, (one a).Decides (A a)) :
    (run items).Decides (∀ a ∈ items, A a) := by
  induction items with
  | nil =>
    rw [ht.nil]
    exact (Decides.pure []).congr (by simp)
  | cons a rest ih =>
    obtain ⟨hfirst, hrest⟩ := List.forall_mem_cons.1 h
    rw [ht.cons, List.forall_mem_cons]
    exact hfirst.bind fun _ v => (ih hrest).map (v :: ·)

/-- Two traversals are alike if they are for each item and what stands for it in the other list. -/
lemma mirrors {α' : Type} {run' : List α' → Run (List δ)} {one' : α' → Run δ}
    (ht' : Traverses run' one') (f : α → α') {S : γ → δ → Prop} {T : List γ → List δ → Prop}
    (hnil : T [] []) (hcons : ∀ {v v' vs vs'}, S v v' → T vs vs' → T (v :: vs) (v' :: vs'))
    (h : ∀ a ∈ items, Mirrors S (one a) (one' (f a))) :
    Mirrors T (run items) (run' (items.map f)) := by
  induction items with
  | nil =>
    rw [List.map_nil, ht.nil, ht'.nil]
    exact .pure hnil
  | cons a rest ih =>
    obtain ⟨hfirst, hrest⟩ := List.forall_mem_cons.1 h
    rw [List.map_cons, ht.cons, ht'.cons]
    refine hfirst.bind fun v v' hv => ?_
    refine (ih hrest).bind fun vs vs' hvs => ?_
    exact .pure (hcons hv hvs)

lemma inherited {S : World → Prop} {C : ∀ {α : Type}, Run α → Prop} (hC : InheritedFrom S C)
    (h : ∀ a ∈ items, C (one a)) : C (run items) := by
  induction items with
  | nil =>
    rw [ht.nil]
    exact hC.pure []
  | cons a rest ih =>
    rw [ht.cons]
    refine hC.bind (h a List.mem_cons_self) fun v => ?_
    exact hC.bind (ih fun b hb => h b (List.mem_cons_of_mem a hb)) fun vs => hC.pure _

end Traverses

end Blueprint.Run
