/-
# Compilations that go side by side

Two compilations that go through the same steps are related as a whole if they are step by step.
`Run.Congruence C` says that a relation `C` between runs is kept by the ways in which a compilation
is put together, so that each of these is looked at once for all such relations.  Two of them are
used later: equality, and `Run.Refines`, which looks at the results only.

The items of two lists are compared one by one, and of two items that are compared all before them
are known to have succeeded (`Run.Congruence.each`): a traversal stops at the first item that fails.

The arguments of two calls are compared in the same way, once each call has found its own
(`compileArguments_congruence`).
-/
import Blueprint.Proofs.Derivation

namespace Blueprint

/-! ## Relations between runs -/

namespace Run

variable {α α' β γ : Type}

/-- Where the first run has a result, the second has the same and leaves the same world. -/
def Refines (x y : Run α) : Prop :=
  ∀ entry world a after, x entry world = (.ok a, after) → y entry world = (.ok a, after)

lemma Refines.trans {x y z : Run α} (h : x.Refines y) (h' : y.Refines z) : x.Refines z :=
  fun entry world a after hx => h' entry world a after (h entry world a after hx)

/-- The relation passes to what is put together from related runs.  In the second of two runs those
results of the first count that it has.  A handler has no result, and takes up mismatches only. -/
structure Congruence (C : ∀ {α : Type}, Run α → Run α → Prop) : Prop where
  refl : ∀ {α : Type} (x : Run α), C x x
  bind_of : ∀ {α β : Type} {x y : Run α} {f g : α → Run β}, C x y →
    (∀ a, x.Yields (fun _ => True) a → C (f a) (g a)) → C (x >>= f) (y >>= g)
  within : ∀ {α : Type} {x y : Run α}, C x y → ∀ name, C (Run.within name x) (Run.within name y)
  recover : ∀ {α : Type} {x y : Run α} {handler : Failure → Run α}, C x y →
    (∀ failure, (handler failure).Ensures (fun _ => False) fun _ => True) →
      (∀ failure, (∀ cause, failure ≠ .mismatch cause) → handler failure = Run.fail failure) →
        C (x.recover handler) (y.recover handler)

lemma Congruence.eq : Congruence fun {α} (x y : Run α) => x = y where
  refl _ := rfl
  bind_of := by
    rintro α β x _ f g rfl h
    refine Run.ext fun entry world => ?_
    rcases hx : x entry world with ⟨failure | a, w⟩
    · rw [bind_of_error hx, bind_of_error hx]
    · rw [bind_of_ok hx, bind_of_ok hx, h a ⟨entry, world, trivial, by rw [hx]⟩]
  within := by
    rintro α x _ rfl name
    rfl
  recover := by
    rintro α x _ handler rfl - -
    rfl

lemma Congruence.refines : Congruence Refines where
  refl _ _ _ _ _ h := h
  bind_of := by
    intro α β x y f g hxy h entry world b last hx
    obtain ⟨a, after, ha, hb⟩ := bind_eq_ok hx
    rw [bind_of_ok (hxy entry world a after ha)]
    exact h a ⟨entry, world, trivial, by rw [ha]⟩ entry after b last hb
  within h name := fun _ world => h name world
  recover := by
    intro α x y handler hxy hh _ entry world a after hx
    rw [Run.recover_apply] at hx
    rcases hr : x entry world with ⟨failure | a', w⟩ <;> rw [hr] at hx
    · -- the handler has no result
      have hfalse := hh failure entry w
      rw [show handler failure entry w = (.ok a, after) from hx] at hfalse
      exact hfalse.elim
    · simp only [Run.recover_apply]
      rw [hxy entry world a' w hr]
      exact hx

/-! ## Traversals -/

namespace Congruence

variable {C : ∀ {α : Type}, Run α → Run α → Prop} (hC : Congruence C)

include hC

lemma bind {x y : Run α} {f g : α → Run β} (hxy : C x y) (h : ∀ a, C (f a) (g a)) :
    C (x >>= f) (y >>= g) :=
  hC.bind_of hxy fun a _ => h a

variable {run : List α → Run (List γ)} {run' : List α' → Run (List γ)} {one : α → Run γ}
  {one' : α' → Run γ}

/-- Two traversals are related if they are item by item, where all items before have succeeded. -/
lemma each (htraverses : Traverses run one) (htraverses' : Traverses run' one') {A : α → Prop}
    {items : List α} {items' : List α'} (hlength : items'.length = items.length)
    (hA : ∀ a ∈ items, (one a).Ensures (fun _ => A a) fun _ => True)
    (h : ∀ i a a', items[i]? = some a → items'[i]? = some a' → (∀ b ∈ items.take i, A b) →
      C (one a) (one' a')) : C (run items) (run' items') := by
  induction items generalizing items' with
  | nil =>
    obtain rfl := List.eq_nil_of_length_eq_zero hlength
    rw [htraverses.nil, htraverses'.nil]
    exact hC.refl _
  | cons a rest ih =>
    cases items' with
    | nil => exact absurd hlength (by simp)
    | cons a' rest' =>
      rw [htraverses.cons, htraverses'.cons]
      refine hC.bind_of (h 0 a a' rfl rfl (by simp)) fun v hv => ?_
      -- the rest is compared only where the first item has succeeded
      have hfirst : A a := (hA a List.mem_cons_self).of_yields hv
      refine hC.bind (ih (Nat.succ.inj hlength) ?_ ?_) fun vs => hC.refl _
      · exact fun b hb => hA b (List.mem_cons_of_mem a hb)
      · intro i b b' hb hb' hbefore
        exact h (i + 1) b b' hb hb' (List.forall_mem_cons.2 ⟨hfirst, hbefore⟩)

/-- One item may be exchanged for a related one. -/
lemma exchange (htraverses : Traverses run one) {a a' : α} (h : C (one a) (one a'))
    (before after : List α) : C (run (before ++ a :: after)) (run (before ++ a' :: after)) := by
  induction before with
  | nil =>
    rw [List.nil_append, List.nil_append, htraverses.cons, htraverses.cons]
    exact hC.bind h fun v => hC.refl _
  | cons b rest ih =>
    rw [List.cons_append, List.cons_append, htraverses.cons, htraverses.cons]
    exact hC.bind (hC.refl _) fun v => hC.bind ih fun vs => hC.refl _

end Congruence

end Run

/-! ## Calls -/

/-- Two searches for an argument end alike: with the same mistake, or with arguments that `T`
relates. -/
inductive Resolution.Alike (T : Source Value → Source Value → Prop) :
    Except Mistake (Source Value) → Except Mistake (Source Value) → Prop where
  | error (mistake : Mistake) : Alike T (.error mistake) (.error mistake)
  | ok {s s' : Source Value} (h : T s s') : Alike T (.ok s) (.ok s')

/-- Two calls pass related arguments to parameters of the same names, and warn of the same
positions. -/
structure CallsAlike (T : Source Value → Source Value → Prop) (b : Option Binding) (c : Callable)
    (b' : Option Binding) (c' : Callable) : Prop where
  /-- The callables have the same name. -/
  name : c'.name = c.name
  /-- Their parameters have the same names. -/
  names : c'.parameters.map Parameter.name = c.parameters.map Parameter.name
  /-- The same arguments are passed by name. -/
  keywords : c'.keywords = c.keywords
  /-- The positions that are left over are the same. -/
  unused : Resolution.unused ((Resolution.boundValues b').map Prod.fst) c' =
    Resolution.unused ((Resolution.boundValues b).map Prod.fst) c
  /-- What is found for the parameters at one position is alike. -/
  arguments : ∀ i p p', c.parameters[i]? = some p → c'.parameters[i]? = some p' →
    Resolution.Alike T
      (Resolution.argument c.name p (Resolution.lookup (Resolution.boundValues b) i))
      (Resolution.argument c.name p' (Resolution.lookup (Resolution.boundValues b') i))

namespace CallsAlike

variable {T : Source Value → Source Value → Prop} {b b' : Option Binding} {c c' : Callable}

lemma length (h : CallsAlike T b c b' c') : c'.parameters.length = c.parameters.length := by
  rw [← List.length_map Parameter.name, h.names, List.length_map]

lemma warnUnused_eq (h : CallsAlike T b c b' c') :
    Resolution.warnUnused ((Resolution.boundValues b').map Prod.fst) c' =
      Resolution.warnUnused ((Resolution.boundValues b).map Prod.fst) c := by
  rw [Resolution.warnUnused_eq, Resolution.warnUnused_eq, h.unused, h.name, h.length]

/-- Parameters at one position have the same name. -/
lemma parameter_name (h : CallsAlike T b c b' c') {i : Nat} {p p' : Parameter}
    (hp : c.parameters[i]? = some p) (hp' : c'.parameters[i]? = some p') : p'.name = p.name := by
  have hnames := congrArg (fun names => names[i]?) h.names
  simp only [List.getElem?_map, hp, hp', Option.map_some] at hnames
  exact Option.some.inj hnames

end CallsAlike

section Resolution

variable {bound : List (Nat × Option Value)} {c : Callable}

lemma Resolution.resolve_of_error {mistake : Mistake}
    (h : argumentsFrom c.name (lookup bound) 0 c.parameters = .error mistake) :
    resolve bound c = Run.mistaken mistake := by
  rw [resolve, h]

lemma Resolution.resolve_of_ok {sources : List (Parameter × Source Value)}
    (h : argumentsFrom c.name (lookup bound) 0 c.parameters = .ok sources) :
    resolve bound c = warnUnused (bound.map Prod.fst) c >>= fun _ => pure sources := by
  rw [resolve, h]

end Resolution

/-- Where the arguments are found alike one by one, so are all of them. -/
lemma Resolution.argumentsFrom_alike {T : Source Value → Source Value → Prop} {name : Text}
    {bound bound' : Nat → Option Value} {k : Nat} {ps ps' : List Parameter}
    (hlength : ps'.length = ps.length)
    (h : ∀ i p p', ps[i]? = some p → ps'[i]? = some p' →
      Resolution.Alike T (argument name p (bound (k + i))) (argument name p' (bound' (k + i)))) :
    (∃ mistake, argumentsFrom name bound k ps = .error mistake ∧
        argumentsFrom name bound' k ps' = .error mistake) ∨
      ∃ sources sources', argumentsFrom name bound k ps = .ok sources ∧
        argumentsFrom name bound' k ps' = .ok sources' ∧
        List.Forall₂ (fun e e' => T e.2 e'.2) sources sources' := by
  induction ps generalizing k ps' with
  | nil =>
    obtain rfl := List.eq_nil_of_length_eq_zero hlength
    exact .inr ⟨[], [], rfl, rfl, .nil⟩
  | cons p rest ih =>
    cases ps' with
    | nil => exact absurd hlength (by simp)
    | cons p' rest' =>
      have hfirst := h 0 p p' rfl rfl
      have hrest := ih (k := k + 1) (Nat.succ.inj hlength) fun i q q' hq hq' => by
        rw [show k + 1 + i = k + (i + 1) by omega]
        exact h (i + 1) q q' hq hq'
      simp only [argumentsFrom]
      rw [Nat.add_zero] at hfirst
      -- the first mistake ends both searches
      cases hs : argument name p (bound k) <;> cases hs' : argument name p' (bound' k) <;>
        rw [hs, hs'] at hfirst <;> cases hfirst
      · exact .inl ⟨_, rfl, rfl⟩
      · rename_i s s' hT
        rcases hrest with ⟨mistake, hr, hr'⟩ | ⟨sources, sources', hr, hr', hsources⟩
        · exact .inl ⟨mistake, by rw [hr]; rfl, by rw [hr']; rfl⟩
        · refine .inr ⟨(p, s) :: sources, (p', s') :: sources', ?_, ?_, .cons hT hsources⟩
          · rw [hr]
            rfl
          · rw [hr']
            rfl

/-- The arguments that were found for a call are those of its parameters, in their order. -/
lemma Resolution.getElem?_eq_some_iff {b : Option Binding} {c : Callable}
    {sources : List (Parameter × Source Value)}
    (h : argumentsFrom c.name (lookup (boundValues b)) 0 c.parameters = .ok sources) {i : Nat}
    {p : Parameter} {s : Source Value} :
    sources[i]? = some (p, s) ↔ c.parameters[i]? = some p ∧ Argument b i p s := by
  obtain ⟨hfst, harguments⟩ := argumentsFrom_getElem? h
  have hforward : ∀ s, sources[i]? = some (p, s) →
      c.parameters[i]? = some p ∧ Argument b i p s := by
    intro s hs
    have hargument := harguments i p s hs
    rw [Nat.zero_add] at hargument
    refine ⟨?_, argument_eq_ok_iff.1 hargument⟩
    rw [← hfst, List.getElem?_map, hs]
    rfl
  constructor
  · exact hforward s
  · rintro ⟨hp, hs⟩
    rw [← hfst, List.getElem?_map] at hp
    obtain ⟨⟨p', s'⟩, hi, rfl⟩ := Option.map_eq_some_iff.1 hp
    obtain rfl := hs.unique (hforward s' hi).2
    exact hi

section Arguments

variable {C : ∀ {α : Type}, Run α → Run α → Prop} {types types' : Option Introspector}
  {onDefault onDefault' : Value → Run Value} {T : Source Value → Source Value → Prop}
  {b b' : Option Binding} {c c' : Callable} {A : Source Value → Prop}

/-- The arguments of two calls are compiled alike if they are one by one.  Where an argument is
compiled, every parameter has one, and those before it have compiled. -/
lemma compileArguments_congruence (hC : Run.Congruence C) (h : CallsAlike T b c b' c')
    (hA : ∀ s, Passes b c s → ∀ parameter,
      (compileSource types onDefault c.name parameter s).Ensures (fun _ => A s) fun _ => True)
    (hsource : ∀ i p s s', Resolves b c → c.parameters[i]? = some p → Argument b i p s → T s s' →
      (∀ j q t, j < i → c.parameters[j]? = some q → Argument b j q t → A t) →
        C (compileSource types onDefault c.name p.name s)
          (compileSource types' onDefault' c.name p.name s')) :
    C (compileArguments onDefault (boundRuns types onDefault b) (some c))
      (compileArguments onDefault' (boundRuns types' onDefault' b') (some c')) := by
  have hfound := Resolution.argumentsFrom_alike (k := 0) h.length fun i p p' hp hp' => by
    rw [Nat.zero_add]
    exact h.arguments i p p' hp hp'
  rw [compileArguments_eq, compileArguments_eq]
  rcases hfound with ⟨mistake, hr, hr'⟩ | ⟨sources, sources', hr, hr', hsources⟩
  · -- neither call finds all its arguments, so that nothing is compiled
    rw [← h.name] at hr'
    rw [Resolution.resolve_of_error hr, Resolution.resolve_of_error hr', Run.mistaken_bind,
      Run.mistaken_bind]
    exact hC.refl _
  rw [← h.name] at hr'
  rw [Resolution.resolve_of_ok hr, Resolution.resolve_of_ok hr', h.warnUnused_eq, h.name,
    bind_assoc, bind_assoc]
  refine hC.bind (hC.refl _) fun _ => ?_
  rw [pure_bind, pure_bind]
  have hresolves : Resolves b c := Resolution.exists_argumentsFrom_iff_resolves.1 ⟨sources, hr⟩
  refine hC.each (A := fun e => A e.2) (compileOperands_traverses c.name)
    (compileOperands_traverses c.name) hsources.length_eq.symm ?_ ?_
  · rintro ⟨p, s⟩ he
    obtain ⟨i, hi⟩ := List.mem_iff_getElem?.1 he
    obtain ⟨hp, hs⟩ := (Resolution.getElem?_eq_some_iff hr).1 hi
    exact hA s ⟨i, p, hp, hs⟩ p.name
  · rintro i ⟨p, s⟩ ⟨p', s'⟩ hi hi' hbefore
    obtain ⟨hp, hs⟩ := (Resolution.getElem?_eq_some_iff hr).1 hi
    obtain ⟨hp', -⟩ := (Resolution.getElem?_eq_some_iff hr').1 hi'
    have hT : T s s' := by
      obtain ⟨hlt, hget⟩ := List.getElem?_eq_some_iff.1 hi
      obtain ⟨hlt', hget'⟩ := List.getElem?_eq_some_iff.1 hi'
      have hrelated := hsources.get hlt hlt'
      rw [List.get_eq_getElem, List.get_eq_getElem, hget, hget'] at hrelated
      exact hrelated
    rw [h.parameter_name hp hp']
    refine hsource i p s s' hresolves hp hs hT fun j q t hj hq ht => ?_
    have hmem : (q, t) ∈ sources.take i := by
      refine List.mem_iff_getElem?.2 ⟨j, ?_⟩
      rw [List.getElem?_take_of_lt hj]
      exact (Resolution.getElem?_eq_some_iff hr).2 ⟨hq, ht⟩
    exact hbefore (q, t) hmem

end Arguments

end Blueprint
