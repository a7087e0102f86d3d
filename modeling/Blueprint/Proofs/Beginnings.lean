/-
# What a compilation begins

`Registry.Comes` says by rules which definitions a compilation comes to.  The rules promise nothing
else: what the definition does shows in the whole compilation (`Comes.signals`), provided that the
chain of declared defaults that leads to it is not cut short.

What shows is left open.  A line that the definition writes stays in the log, and a failure that no
handler takes up ends the compilation; both are a `Run.Signals`.  All that is compiled before the
definition succeeds, as the rules ask, and what is compiled after it does not take the sign away, so
that it is enough to follow the one value that leads to the definition.

The first use is the line in the log that says that a definition is begun (`Comes.notes`).
-/
import Blueprint.Proofs.Agreement
import Blueprint.Proofs.Answers

namespace Blueprint

/-! ## Runs that give a sign -/

namespace Run

variable {α β γ : Type}

/-- Where a run gives the sign `C` while an entry is being worked on, so does what is put together
from it, as long as what comes before succeeds and what comes after is `R`. -/
structure Signals (R : ∀ {α : Type}, Run α → Prop)
    (C : ∀ {α : Type}, Option Value → Run α → Prop) : Prop where
  inherited : Inherited R
  first : ∀ {α β : Type} {x : Run α} {f : α → Run β} {entry : Option Value}, C entry x →
    (∀ a, R (f a)) → C entry (x >>= f)
  later : ∀ {α β : Type} {x : Run α} {f : α → Run β} {entry : Option Value}, x.Decides True →
    (∀ a, C entry (f a)) → C entry (x >>= f)
  within : ∀ {α : Type} {x : Run α} {name : Option Value}, C name x →
    ∀ entry, C entry (Run.within name x)
  recover : ∀ {α : Type} {x : Run α} {handler : Failure → Run α} {entry : Option Value},
    C entry x → (∀ failure, R (handler failure)) →
      (∀ failure, (∀ cause, failure ≠ .mismatch cause) → handler failure = Run.fail failure) →
        C entry (x.recover handler)

/-- The event is in the log after the run, whether the run fails or not. -/
def Notes (event : Event) (entry : Option Value) (x : Run α) : Prop :=
  ∀ world, event ∈ (x entry world).2.log

/-- The run leaves the event in the log if it was there before. -/
def Retains (event : Event) (x : Run α) : Prop :=
  Stays (fun world => event ∈ world.log) x

lemma InheritedFrom.retains (event : Event) : Inherited (Retains event) :=
  .stays (fun _ _ _ h => List.mem_append_left _ h) fun _ _ _ h => h

lemma Notes.note (event : Event) (entry : Option Value) : Notes event entry (Run.note event) :=
  fun world => List.mem_append_right world.log List.mem_cons_self

/-- What was written stays written. -/
lemma Signals.notes (event : Event) : Signals (Retains event) (Notes event) where
  inherited := .retains event
  first := by
    intro α β x f entry h hf world
    have hx := h world
    rw [bind_apply]
    rcases hw : x entry world with ⟨failure | a, w⟩ <;> rw [hw] at hx
    · exact hx
    · exact hf a entry w hx
  later := by
    intro α β x f entry hx hf world
    have hreturns := hx entry world
    rw [bind_apply]
    rcases hw : x entry world with ⟨failure | a, w⟩ <;> rw [hw] at hreturns
    · exact absurd trivial hreturns
    · exact hf a w
  within h := fun _ => h
  recover := by
    intro α x handler entry h hh _ world
    have hx := h world
    simp only [Run.recover_apply]
    rcases hw : x entry world with ⟨failure | a, w⟩ <;> rw [hw] at hx
    · exact hh failure entry w hx
    · exact hx

/-- The run fails in this way. -/
def FailsWith (failure : Failure) (entry : Option Value) (x : Run α) : Prop :=
  ∀ world, (x entry world).1 = .error failure

/-- A failure that no handler takes up ends all that it is a part of. -/
lemma Signals.failsWith (failure : Failure) (hne : ∀ cause, failure ≠ .mismatch cause) :
    Signals (fun _ => True) (FailsWith failure) where
  inherited := by constructor <;> intros <;> trivial
  first := by
    intro α β x f entry h _ world
    have hx := h world
    rcases hw : x entry world with ⟨failure' | a, w⟩ <;> rw [hw] at hx
    · rw [bind_of_error hw]
      exact congrArg Except.error (Except.error.inj hx)
    · exact absurd hx (by simp)
  later := by
    intro α β x f entry hx hf world
    have hreturns := hx entry world
    rw [bind_apply]
    rcases hw : x entry world with ⟨failure' | a, w⟩ <;> rw [hw] at hreturns
    · exact absurd trivial hreturns
    · exact hf a w
  within h := fun _ => h
  recover := by
    intro α x handler entry h _ hpass world
    have hx := h world
    simp only [Run.recover_apply]
    rcases hw : x entry world with ⟨failure' | a, w⟩ <;> rw [hw] at hx
    · obtain rfl : failure' = failure := Except.error.inj hx
      simp only [hpass failure' hne]
      rfl
    · exact absurd hx (by simp)

section Signals

variable {R : ∀ {α : Type}, Run α → Prop} {C : ∀ {α : Type}, Option Value → Run α → Prop}
  (hC : Signals R C)

include hC

/-- A traversal gives the sign that it gives for one of the items, if those before it succeed. -/
lemma Traverses.signals {run : List α → Run (List γ)} {one : α → Run γ} (h : Traverses run one)
    (hrest : ∀ items, R (run items)) {items : List α} {i : Nat} {a : α} {entry : Option Value}
    (hi : items[i]? = some a) (hbefore : ∀ b ∈ items.take i, (one b).Decides True)
    (ha : C entry (one a)) : C entry (run items) := by
  induction items generalizing i with
  | nil => exact absurd hi (by simp)
  | cons b rest ih =>
    rw [h.cons]
    cases i with
    | zero =>
      -- the first item gives the signal, what follows only has to be a run of the kind
      obtain rfl := Option.some.inj hi
      refine hC.first ha fun v => ?_
      exact hC.inherited.bind (hrest rest) fun vs => hC.inherited.pure _
    | succ i =>
      -- the first item returns, so the signal of a later one is still given
      rw [List.take_succ_cons, List.forall_mem_cons] at hbefore
      obtain ⟨hreturns, hbefore⟩ := hbefore
      refine hC.later hreturns fun v => hC.first (ih hi hbefore) fun vs => ?_
      exact hC.inherited.pure _

lemma blameDefault_signals {x : Run Value} {entry : Option Value} (parameter callable : Text)
    (h : C entry x) : C entry (blameDefault parameter callable x) := by
  refine hC.recover h ?_ ?_
  · intro failure
    cases failure with
    | mismatch cause => exact hC.inherited.mistaken _
    | _ => exact hC.inherited.fail _
  · intro failure hne
    cases failure with
    | mismatch cause => exact absurd rfl (hne cause)
    | _ => rfl

end Signals

end Run

namespace Registry

open Run

variable {registry : Registry} {n : Nat}

/-! ## What comes after -/

section Inherits

variable {R : ∀ {α : Type}, Run α → Prop} (hR : Inherited R)

include hR

lemma compileUpTo_inherits (registry : Registry) (n : Nat) (w : Value) :
    R (compileUpTo registry.introspector n w) :=
  compileUpTo_inherited hR n fun e _ => (registry.introspector_answers hR).serves e

lemma compileValue_inherits (registry : Registry) (n : Nat) (v : Value) :
    R (compileValue (some registry.introspector) (compileUpTo registry.introspector n) v) :=
  compileUpTo_inherits hR registry (n + 1) v

lemma compileItems_inherits (items : List Value) :
    R (compileItems (some registry.introspector) (compileUpTo registry.introspector n) items) :=
  compileItems_traverses.inherited hR fun v _ => compileValue_inherits hR registry n v

lemma compileEntries_inherits (entries : List (Value × Value)) :
    R (compileEntries (some registry.introspector) (compileUpTo registry.introspector n)
      entries) :=
  compileEntries_traverses.inherited hR fun e _ =>
    hR.bind (compileValue_inherits hR registry n e.2) fun v => hR.pure (e.1, v)

lemma compileSource_inherits (callable parameter : Text) (s : Source Value) :
    R (compileSource (some registry.introspector) (compileUpTo registry.introspector n)
      callable parameter s) := by
  rcases s with v | w
  · exact compileValue_inherits hR registry n v
  · exact blameDefault_inherited hR _ _ (compileUpTo_inherits hR registry n w)

lemma compileFields_inherits (className : Text) (fields : List FieldBinding) :
    R (compileFields (some registry.introspector) registry.introspector
      (compileUpTo registry.introspector n) className fields) :=
  compileFields_inherited hR (fun _ _ => (registry.introspector_answers hR).field _ _)
    fun b _ => compileValue_inherits hR registry n b.value

lemma compileMethods_inherits (className : Text) (methods : List Binding) :
    R (compileMethods (some registry.introspector) registry.introspector
      (compileUpTo registry.introspector n) className methods) :=
  compileMethods_inherited hR (fun _ _ => (registry.introspector_answers hR).method _ _)
    (fun _ _ e _ => compileValue_inherits hR registry n e.2)
    fun _ _ _ _ w _ => compileUpTo_inherits hR registry n w

lemma compileArguments_inherits (b : Option Binding) (callable : Option Callable) :
    R (compileArguments (compileUpTo registry.introspector n)
      (boundRuns (some registry.introspector) (compileUpTo registry.introspector n) b) callable) :=
  compileArguments_inherited hR b callable
    (fun _ _ e _ => compileValue_inherits hR registry n e.2)
    fun _ _ w _ => compileUpTo_inherits hR registry n w

end Inherits

/-! ## Calls and fields -/

/-- The compilation of a definition comes to a call: that of the constructor after the class was
checked, that of a method after the constructor, the fields and the calls before it. -/
inductive ComesToCall (registry : Registry) (d : Definition) :
    Option Binding → Callable → Prop where
  /-- The constructor. -/
  | construct {schema : TypeSchema} {c : Callable} (hn : IsNameable d.className)
      (hi : registry.Instantiates d.className schema) (hc : schema.constructor = some c) :
      ComesToCall registry d d.constructor c
  /-- A method. -/
  | invoke {schema : TypeSchema} {i : Nat} {b : Binding} {c : Callable}
      (hb : d.methods[i]? = some b)
      (hbefore : registry.Compilable (d.withBindings d.fields (d.methods.take i)))
      (hd : registry.find? d.className = some schema)
      (hc : Entries.get? b.method schema.methods = some c) : ComesToCall registry d (some b) c

/-- The compilation of a definition comes to a field after the constructor and the fields before
it. -/
def ComesToField (registry : Registry) (d : Definition) (b : FieldBinding) : Prop :=
  ∃ i, d.fields[i]? = some b ∧ registry.Compilable (d.withBindings (d.fields.take i) [])

/-- What an argument of a call comes to is come to from the definition. -/
lemma ComesToCall.comes {d e : Definition} {b : Option Binding} {c : Callable} {s : Source Value}
    (hcall : registry.ComesToCall d b c) (hs : registry.ComesToArgument b c s)
    (h : registry.Comes (Resolution.Source.value s) e) : registry.Comes (.definition d) e := by
  cases hcall with
  | construct hn hi hc => exact .construct hn hi hc hs h
  | invoke hb hbefore hd hc => exact .invoke hb hbefore hd hc hs h

lemma ComesToField.comes {d e : Definition} {b : FieldBinding} (hfield : registry.ComesToField d b)
    (ha : registry.Assignable (fieldOwner b.owner d.className) b.field)
    (h : registry.Comes b.value e) : registry.Comes (.definition d) e := by
  obtain ⟨i, hb, hbefore⟩ := hfield
  exact .assign hb hbefore ha h

/-! ## What succeeds before -/

lemma compileValue_returns (hn : registry.parameterCount < n) {v : Value}
    (h : registry.Accepts v) :
    (compileValue (some registry.introspector) (compileUpTo registry.introspector n) v).Decides
      True :=
  (compileValue_upTo_decides registry n v).congr
    (iff_true_intro (acceptsUpTo_of_accepts (Nat.lt_succ_of_lt hn) h))

lemma compileSource_returns (hn : registry.parameterCount < n) {callable parameter : Text}
    {s : Source Value} (h : registry.Accepts (Resolution.Source.value s)) :
    (compileSource (some registry.introspector) (compileUpTo registry.introspector n) callable
      parameter s).Decides True := by
  rcases s with v | w
  · exact compileValue_returns hn h
  · have hdefault : (compileUpTo registry.introspector n w).Decides (registry.AcceptsUpTo n w) :=
      compileUpTo_decides n w
    have haccepted := iff_true_intro (acceptsUpTo_of_accepts hn h)
    exact blameDefault_decides (hdefault.congr haccepted)

/-- What compiles is done with in the same number of steps for its defaults. -/
lemma Fits.parts {d : Definition} {schema : TypeSchema} (hn : registry.parameterCount < n)
    (h : registry.Fits d schema)
    (hs : ∀ s, Operand d schema s → registry.Accepts (Resolution.Source.value s)) :
    registry.PartsAccepted (registry.AcceptsUpTo n) d schema := by
  refine (fits_and_operands_iff h.nameable h.instantiates).2 ⟨h, ?_⟩
  rintro (v | w) hoperand
  · exact acceptsUpTo_of_accepts (Nat.lt_succ_of_lt hn) (hs (.bound v) hoperand)
  · exact acceptsUpTo_of_accepts hn (hs (.declared w) hoperand)

/-! ## Parts of a definition -/

section Parts

variable {R : ∀ {α : Type}, Run α → Prop} {C : ∀ {α : Type}, Option Value → Run α → Prop}
  (hC : Signals R C) {entry : Option Value}

include hC

/-- A call comes to one of its arguments after it has found all of them. -/
lemma compileArguments_signals (hn : registry.parameterCount < n) {b : Option Binding}
    {c : Callable} {s : Source Value} {i : Nat} {p : Parameter} (hresolves : Resolves b c)
    (hp : c.parameters[i]? = some p) (ha : Argument b i p s)
    (hbefore : ∀ j q t, j < i → c.parameters[j]? = some q → Argument b j q t →
      registry.Accepts (Resolution.Source.value t))
    (h : C entry (compileSource (some registry.introspector) (compileUpTo registry.introspector n)
      c.name p.name s)) :
    C entry (compileArguments (compileUpTo registry.introspector n)
      (boundRuns (some registry.introspector) (compileUpTo registry.introspector n) b)
      (some c)) := by
  obtain ⟨sources, hr⟩ := Resolution.exists_argumentsFrom_iff_resolves.2 hresolves
  rw [compileArguments_eq, Resolution.resolve_of_ok hr, bind_assoc]
  refine hC.later (Resolution.warnUnused_returns _ c) fun _ => ?_
  rw [pure_bind]
  refine (compileOperands_traverses c.name).signals hC ?_
    ((Resolution.getElem?_eq_some_iff hr).2 ⟨hp, ha⟩) ?_ h
  · intro sources
    exact (compileOperands_traverses c.name).inherited hC.inherited fun e _ =>
      compileSource_inherits hC.inherited _ _ _
  · rintro ⟨q, t⟩ hmem
    obtain ⟨j, hj, hget⟩ := List.mem_take_iff_getElem.1 hmem
    have hsource : sources[j]? = some (q, t) := List.getElem?_eq_some_iff.2 ⟨_, hget⟩
    obtain ⟨hq, ht⟩ := (Resolution.getElem?_eq_some_iff hr).1 hsource
    exact compileSource_returns hn (hbefore j q t (Nat.lt_min.1 hj).1 hq ht)

variable {d : Definition} {schema : TypeSchema}

/-- A definition gives the sign of its plan, once its class has passed the check. -/
lemma compileDefinition_signals (hn : IsNameable d.className)
    (hi : registry.Instantiates d.className schema)
    (h : C d.name.entry? (declaredPlan registry (compileUpTo registry.introspector n) d schema)) :
    C entry (compileDefinition (some registry.introspector) (compileUpTo registry.introspector n)
      d) := by
  have hcheck : (checkClass registry.introspector d.name d.className).Decides True :=
    (checkClass_decides d.name).congr (iff_true_intro ⟨hn, schema, hi⟩)
  rw [compileDefinition_eq, eagerPlan_eq_declaredPlan hi.1]
  refine hC.within (hC.later hcheck fun _ => ?_) _
  split
  · refine hC.later (.note _) fun _ => hC.later hcheck fun _ => hC.first h fun plan => ?_
    exact hC.inherited.pure _
  · exact h

lemma declaredPlan_signals_constructor
    (h : C entry (compileArguments (compileUpTo registry.introspector n)
      (boundRuns (some registry.introspector) (compileUpTo registry.introspector n) d.constructor)
      schema.constructor)) :
    C entry (declaredPlan registry (compileUpTo registry.introspector n) d schema) := by
  have hR := hC.inherited
  refine hC.later (.note _) fun _ => hC.first h fun arguments => ?_
  refine hR.bind (compileFields_inherits hR d.className d.fields) fun assignments => ?_
  exact hR.bind (compileMethods_inherits hR d.className d.methods) fun calls => hR.pure _

/-- The fields are reached if the constructor gets its arguments. -/
lemma declaredPlan_signals_fields
    (hconstructor : ∀ c, schema.constructor = some c →
      registry.CallAccepted (registry.AcceptsUpTo n) d.constructor c)
    (h : C entry (compileFields (some registry.introspector) registry.introspector
      (compileUpTo registry.introspector n) d.className d.fields)) :
    C entry (declaredPlan registry (compileUpTo registry.introspector n) d schema) := by
  have hR := hC.inherited
  have harguments := (compileConstructor_upTo_decides registry n d schema).congr
    (iff_true_intro hconstructor)
  refine hC.later (.note _) fun _ => hC.later harguments fun arguments =>
    hC.first h fun assignments => ?_
  exact hR.bind (compileMethods_inherits hR d.className d.methods) fun calls => hR.pure _

/-- The methods are reached if the fields are assigned. -/
lemma declaredPlan_signals_methods
    (hconstructor : ∀ c, schema.constructor = some c →
      registry.CallAccepted (registry.AcceptsUpTo n) d.constructor c)
    (hfields : ∀ b ∈ d.fields, registry.FieldAccepted (registry.AcceptsUpTo n) d.className b)
    (h : C entry (compileMethods (some registry.introspector) registry.introspector
      (compileUpTo registry.introspector n) d.className d.methods)) :
    C entry (declaredPlan registry (compileUpTo registry.introspector n) d schema) := by
  have harguments := (compileConstructor_upTo_decides registry n d schema).congr
    (iff_true_intro hconstructor)
  have hassignments := (compileFields_upTo_decides registry n d).congr (iff_true_intro hfields)
  refine hC.later (.note _) fun _ => hC.later harguments fun arguments => ?_
  exact hC.later hassignments fun assignments => hC.first h fun calls => hC.inherited.pure _

/-- The fields give the sign of one of them, after the fields before it. -/
lemma compileFields_signals {i : Nat} {b : FieldBinding} (hb : d.fields[i]? = some b)
    (hbefore : ∀ b' ∈ d.fields.take i,
      registry.FieldAccepted (registry.AcceptsUpTo n) d.className b')
    (h : C entry (checkField registry.introspector (fieldOwner b.owner d.className) b.field >>=
      fun _ => compileValue (some registry.introspector) (compileUpTo registry.introspector n)
        b.value >>= fun v => pure (Instruction.assign b.field v))) :
    C entry (compileFields (some registry.introspector) registry.introspector
      (compileUpTo registry.introspector n) d.className d.fields) := by
  refine (compileFields_traverses d.className).signals hC
    (compileFields_inherits hC.inherited d.className) hb ?_ h
  intro b' hb'
  have hdecides := compileField_upTo_decides registry n d.className b'
  exact hdecides.congr (iff_true_intro (hbefore b' hb'))

/-- The methods give the sign of a call, after the methods before it. -/
lemma compileMethods_signals (hf : registry.find? d.className = some schema) {i : Nat}
    {b : Binding} {c : Callable} (hb : d.methods[i]? = some b)
    (hbefore : ∀ b' ∈ d.methods.take i,
      registry.MethodAccepted (registry.AcceptsUpTo n) schema b')
    (hc : Entries.get? b.method schema.methods = some c)
    (h : C entry (compileArguments (compileUpTo registry.introspector n)
      (boundRuns (some registry.introspector) (compileUpTo registry.introspector n) (some b))
      (some c))) :
    C entry (compileMethods (some registry.introspector) registry.introspector
      (compileUpTo registry.introspector n) d.className d.methods) := by
  refine (compileMethods_traverses d.className).signals hC
    (compileMethods_inherits hC.inherited d.className) hb ?_ ?_
  · intro b' hb'
    have hdecides := compileMethod_upTo_decides hf n b'
    exact hdecides.congr (iff_true_intro (hbefore b' hb'))
  · rw [introspector_method hf, pure_bind, hc, compileCall]
    exact hC.first h fun vs => hC.inherited.pure _

/-- An argument gives the sign of its value; where it is a declared default, it takes one step. -/
lemma compileSource_signals {least : Nat} {s : Source Value} (hn : least < n)
    (h : ∀ n, least ≤ n → C entry (compileValue (some registry.introspector)
      (compileUpTo registry.introspector n) (Resolution.Source.value s)))
    (callable parameter : Text) :
    C entry (compileSource (some registry.introspector) (compileUpTo registry.introspector n)
      callable parameter s) := by
  rcases s with v | w
  · exact h n (Nat.le_of_lt hn)
  · obtain ⟨m, rfl⟩ : ∃ m, n = m + 1 := ⟨n - 1, by omega⟩
    have hdefault : C entry (compileUpTo registry.introspector (m + 1) w) :=
      h m (Nat.le_of_lt_succ hn)
    exact blameDefault_signals hC parameter callable hdefault

/-! ## What a definition comes to -/

/-- The call that a definition comes to gives its sign, if there are steps enough for what is
compiled before. -/
lemma ComesToCall.signals (hn : registry.parameterCount < n) {b : Option Binding} {c : Callable}
    (hcall : registry.ComesToCall d b c)
    (h : C d.name.entry? (compileArguments (compileUpTo registry.introspector n)
      (boundRuns (some registry.introspector) (compileUpTo registry.introspector n) b)
      (some c))) (entry : Option Value) :
    C entry (compileDefinition (some registry.introspector) (compileUpTo registry.introspector n)
      d) := by
  cases hcall with
  | construct hnameable hi hc =>
    rw [← hc] at h
    exact compileDefinition_signals hC hnameable hi (declaredPlan_signals_constructor hC h)
  | invoke hb hbefore hd hc =>
    obtain ⟨schema, hfits, hoperands⟩ := hbefore
    have hinstantiates : registry.Instantiates d.className schema := hfits.instantiates
    obtain rfl := Option.some.inj (hd.symm.trans hinstantiates.1)
    obtain ⟨hconstructor, hfields, hmethods⟩ := hfits.parts hn hoperands
    refine compileDefinition_signals hC hfits.nameable hinstantiates ?_
    have hcalls := compileMethods_signals hC hd hb hmethods hc h
    exact declaredPlan_signals_methods hC hconstructor hfields hcalls

lemma ComesToField.signals (hn : registry.parameterCount < n) {b : FieldBinding}
    (hfield : registry.ComesToField d b)
    (h : C d.name.entry? (checkField registry.introspector (fieldOwner b.owner d.className)
      b.field >>= fun _ => compileValue (some registry.introspector)
        (compileUpTo registry.introspector n) b.value >>= fun v =>
          pure (Instruction.assign b.field v))) (entry : Option Value) :
    C entry (compileDefinition (some registry.introspector) (compileUpTo registry.introspector n)
      d) := by
  obtain ⟨i, hb, schema, hfits, hoperands⟩ := hfield
  have hnameable : IsNameable d.className := hfits.nameable
  have hinstantiates : registry.Instantiates d.className schema := hfits.instantiates
  obtain ⟨hconstructor, hfields, -⟩ := hfits.parts hn hoperands
  refine compileDefinition_signals hC hnameable hinstantiates ?_
  exact declaredPlan_signals_fields hC hconstructor (compileFields_signals hC hb hfields h)

/-- An argument that a definition comes to gives the sign of its value. -/
lemma ComesToCall.signals_argument {least : Nat} (hn : registry.parameterCount < n)
    (hle : least < n) {b : Option Binding} {c : Callable} {s : Source Value}
    (hcall : registry.ComesToCall d b c) (hs : registry.ComesToArgument b c s)
    (h : ∀ n, least ≤ n → C d.name.entry? (compileValue (some registry.introspector)
      (compileUpTo registry.introspector n) (Resolution.Source.value s))) (entry : Option Value) :
    C entry (compileDefinition (some registry.introspector) (compileUpTo registry.introspector n)
      d) := by
  obtain ⟨hresolves, i, p, hp, ha, hbefore⟩ := hs
  refine hcall.signals hC hn ?_ entry
  have hsource := compileSource_signals hC hle h c.name p.name
  exact compileArguments_signals hC hn hresolves hp ha hbefore hsource

/-- What a definition shows, whatever is compiled around it, shows in every value whose compilation
comes to it, as long as there are enough steps for the declared defaults. -/
theorem Comes.signals {v : Value} {e : Definition} (h : registry.Comes v e) (enough : Nat)
    (hself : ∀ n, enough ≤ n → ∀ entry, C entry (compileDefinition (some registry.introspector)
      (compileUpTo registry.introspector n) e)) :
    ∃ least, ∀ n, least ≤ n → ∀ entry, C entry (compileValue (some registry.introspector)
      (compileUpTo registry.introspector n) v) := by
  have hR := hC.inherited
  induction h with
  | self d =>
    refine ⟨enough, fun n hle entry => ?_⟩
    rw [compileValue]
    exact hC.first (hself n hle entry) fun plan => hR.pure _
  | list hv hbefore h ih =>
    obtain ⟨least, hleast⟩ := ih hself
    refine ⟨max least (registry.parameterCount + 1), fun n hle entry => ?_⟩
    have hsign := compileItems_traverses.signals hC (compileItems_inherits hR) hv
      (fun u hu => compileValue_returns (by omega) (hbefore u hu)) (hleast n (by omega) entry)
    rw [compileValue]
    exact hC.first hsign fun vs => hR.pure _
  | tuple hv hbefore h ih =>
    obtain ⟨least, hleast⟩ := ih hself
    refine ⟨max least (registry.parameterCount + 1), fun n hle entry => ?_⟩
    have hsign := compileItems_traverses.signals hC (compileItems_inherits hR) hv
      (fun u hu => compileValue_returns (by omega) (hbefore u hu)) (hleast n (by omega) entry)
    rw [compileValue]
    exact hC.first hsign fun vs => hR.pure _
  | dict hx hbefore h ih =>
    obtain ⟨least, hleast⟩ := ih hself
    refine ⟨max least (registry.parameterCount + 1), fun n hle entry => ?_⟩
    have hsign := compileEntries_traverses.signals hC (compileEntries_inherits hR) hx
      (fun y hy => (compileValue_returns (by omega) (hbefore y hy)).map _)
      (hC.first (hleast n (by omega) entry) fun v => hR.pure _)
    rw [compileValue]
    exact hC.first hsign fun vs => hR.pure _
  | construct hnameable hinstantiates hc hs h ih =>
    obtain ⟨least, hleast⟩ := ih hself
    -- one step more than below the argument, which may be a declared default
    refine ⟨max (least + 1) (registry.parameterCount + 1), fun n hle entry => ?_⟩
    have hsign := ComesToCall.signals_argument hC (n := n) (by omega) (by omega)
      (.construct hnameable hinstantiates hc) hs (fun m hm => hleast m hm _) entry
    rw [compileValue]
    exact hC.first hsign fun plan => hR.pure _
  | assign hb hbefore ha h ih =>
    obtain ⟨least, hleast⟩ := ih hself
    refine ⟨max least (registry.parameterCount + 1), fun n hle entry => ?_⟩
    have hchecked : (checkField registry.introspector _ _).Decides True :=
      (checkField_decides _ _).congr (iff_true_intro ha)
    have hsign := ComesToField.signals hC (n := n) (by omega) ⟨_, hb, hbefore⟩
      (hC.later hchecked fun _ => hC.first (hleast n (by omega) _) fun v => hR.pure _) entry
    rw [compileValue]
    exact hC.first hsign fun plan => hR.pure _
  | invoke hb hbefore hd hc hs h ih =>
    obtain ⟨least, hleast⟩ := ih hself
    refine ⟨max (least + 1) (registry.parameterCount + 1), fun n hle entry => ?_⟩
    have hsign := ComesToCall.signals_argument hC (n := n) (by omega) (by omega)
      (.invoke hb hbefore hd hc) hs (fun m hm => hleast m hm _) entry
    rw [compileValue]
    exact hC.first hsign fun plan => hR.pure _

end Parts

/-! ## The line in the log -/

/-- The plan of a definition begins with the line that says so. -/
lemma declaredPlan_notes_self {d : Definition} {schema : TypeSchema} (entry : Option Value) :
    Notes (.compiling d.name d.className) entry
      (declaredPlan registry (compileUpTo registry.introspector n) d schema) := by
  have hC := Signals.notes (.compiling d.name d.className)
  have hR := hC.inherited
  refine hC.first (Notes.note _ entry) fun _ => ?_
  refine hR.bind (compileArguments_inherits hR d.constructor schema.constructor) fun arguments => ?_
  refine hR.bind (compileFields_inherits hR d.className d.fields) fun assignments => ?_
  exact hR.bind (compileMethods_inherits hR d.className d.methods) fun calls => hR.pure _

/-- What a compilation comes to is begun: where the class of the definition passes the check, the
log says that the definition is being compiled, as long as there are enough steps for the declared
defaults. -/
theorem Comes.notes {v : Value} {e : Definition} (h : registry.Comes v e)
    (hn : IsNameable e.className) (hi : ∃ schema, registry.Instantiates e.className schema) :
    ∃ least, ∀ n, least ≤ n → ∀ entry, Notes (.compiling e.name e.className) entry
      (compileValue (some registry.introspector) (compileUpTo registry.introspector n) v) := by
  obtain ⟨schema, hi⟩ := hi
  refine h.signals (Signals.notes _) 0 fun n _ entry => ?_
  exact compileDefinition_signals (Signals.notes _) hn hi (declaredPlan_notes_self _)

end Registry

end Blueprint
