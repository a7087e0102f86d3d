/-
# Registries that agree where it matters

A compilation asks a registry about the definitions it comes to, and about nothing else.
`Registry.Comes v e` says that the compilation of `v` comes to the definition `e`, that is, begins
to compile it: nested in the value, nested in a declared default that is relied on, or `v` itself.
A compilation stops at the first thing that does not compile; so the rules ask of everything before
`e` that it is accepted.  A definition that a compilation comes to in this sense is really begun, as
the log shows (`Comes.notes`).

Where a second registry answers the questions about each of these definitions in the same way
(`Registry.AgreesOn`), compiling against it comes to the same (`compile_eq_of_agreesAlong`).  The
definition may use far less than the registries declare: only what a call of it passes is compared,
not what else could have been passed.
-/
import Blueprint.Proofs.Congruence
import Blueprint.Proofs.Truncation

namespace Blueprint.Registry

/-! ## Where a compilation comes -/

/-- A call comes to an argument once every parameter has one and those before it have compiled. -/
def ComesToArgument (registry : Registry) (b : Option Binding) (c : Callable) (s : Source Value) :
    Prop :=
  Resolves b c ∧ ∃ i p, c.parameters[i]? = some p ∧ Argument b i p s ∧
    ∀ j q t, j < i → c.parameters[j]? = some q → Argument b j q t →
      registry.Accepts (Resolution.Source.value t)

/-- The compilation of the value begins to compile the definition. -/
inductive Comes (registry : Registry) : Value → Definition → Prop where
  /-- A definition itself. -/
  | self (d : Definition) : Comes registry (.definition d) d
  /-- An item of a list, after those before it. -/
  | list {items : List Value} {i : Nat} {v : Value} {e : Definition} (hv : items[i]? = some v)
      (hbefore : ∀ u ∈ items.take i, registry.Accepts u) (h : Comes registry v e) :
      Comes registry (.list items) e
  /-- An item of a tuple, after those before it. -/
  | tuple {items : List Value} {i : Nat} {v : Value} {e : Definition} (hv : items[i]? = some v)
      (hbefore : ∀ u ∈ items.take i, registry.Accepts u) (h : Comes registry v e) :
      Comes registry (.tuple items) e
  /-- A value of a dictionary, after those before it. -/
  | dict {entries : List (Value × Value)} {i : Nat} {x : Value × Value} {e : Definition}
      (hx : entries[i]? = some x) (hbefore : ∀ y ∈ entries.take i, registry.Accepts y.2)
      (h : Comes registry x.2 e) : Comes registry (.dict entries) e
  /-- An argument of the constructor, after the class was checked. -/
  | construct {d : Definition} {schema : TypeSchema} {c : Callable} {s : Source Value}
      {e : Definition} (hn : IsNameable d.className)
      (hi : registry.Instantiates d.className schema) (hc : schema.constructor = some c)
      (hs : registry.ComesToArgument d.constructor c s)
      (h : Comes registry (Resolution.Source.value s) e) : Comes registry (.definition d) e
  /-- The value of a field, after the constructor and the fields before it. -/
  | assign {d : Definition} {i : Nat} {b : FieldBinding} {e : Definition}
      (hb : d.fields[i]? = some b)
      (hbefore : registry.Compilable (d.withBindings (d.fields.take i) []))
      (ha : registry.Assignable (fieldOwner b.owner d.className) b.field)
      (h : Comes registry b.value e) : Comes registry (.definition d) e
  /-- An argument of a method, after the constructor, the fields and the calls before it. -/
  | invoke {d : Definition} {schema : TypeSchema} {i : Nat} {b : Binding} {c : Callable}
      {s : Source Value} {e : Definition} (hb : d.methods[i]? = some b)
      (hbefore : registry.Compilable (d.withBindings d.fields (d.methods.take i)))
      (hd : registry.find? d.className = some schema)
      (hc : Entries.get? b.method schema.methods = some c)
      (hs : registry.ComesToArgument (some b) c s)
      (h : Comes registry (Resolution.Source.value s) e) : Comes registry (.definition d) e

/-! ## Agreement -/

/-- The second registry answers every question about the definition in the same way, as far as its
calls can tell.  What comes of the checks need not be the same, but has to be related. -/
structure AgreesOn (C : ∀ {α : Type}, Run α → Run α → Prop) (registry registry' : Registry)
    (d : Definition) : Prop where
  /-- Its class passes the same check. -/
  check : ∀ name, C (checkClass registry.introspector name d.className)
    (checkClass registry'.introspector name d.className)
  /-- Its fields pass the same checks. -/
  assigns : ∀ b ∈ d.fields,
    C (checkField registry.introspector (fieldOwner b.owner d.className) b.field)
      (checkField registry'.introspector (fieldOwner b.owner d.className) b.field)
  /-- Where its class is declared in the first registry, the second declares it with callables that
  are called alike. -/
  declares : ∀ schema, registry.find? d.className = some schema →
    ∃ schema', registry'.find? d.className = some schema' ∧
      Option.Rel (fun c c' => CallsAlike Eq d.constructor c d.constructor c')
        schema.constructor schema'.constructor ∧
      ∀ b ∈ d.methods, Option.Rel (fun c c' => CallsAlike Eq (some b) c (some b) c')
        (Entries.get? b.method schema.methods) (Entries.get? b.method schema'.methods)

lemma callsAlike_refl (b : Option Binding) (c : Callable) : CallsAlike Eq b c b c where
  name := rfl
  names := rfl
  keywords := rfl
  unused := rfl
  arguments := by
    intro i p p' hp hp'
    obtain rfl : p = p' := Option.some.inj (hp.symm.trans hp')
    rcases Resolution.argument c.name p
      (Resolution.lookup (Resolution.boundValues b) i) with mistake | s
    · exact .error mistake
    · exact .ok rfl

lemma optionRel_callsAlike_refl (b : Option Binding) (callable : Option Callable) :
    Option.Rel (fun c c' => CallsAlike Eq b c b c') callable callable := by
  rcases callable with _ | c
  · exact .none
  · exact .some (callsAlike_refl b c)

lemma keywordsOf_eq_of_alike {b : Option Binding} {callable callable' : Option Callable}
    (h : Option.Rel (fun c c' => CallsAlike Eq b c b c') callable callable') :
    keywordsOf callable' = keywordsOf callable := by
  cases h with
  | none => rfl
  | some h => exact h.keywords

lemma AgreesOn.refl {C : ∀ {α : Type}, Run α → Run α → Prop} (hC : Run.Congruence C)
    (registry : Registry) (d : Definition) : AgreesOn C registry registry d where
  check _ := hC.refl _
  assigns _ _ := hC.refl _
  declares schema h :=
    ⟨schema, h, optionRel_callsAlike_refl _ _, fun _ _ => optionRel_callsAlike_refl _ _⟩

/-! ## Going through two compilations -/

lemma SourceAccepted.accepts {registry : Registry} {n : Nat} {s : Source Value}
    (h : registry.SourceAccepted (registry.AcceptsUpTo n) s) :
    registry.Accepts (Resolution.Source.value s) := by
  rcases s with v | w
  · exact accepts_of_acceptsUpTo (n + 1) v h
  · exact accepts_of_acceptsUpTo n w h

lemma compileValue_upTo_decides (registry : Registry) (n : Nat) (v : Value) :
    (compileValue (some registry.introspector) (compileUpTo registry.introspector n) v).Decides
      (registry.AcceptsGiven (registry.AcceptsUpTo n) v) :=
  compileValue_decides (compileUpTo_decides n) v

lemma compileSource_upTo_decides (registry : Registry) (n : Nat) (name parameter : Text)
    (s : Source Value) :
    (compileSource (some registry.introspector) (compileUpTo registry.introspector n) name
      parameter s).Decides (registry.SourceAccepted (registry.AcceptsUpTo n) s) :=
  compileSource_decides (compileUpTo_decides n) fun v _ => compileValue_upTo_decides registry n v

lemma compileConstructor_upTo_decides (registry : Registry) (n : Nat) (d : Definition)
    (schema : TypeSchema) :
    (compileArguments (compileUpTo registry.introspector n) (boundRuns (some registry.introspector)
      (compileUpTo registry.introspector n) d.constructor) schema.constructor).Decides
        (∀ c, schema.constructor = some c →
          registry.CallAccepted (registry.AcceptsUpTo n) d.constructor c) :=
  compileConstructor_decides d.constructor schema.constructor (compileUpTo_decides n)
    fun _ _ v _ => compileValue_upTo_decides registry n v

lemma compileField_upTo_decides (registry : Registry) (n : Nat) (className : Text)
    (b : FieldBinding) :
    (checkField registry.introspector (fieldOwner b.owner className) b.field >>= fun _ =>
      compileValue (some registry.introspector) (compileUpTo registry.introspector n) b.value >>=
        fun v => pure (Instruction.assign b.field v)).Decides
          (registry.FieldAccepted (registry.AcceptsUpTo n) className b) :=
  compileField_decides className (compileValue_upTo_decides registry n b.value)

lemma compileFields_upTo_decides (registry : Registry) (n : Nat) (d : Definition) :
    (compileFields (some registry.introspector) registry.introspector
      (compileUpTo registry.introspector n) d.className d.fields).Decides
        (∀ b ∈ d.fields, registry.FieldAccepted (registry.AcceptsUpTo n) d.className b) :=
  (compileFields_traverses d.className).decides fun b _ =>
    compileField_upTo_decides registry n d.className b

lemma compileMethod_upTo_decides {registry : Registry} {className : Text} {schema : TypeSchema}
    (hf : registry.find? className = some schema) (n : Nat) (b : Binding) :
    (registry.introspector.method className b.method >>=
      compileCall (some registry.introspector) (compileUpTo registry.introspector n) className
        b).Decides (registry.MethodAccepted (registry.AcceptsUpTo n) schema b) :=
  compileMethod_decides hf (compileUpTo_decides n) fun e _ =>
    compileValue_upTo_decides registry n e.2

/-- A definition is compilable if its parts compiled, in whatever number of steps. -/
lemma compilable_of_accepted {registry : Registry} {n : Nat} {d : Definition} {schema : TypeSchema}
    (hn : IsNameable d.className) (hi : registry.Instantiates d.className schema)
    (h : registry.PartsAccepted (registry.AcceptsUpTo n) d schema) : registry.Compilable d := by
  obtain ⟨hfits, hs⟩ := (fits_and_operands_iff hn hi).1 h
  exact ⟨schema, hfits, fun s h => (hs s h).accepts⟩

/-- The registries agree on every definition that the compilation of the value comes to. -/
def AgreesAlong (C : ∀ {α : Type}, Run α → Run α → Prop) (registry registry' : Registry)
    (v : Value) : Prop :=
  ∀ e, registry.Comes v e → AgreesOn C registry registry' e

section Parallel

variable {C : ∀ {α : Type}, Run α → Run α → Prop} {registry registry' : Registry} {n n' : Nat}

/-- Two compilations of the value are related. -/
def Matched (C : ∀ {α : Type}, Run α → Run α → Prop) (registry registry' : Registry) (n n' : Nat)
    (v : Value) : Prop :=
  C (compileValue (some registry.introspector) (compileUpTo registry.introspector n) v)
    (compileValue (some registry'.introspector) (compileUpTo registry'.introspector n') v)

variable (hC : Run.Congruence C)

include hC

lemma blameDefault_congruence {x y : Run Value} (parameter callable : Text) (h : C x y) :
    C (blameDefault parameter callable x) (blameDefault parameter callable y) := by
  refine hC.recover h ?_ ?_
  -- a mismatch is blamed on the default, every other failure is passed on
  · intro failure
    cases failure with
    | mismatch cause => exact Run.Ensures.mistaken fun _ => trivial
    | _ => exact Run.Ensures.fail trivial
  · intro failure hne
    cases failure with
    | mismatch cause => exact absurd rfl (hne cause)
    | _ => rfl

/-- Items are compiled alike where those that the compilation comes to are. -/
lemma compileItems_matched {items : List Value}
    (h : ∀ i v, items[i]? = some v → (∀ u ∈ items.take i, registry.Accepts u) →
      Matched C registry registry' n n' v) :
    C (compileItems (some registry.introspector) (compileUpTo registry.introspector n) items)
      (compileItems (some registry'.introspector) (compileUpTo registry'.introspector n')
        items) := by
  refine hC.each compileItems_traverses compileItems_traverses
    (A := fun v => registry.Accepts v) rfl ?_ ?_
  · intro v _
    have hdecides := compileValue_upTo_decides registry n v
    exact hdecides.mono (fun _ => accepts_of_acceptsUpTo (n + 1) v) fun _ _ => trivial
  · intro i v v' hv hv' hbefore
    obtain rfl : v = v' := Option.some.inj (hv.symm.trans hv')
    exact h i v hv hbefore

/-- Fields are assigned alike where the values that the compilation comes to are compiled alike. -/
lemma compileFields_matched {d : Definition} (hd : AgreesOn C registry registry' d)
    (h : ∀ i b, d.fields[i]? = some b →
      (∀ b' ∈ d.fields.take i, registry.FieldAccepted (registry.AcceptsUpTo n) d.className b') →
      registry.Assignable (fieldOwner b.owner d.className) b.field →
        Matched C registry registry' n n' b.value) :
    C (compileFields (some registry.introspector) registry.introspector
        (compileUpTo registry.introspector n) d.className d.fields)
      (compileFields (some registry'.introspector) registry'.introspector
        (compileUpTo registry'.introspector n') d.className d.fields) := by
  refine hC.each (compileFields_traverses d.className) (compileFields_traverses d.className)
    (A := registry.FieldAccepted (registry.AcceptsUpTo n) d.className) rfl ?_ ?_
  · intro b _
    have hdecides := compileField_upTo_decides registry n d.className b
    exact hdecides.mono (fun _ => id) fun _ _ => trivial
  · intro i b b' hb hb' hbefore
    obtain rfl : b = b' := Option.some.inj (hb.symm.trans hb')
    have hmem : b ∈ d.fields := List.mem_of_getElem? hb
    refine hC.bind_of (hd.assigns b hmem) fun _ hyields => ?_
    have hassignable := (checkField_decides _ _).of_yields hyields
    exact hC.bind (h i b hb hbefore hassignable) fun v => hC.refl _

variable (hdefault : ∀ w ∈ registry.defaults, AgreesAlong C registry registry' w →
  C (compileUpTo registry.introspector n w) (compileUpTo registry'.introspector n' w))

include hdefault

lemma compileSource_matched {s : Source Value} {callable parameter : Text}
    (hs : AgreesAlong C registry registry' (Resolution.Source.value s))
    (hdeclared : ∀ w, s = .declared w → w ∈ registry.defaults)
    (hbound : ∀ v, s = .bound v → Matched C registry registry' n n' v) :
    C (compileSource (some registry.introspector) (compileUpTo registry.introspector n) callable
        parameter s)
      (compileSource (some registry'.introspector) (compileUpTo registry'.introspector n') callable
        parameter s) := by
  rcases s with v | w
  · exact hbound v rfl
  · exact blameDefault_congruence hC _ _ (hdefault w (hdeclared w rfl) hs)

/-- The arguments of a call, where those that the compilation comes to are agreed upon. -/
lemma compileArguments_matched {b : Option Binding} {callable callable' : Option Callable}
    (h : Option.Rel (fun c c' => CallsAlike Eq b c b c') callable callable')
    (hdeclared : ∀ c w, callable = some c → Passes b c (.declared w) → w ∈ registry.defaults)
    (hs : ∀ c s, callable = some c → registry.ComesToArgument b c s →
      AgreesAlong C registry registry' (Resolution.Source.value s))
    (hbound : ∀ call v, b = some call → (∃ e ∈ call.arguments, e.2 = v) →
      AgreesAlong C registry registry' v → Matched C registry registry' n n' v) :
    C (compileArguments (compileUpTo registry.introspector n)
        (boundRuns (some registry.introspector) (compileUpTo registry.introspector n) b) callable)
      (compileArguments (compileUpTo registry'.introspector n')
        (boundRuns (some registry'.introspector) (compileUpTo registry'.introspector n') b)
        callable') := by
  cases h with
  | none =>
    rw [compileArguments, compileArguments]
    exact hC.refl _
  | @some c c' h =>
    refine compileArguments_congruence hC h
      (A := fun s => registry.Accepts (Resolution.Source.value s)) ?_ ?_
    · intro s _ parameter
      have hdecides := compileSource_upTo_decides registry n c.name parameter s
      exact hdecides.mono (fun _ => SourceAccepted.accepts) fun _ _ => trivial
    · rintro i p s _ hresolves hp ha rfl hbefore
      have hcomes : registry.ComesToArgument b c s := ⟨hresolves, i, p, hp, ha, hbefore⟩
      have hagrees := hs c s rfl hcomes
      refine compileSource_matched hC hdefault hagrees ?_ ?_
      · rintro w rfl
        exact hdeclared c w rfl ⟨i, p, hp, ha⟩
      · rintro v rfl
        obtain ⟨call, e, hcall, he, -, rfl⟩ := Passes.exists_mem ⟨i, p, hp, ha⟩
        exact hbound call e.2 hcall ⟨e, he, rfl⟩ hagrees

section Definition

variable {d : Definition} {schema schema' : TypeSchema}
  (hbound : ∀ v, d.Binds v → AgreesAlong C registry registry' v →
    Matched C registry registry' n n' v)

include hbound

lemma compileCall_matched {b : Binding} (hb : b ∈ d.methods) {callable callable' : Option Callable}
    (h : Option.Rel (fun c c' => CallsAlike Eq (some b) c (some b) c') callable callable')
    (hdeclared : ∀ c w, callable = some c → Passes (some b) c (.declared w) →
      w ∈ registry.defaults)
    (hs : ∀ c s, callable = some c → registry.ComesToArgument (some b) c s →
      AgreesAlong C registry registry' (Resolution.Source.value s)) :
    C (compileCall (some registry.introspector) (compileUpTo registry.introspector n) d.className b
        callable)
      (compileCall (some registry'.introspector) (compileUpTo registry'.introspector n')
        d.className b callable') := by
  have harguments := compileArguments_matched hC hdefault h hdeclared hs fun call v hcall hv => by
    obtain ⟨e, he, rfl⟩ := hv
    obtain rfl := Option.some.inj hcall
    exact hbound e.2 (.invoke hb he)
  cases h with
  | none =>
    rw [compileCall, compileCall]
    exact hC.refl _
  | some h =>
    rw [compileCall, compileCall, h.keywords]
    exact hC.bind harguments fun vs => hC.refl _

lemma compileMethods_matched (hf : registry.find? d.className = some schema)
    (hf' : registry'.find? d.className = some schema')
    (hmethods : ∀ b ∈ d.methods, Option.Rel (fun c c' => CallsAlike Eq (some b) c (some b) c')
      (Entries.get? b.method schema.methods) (Entries.get? b.method schema'.methods))
    (h : ∀ i b c s, d.methods[i]? = some b →
      (∀ b' ∈ d.methods.take i, registry.MethodAccepted (registry.AcceptsUpTo n) schema b') →
      Entries.get? b.method schema.methods = some c → registry.ComesToArgument (some b) c s →
        AgreesAlong C registry registry' (Resolution.Source.value s)) :
    C (compileMethods (some registry.introspector) registry.introspector
        (compileUpTo registry.introspector n) d.className d.methods)
      (compileMethods (some registry'.introspector) registry'.introspector
        (compileUpTo registry'.introspector n') d.className d.methods) := by
  refine hC.each (compileMethods_traverses d.className) (compileMethods_traverses d.className)
    (A := registry.MethodAccepted (registry.AcceptsUpTo n) schema) rfl ?_ ?_
  · intro b _
    exact (compileMethod_upTo_decides hf n b).mono (fun _ => id) fun _ _ => trivial
  · intro i b b' hb hb' hbefore
    obtain rfl : b = b' := Option.some.inj (hb.symm.trans hb')
    rw [introspector_method hf, introspector_method hf', pure_bind, pure_bind]
    have hmem : b ∈ d.methods := List.mem_of_getElem? hb
    refine compileCall_matched hC hdefault hbound hmem (hmethods b hmem) ?_ fun c s =>
      h i b c s hb hbefore
    exact fun c w hc hw => Operand.mem_defaults hf (.invoke hmem hc hw)

lemma eagerPlan_matched (hd : AgreesOn C registry registry' d)
    (h : AgreesAlong C registry registry' (.definition d)) (hn : IsNameable d.className)
    (hi : registry.Instantiates d.className schema) :
    C (eagerPlan registry.introspector (compileUpTo registry.introspector n) d)
      (eagerPlan registry'.introspector (compileUpTo registry'.introspector n') d) := by
  obtain ⟨schema', hf', hconstructor, hmethods⟩ := hd.declares schema hi.1
  rw [eagerPlan_eq_declaredPlan hi.1, eagerPlan_eq_declaredPlan hf', declaredPlan, declaredPlan]
  refine hC.bind (hC.refl _) fun _ => ?_
  have hmatched := compileArguments_matched hC hdefault hconstructor
    (fun c w hc hw => Operand.mem_defaults hi.1 (.construct hc hw))
    (fun c s hc hs e he => h e (.construct hn hi hc hs he)) (by
      rintro call v hcall ⟨e, he, rfl⟩
      exact hbound e.2 (.construct hcall he))
  refine hC.bind_of hmatched fun arguments harguments => ?_
  -- the fields are compared where the arguments of the constructor have compiled
  have hconstructed := (compileConstructor_upTo_decides registry n d schema).of_yields harguments
  refine hC.bind_of (compileFields_matched hC hd ?_) fun assignments hassignments => ?_
  · intro i b hb hbefore ha
    refine hbound b.value (.assign (List.mem_of_getElem? hb)) fun e he => ?_
    have hcompilable : registry.Compilable (d.withBindings (d.fields.take i) []) :=
      compilable_of_accepted hn hi ⟨hconstructed, hbefore, List.forall_mem_nil _⟩
    exact h e (.assign hb hcompilable ha he)
  -- and the methods where all fields have
  have hassigned := (compileFields_upTo_decides registry n d).of_yields hassignments
  refine hC.bind (compileMethods_matched hC hdefault hbound hi.1 hf' hmethods ?_) fun calls => ?_
  · intro i b c s hb hbefore hc hs e he
    have hcompilable : registry.Compilable (d.withBindings d.fields (d.methods.take i)) :=
      compilable_of_accepted hn hi ⟨hconstructed, hassigned, hbefore⟩
    exact h e (.invoke hb hcompilable hi.1 hc hs he)
  · rw [keywordsOf_eq_of_alike hconstructor]
    exact hC.refl _

lemma compileDefinition_matched (h : AgreesAlong C registry registry' (.definition d)) :
    C (compileDefinition (some registry.introspector) (compileUpTo registry.introspector n) d)
      (compileDefinition (some registry'.introspector) (compileUpTo registry'.introspector n')
        d) := by
  have hd : AgreesOn C registry registry' d := h d (.self d)
  rw [compileDefinition_eq, compileDefinition_eq]
  refine hC.within (hC.bind_of (hd.check d.name) fun _ hchecked => ?_) _
  -- nothing but the check is compared where the class does not pass it
  obtain ⟨hn, schema, hi⟩ := (checkClass_decides d.name).of_yields hchecked
  have hplan := eagerPlan_matched hC hdefault hbound hd h hn hi
  split
  · refine hC.bind (hC.refl _) fun _ => hC.bind (hd.check d.name) fun _ => ?_
    exact hC.bind hplan fun plan => hC.refl _
  · exact hplan

end Definition

/-- Where the registries agree along a value, its two compilations are related. -/
lemma matched_of_agreesAlong {v : Value} (h : AgreesAlong C registry registry' v) :
    Matched C registry registry' n n' v := by
  rw [Matched]
  -- what is come to from a part of the value is come to from the value
  induction v using Value.positionInduct with
  | literal v hv =>
    rw [compileValue_literal hv, compileValue_literal hv]
    exact hC.refl _
  | reference entry =>
    rw [compileValue, compileValue]
    exact hC.refl _
  | useDefault =>
    rw [compileValue, compileValue]
    exact hC.refl _
  | unsupported v hv =>
    rw [compileValue_unsupported hv, compileValue_unsupported hv]
    exact hC.refl _
  | list items ih =>
    rw [compileValue, compileValue]
    refine hC.bind (compileItems_matched hC fun i v hv hbefore => ?_) fun vs => hC.refl _
    exact ih v (List.mem_of_getElem? hv) fun e he => h e (.list hv hbefore he)
  | tuple items ih =>
    rw [compileValue, compileValue]
    refine hC.bind (compileItems_matched hC fun i v hv hbefore => ?_) fun vs => hC.refl _
    exact ih v (List.mem_of_getElem? hv) fun e he => h e (.tuple hv hbefore he)
  | dict entries ih =>
    rw [compileValue, compileValue]
    refine hC.bind (hC.each compileEntries_traverses compileEntries_traverses
      (A := fun x => registry.Accepts x.2) rfl ?_ ?_) fun vs => hC.refl _
    · intro x _
      have hdecides := (compileValue_upTo_decides registry n x.2).map (x.1, ·)
      exact hdecides.mono (fun _ => accepts_of_acceptsUpTo (n + 1) x.2) fun _ _ => trivial
    · intro i x x' hx hx' hbefore
      obtain rfl : x = x' := Option.some.inj (hx.symm.trans hx')
      have hvalue := ih x (List.mem_of_getElem? hx) fun e he => h e (.dict hx hbefore he)
      exact hC.bind hvalue fun v => hC.refl _
  | definition d ih =>
    rw [compileValue, compileValue]
    exact hC.bind (compileDefinition_matched hC hdefault ih h) fun plan => hC.refl _

end Parallel

variable {registry registry' : Registry}

/-- Registries that agree along a value compile it alike, in as many steps more as the second one
takes when it goes on where the first one has none left. -/
lemma compileUpTo_matched {C : ∀ {α : Type}, Run α → Run α → Prop} (hC : Run.Congruence C) {m : Nat}
    (hbase : ∀ w, C (compileUpTo registry.introspector 0 w)
      (compileUpTo registry'.introspector m w)) (n : Nat) {v : Value}
    (h : AgreesAlong C registry registry' v) :
    C (compileUpTo registry.introspector n v) (compileUpTo registry'.introspector (m + n) v) := by
  induction n generalizing v with
  | zero => exact hbase v
  | succ n ih => exact matched_of_agreesAlong hC (fun w _ hw => ih hw) h

/-- What a registry declares counts for a compilation only as far as it comes. -/
theorem compile_eq_of_agreesAlong {d : Definition}
    (hdepth : registry'.parameterCount = registry.parameterCount)
    (h : AgreesAlong (fun {α} (x y : Run α) => x = y) registry registry' (.definition d)) :
    compile registry'.introspector d = compile registry.introspector d := by
  have hdefault : ∀ w ∈ registry.defaults,
      AgreesAlong (fun {α} (x y : Run α) => x = y) registry registry' w →
      compileUpTo registry.introspector registry.introspector.depth w =
        compileUpTo registry'.introspector registry.introspector.depth w := by
    intro w _ hw
    have hzero : ∀ w, compileUpTo registry.introspector 0 w =
        compileUpTo registry'.introspector 0 w :=
      fun _ => rfl
    have hmatched := compileUpTo_matched Run.Congruence.eq hzero registry.introspector.depth hw
    rw [Nat.zero_add] at hmatched
    exact hmatched
  have hplan := compileDefinition_matched Run.Congruence.eq hdefault
    (fun v _ hv => matched_of_agreesAlong Run.Congruence.eq hdefault hv) h
  rw [compile, compile, hplan]
  have hdepths : registry'.introspector.depth = registry.introspector.depth :=
    congrArg (· + 1) hdepth
  rw [hdepths]

/-- More steps for the defaults change no result. -/
lemma compileUpTo_refines (registry : Registry) (n : Nat) (v : Value) :
    (compileUpTo registry.introspector n v).Refines
      (compileUpTo registry.introspector (n + 1) v) := by
  rw [Nat.add_comm]
  refine compileUpTo_matched Run.Congruence.refines ?_ n fun e _ =>
    .refl Run.Congruence.refines registry e
  intro w entry world a after h
  exact absurd (congrArg Prod.fst h) nofun

end Blueprint.Registry
