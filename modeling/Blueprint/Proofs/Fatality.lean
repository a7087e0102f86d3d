/-
# Where fatal failures come from

A mismatch ends a whole pass, so it matters who is to blame for it.  This file shows that a mismatch
always comes from the definition that is compiled: from something that the author wrote in it, or in
a definition nested in it, and never from a default that the registry declares.

The reason is that there is one way from a default to a definition, through `blameDefault`, and that
it turns every mismatch into a mistake.  So nothing is asked of the way defaults are compiled; the
induction is on the value that is bound, and the invariant is that a mismatch found in a value is
accounted for by what stands at the value positions of that value.
-/
import Blueprint.Proofs.Compilation

namespace Blueprint

/-! ## What an author wrote -/

/-- The value `x` stands at a value position of a value: it is the value, or stands in one of its
items or of the values under its keys. -/
inductive Value.Holds : Value → Value → Prop where
  /-- The value itself. -/
  | self (v : Value) : Holds v v
  /-- In an item of a list. -/
  | list {items : List Value} {v x : Value} (hv : v ∈ items) (h : Holds v x) :
      Holds (.list items) x
  /-- In an item of a tuple. -/
  | tuple {items : List Value} {v x : Value} (hv : v ∈ items) (h : Holds v x) :
      Holds (.tuple items) x
  /-- In the value under a key. -/
  | dict {entries : List (Value × Value)} {e : Value × Value} {x : Value} (he : e ∈ entries)
      (h : Holds e.2 x) : Holds (.dict entries) x

/-- The value is bound to a field, or to an argument and is not the mark for a declared default. -/
inductive Definition.BindsExplicitly (d : Definition) : Value → Prop where
  /-- An argument of the constructor. -/
  | construct {b : Binding} {e : Nat × Value} (hb : d.constructor = some b)
      (he : e ∈ b.arguments) (h : e.2 ≠ .useDefault) : BindsExplicitly d e.2
  /-- The value of a field. -/
  | assign {b : FieldBinding} (hb : b ∈ d.fields) : BindsExplicitly d b.value
  /-- An argument of a method. -/
  | invoke {b : Binding} {e : Nat × Value} (hb : b ∈ d.methods) (he : e ∈ b.arguments)
      (h : e.2 ≠ .useDefault) : BindsExplicitly d e.2

/-- The definition `e` is the definition `d`, or is nested in what `d` binds explicitly. -/
inductive Definition.Within : Definition → Definition → Prop where
  /-- The definition itself. -/
  | self (d : Definition) : Within d d
  /-- Somewhere within a definition that stands in a bound value. -/
  | nested {d d' e : Definition} {v : Value} (hv : d.BindsExplicitly v)
      (hd : v.Holds (.definition d')) (h : Within d' e) : Within d e

lemma Definition.BindsExplicitly.binds {d : Definition} {v : Value} (h : d.BindsExplicitly v) :
    d.Binds v := by
  cases h with
  | construct hb hx _ => exact .construct hb hx
  | assign hb => exact .assign hb
  | invoke hb hx _ => exact .invoke hb hx

/-- Induction over the definitions that a value holds, for all of them at once. -/
lemma Value.Holds.induct {P : Definition → Prop}
    (h : ∀ d, (∀ v e, d.BindsExplicitly v → v.Holds (.definition e) → P e) → P d) {v : Value}
    {e : Definition} (he : v.Holds (.definition e)) : P e := by
  induction v using Value.positionInduct generalizing e with
  | literal v hv => cases he <;> exact absurd hv (by simp [Value.isLiteral])
  | unsupported v hv => cases he <;> exact absurd hv (by simp [Value.isUnsupported])
  | reference entry => cases he
  | useDefault => cases he
  | list items ih =>
    cases he with
    | list hv he => exact ih _ hv he
  | tuple items ih =>
    cases he with
    | tuple hv he => exact ih _ hv he
  | dict entries ih =>
    cases he with
    | dict hx he => exact ih _ hx he
  | definition d ih =>
    -- a definition holds itself and nothing else; what it binds is left to the hypothesis
    cases he with
    | self => exact h d fun v e hv he => ih v hv.binds he

/-- Induction over definitions, with a hypothesis for those that stand in what a definition
binds. -/
theorem Definition.nestInduct {P : Definition → Prop}
    (h : ∀ d, (∀ v e, d.BindsExplicitly v → v.Holds (.definition e) → P e) → P d)
    (d : Definition) : P d :=
  Value.Holds.induct h (.self (.definition d))

/-- Something that an author wrote in a definition and that fits no class of the registry. -/
inductive Registry.Flaw (registry : Registry) (d : Definition) : Prop where
  /-- The path of the class goes through something anonymous. -/
  | anonymous {mark : Text} (hmark : mark ∈ anonymousMarks)
      (h : mark.points <:+: d.className.points)
  /-- A field is assigned that its owner does not have, or has for itself or for reading only. -/
  | field {b : FieldBinding} (hb : b ∈ d.fields)
      (h : registry.Withheld (fieldOwner b.owner d.className) b.field)
  /-- A method is called that the class does not have. -/
  | method {b : Binding} {schema : TypeSchema} (hb : b ∈ d.methods)
      (hs : registry.find? d.className = some schema)
      (h : Entries.get? b.method schema.methods = none)
  /-- A bound value holds the mark for a declared default. -/
  | misplacedDefault {v : Value} (hv : d.BindsExplicitly v) (h : v.Holds .useDefault)
  /-- A bound value holds a value of an unsupported type. -/
  | unsupported {v x : Value} (hv : d.BindsExplicitly v) (h : v.Holds x)
      (hx : x.isUnsupported = true)

/-- Something within the definition is flawed. -/
def Registry.Flawed (registry : Registry) (d : Definition) : Prop :=
  ∃ e, d.Within e ∧ registry.Flaw e

/-- Something at the value positions of a value is no operand, or is a flawed definition. -/
inductive Registry.FlawedIn (registry : Registry) (v : Value) : Prop where
  /-- The mark for a declared default. -/
  | misplacedDefault (h : v.Holds .useDefault)
  /-- A value of an unsupported type. -/
  | unsupported {x : Value} (h : v.Holds x) (hx : x.isUnsupported = true)
  /-- A flawed definition. -/
  | definition {d : Definition} (h : v.Holds (.definition d)) (hd : registry.Flawed d)

namespace Registry

variable {registry : Registry} {d : Definition}

lemma FlawedIn.of_holds {v x : Value} (hv : ∀ y, x.Holds y → v.Holds y)
    (h : registry.FlawedIn x) : registry.FlawedIn v := by
  cases h with
  | misplacedDefault h => exact .misplacedDefault (hv _ h)
  | unsupported h hx => exact .unsupported (hv _ h) hx
  | definition h hd => exact .definition (hv _ h) hd

/-- What is wrong with a value that a definition binds is wrong with the definition. -/
lemma Flawed.of_bound {v : Value} (hv : d.BindsExplicitly v) (h : registry.FlawedIn v) :
    registry.Flawed d := by
  cases h with
  | misplacedDefault h => exact ⟨d, .self d, .misplacedDefault hv h⟩
  | unsupported h hx => exact ⟨d, .self d, .unsupported hv h hx⟩
  | definition h hd =>
    obtain ⟨e, he, hf⟩ := hd
    exact ⟨e, .nested hv h he, hf⟩

/-! ## What a failure shows -/

/-- The failure is none of a pass, and if it is a mismatch then `A` accounts for it. -/
def Accounted (A : Prop) (failure : Failure) : Prop :=
  (∀ ms, failure ≠ .mistakes ms) ∧ ∀ cause, failure = .mismatch cause → A

lemma Accounted.mono {A B : Prop} {failure : Failure} (h : Accounted A failure) (hAB : A → B) :
    Accounted B failure :=
  ⟨h.1, fun cause hc => hAB (h.2 cause hc)⟩

lemma accounted_mistake {A : Prop} (m : EntryMistake) : Accounted A (.mistake m) :=
  ⟨fun _ => nofun, fun _ => nofun⟩

lemma accounted_mismatch {A : Prop} (h : A) (cause : Mismatch) : Accounted A (.mismatch cause) :=
  ⟨fun _ => nofun, fun _ _ => h⟩

lemma accounted_refusal {A : Prop} (h : A) (v : Value) : Accounted A v.refusal := by
  refine ⟨fun ms => ?_, fun _ _ => h⟩
  unfold Value.refusal
  split <;> exact nofun

variable {onDefault : Value → Run Value} {α : Type} {A B : Prop}

/-- A run whose failures are accounted for by `A`. -/
def Accounts (A : Prop) (x : Run α) : Prop :=
  x.Ensures (fun _ => True) (Accounted A)

lemma Accounts.mono {x : Run α} (h : Accounts A x) (hAB : A → B) : Accounts B x :=
  Run.Ensures.mono h (fun _ => id) fun _ hf => hf.mono hAB

lemma accounts_mistaken (cause : Mistake) : Accounts A (Run.mistaken cause : Run α) :=
  Run.Ensures.mistaken fun _ => accounted_mistake _

lemma accounts_traverses {β γ : Type} {run : List β → Run (List γ)} {one : β → Run γ}
    (ht : Run.Traverses run one) {items : List β} (h : ∀ a ∈ items, Accounts A (one a)) :
    Accounts A (run items) :=
  ht.ensures (P := fun _ _ => True) (R := fun _ _ => True) trivial (fun _ _ => trivial) h

lemma checkClass_ensures (name : Value) (className : Text) :
    (checkClass registry.introspector name className).Ensures
      (fun _ => ∃ schema, registry.Instantiates className schema)
      (Accounted (¬ IsNameable className)) := by
  rcases checkClass_cases registry name className with ⟨-, hi, h⟩ | ⟨-, cause, h⟩ | ⟨hn, h⟩ <;>
    rw [h]
  · exact Run.Ensures.pure hi
  · exact Run.Ensures.mistaken fun _ => accounted_mistake _
  · exact Run.Ensures.mismatched (accounted_mismatch hn _)

lemma checkField_accounts (owner : Value) (field : Text) :
    Accounts (registry.Withheld owner field)
      (checkField registry.introspector owner field) := by
  rcases checkField_cases registry owner field with
    ⟨-, h⟩ | ⟨-, ⟨cause, h⟩ | ⟨typeName, h⟩⟩ | ⟨hw, cause, h⟩ <;> rw [h]
  · exact Run.Ensures.pure trivial
  · exact accounts_mistaken cause
  · exact Run.Ensures.fail ⟨fun _ => nofun, fun _ => nofun⟩
  · exact Run.Ensures.mismatched (accounted_mismatch hw cause)

/-- However a default fails, no mismatch gets out of it. -/
lemma blameDefault_accounts {x : Run Value} {parameter callable : Text} (h : Accounts True x) :
    Accounts A (blameDefault parameter callable x) := by
  refine (blameDefault_ensures h).mono (fun _ => id) ?_
  rintro failure (⟨_, -, m, rfl⟩ | ⟨hf, hne⟩)
  · exact accounted_mistake m
  · exact ⟨hf.1, fun cause hc => absurd hc (hne cause)⟩

/-! ## The parts of a compilation -/

section Parts

variable (hod : ∀ w, Accounts True (onDefault w))

include hod

lemma compileSource_accounts {s : Source Value} {name parameter : Text}
    (h : ∀ v, s = .bound v →
      Accounts A (compileValue (some registry.introspector) onDefault v)) :
    Accounts A (compileSource (some registry.introspector) onDefault name parameter s) := by
  rcases s with v | w
  · exact h v rfl
  · exact blameDefault_accounts (hod w)

lemma compileArguments_accounts (b : Option Binding) (callable : Option Callable)
    (h : ∀ call, b = some call → ∀ e ∈ call.arguments, e.2 ≠ .useDefault →
      Accounts A (compileValue (some registry.introspector) onDefault e.2)) :
    Accounts A (compileArguments onDefault
      (boundRuns (some registry.introspector) onDefault b) callable) := by
  rcases callable with _ | c
  · exact Run.Ensures.pure trivial
  · refine compileArguments_ensures accounted_mistake ?_
    rintro s hs parameter
    refine compileSource_accounts hod ?_
    rintro v rfl
    obtain ⟨call, e, hb, he, hne, rfl⟩ := hs.exists_mem
    exact h call hb e he hne

omit hod in
lemma compileFields_accounts (className : Text) {fields : List FieldBinding}
    (hc : ∀ b ∈ fields, registry.Withheld (fieldOwner b.owner className) b.field → A)
    (h : ∀ b ∈ fields,
      Accounts A (compileValue (some registry.introspector) onDefault b.value)) :
    Accounts A (compileFields (some registry.introspector) registry.introspector onDefault
      className fields) := by
  refine accounts_traverses (compileFields_traverses className) fun b hb => ?_
  refine Run.Ensures.bind ((checkField_accounts _ _).mono (hc b hb)) fun _ _ => ?_
  exact Run.Ensures.bind (h b hb) fun v _ => Run.Ensures.pure trivial

lemma compileMethods_accounts {className : Text} {schema : TypeSchema} {methods : List Binding}
    (hs : registry.find? className = some schema)
    (hc : ∀ b ∈ methods, Entries.get? b.method schema.methods = none → A)
    (h : ∀ b ∈ methods, ∀ e ∈ b.arguments, e.2 ≠ .useDefault →
      Accounts A (compileValue (some registry.introspector) onDefault e.2)) :
    Accounts A (compileMethods (some registry.introspector) registry.introspector onDefault
      className methods) := by
  refine accounts_traverses (compileMethods_traverses className) fun b hb => ?_
  rw [introspector_method hs, pure_bind]
  -- a method that is not declared cannot be called, which is the flaw
  rcases hg : Entries.get? b.method schema.methods with _ | c
  · exact Run.Ensures.mismatched (accounted_mismatch (hc b hb hg) _)
  · refine Run.Ensures.bind (compileArguments_accounts hod (some b) (some c) ?_) fun vs _ =>
      Run.Ensures.pure trivial
    rintro call hcall
    obtain rfl := Option.some.inj hcall
    exact h b hb

omit hod in
lemma checkClass_accounts (d : Definition) :
    (checkClass registry.introspector d.name d.className).Ensures
      (fun _ => ∃ schema, registry.Instantiates d.className schema)
      (Accounted (registry.Flawed d)) := by
  refine (checkClass_ensures d.name d.className).mono (fun _ => id) fun _ hf => hf.mono ?_
  intro hn
  -- the flaw is the definition's own: its class name has a mark of what cannot be named
  obtain ⟨mark, hmark, h⟩ := exists_mark_of_not_nameable hn
  exact ⟨d, .self d, .anonymous hmark h⟩

lemma declaredPlan_accounts {schema : TypeSchema} (hs : registry.find? d.className = some schema)
    (h : ∀ v, d.Binds v → Accounts (registry.FlawedIn v)
      (compileValue (some registry.introspector) onDefault v)) :
    Accounts (registry.Flawed d) (declaredPlan registry onDefault d schema) := by
  refine Run.Ensures.bind (P := fun _ => True) (Run.Ensures.note _ trivial) fun _ _ => ?_
  -- what fails is the constructor, a field or a method, and each knows its flaw
  refine Run.Ensures.bind (compileArguments_accounts hod _ _ ?_) fun arguments _ => ?_
  · intro b hb e he hne
    exact (h e.2 (.construct hb he)).mono (Flawed.of_bound (.construct hb he hne))
  refine Run.Ensures.bind (compileFields_accounts _ ?_ ?_) fun assignments _ => ?_
  · exact fun b hb hw => ⟨d, .self d, .field hb hw⟩
  · exact fun b hb => (h b.value (.assign hb)).mono (Flawed.of_bound (.assign hb))
  refine Run.Ensures.bind (compileMethods_accounts hod hs ?_ ?_) fun calls _ => ?_
  · exact fun b hb hg => ⟨d, .self d, .method hb hs hg⟩
  · intro b hb e he hne
    exact (h e.2 (.invoke hb he)).mono (Flawed.of_bound (.invoke hb he hne))
  exact Run.Ensures.pure trivial

/-- A mismatch in the compilation of a definition comes from a flaw in it, if a mismatch in a value
that it binds comes from a flaw in that value. -/
lemma compileDefinition_accounts
    (h : ∀ v, d.Binds v → Accounts (registry.FlawedIn v)
      (compileValue (some registry.introspector) onDefault v)) :
    Accounts (registry.Flawed d)
      (compileDefinition (some registry.introspector) onDefault d) := by
  rw [compileDefinition_eq]
  refine Run.Ensures.within (Run.Ensures.bind (checkClass_accounts d) ?_) _
  rintro _ ⟨schema, hi⟩
  have hplan := declaredPlan_accounts hod hi.1 h
  rw [eagerPlan_eq_declaredPlan hi.1]
  split
  · -- the class of a lazy definition is checked twice
    refine Run.Ensures.bind (P := fun _ => True) (Run.Ensures.note _ trivial) fun _ _ => ?_
    refine Run.Ensures.bind (checkClass_accounts d) fun _ _ => ?_
    exact Run.Ensures.bind hplan fun _ _ => Run.Ensures.pure trivial
  · exact hplan

end Parts

/-! ## Whole compilations -/

/-- A mismatch in the compilation of a value comes from what stands at its value positions, whatever
becomes of the defaults that it relies on. -/
lemma compileValue_accounts (hod : ∀ w, Accounts True (onDefault w)) (v : Value) :
    Accounts (registry.FlawedIn v) (compileValue (some registry.introspector) onDefault v) := by
  induction v using Value.positionInduct with
  | literal v h =>
    rw [compileValue_literal h]
    exact Run.Ensures.pure trivial
  | reference entry =>
    rw [compileValue]
    exact Run.Ensures.pure trivial
  | useDefault =>
    rw [compileValue]
    exact Run.Ensures.mismatched (accounted_mismatch (.misplacedDefault (.self _)) _)
  | unsupported v h =>
    rw [compileValue_unsupported h]
    exact Run.Ensures.fail (accounted_refusal (.unsupported (.self v) h) v)
  | list items ih =>
    -- what is flawed in an item is flawed in the list, and so for the other collections
    have hitems := accounts_traverses compileItems_traverses fun v hv =>
      (ih v hv).mono (FlawedIn.of_holds fun _ => .list hv)
    rw [compileValue]
    exact Run.Ensures.bind hitems fun _ _ => Run.Ensures.pure trivial
  | tuple items ih =>
    have hitems := accounts_traverses compileItems_traverses fun v hv =>
      (ih v hv).mono (FlawedIn.of_holds fun _ => .tuple hv)
    rw [compileValue]
    exact Run.Ensures.bind hitems fun _ _ => Run.Ensures.pure trivial
  | dict entries ih =>
    rw [compileValue]
    refine Run.Ensures.bind (accounts_traverses compileEntries_traverses fun e he => ?_) fun _ _ =>
      Run.Ensures.pure trivial
    have hentry := (ih e he).mono (FlawedIn.of_holds fun _ => .dict he)
    exact Run.Ensures.bind hentry fun _ _ => Run.Ensures.pure trivial
  | definition d ih =>
    rw [compileValue]
    have hd := (compileDefinition_accounts hod ih).mono (FlawedIn.definition (.self _))
    exact Run.Ensures.bind hd fun _ _ => Run.Ensures.pure trivial

lemma compileUpTo_accounts (n : Nat) (w : Value) :
    Accounts True (compileUpTo registry.introspector n w) := by
  induction n generalizing w with
  | zero => exact Run.Ensures.fail ⟨fun _ => nofun, fun _ _ => trivial⟩
  | succ n ih => exact (compileValue_accounts ih w).mono fun _ => trivial

end Registry

/-- The failure ends a whole pass: it is one of a compilation, but no mistake of an entry. -/
def Failure.IsFatal (failure : Failure) : Prop :=
  failure.isCompilation = true ∧ ∀ m, failure ≠ .mistake m

namespace Registry

lemma Accounted.of_fatal {A : Prop} {failure : Failure} (h : Accounted A failure)
    (hf : failure.IsFatal) : A := by
  obtain ⟨hc, hm⟩ := hf
  -- of the failures of a compilation only mismatches are left, and those are accounted for
  cases failure with
  | mistake m => exact absurd rfl (hm m)
  | mistakes ms => exact absurd rfl (h.1 ms)
  | mismatch cause => exact h.2 cause rfl
  | _ => exact absurd hc (by simp [Failure.isCompilation])

lemma Accounts.of_fatal {α : Type} {A : Prop} {x : Run α} (h : Accounts A x)
    {entry : Option Value} {world : World} {failure : Failure}
    (he : (x entry world).1 = .error failure) (hf : failure.IsFatal) : A := by
  have hx := h entry world
  rw [he] at hx
  exact Accounted.of_fatal hx hf

/-- A fatal failure comes from a flaw that an author left in the definition, or in one nested in it;
a default that is declared by the registry, whatever its value, is never to blame for one. -/
theorem flawed_of_fatal (registry : Registry) (d : Definition) :
    (∀ entry world failure, (compile registry.introspector d entry world).1 = .error failure →
      failure.IsFatal → registry.Flawed d) ∧
    ∀ depth w parameter callable entry world failure,
      (blameDefault parameter callable (compileUpTo registry.introspector depth w) entry world).1 =
        .error failure → ¬ failure.IsFatal := by
  constructor
  · intro entry world failure he hf
    have hcompile : Accounts (registry.Flawed d) (compile registry.introspector d) :=
      compileDefinition_accounts (compileUpTo_accounts registry.introspector.depth) fun v _ =>
        compileValue_accounts (compileUpTo_accounts registry.introspector.depth) v
    exact hcompile.of_fatal he hf
  · intro depth w parameter callable entry world failure he hf
    have hdefault : Accounts False
        (blameDefault parameter callable (compileUpTo registry.introspector depth w)) :=
      blameDefault_accounts (compileUpTo_accounts depth w)
    exact hdefault.of_fatal he hf

/-- A definition whose field holds, in a list, a definition of a class that cannot be named. -/
def localInList : Definition :=
  let inner : Definition :=
    { name := .null, className := "app.f.<locals>.C", isLazy := true, constructor := none,
      fields := [], methods := [] }
  { name := .str "x", className := "app.A", isLazy := false, constructor := none,
    fields := [⟨"items", .list [.int 1, .definition inner], .null⟩], methods := [] }

/-- The class of an inner definition makes a whole definition fail; a default that is no value at
all only makes a mistake. -/
theorem localInList_flawed :
    oneClass.Flawed localInList ∧
      ∃ failure, (blameDefault "p" "__init__" (compileUpTo oneClass.introspector 2 .useDefault)
        (some (.str "x")) {}).1 = .error failure ∧ ¬ failure.IsFatal := by
  obtain ⟨hdefinition, hdefault⟩ := flawed_of_fatal oneClass localInList
  refine ⟨?_, .mistake ⟨.uncompilableDefault "p" "__init__" .misplacedDefault, some (.str "x")⟩,
    by rfl, ?_⟩
  · exact hdefinition none {} (.mismatch .anonymousClass) (by rfl) ⟨rfl, fun _ => nofun⟩
  · exact hdefault 2 .useDefault "p" "__init__" (some (.str "x")) {} _ (by rfl)

end Registry

end Blueprint
