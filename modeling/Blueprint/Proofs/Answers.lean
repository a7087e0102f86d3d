/-
# What a compilation inherits from the answers it gets

A compilation is put together from the answers to questions about classes, from failures and from
lines in the log.  So a property that passes from runs to what is put together from them holds of a
compilation as soon as it holds of every answer that is asked for, and with it of a whole pass: that
the outcome does not depend on the world, say, or that the files stay as they are.

Which answers are asked for can be told from the definitions that a compilation comes to: those that
stand in what is compiled, in what they bind, or in the declared defaults that their calls pass
(`Introspector.Reaches`).

The induction over value positions is made once, for `Run.InheritedFrom` properties in general.
-/
import Blueprint.Plan.Pass
import Blueprint.Proofs.Compilation
import Blueprint.Registry

namespace Blueprint

namespace Introspector

variable (types : Introspector)

/-- The property holds of every answer. -/
structure Answers (C : ∀ {α : Type}, Run α → Prop) : Prop where
  exists? : ∀ path, C (types.exists? path)
  isInstantiable : ∀ path, C (types.isInstantiable path)
  constructor : ∀ path, C (types.constructor path)
  method : ∀ path name, C (types.method path name)
  field : ∀ owner name, C (types.field owner name)

/-- The property holds of the answers that are asked for to compile the definition, without those
for other definitions within it. -/
structure Serves (C : ∀ {α : Type}, Run α → Prop) (d : Definition) : Prop where
  exists? : C (types.exists? d.className)
  isInstantiable : C (types.isInstantiable d.className)
  constructor : C (types.constructor d.className)
  method : ∀ b ∈ d.methods, C (types.method d.className b.method)
  field : ∀ b ∈ d.fields, C (types.field (fieldOwner b.owner d.className) b.field)

/-- The compilation of the value comes to the definition, with answers from the worlds `S`. -/
inductive Reaches (S : World → Prop) : Value → Definition → Prop where
  /-- The definition itself. -/
  | self (d : Definition) : Reaches S (.definition d) d
  /-- In an item of a list. -/
  | list {items : List Value} {v : Value} {e : Definition} (hv : v ∈ items) (h : Reaches S v e) :
      Reaches S (.list items) e
  /-- In an item of a tuple. -/
  | tuple {items : List Value} {v : Value} {e : Definition} (hv : v ∈ items) (h : Reaches S v e) :
      Reaches S (.tuple items) e
  /-- In a value of a dictionary. -/
  | dict {entries : List (Value × Value)} {entry : Value × Value} {e : Definition}
      (hentry : entry ∈ entries) (h : Reaches S entry.2 e) : Reaches S (.dict entries) e
  /-- In what a definition binds. -/
  | bound {d e : Definition} {v : Value} (hv : d.Binds v) (h : Reaches S v e) :
      Reaches S (.definition d) e
  /-- In a default that the call of the constructor passes. -/
  | construct {d e : Definition} {c : Callable} {w : Value}
      (hc : (types.constructor d.className).Yields S (some c))
      (hw : Passes d.constructor c (.declared w)) (h : Reaches S w e) : Reaches S (.definition d) e
  /-- In a default that the call of a method passes. -/
  | invoke {d e : Definition} {b : Binding} {c : Callable} {w : Value} (hb : b ∈ d.methods)
      (hc : (types.method d.className b.method).Yields S (some c))
      (hw : Passes (some b) c (.declared w)) (h : Reaches S w e) : Reaches S (.definition d) e

variable {types} {C : ∀ {α : Type}, Run α → Prop}

lemma Answers.serves (h : types.Answers C) (d : Definition) : types.Serves C d :=
  ⟨h.exists? _, h.isInstantiable _, h.constructor _, fun _ _ => h.method _ _,
    fun _ _ => h.field _ _⟩

end Introspector

section Inherited

variable {S : World → Prop} {C : ∀ {α : Type}, Run α → Prop} {types : Introspector}
  {onDefault : Value → Run Value} (hC : Run.InheritedFrom S C)

include hC

/-! ## The arguments of a call -/

lemma resolve_inherited (b : Option Binding) (c : Callable) :
    C (Resolution.resolve (Resolution.boundValues b) c) := by
  unfold Resolution.resolve
  split
  · exact hC.mistaken _
  · refine hC.bind ?_ fun _ => hC.pure _
    rw [Resolution.warnUnused_eq]
    split
    · exact hC.pure ()
    · exact hC.warn _

lemma blameDefault_inherited {x : Run Value} (parameter callable : Text) (h : C x) :
    C (blameDefault parameter callable x) := by
  refine hC.recover h fun failure => ?_
  cases failure with
  | mismatch cause => exact hC.mistaken _
  | _ => exact hC.fail _

lemma compileArguments_inherited (b : Option Binding) (callable : Option Callable)
    (h : ∀ call, b = some call → ∀ e ∈ call.arguments,
      C (compileValue (some types) onDefault e.2))
    (hod : ∀ c, callable = some c → ∀ w, Passes b c (.declared w) → C (onDefault w)) :
    C (compileArguments onDefault (boundRuns (some types) onDefault b) callable) := by
  rcases callable with _ | c
  · exact hC.pure []
  · rw [compileArguments_eq]
    -- a call passes nothing but what is bound and what is declared
    refine hC.bind_of (resolve_inherited hC b c) fun sources hsources => ?_
    have hmem := ((Resolution.resolve_ensures b c).of_yields hsources).2
    refine (compileOperands_traverses c.name).inherited hC fun e he => ?_
    have hp : Passes b c e.2 := (hmem e.2).1 ⟨e.1, he⟩
    rcases hs : e.2 with v | w
    · rw [hs] at hp
      obtain ⟨call, e', hb, he', -, rfl⟩ := hp.exists_mem
      exact h call hb e' he'
    · rw [hs] at hp
      exact blameDefault_inherited hC _ _ (hod c rfl w hp)

/-! ## Definitions -/

lemma checkClass_inherited (name : Value) {className : Text}
    (hinstantiable : C (types.isInstantiable className)) (hexists : C (types.exists? className)) :
    C (checkClass types name className) := by
  rw [checkClass_eq]
  split
  · exact hC.fail _
  -- whether the class is there at all is asked only where it cannot be instantiated
  refine hC.bind hinstantiable fun instantiable => ?_
  cases instantiable with
  | true => exact hC.pure ()
  | false =>
    refine hC.bind hexists fun found => ?_
    cases found with
    | true => exact hC.mistaken _
    | false => exact hC.mistaken _

lemma checkField_inherited {owner : Value} {field : Text} (h : C (types.field owner field)) :
    C (checkField types owner field) := by
  refine hC.bind h fun found => ?_
  rcases found with _ | f
  · exact hC.fail _
  · show C (if !f.isPublic then Run.mismatched (.fieldNotPublic f.owner f.name)
      else if !f.isWritable then Run.mismatched (.fieldReadOnly f.owner f.name) else pure ())
    split
    · exact hC.fail _
    · split
      · exact hC.fail _
      · exact hC.pure ()

lemma compileFields_inherited {className : Text} {fields : List FieldBinding}
    (ht : ∀ b ∈ fields, C (types.field (fieldOwner b.owner className) b.field))
    (h : ∀ b ∈ fields, C (compileValue (some types) onDefault b.value)) :
    C (compileFields (some types) types onDefault className fields) := by
  refine (compileFields_traverses className).inherited hC fun b hb => ?_
  refine hC.bind (checkField_inherited hC (ht b hb)) fun _ => ?_
  exact hC.bind (h b hb) fun v => hC.pure _

lemma compileMethods_inherited {className : Text} {methods : List Binding}
    (ht : ∀ b ∈ methods, C (types.method className b.method))
    (h : ∀ b ∈ methods, ∀ e ∈ b.arguments, C (compileValue (some types) onDefault e.2))
    (hod : ∀ b ∈ methods, ∀ c, (types.method className b.method).Yields S (some c) →
      ∀ w, Passes (some b) c (.declared w) → C (onDefault w)) :
    C (compileMethods (some types) types onDefault className methods) := by
  refine (compileMethods_traverses className).inherited hC fun b hb => ?_
  refine hC.bind_of (ht b hb) fun callable hcallable => ?_
  rcases callable with _ | c
  · exact hC.fail _
  refine hC.bind (compileArguments_inherited hC (some b) (some c) ?_ ?_) fun vs => hC.pure _
  · intro call hcall
    obtain rfl := Option.some.inj hcall
    exact h b hb
  · intro c' hc'
    obtain rfl := Option.some.inj hc'
    exact hod b hb c hcallable

section Definition

variable {d : Definition} (ht : types.Serves C d)
  (h : ∀ v, d.Binds v → C (compileValue (some types) onDefault v))
  (hconstruct : ∀ c, (types.constructor d.className).Yields S (some c) →
    ∀ w, Passes d.constructor c (.declared w) → C (onDefault w))
  (hinvoke : ∀ b ∈ d.methods, ∀ c, (types.method d.className b.method).Yields S (some c) →
    ∀ w, Passes (some b) c (.declared w) → C (onDefault w))

include ht h hconstruct hinvoke

lemma eagerPlan_inherited : C (eagerPlan types onDefault d) := by
  have hfields := compileFields_inherited hC ht.field fun b hb => h b.value (.assign hb)
  have hmethods := compileMethods_inherited hC ht.method
    (fun b hb e he => h e.2 (.invoke hb he)) hinvoke
  refine hC.bind (hC.note _) fun _ => ?_
  refine hC.bind_of ht.constructor fun callable hcallable => ?_
  -- the defaults of the constructor are those of the callable that was answered with
  have harguments := compileArguments_inherited hC d.constructor callable
    (fun call hb e he => h e.2 (.construct hb he)) (by
      rintro c rfl
      exact hconstruct c hcallable)
  refine hC.bind harguments fun arguments => ?_
  refine hC.bind hfields fun assignments => ?_
  exact hC.bind hmethods fun calls => hC.pure _

lemma compileDefinition_inherited : C (compileDefinition (some types) onDefault d) := by
  have hcheck : C (checkClass types d.name d.className) :=
    checkClass_inherited hC _ ht.isInstantiable ht.exists?
  have hplan : C (eagerPlan types onDefault d) := eagerPlan_inherited hC ht h hconstruct hinvoke
  rw [compileDefinition_eq]
  refine hC.within (hC.bind hcheck fun _ => ?_) _
  split
  · refine hC.bind (hC.note _) fun _ => hC.bind hcheck fun _ => ?_
    exact hC.bind hplan fun plan => hC.pure _
  · exact hplan

end Definition

/-! ## Values -/

/-- The property holds of the compilation of a value if it holds of the answers for every definition
that the compilation comes to, with what is done for defaults given. -/
lemma compileValue_inherited {v : Value} (h : ∀ e, types.Reaches S v e → types.Serves C e)
    (hod : ∀ w, (∀ e, types.Reaches S w e → types.Serves C e) → C (onDefault w)) :
    C (compileValue (some types) onDefault v) := by
  induction v using Value.positionInduct with
  | literal v hv =>
    rw [compileValue_literal hv]
    exact hC.pure v
  | reference entry =>
    rw [compileValue]
    exact hC.pure _
  | useDefault =>
    rw [compileValue]
    exact hC.fail _
  | unsupported v hv =>
    rw [compileValue_unsupported hv]
    exact hC.fail _
  | list items ih =>
    rw [compileValue]
    have hitems := compileItems_traverses.inherited hC fun v hv =>
      ih v hv fun e he => h e (.list hv he)
    exact hC.bind hitems fun vs => hC.pure _
  | tuple items ih =>
    rw [compileValue]
    have hitems := compileItems_traverses.inherited hC fun v hv =>
      ih v hv fun e he => h e (.tuple hv he)
    exact hC.bind hitems fun vs => hC.pure _
  | dict entries ih =>
    rw [compileValue]
    have hentries := compileEntries_traverses.inherited hC fun entry hentry =>
      hC.bind (ih entry hentry fun e he => h e (.dict hentry he)) fun v => hC.pure (entry.1, v)
    exact hC.bind hentries fun vs => hC.pure _
  | definition d ih =>
    rw [compileValue]
    have hplan := compileDefinition_inherited hC (h d (.self d))
      (fun v hv => ih v hv fun e he => h e (.bound hv he))
      (fun c hc w hw => hod w fun e he => h e (.construct hc hw he))
      fun b hb c hc w hw => hod w fun e he => h e (.invoke hb hc hw he)
    exact hC.bind hplan fun plan => hC.pure _

lemma compileUpTo_inherited (n : Nat) {w : Value}
    (h : ∀ e, types.Reaches S w e → types.Serves C e) : C (compileUpTo types n w) := by
  induction n generalizing w with
  | zero => exact hC.fail _
  | succ n ih => exact compileValue_inherited hC h fun w hw => ih hw

/-! ## Compilations and passes -/

/-- What holds of the answers for every definition that a compilation comes to holds of the
compilation. -/
theorem compile_inherited_of_reaches {d : Definition}
    (h : ∀ e, types.Reaches S (.definition d) e → types.Serves C e) : C (compile types d) := by
  have hod : ∀ w, (∀ e, types.Reaches S w e → types.Serves C e) →
      C (compileUpTo types types.depth w) :=
    fun w hw => compileUpTo_inherited hC types.depth hw
  refine compileDefinition_inherited hC (h d (.self d)) ?_ ?_ ?_
  · exact fun v hv => compileValue_inherited hC (fun e he => h e (.bound hv he)) hod
  · exact fun c hc w hw => hod w fun e he => h e (.construct hc hw he)
  · exact fun b hb c hc w hw => hod w fun e he => h e (.invoke hb hc hw he)

variable (ht : types.Answers C)

include ht

/-- What holds of every answer holds of the compilation of every definition. -/
theorem compile_inherited (d : Definition) : C (compile types d) :=
  compile_inherited_of_reaches hC fun e _ => ht.serves e

/-- What holds of every answer holds of the rest of a pass, whatever was compiled before. -/
lemma Pass.go_inherited (compiled : CompiledEntries) (mistakes : List EntryMistake)
    (ds : List Definition) : C (Pass.go types compiled mistakes ds) := by
  induction ds generalizing compiled mistakes with
  | nil =>
    rw [Pass.go]
    split
    · exact hC.bind (hC.note _) fun _ => hC.pure _
    · exact hC.fail _
  | cons d rest ih =>
    have hattempt := hC.attempt (compile_inherited hC ht d)
    rw [Pass.go]
    split
    · exact hC.fail _
    · split
      · exact hC.fail _
      · -- a mistake is kept for the report, every other failure ends the pass
        refine hC.bind hattempt fun outcome => ?_
        rcases outcome with failure | plan
        · cases failure with
          | mistake m => exact hC.bind (hC.note _) fun _ => ih _ _
          | _ => exact hC.fail _
        · exact ih _ _

/-- What holds of every answer holds of a whole pass. -/
theorem compileAll_inherited (ds : List Definition) : C (compileAll types ds) :=
  Pass.go_inherited hC ht [] [] ds

end Inherited

/-! ## The answers of a registry -/

/-- The answers of a registry are results and mistakes, read off its declarations. -/
lemma Registry.introspector_answers {C : ∀ {α : Type}, Run α → Prop} (hC : Run.Inherited C)
    (registry : Registry) : registry.introspector.Answers C := by
  have hrequire : ∀ name, C (registry.require name) := by
    intro name
    unfold Registry.require
    split
    · exact hC.pure _
    · exact hC.mistaken _
  refine ⟨fun _ => hC.pure _, fun _ => hC.pure _, fun path => ?_, fun path name => ?_,
    fun owner name => ?_⟩
  · exact hC.bind (hrequire path) fun _ => hC.pure _
  · exact hC.bind (hrequire path) fun _ => hC.pure _
  · -- an owner may also be no text at all, or one that cannot be a key
    refine hC.bind ?_ fun _ => hC.pure _
    unfold Registry.requireOwner
    split
    · exact hrequire _
    · split
      · exact hC.fail _
      · exact hC.mistaken _

end Blueprint
