/-
# What a compilation fails of

Whatever is known about classes, a compilation that fails does so for one of five reasons: something
does not fit its class, a value that it comes to is no operand and cannot be quoted
(`Introspector.Unquotable`), more declared defaults follow one on another than there are steps for
(`Introspector.Chains`), a definition that it comes to has a mistake of its own (`OwnMistake`), or
an answer that is asked for such a definition fails (`Introspector.Refuses`).  Either way the
definition is the one that is being worked on at the time, so that a mistake bears its name.

A look up that fails gets through a compilation as it is.  So what the answers of an introspector
never fail of, and is none of the first four reasons, a compilation never fails of.  A pass over
many definitions fails of their mistakes, of any other failure of one of them, or of a name
(`Introspector.PassFaults`).
-/
import Blueprint.Proofs.Failing

namespace Blueprint

open Run

/-- A mistake that a compilation finds in a definition without being told. -/
inductive OwnMistake (name : Value) : Mistake → Prop where
  /-- Its class does not exist. -/
  | missingClass : OwnMistake name (.missingClass name)
  /-- Its class cannot be instantiated. -/
  | notInstantiable : OwnMistake name (.notInstantiable name)
  /-- A parameter gets no argument. -/
  | unboundParameter (parameter callable : Text) :
      OwnMistake name (.unboundParameter parameter callable)
  /-- A parameter gets no argument, and its default cannot be read. -/
  | unreadableDefault (parameter callable : Text) :
      OwnMistake name (.unreadableDefault parameter callable)
  /-- A default that it relies on does not fit. -/
  | uncompilableDefault (parameter callable : Text) (cause : Mismatch) :
      OwnMistake name (.uncompilableDefault parameter callable cause)

lemma Unresolved.ownMistake {b : Option Binding} {c : Callable} {cause : Mistake}
    (h : Unresolved b c cause) (name : Value) : OwnMistake name cause := by
  cases h with
  | unbound => exact .unboundParameter _ _
  | unreadable => exact .unreadableDefault _ _

/-- A mistake that an answer reports. -/
inductive AnswerMistake : Mistake → Prop where
  /-- The class does not exist. -/
  | unknownClass (path : Value) : AnswerMistake (.unknownClass path)
  /-- Its constructor cannot be read. -/
  | unreadableConstructor (className detail : Text) :
      AnswerMistake (.unreadableConstructor className detail)
  /-- A method of it cannot be read. -/
  | unreadableSignature (method className detail : Text) :
      AnswerMistake (.unreadableSignature method className detail)

namespace Introspector

variable {types : Introspector}

/-- An answer fails that is asked for to compile the definition. -/
inductive Refuses (types : Introspector) (d : Definition) (failure : Failure) : Prop where
  | exists? (h : Fails d.name.entry? failure (types.exists? d.className))
  | isInstantiable (h : Fails d.name.entry? failure (types.isInstantiable d.className))
  | constructor (h : Fails d.name.entry? failure (types.constructor d.className))
  | method {b : Binding} (hb : b ∈ d.methods)
      (h : Fails d.name.entry? failure (types.method d.className b.method))
  | field {b : FieldBinding} (hb : b ∈ d.fields)
      (h : Fails d.name.entry? failure (types.field (fieldOwner b.owner d.className) b.field))

/-- A call that the definition needs passes the declared default. -/
inductive Relies (types : Introspector) (d : Definition) (w : Value) : Prop where
  | construct {c : Callable} (hc : (types.constructor d.className).Yields (fun _ => True) (some c))
      (hw : Passes d.constructor c (.declared w))
  | invoke {b : Binding} {c : Callable} (hb : b ∈ d.methods)
      (hc : (types.method d.className b.method).Yields (fun _ => True) (some c))
      (hw : Passes (some b) c (.declared w))

/-- What a declared default comes to, the definition comes to that relies on it. -/
lemma Relies.reaches {d e : Definition} {w : Value} (hw : types.Relies d w)
    (he : types.Reaches (fun _ => True) w e) : types.Reaches (fun _ => True) (.definition d) e := by
  cases hw with
  | construct hc hw => exact .construct hc hw he
  | invoke hb hc hw => exact .invoke hb hc hw he

/-- The compilation of the value comes to one that is no operand and cannot be written, so that it
cannot be quoted either. -/
inductive Unquotable (types : Introspector) : Value → Prop where
  | self {v : Value} (h : v.isUnsupported = true) (hwritten : v.isWritten = false) :
      Unquotable types v
  | list {items : List Value} {v : Value} (hv : v ∈ items) (h : Unquotable types v) :
      Unquotable types (.list items)
  | tuple {items : List Value} {v : Value} (hv : v ∈ items) (h : Unquotable types v) :
      Unquotable types (.tuple items)
  | dict {entries : List (Value × Value)} {entry : Value × Value} (hentry : entry ∈ entries)
      (h : Unquotable types entry.2) : Unquotable types (.dict entries)
  | bound {d : Definition} {v : Value} (hv : d.Binds v) (h : Unquotable types v) :
      Unquotable types (.definition d)
  | declared {d : Definition} {w : Value} (hw : types.Relies d w) (h : Unquotable types w) :
      Unquotable types (.definition d)

/-- From the value on so many declared defaults follow one on another: a definition relies on each
of them that the compilation of the one before comes to. -/
inductive Chains (types : Introspector) : Nat → Value → Prop where
  | zero (v : Value) : Chains types 0 v
  | succ {n : Nat} {v w : Value} {e : Definition} (he : types.Reaches (fun _ => True) v e)
      (hw : types.Relies e w) (h : Chains types n w) : Chains types (n + 1) v

/-- What the compilation of a value fails of, with so many steps for declared defaults. -/
inductive Faults (types : Introspector) (n : Nat) (v : Value) : Failure → Prop where
  /-- Something does not fit. -/
  | mismatch (cause : Mismatch) : Faults types n v (.mismatch cause)
  /-- Something is no operand, and cannot be quoted. -/
  | unquotable (h : types.Unquotable v) : Faults types n v (.longNumber none)
  /-- More declared defaults follow one on another than there are steps. -/
  | circular (h : types.Chains n v) : Faults types n v .circularDefaults
  /-- A definition has a mistake of its own. -/
  | own {e : Definition} {cause : Mistake} (he : types.Reaches (fun _ => True) v e)
      (h : OwnMistake e.name cause) : Faults types n v (.mistake ⟨cause, e.name.entry?⟩)
  /-- An answer fails that is asked for a definition. -/
  | answer {e : Definition} {failure : Failure} (he : types.Reaches (fun _ => True) v e)
      (h : types.Refuses e failure) : Faults types n v failure

/-- What the compilation of a definition fails of. -/
abbrev CompileFaults (types : Introspector) (d : Definition) : Failure → Prop :=
  types.Faults (types.depth + 1) (.definition d)

section Faults

variable {n : Nat} {v w : Value} {failure : Failure}

lemma Faults.of_reaches (h : types.Faults n v failure)
    (hreaches : ∀ e, types.Reaches (fun _ => True) v e → types.Reaches (fun _ => True) w e)
    (hunquotable : types.Unquotable v → types.Unquotable w) : types.Faults n w failure := by
  cases h with
  | mismatch cause => exact .mismatch cause
  | unquotable h => exact .unquotable (hunquotable h)
  | circular h =>
    cases h with
    | zero => exact .circular (.zero w)
    | succ he hw h => exact .circular (.succ (hreaches _ he) hw h)
  | own he h => exact .own (hreaches _ he) h
  | answer he h => exact .answer (hreaches _ he) h

/-- A definition fails as a declared default does that it relies on, which takes a step. -/
lemma Faults.of_relies {d : Definition} (h : types.Faults n w failure) (hw : types.Relies d w) :
    types.Faults (n + 1) (.definition d) failure := by
  cases h with
  | mismatch cause => exact .mismatch cause
  | unquotable h => exact .unquotable (.declared hw h)
  | circular h => exact .circular (.succ (.self d) hw h)
  | own he h => exact .own (hw.reaches he) h
  | answer he h => exact .answer (hw.reaches he) h

end Faults

end Introspector

/-! ## Answers of a registry -/

section Registry

variable {registry : Registry} {current : Option Value} {failure : Failure}

lemma Registry.require_fault {path : Text} (h : Fails current failure (registry.require path)) :
    failure = .mistake ⟨.unknownClass (.str path), current⟩ := by
  unfold Registry.require at h
  split at h
  · exact absurd h Fails.not_pure
  · exact h.of_mistaken

/-- A registry misses a class, or is asked for an owner that cannot be looked up. -/
theorem Registry.refuses_fault {d : Definition} (h : registry.introspector.Refuses d failure) :
    (∃ cause, AnswerMistake cause ∧ failure = .mistake ⟨cause, d.name.entry?⟩) ∨
      ∃ typeName, failure = .unhashable typeName := by
  -- the two questions that a registry always answers, and those that need the type to be there
  cases h with
  | exists? h => exact absurd h Fails.not_pure
  | isInstantiable h => exact absurd h Fails.not_pure
  | constructor h => exact .inl ⟨_, .unknownClass _, require_fault h.of_map⟩
  | method _ h => exact .inl ⟨_, .unknownClass _, require_fault h.of_map⟩
  | field _ h =>
    have h := h.of_map
    unfold Registry.requireOwner at h
    split at h
    · exact .inl ⟨_, .unknownClass _, require_fault h⟩
    · split at h
      · exact .inr ⟨_, h.of_fail⟩
      · exact .inl ⟨_, .unknownClass _, h.of_mistaken⟩

end Registry

/-! ## The parts of a definition -/

section Definition

variable {types : Introspector} {onDefault : Value → Run Value} {d : Definition} {n : Nat}
  {failure : Failure}

lemma checkClass_faults (h : Fails d.name.entry? failure (checkClass types d.name d.className)) :
    types.Faults n (.definition d) failure := by
  rw [checkClass_eq] at h
  split at h
  · obtain rfl := h.of_fail
    exact .mismatch _
  rcases h.of_bind with h | ⟨instantiable, -, h⟩
  · exact .answer (.self d) (.isInstantiable h)
  cases instantiable with
  | true => exact absurd h Fails.not_pure
  | false =>
    rcases h.of_bind with h | ⟨found, -, h⟩
    · exact .answer (.self d) (.exists? h)
    cases found with
    | true =>
      obtain rfl := h.of_mistaken
      exact .own (.self d) .notInstantiable
    | false =>
      obtain rfl := h.of_mistaken
      exact .own (.self d) .missingClass

lemma checkField_faults {b : FieldBinding} (hb : b ∈ d.fields)
    (h : Fails d.name.entry? failure
      (checkField types (fieldOwner b.owner d.className) b.field)) :
    types.Faults n (.definition d) failure := by
  rcases h.of_bind with h | ⟨found, -, h⟩
  · exact .answer (.self d) (.field hb h)
  rcases found with _ | f
  · obtain rfl := h.of_fail
    exact .mismatch _
  dsimp only at h
  split at h
  · obtain rfl := h.of_fail
    exact .mismatch _
  split at h
  · obtain rfl := h.of_fail
    exact .mismatch _
  · exact absurd h Fails.not_pure

/-- A call fails for want of an argument, or where one of its arguments does. -/
lemma compileArguments_faults {b : Option Binding} {callable : Option Callable}
    (hbound : ∀ call, b = some call → ∀ e ∈ call.arguments, ∀ failure,
      Fails d.name.entry? failure (compileValue (some types) onDefault e.2) →
        types.Faults n (.definition d) failure)
    (hdeclared : ∀ c, callable = some c → ∀ w, Passes b c (.declared w) → ∀ failure,
      Fails d.name.entry? failure (onDefault w) → types.Faults n (.definition d) failure)
    (h : Fails d.name.entry? failure
      (compileArguments onDefault (boundRuns (some types) onDefault b) callable)) :
    types.Faults n (.definition d) failure := by
  rcases callable with _ | c
  · rw [compileArguments] at h
    exact absurd h Fails.not_pure
  rcases compileArguments_fails h with ⟨mistake, hunresolved, rfl⟩ |
    ⟨-, i, p, s, hp, ha, -, hfails⟩
  · exact .own (.self d) (hunresolved.ownMistake d.name)
  have hpasses : Passes b c s := ⟨i, p, hp, ha⟩
  rcases s with v | w
  · obtain ⟨call, e, hcall, he, -, rfl⟩ := hpasses.exists_mem
    exact hbound call hcall e he failure hfails
  · rcases Fails.of_blameDefault hfails with ⟨hdefault, -⟩ | ⟨cause, -, rfl⟩
    · exact hdeclared c rfl w hpasses failure hdefault
    · exact .own (.self d) (.uncompilableDefault p.name c.name cause)

/-- Behind the check of its class, a definition fails in an answer, in a call or in a field. -/
lemma eagerPlan_faults
    (hbound : ∀ v, d.Binds v → ∀ failure,
      Fails d.name.entry? failure (compileValue (some types) onDefault v) →
        types.Faults n (.definition d) failure)
    (hdeclared : ∀ w, types.Relies d w → ∀ failure,
      Fails d.name.entry? failure (onDefault w) → types.Faults n (.definition d) failure)
    (h : Fails d.name.entry? failure (eagerPlan types onDefault d)) :
    types.Faults n (.definition d) failure := by
  rcases h.of_bind with h | ⟨_, -, h⟩
  · exact absurd h Fails.not_note
  rcases h.of_bind with h | ⟨callable, hcallable, h⟩
  · exact .answer (.self d) (.constructor h)
  rcases h.of_bind with h | ⟨arguments, -, h⟩
  · refine compileArguments_faults (fun call hcall e he => hbound e.2 (.construct hcall he)) ?_ h
    rintro c rfl w hw
    exact hdeclared w (.construct hcallable hw)
  rcases h.of_bind with h | ⟨assignments, -, h⟩
  · obtain ⟨i, b, hi, -, h⟩ := Fails.of_traverses (compileFields_traverses d.className) h
    have hb : b ∈ d.fields := List.mem_of_getElem? hi
    rcases h.of_bind with h | ⟨_, -, h⟩
    · exact checkField_faults hb h
    · exact hbound b.value (.assign hb) failure h.of_map
  · obtain ⟨i, b, hi, -, h⟩ := Fails.of_traverses (compileMethods_traverses d.className) h.of_map
    have hb : b ∈ d.methods := List.mem_of_getElem? hi
    rcases h.of_bind with h | ⟨callable, hcallable, h⟩
    · exact .answer (.self d) (.method hb h)
    rcases callable with _ | c
    · obtain rfl := h.of_fail
      exact .mismatch _
    refine compileArguments_faults ?_ ?_ h.of_map
    · intro call hcall e he
      obtain rfl := Option.some.inj hcall
      exact hbound e.2 (.invoke hb he)
    · intro c' hc' w hw
      obtain rfl := Option.some.inj hc'
      exact hdeclared w (.invoke hb hcallable hw)

/-- A definition fails by itself, or in what it binds or relies on. -/
lemma compileDefinition_faults {entry : Option Value}
    (hbound : ∀ v, d.Binds v → ∀ failure,
      Fails d.name.entry? failure (compileValue (some types) onDefault v) →
        types.Faults n (.definition d) failure)
    (hdeclared : ∀ w, types.Relies d w → ∀ failure,
      Fails d.name.entry? failure (onDefault w) → types.Faults n (.definition d) failure)
    (h : Fails entry failure (compileDefinition (some types) onDefault d)) :
    types.Faults n (.definition d) failure := by
  rcases compileDefinition_fails h with hcheck | ⟨-, h⟩
  · exact checkClass_faults hcheck
  · exact eagerPlan_faults hbound hdeclared h

end Definition

/-! ## Values and whole compilations -/

section Compilation

variable {types : Introspector} {failure : Failure} {entry : Option Value}

lemma compileValue_faults {onDefault : Value → Run Value} {n : Nat}
    (hdefault : ∀ w entry failure, Fails entry failure (onDefault w) → types.Faults n w failure)
    {v : Value} (h : Fails entry failure (compileValue (some types) onDefault v)) :
    types.Faults (n + 1) v failure := by
  induction v using Value.positionInduct generalizing entry failure with
  | literal v hv =>
    rw [compileValue_literal hv] at h
    exact absurd h Fails.not_pure
  | reference entry =>
    rw [compileValue] at h
    exact absurd h Fails.not_pure
  | useDefault =>
    rw [compileValue] at h
    obtain rfl := h.of_fail
    exact .mismatch _
  | unsupported v hv =>
    rw [compileValue_unsupported hv] at h
    obtain rfl := h.of_fail
    unfold Value.refusal
    split
    · exact .mismatch _
    · rename_i hwritten
      exact .unquotable (.self hv (Bool.eq_false_iff.2 hwritten))
  | list items ih =>
    rw [compileValue] at h
    obtain ⟨i, v, hi, -, h⟩ := Fails.of_traverses compileItems_traverses h.of_map
    have hv : v ∈ items := List.mem_of_getElem? hi
    exact (ih v hv h).of_reaches (fun e he => .list hv he) (.list hv)
  | tuple items ih =>
    rw [compileValue] at h
    obtain ⟨i, v, hi, -, h⟩ := Fails.of_traverses compileItems_traverses h.of_map
    have hv : v ∈ items := List.mem_of_getElem? hi
    exact (ih v hv h).of_reaches (fun e he => .tuple hv he) (.tuple hv)
  | dict entries ih =>
    rw [compileValue] at h
    obtain ⟨i, x, hi, -, h⟩ := Fails.of_traverses compileEntries_traverses h.of_map
    have hx : x ∈ entries := List.mem_of_getElem? hi
    exact (ih x hx h.of_map).of_reaches (fun e he => .dict hx he) (.dict hx)
  | definition d ih =>
    rw [compileValue] at h
    refine compileDefinition_faults ?_ ?_ h.of_map
    · exact fun v hv failure h =>
        (ih v hv h).of_reaches (fun e he => .bound hv he) (.bound hv)
    · exact fun w hw failure h => (hdefault w _ failure h).of_relies hw

lemma compileUpTo_faults (n : Nat) {w : Value} (h : Fails entry failure (compileUpTo types n w)) :
    types.Faults n w failure := by
  induction n generalizing w entry failure with
  | zero =>
    obtain rfl := h.of_fail
    exact .circular (.zero w)
  | succ n ih => exact compileValue_faults (fun w entry failure hw => ih hw) h

/-- A compilation fails of something that does not fit, of a value that it comes to and cannot
quote, of a chain of defaults that is longer than the steps for them, of a mistake of a definition
that it comes to, which bears the name of that definition, or as an answer does that is asked for
such a definition. -/
theorem compile_faults {d : Definition} (h : Fails entry failure (compile types d)) :
    types.CompileFaults d failure := by
  have hvalue : Fails entry failure
      (compileValue (some types) (compileUpTo types types.depth) (.definition d)) := by
    rw [compileValue]
    obtain ⟨world, h⟩ := h
    refine ⟨world, congrArg Prod.fst (bind_of_error (w := (compile types d entry world).2) ?_)⟩
    rw [← h]
    rfl
  exact compileValue_faults (fun w entry failure hw => compileUpTo_faults _ hw) hvalue

end Compilation

/-! ## Passes -/

/-- What a pass over definitions fails of. -/
inductive Introspector.PassFaults (types : Introspector) (ds : List Definition) :
    Failure → Prop where
  /-- Some have mistakes. -/
  | mistakes {ms : List EntryMistake}
      (h : ∀ m ∈ ms, ∃ d ∈ ds, types.CompileFaults d (.mistake m)) :
      PassFaults types ds (.mistakes ms)
  /-- Two have one name. -/
  | duplicate (name : Value) : PassFaults types ds (.duplicateEntry name)
  /-- The name of one cannot be a key. -/
  | unhashable {d : Definition} {typeName : Text} (hd : d ∈ ds)
      (h : d.name.unhashable? = some typeName) : PassFaults types ds (.unhashable typeName)
  /-- One fails of anything but a mistake. -/
  | definition {d : Definition} {failure : Failure} (hd : d ∈ ds)
      (h : types.CompileFaults d failure) (hmistake : ∀ m, failure ≠ .mistake m) :
      PassFaults types ds failure

section Pass

variable {types : Introspector} {failure : Failure} {entry : Option Value}

/-- Here `ds` are all definitions, and `rest` those that are left. -/
lemma Pass.go_faults {ds rest : List Definition} {compiled : CompiledEntries}
    {ms : List EntryMistake}
    (hms : ∀ m ∈ ms, ∃ d ∈ ds, types.CompileFaults d (.mistake m)) (hrest : rest ⊆ ds)
    (h : Fails entry failure (go types compiled ms rest)) : types.PassFaults ds failure := by
  induction rest generalizing compiled ms with
  | nil =>
    rw [go] at h
    split at h
    · rcases h.of_bind with h | ⟨_, -, h⟩
      · exact absurd h Fails.not_note
      · exact absurd h Fails.not_pure
    · obtain rfl := h.of_fail
      exact .mistakes hms
  | cons d rest ih =>
    obtain ⟨hd, hrest⟩ := List.cons_subset.1 hrest
    rw [go] at h
    split at h
    · rename_i hname
      obtain rfl := h.of_fail
      exact .unhashable hd hname
    split at h
    · obtain rfl := h.of_fail
      exact .duplicate d.name
    rcases h.of_bind with h | ⟨result, ⟨entry', world, -, hresult⟩, h⟩
    · exact absurd h Fails.not_attempt
    have hfaults : ∀ failure, result = .error failure → types.CompileFaults d failure := by
      rintro failure rfl
      exact compile_faults ⟨world, Except.ok.inj hresult⟩
    -- the definition compiles, has a mistake to note, or ends the pass
    split at h
    · exact ih hms hrest h
    · rename_i m
      rcases h.of_bind with h | ⟨_, -, h⟩
      · exact absurd h Fails.not_note
      refine ih (fun m' hm' => ?_) hrest h
      rcases List.mem_append.1 hm' with hm' | hm'
      · exact hms m' hm'
      · obtain rfl := List.mem_singleton.1 hm'
        exact ⟨d, hd, hfaults _ rfl⟩
    · rename_i hmistake
      obtain rfl := h.of_fail
      exact .definition hd (hfaults _ rfl) hmistake

/-- A pass over definitions fails of the mistakes of some, or of anything else that one fails of, or
of a name. -/
theorem compileAll_faults {ds : List Definition} (h : Fails entry failure (compileAll types ds)) :
    types.PassFaults ds failure :=
  Pass.go_faults (fun _ hm => absurd hm List.not_mem_nil) (List.Subset.refl ds) h

end Pass

end Blueprint
