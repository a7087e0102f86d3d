/-
# The arguments of a call

`Resolution.argumentsFrom` finds the argument of every parameter at once; here each parameter is
looked at on its own.  `Argument b i p s` says that a call with the bindings `b` passes `s` for the
parameter `p` at position `i`: the value bound there, or else the declared default.

The compiler resolves a call whose bound values are still to be compiled.  `compileArguments_eq`
puts resolution first: the arguments are found among the values, and then each of them is compiled.
-/
import Blueprint.Plan.Arguments
import Blueprint.Plan.Compile
import Blueprint.Proofs.Entries
import Blueprint.Proofs.Run

namespace Blueprint

/-! ## One parameter -/

/-- What a call passes for the parameter `p` at the position `i`. -/
inductive Argument (b : Option Binding) (i : Nat) (p : Parameter) : Source Value → Prop where
  /-- A value that is bound to the position and is not the mark for a declared default. -/
  | bound {call : Binding} (hb : b = some call) (h : call.get i ≠ .useDefault) :
      Argument b i p (.bound (call.get i))
  /-- The declared default, where no value is bound. -/
  | declared {w : Value} (hb : ∀ call, b = some call → call.get i = .useDefault)
      (h : p.default = .declared w) : Argument b i p (.declared w)

/-- Every parameter of the callable gets an argument. -/
def Resolves (b : Option Binding) (c : Callable) : Prop :=
  ∀ i p, c.parameters[i]? = some p → ∃ s, Argument b i p s

/-- The call passes the argument for one of the parameters. -/
def Passes (b : Option Binding) (c : Callable) (s : Source Value) : Prop :=
  ∃ i p, c.parameters[i]? = some p ∧ Argument b i p s

lemma Binding.mem_of_get {call : Binding} {i : Nat} (h : call.get i ≠ .useDefault) :
    (i, call.get i) ∈ call.arguments := by
  rcases hg : Entries.get? i call.arguments with _ | v
  · exact absurd (by rw [Binding.get, hg]; rfl) h
  · have hv : call.get i = v := by rw [Binding.get, hg]; rfl
    rw [hv]
    exact Entries.mem_of_get? hg

/-- A bound value that a call passes is one of its arguments. -/
lemma Passes.exists_mem {b : Option Binding} {c : Callable} {v : Value}
    (h : Passes b c (.bound v)) :
    ∃ call e, b = some call ∧ e ∈ call.arguments ∧ e.2 ≠ .useDefault ∧ e.2 = v := by
  obtain ⟨i, p, -, ha⟩ := h
  cases ha with
  | @bound call hb hne => exact ⟨call, _, hb, Binding.mem_of_get hne, hne, rfl⟩

lemma Value.explicit?_eq_some_iff {v w : Value} :
    v.explicit? = some w ↔ v ≠ .useDefault ∧ v = w := by
  cases v <;> simp [Value.explicit?]

lemma Value.explicit?_eq_none_iff {v : Value} : v.explicit? = none ↔ v = .useDefault := by
  cases v <;> simp [Value.explicit?]

namespace Resolution

lemma lookup_boundValues (b : Option Binding) (i : Nat) :
    lookup (boundValues b) i = b.bind fun call => (call.get i).explicit? := by
  cases b with
  | none => rfl
  | some call =>
    obtain ⟨method, arguments⟩ := call
    simp only [boundValues, lookup, Binding.get, Option.bind_some]
    induction arguments with
    | nil => rfl
    | cons entry rest ih =>
      obtain ⟨position, v⟩ := entry
      simp only [List.map_cons, Entries.get?]
      by_cases h : (position == i) = true
      · rw [if_pos h, if_pos h]
        rfl
      · rw [if_neg h, if_neg h]
        exact ih

lemma argument_eq_ok_iff {name : Text} {p : Parameter} {b : Option Binding} {i : Nat}
    {s : Source Value} :
    argument name p (lookup (boundValues b) i) = .ok s ↔ Argument b i p s := by
  rw [lookup_boundValues]
  constructor
  · intro h
    rcases hb : b.bind fun call => (call.get i).explicit? with _ | v
    -- nothing is bound there, so it is up to the default
    · have hnone : ∀ call, b = some call → call.get i = .useDefault := by
        rintro call rfl
        exact Value.explicit?_eq_none_iff.1 hb
      rw [hb] at h
      rcases hp : p.default with _ | w | _ <;> simp only [argument, hp] at h
      · exact absurd h (by simp)
      · obtain rfl : Source.declared w = s := Except.ok.inj h
        exact .declared hnone hp
      · exact absurd h (by simp)
    · rw [hb] at h
      obtain rfl : Source.bound v = s := Except.ok.inj h
      obtain ⟨call, rfl, hv⟩ := Option.bind_eq_some_iff.1 hb
      obtain ⟨hne, rfl⟩ := Value.explicit?_eq_some_iff.1 hv
      exact .bound rfl hne
  · intro h
    cases h with
    | bound hb h =>
      subst hb
      rw [Option.bind_some, Value.explicit?_eq_some_iff.2 ⟨h, rfl⟩]
      rfl
    | @declared w hb h =>
      have hnone : (b.bind fun call => (call.get i).explicit?) = none := by
        rcases b with _ | call
        · rfl
        · exact Value.explicit?_eq_none_iff.2 (hb call rfl)
      rw [hnone]
      simp only [argument, h]

/-! ## All parameters -/

variable {α : Type} {name : Text} {bound : Nat → Option α}

/-- The parameters are resolved exactly if each of them has an argument. -/
lemma exists_argumentsFrom_iff {k : Nat} {ps : List Parameter} :
    (∃ sources, argumentsFrom name bound k ps = .ok sources) ↔
      ∀ i p, ps[i]? = some p → ∃ s, argument name p (bound (k + i)) = .ok s := by
  induction ps generalizing k with
  | nil => simp [argumentsFrom]
  | cons q rest ih =>
    simp only [argumentsFrom]
    rcases hq : argument name q (bound k) with mistake | source
    · constructor
      · rintro ⟨sources, h⟩
        exact absurd h (by simp)
      · intro h
        obtain ⟨s, hs⟩ := h 0 q rfl
        rw [Nat.add_zero, hq] at hs
        exact absurd hs (by simp)
    · have hmap : (∃ sources, (argumentsFrom name bound (k + 1) rest).map ((q, source) :: ·) =
          .ok sources) ↔ ∃ sources, argumentsFrom name bound (k + 1) rest = .ok sources := by
        rcases argumentsFrom name bound (k + 1) rest with mistake | sources <;>
          simp [Except.map]
      rw [hmap, ih]
      constructor
      · intro h i p hp
        cases i with
        | zero =>
          obtain rfl : q = p := Option.some.inj hp
          exact ⟨source, hq⟩
        | succ i =>
          obtain ⟨s, hs⟩ := h i p hp
          exact ⟨s, by rw [show k + (i + 1) = k + 1 + i by omega]; exact hs⟩
      · intro h i p hp
        obtain ⟨s, hs⟩ := h (i + 1) p hp
        exact ⟨s, by rw [show k + 1 + i = k + (i + 1) by omega]; exact hs⟩

/-- The resolved arguments are those of the parameters. -/
lemma mem_argumentsFrom_iff {k : Nat} {ps : List Parameter} {sources : List (Parameter × Source α)}
    (h : argumentsFrom name bound k ps = .ok sources) (p : Parameter) (s : Source α) :
    (p, s) ∈ sources ↔ ∃ i, ps[i]? = some p ∧ argument name p (bound (k + i)) = .ok s := by
  induction ps generalizing k sources with
  | nil =>
    obtain rfl : [] = sources := Except.ok.inj h
    simp
  | cons q rest ih =>
    simp only [argumentsFrom] at h
    rcases hq : argument name q (bound k) with mistake | source <;> rw [hq] at h
    · exact absurd h (by simp)
    · rcases hr : argumentsFrom name bound (k + 1) rest with mistake | more <;>
        simp only [hr, Except.map] at h
      · exact absurd h (by simp)
      · obtain rfl : (q, source) :: more = sources := Except.ok.inj h
        rw [List.mem_cons, ih hr]
        constructor
        · rintro (he | ⟨i, hp, hs⟩)
          · obtain ⟨rfl, rfl⟩ := Prod.mk.inj he
            exact ⟨0, rfl, hq⟩
          · exact ⟨i + 1, hp, by rw [show k + (i + 1) = k + 1 + i by omega]; exact hs⟩
        · rintro ⟨i, hp, hs⟩
          cases i with
          | zero =>
            obtain rfl : q = p := Option.some.inj hp
            rw [Nat.add_zero, hq] at hs
            obtain rfl : source = s := Except.ok.inj hs
            exact .inl rfl
          | succ i =>
            exact .inr ⟨i, hp, by rw [show k + 1 + i = k + (i + 1) by omega]; exact hs⟩

lemma warnUnused_eq (positions : List Nat) (c : Callable) :
    warnUnused positions c =
      if (unused positions c).isEmpty then pure ()
      else Run.warn (.unusedPositions c.name c.parameters.length (unused positions c)) :=
  rfl

/-- That positions are not used does not keep a call from its arguments. -/
lemma warnUnused_returns (positions : List Nat) (c : Callable) :
    (warnUnused positions c).Decides True := by
  rw [warnUnused_eq]
  split
  · exact .pure ()
  · exact Run.Ensures.warn _ trivial

/-- The search for arguments succeeds if there is one for every parameter. -/
lemma exists_argumentsFrom_iff_resolves {b : Option Binding} {c : Callable} :
    (∃ sources, argumentsFrom c.name (lookup (boundValues b)) 0 c.parameters = .ok sources) ↔
      Resolves b c := by
  rw [exists_argumentsFrom_iff]
  simp only [Nat.zero_add, argument_eq_ok_iff]
  rfl

/-- Resolution finds an argument for every parameter, and nothing else, or reports a mistake. -/
lemma resolve_ensures (b : Option Binding) (c : Callable) :
    (resolve (boundValues b) c).Ensures
      (fun sources => Resolves b c ∧ ∀ s, (∃ p, (p, s) ∈ sources) ↔ Passes b c s)
      (fun failure => ¬ Resolves b c ∧ ∃ m, failure = .mistake m) := by
  unfold resolve
  rcases hr : argumentsFrom c.name (lookup (boundValues b)) 0 c.parameters with mistake | sources
  · -- a parameter without an argument is a mistake before anything is warned of
    refine Run.Ensures.mistaken fun entry => ⟨?_, _, rfl⟩
    rw [← exists_argumentsFrom_iff_resolves, hr]
    simp
  · have hmem : ∀ s, (∃ p, (p, s) ∈ sources) ↔ Passes b c s := by
      intro s
      simp only [mem_argumentsFrom_iff hr, Nat.zero_add, argument_eq_ok_iff]
      constructor
      · rintro ⟨p, i, hp, hs⟩
        exact ⟨i, p, hp, hs⟩
      · rintro ⟨i, p, hp, hs⟩
        exact ⟨p, i, hp, hs⟩
    refine Run.Ensures.bind (P := fun _ => True) ?_ fun _ _ =>
      Run.Ensures.pure ⟨exists_argumentsFrom_iff_resolves.1 ⟨sources, hr⟩, hmem⟩
    rw [warnUnused_eq]
    split
    · exact Run.Ensures.pure trivial
    · exact Run.Ensures.warn _ trivial

end Resolution

/-! ## Bound values that change their form -/

namespace Resolution

variable {α β : Type} {name : Text}

/-- A source with its bound value changed. -/
def mapSource (f : α → β) : Source α → Source β
  | .bound a => .bound (f a)
  | .declared value => .declared value

/-- An argument with its bound value changed. -/
def mapArgument (f : α → β) (argument : Parameter × Source α) : Parameter × Source β :=
  (argument.1, mapSource f argument.2)

lemma argument_map (f : α → β) (p : Parameter) (a : Option α) :
    argument name p (a.map f) = (argument name p a).map (mapSource f) := by
  rcases a with _ | a
  · rcases hp : p.default with _ | w | _ <;> simp [argument, hp, Except.map, mapSource]
  · rfl

lemma argumentsFrom_map (f : α → β) {bound : Nat → Option α} {k : Nat} {ps : List Parameter} :
    argumentsFrom name (fun i => (bound i).map f) k ps =
      (argumentsFrom name bound k ps).map (List.map (mapArgument f)) := by
  induction ps generalizing k with
  | nil => rfl
  | cons p rest ih =>
    simp only [argumentsFrom, argument_map, ih]
    rcases argument name p (bound k) with mistake | source
    · rfl
    · rcases argumentsFrom name bound (k + 1) rest with mistake | sources <;> rfl

lemma lookup_map (f : α → β) (bound : List (Nat × Option α)) :
    lookup (bound.map fun e => (e.1, e.2.map f)) = fun i => (lookup bound i).map f := by
  funext i
  induction bound with
  | nil => rfl
  | cons e rest ih =>
    obtain ⟨position, a⟩ := e
    simp only [lookup, List.map_cons, Entries.get?] at ih ⊢
    -- the first entry is the one looked for, or the rest of the entries is asked
    by_cases h : (position == i) = true
    · simp only [h, if_true, Option.join_some]
    · simp only [h, Bool.false_eq_true, if_false]
      exact ih

/-- Which arguments a call gets does not depend on the form of its bound values. -/
lemma resolve_map (f : α → β) (bound : List (Nat × Option α)) (c : Callable) :
    resolve (bound.map fun e => (e.1, e.2.map f)) c =
      resolve bound c >>= fun sources => pure (sources.map (mapArgument f)) := by
  unfold resolve
  rw [lookup_map, argumentsFrom_map]
  rcases argumentsFrom c.name (lookup bound) 0 c.parameters with mistake | sources
  · rfl
  · simp only [Except.map, List.map_map, Function.comp_def, bind_assoc, pure_bind]

end Resolution

/-! ## Compiling the arguments -/

variable {types : Option Introspector} {onDefault : Value → Run Value}

/-- Compiles an argument, a declared default as that of the parameter of the callable. -/
def compileSource (types : Option Introspector) (onDefault : Value → Run Value)
    (callable parameter : Text) : Source Value → Run Value
  | .bound value => compileValue types onDefault value
  | .declared value => blameDefault parameter callable (onDefault value)

/-- Compiles arguments one after the other. -/
def compileOperands (types : Option Introspector) (onDefault : Value → Run Value)
    (callable : Text) : List (Parameter × Source Value) → Run (List Value)
  | [] => pure []
  | (p, source) :: rest => do
    let v ← compileSource types onDefault callable p.name source
    let vs ← compileOperands types onDefault callable rest
    return v :: vs

lemma compileOperands_traverses (callable : Text) :
    Run.Traverses (compileOperands types onDefault callable) fun e =>
      compileSource types onDefault callable e.1.name e.2 where
  nil := rfl
  cons _ _ := rfl

lemma compileSources_map (callable : Text) (sources : List (Parameter × Source Value)) :
    compileSources onDefault callable
        (sources.map (Resolution.mapArgument (compileValue types onDefault))) =
      compileOperands types onDefault callable sources := by
  induction sources with
  | nil => rfl
  | cons argument rest ih =>
    obtain ⟨p, source⟩ := argument
    rcases source with value | value <;>
      simp only [List.map_cons, Resolution.mapArgument, Resolution.mapSource, compileSources,
        compileOperands, compileSource, ih]

lemma boundArguments_eq (arguments : List (Nat × Value)) :
    boundArguments types onDefault arguments =
      arguments.map fun e =>
        (e.1, e.2.explicit?.map fun _ => compileValue types onDefault e.2) := by
  induction arguments with
  | nil => rw [boundArguments, List.map_nil]
  | cons e rest ih =>
    obtain ⟨position, v⟩ := e
    rw [boundArguments, List.map_cons, ih]

/-- What a binding has for each position, still to be compiled. -/
def boundRuns (types : Option Introspector) (onDefault : Value → Run Value) (b : Option Binding) :
    List (Nat × Option (Run Value)) :=
  (Resolution.boundValues b).map fun e => (e.1, e.2.map (compileValue types onDefault))

lemma boundArguments_eq_boundRuns (method : Text) (arguments : List (Nat × Value)) :
    boundArguments types onDefault arguments =
      boundRuns types onDefault (some ⟨method, arguments⟩) := by
  rw [boundArguments_eq]
  simp only [boundRuns, Resolution.boundValues, List.map_map, Function.comp_def]
  refine List.map_congr_left ?_
  rintro ⟨position, v⟩ -
  rcases hv : v.explicit? with _ | w
  · rfl
  · obtain ⟨-, rfl⟩ := Value.explicit?_eq_some_iff.1 hv
    rfl

lemma boundOfConstructor_eq_boundRuns (b : Option Binding) :
    boundOfConstructor types onDefault b = boundRuns types onDefault b := by
  rcases b with _ | ⟨method, arguments⟩
  · rw [boundOfConstructor]
    rfl
  · rw [boundOfConstructor]
    exact boundArguments_eq_boundRuns method arguments

/-- The arguments of a call are found among the values that are bound, and then compiled. -/
lemma compileArguments_eq (b : Option Binding) (c : Callable) :
    compileArguments onDefault (boundRuns types onDefault b) (some c) =
      Resolution.resolve (Resolution.boundValues b) c >>=
        compileOperands types onDefault c.name := by
  simp only [compileArguments, boundRuns, Resolution.resolve_map, bind_assoc, pure_bind,
    compileSources_map]

/-- A default that does not compile is a mistake, and any other failure stays. -/
lemma blameDefault_ensures {x : Run Value} {P : Value → Prop} {Q : Failure → Prop}
    {parameter callable : Text} (h : x.Ensures P Q) :
    (blameDefault parameter callable x).Ensures P fun failure =>
      (∃ cause, Q (.mismatch cause) ∧ ∃ m, failure = .mistake m) ∨
        (Q failure ∧ ∀ cause, failure ≠ .mismatch cause) := by
  refine h.recover ?_
  intro failure hQ
  cases failure with
  | mismatch cause => exact .mistaken fun _ => .inl ⟨cause, hQ, _, rfl⟩
  | _ => exact .fail (.inr ⟨hQ, fun _ => nofun⟩)

lemma blameDefault_decides {x : Run Value} {A : Prop} {parameter callable : Text}
    (h : x.Decides A) : (blameDefault parameter callable x).Decides A := by
  refine (blameDefault_ensures h).mono (fun _ => id) ?_
  rintro failure (⟨_, hA, _⟩ | ⟨hA, _⟩) <;> exact hA

/-- The arguments of a call compile exactly if every parameter has an argument and every argument
compiles. -/
lemma compileArguments_decides {A : Source Value → Prop} {b : Option Binding} {c : Callable}
    (h : ∀ s, Passes b c s → ∀ parameter,
      (compileSource types onDefault c.name parameter s).Decides (A s)) :
    (compileArguments onDefault (boundRuns types onDefault b) (some c)).Decides
      (Resolves b c ∧ ∀ s, Passes b c s → A s) := by
  rw [compileArguments_eq]
  refine Run.Ensures.bind ((Resolution.resolve_ensures b c).mono (fun _ h => h) ?_) ?_
  · rintro _ ⟨hr, -⟩ h
    exact hr h.1
  · rintro sources ⟨hr, hmem⟩
    have hA : (∀ e ∈ sources, A e.2) ↔ Resolves b c ∧ ∀ s, Passes b c s → A s := by
      constructor
      · intro h
        refine ⟨hr, fun s hs => ?_⟩
        obtain ⟨p, hp⟩ := (hmem s).2 hs
        exact h (p, s) hp
      · rintro ⟨-, h⟩ ⟨p, s⟩ he
        exact h s ((hmem s).1 ⟨p, he⟩)
    have hsources : ∀ e ∈ sources,
        (compileSource types onDefault c.name e.1.name e.2).Decides (A e.2) := by
      rintro ⟨p, s⟩ he
      exact h s ((hmem s).1 ⟨p, he⟩) p.name
    exact ((compileOperands_traverses c.name).decides hsources).congr hA

/-- A call whose arguments are compiled fails with a mistake, or as one of its arguments does. -/
lemma compileArguments_ensures {Q : Failure → Prop} {b : Option Binding} {c : Callable}
    (hm : ∀ m, Q (.mistake m))
    (h : ∀ s, Passes b c s → ∀ parameter,
      (compileSource types onDefault c.name parameter s).Ensures (fun _ => True) Q) :
    (compileArguments onDefault (boundRuns types onDefault b) (some c)).Ensures
      (fun _ => True) Q := by
  rw [compileArguments_eq]
  refine Run.Ensures.bind ((Resolution.resolve_ensures b c).mono (fun _ h => h) ?_) ?_
  · rintro _ ⟨-, m, rfl⟩
    exact hm m
  · rintro sources ⟨-, hmem⟩
    refine (compileOperands_traverses c.name).ensures (P := fun _ _ => True)
      (R := fun _ _ => True) trivial (fun _ _ => trivial) ?_
    rintro ⟨p, s⟩ he
    exact h s ((hmem s).1 ⟨p, he⟩) p.name

/-! ## Splitting the arguments -/

/-- With different names, and no more of them than arguments, the last arguments get the names in
order. -/
lemma splitArguments_eq {α : Type} {arguments : List α} {keywords : List Text}
    (hnodup : keywords.Nodup) (hlength : keywords.length ≤ arguments.length) :
    splitArguments arguments keywords =
      (arguments.take (arguments.length - keywords.length),
        keywords.zip (arguments.drop (arguments.length - keywords.length))) := by
  cases keywords with
  | nil => simp [splitArguments]
  | cons name rest =>
    have hnames : (((name :: rest).zip
        (arguments.drop (arguments.length - (name :: rest).length))).map Prod.fst).Nodup := by
      rw [List.map_fst_zip (by simp only [List.length_drop]; omega)]
      exact hnodup
    have hzip : Entries.ofList ((name :: rest).zip
        (arguments.drop (arguments.length - (name :: rest).length))) =
          (name :: rest).zip (arguments.drop (arguments.length - (name :: rest).length)) :=
      Entries.ofList_append_of_nodup hnames
    rw [splitArguments, if_neg (by simp), positionalCount, if_pos hlength]
    exact congrArg _ hzip

end Blueprint
