/-
# What a plan delivers

A call in a plan holds its arguments in one row, and names for the last of them.  Nothing in the
plan says which parameter an argument is for.  This file says it for plans that were compiled:
`Contract.Fills d plan` goes through a definition and its plan side by side, down to the last
definition that is nested in a bound value or in a declared default, and pairs every parameter of
every callable with the operand of its own argument.  Splitting the row gives back these pairs:
first the operands of the parameters that are filled in order, then one operand under the name of
each parameter that is filled by name.

That is so for callables whose parameters are ordered, as those of functions are: what is passed by
name only comes last, and under different names.
-/
import Blueprint.Proofs.Compilation

namespace Blueprint

/-! ## Ordered parameters -/

/-- One parameter may stand before another: after one that is passed by name only there are only
such, and they have other names. -/
def Parameter.Precedes (p q : Parameter) : Prop :=
  p.keywordOnly = true → q.keywordOnly = true ∧ q.name ≠ p.name

/-- What is passed by name only comes last, under different names. -/
def Callable.IsOrdered (c : Callable) : Prop :=
  c.parameters.Pairwise Parameter.Precedes

/-- The operands of the parameters that are filled in order. -/
def inOrderOperands (operands : List (Parameter × Value)) : List Value :=
  (operands.filter fun e => !e.1.keywordOnly).map Prod.snd

/-- The operands of the parameters that are filled by name, with the names. -/
def namedOperands (operands : List (Parameter × Value)) : List (Text × Value) :=
  (operands.filter fun e => e.1.keywordOnly).map fun e => (e.1.name, e.2)

section Ordered

variable {operands : List (Parameter × Value)}

/-- Ordered parameters are those that are filled in order, followed by those that are filled by
name. -/
lemma filter_append_filter_of_ordered
    (h : operands.Pairwise fun e e' => Parameter.Precedes e.1 e'.1) :
    (operands.filter fun e => !e.1.keywordOnly) ++ (operands.filter fun e => e.1.keywordOnly) =
      operands := by
  induction operands with
  | nil => rfl
  | cons e rest ih =>
    obtain ⟨hfirst, hrest⟩ := List.pairwise_cons.1 h
    cases he : e.1.keywordOnly with
    | false => simpa [he] using ih hrest
    | true =>
      -- after a parameter that is filled by name no other is filled in order
      have hall : ∀ e' ∈ rest, e'.1.keywordOnly = true := fun e' he' => (hfirst e' he' he).1
      have hnone : rest.filter (fun e => !e.1.keywordOnly) = [] :=
        List.filter_eq_nil_iff.2 fun e' he' => by simp [hall e' he']
      have hsome : rest.filter (fun e => e.1.keywordOnly) = rest := List.filter_eq_self.2 hall
      simp [he, hnone, hsome]

lemma nodup_names_of_ordered
    (h : operands.Pairwise fun e e' => Parameter.Precedes e.1 e'.1) :
    ((namedOperands operands).map Prod.fst).Nodup := by
  have hnamed : (operands.filter fun e => e.1.keywordOnly).Pairwise
      fun e e' => e.1.name ≠ e'.1.name := by
    rw [List.pairwise_filter]
    refine h.imp ?_
    intro e e' hee' he _ hname
    exact (hee' he).2 hname.symm
  rw [namedOperands, List.map_map]
  exact List.pairwise_map.2 hnamed

/-- The row of the operands of ordered parameters, split at the names of those that are filled by
name, gives every parameter its own operand. -/
lemma splitArguments_of_ordered {c : Callable} (hc : c.IsOrdered)
    (hparameters : operands.map Prod.fst = c.parameters) :
    splitArguments (operands.map Prod.snd) c.keywords =
      (inOrderOperands operands, namedOperands operands) := by
  have hordered : operands.Pairwise fun e e' => Parameter.Precedes e.1 e'.1 := by
    rw [Callable.IsOrdered, ← hparameters, List.pairwise_map] at hc
    exact hc
  have hkeywords : c.keywords = (namedOperands operands).map Prod.fst := by
    rw [Callable.keywords, ← hparameters, List.filter_map, namedOperands, List.map_map,
      List.map_map]
    rfl
  have hrow : operands.map Prod.snd =
      inOrderOperands operands ++ (namedOperands operands).map Prod.snd := by
    conv => lhs; rw [← filter_append_filter_of_ordered hordered]
    rw [List.map_append, inOrderOperands, namedOperands, List.map_map]
    rfl
  have hcount : (operands.map Prod.snd).length - c.keywords.length =
      (inOrderOperands operands).length := by
    rw [hrow, hkeywords, List.length_append, List.length_map, List.length_map]
    omega
  have hlength : c.keywords.length ≤ (operands.map Prod.snd).length := by
    rw [hrow, hkeywords, List.length_append, List.length_map, List.length_map]
    omega
  have hnodup : c.keywords.Nodup := by
    rw [hkeywords]
    exact nodup_names_of_ordered hordered
  have hzip : ((namedOperands operands).map Prod.fst).zip ((namedOperands operands).map Prod.snd) =
      namedOperands operands :=
    (List.zip_of_prod rfl rfl).symm
  rw [splitArguments_eq hnodup hlength, hcount, hrow, List.take_left, List.drop_left, hkeywords,
    hzip]

end Ordered

/-! ## Plans and definitions side by side -/

/-- What callables of classes are known to be. -/
structure Contract where
  /-- The constructor of a class, where it has one. -/
  constructor : Text → Option Callable → Prop
  /-- The method of a class under a name. -/
  method : Text → Text → Callable → Prop

/-- The callables that a contract speaks of are ordered. -/
structure Contract.IsOrdered (contract : Contract) : Prop where
  constructor : ∀ path c, contract.constructor path (some c) → c.IsOrdered
  method : ∀ path name c, contract.method path name c → c.IsOrdered

/-- The answers about callables are what the contract says. -/
structure Introspector.Meets (types : Introspector) (contract : Contract) : Prop where
  constructor : ∀ path, (types.constructor path).Ensures (contract.constructor path) fun _ => True
  method : ∀ path name, (types.method path name).Ensures
    (fun found => ∀ c, found = some c → contract.method path name c) fun _ => True

namespace Contract

mutual

/-- The operand that a value becomes. -/
inductive Becomes (contract : Contract) : Value → Value → Prop where
  /-- A literal stays as it is. -/
  | literal {v : Value} (h : v.isLiteral = true) : Becomes contract v v
  /-- So does a reference. -/
  | reference (entry : Value) : Becomes contract (.reference entry) (.reference entry)
  /-- The items of a list become operands. -/
  | list {items operands : List Value} (h : ItemsBecome contract items operands) :
      Becomes contract (.list items) (.list operands)
  /-- So do those of a tuple. -/
  | tuple {items operands : List Value} (h : ItemsBecome contract items operands) :
      Becomes contract (.tuple items) (.tuple operands)
  /-- The values of a dictionary become operands under the same keys. -/
  | dict {entries operands : List (Value × Value)} (h : EntriesBecome contract entries operands) :
      Becomes contract (.dict entries) (.dict operands)
  /-- A definition becomes an object with a plan of its own. -/
  | definition {d : Definition} {plan : Plan} (h : Fills contract d plan) :
      Becomes contract (.definition d) (.nested d.className plan)

/-- The operands that items become. -/
inductive ItemsBecome (contract : Contract) : List Value → List Value → Prop where
  | nil : ItemsBecome contract [] []
  | cons {v operand : Value} {rest operands : List Value} (h : Becomes contract v operand)
      (hrest : ItemsBecome contract rest operands) :
      ItemsBecome contract (v :: rest) (operand :: operands)

/-- The entries that entries become. -/
inductive EntriesBecome (contract : Contract) :
    List (Value × Value) → List (Value × Value) → Prop where
  | nil : EntriesBecome contract [] []
  | cons {key v operand : Value} {rest operands : List (Value × Value)}
      (h : Becomes contract v operand) (hrest : EntriesBecome contract rest operands) :
      EntriesBecome contract ((key, v) :: rest) ((key, operand) :: operands)

/-- Parameters from a position on with the operands of their arguments: of what is bound to the
position, or else of the declared default. -/
inductive Pairs (contract : Contract) : Option Binding → Nat → List (Parameter × Value) → Prop where
  | nil {b : Option Binding} {i : Nat} : Pairs contract b i []
  | cons {b : Option Binding} {i : Nat} {p : Parameter} {s : Source Value} {operand : Value}
      {rest : List (Parameter × Value)} (argument : Argument b i p s)
      (becomes : Becomes contract (Resolution.Source.value s) operand)
      (hrest : Pairs contract b (i + 1) rest) : Pairs contract b i ((p, operand) :: rest)

/-- A call of a callable: its parameters are paired with operands, the arguments are these operands,
and splitting the arguments gives every parameter its own. -/
inductive Calls (contract : Contract) :
    Option Binding → Callable → List Value → List Text → Prop where
  | mk {b : Option Binding} {c : Callable} {operands : List (Parameter × Value)}
      (parameters : operands.map Prod.fst = c.parameters) (pairs : Pairs contract b 0 operands)
      (split : splitArguments (operands.map Prod.snd) c.keywords =
        (inOrderOperands operands, namedOperands operands)) :
      Calls contract b c (operands.map Prod.snd) c.keywords

/-- The call that makes an object; a class without a constructor takes no arguments. -/
inductive Constructs (contract : Contract) :
    Option Binding → Option Callable → List Value → List Text → Prop where
  | plain {b : Option Binding} : Constructs contract b none [] []
  | declared {b : Option Binding} {c : Callable} {arguments : List Value} {keywords : List Text}
      (h : Calls contract b c arguments keywords) :
      Constructs contract b (some c) arguments keywords

/-- The steps that assign fields. -/
inductive Assigns (contract : Contract) : List FieldBinding → Plan → Prop where
  | nil : Assigns contract [] []
  | cons {b : FieldBinding} {operand : Value} {rest : List FieldBinding} {steps : Plan}
      (h : Becomes contract b.value operand) (hrest : Assigns contract rest steps) :
      Assigns contract (b :: rest) (.assign b.field operand :: steps)

/-- The steps that call methods. -/
inductive Invokes (contract : Contract) : Text → List Binding → Plan → Prop where
  | nil {className : Text} : Invokes contract className [] []
  | cons {className : Text} {b : Binding} {c : Callable} {arguments : List Value}
      {keywords : List Text} {rest : List Binding} {steps : Plan}
      (known : contract.method className b.method c)
      (h : Calls contract (some b) c arguments keywords)
      (hrest : Invokes contract className rest steps) :
      Invokes contract className (b :: rest) (.invoke b.method arguments keywords :: steps)

/-- The plan of a definition as if it were not lazy. -/
inductive FillsEager (contract : Contract) : Definition → Plan → Prop where
  | mk {d : Definition} {callable : Option Callable} {arguments : List Value}
      {keywords : List Text} {assignments calls : Plan}
      (known : contract.constructor d.className callable)
      (constructs : Constructs contract d.constructor callable arguments keywords)
      (assigns : Assigns contract d.fields assignments)
      (invokes : Invokes contract d.className d.methods calls) :
      FillsEager contract d (.construct d.className arguments keywords :: (assignments ++ calls))

/-- The plan of a definition. -/
inductive Fills (contract : Contract) : Definition → Plan → Prop where
  | eager {d : Definition} {plan : Plan} (hlazy : d.isLazy = false)
      (h : FillsEager contract d plan) : Fills contract d plan
  | lazy {d : Definition} {plan : Plan} (hlazy : d.isLazy = true)
      (h : FillsEager contract d plan) : Fills contract d [.placeholder d.className plan]

end

/-! ## Calls -/

section Compilation

variable {types : Introspector} {onDefault : Value → Run Value} {contract : Contract}

lemma compileSource_becomes {b : Option Binding} {i : Nat} {p : Parameter} {s : Source Value}
    (hod : ∀ w, (onDefault w).Ensures (contract.Becomes w) fun _ => True)
    (hb : ∀ call, b = some call → ∀ e ∈ call.arguments,
      (compileValue (some types) onDefault e.2).Ensures (contract.Becomes e.2) fun _ => True)
    (h : Argument b i p s) (callable parameter : Text) :
    (compileSource (some types) onDefault callable parameter s).Ensures
      (contract.Becomes (Resolution.Source.value s)) fun _ => True := by
  cases h with
  | bound hcall hne => exact hb _ hcall _ (Binding.mem_of_get hne)
  | @declared w hcall hdefault =>
    exact (blameDefault_ensures (hod w)).mono (fun _ => id) fun _ _ => trivial

/-- The arguments of parameters are compiled in the order of the parameters. -/
lemma compileOperands_pairs {b : Option Binding} {k : Nat} {ps : List Parameter}
    {sources : List (Parameter × Source Value)} (callable : Text)
    (hod : ∀ w, (onDefault w).Ensures (contract.Becomes w) fun _ => True)
    (hb : ∀ call, b = some call → ∀ e ∈ call.arguments,
      (compileValue (some types) onDefault e.2).Ensures (contract.Becomes e.2) fun _ => True)
    (h : Resolution.argumentsFrom callable (Resolution.lookup (Resolution.boundValues b)) k ps =
      .ok sources) :
    (compileOperands (some types) onDefault callable sources).Ensures
      (fun vs => ∃ operands, operands.map Prod.fst = ps ∧ operands.map Prod.snd = vs ∧
        contract.Pairs b k operands) fun _ => True := by
  -- the parameters are met in order, and `k` is the position of the first that is left
  induction ps generalizing k sources with
  | nil =>
    obtain rfl : [] = sources := Except.ok.inj h
    exact Run.Ensures.pure ⟨[], rfl, rfl, .nil⟩
  | cons p rest ih =>
    obtain ⟨source, more, hsource, hmore, rfl⟩ : ∃ source more,
        Argument b k p source ∧
        Resolution.argumentsFrom callable (Resolution.lookup (Resolution.boundValues b)) (k + 1)
          rest = .ok more ∧ (p, source) :: more = sources := by
      simp only [Resolution.argumentsFrom] at h
      rcases hs : Resolution.argument callable p
          (Resolution.lookup (Resolution.boundValues b) k) with mistake | source <;> rw [hs] at h
      · exact absurd h (by simp)
      · rcases hm : Resolution.argumentsFrom callable
            (Resolution.lookup (Resolution.boundValues b)) (k + 1) rest with mistake | more <;>
          simp only [hm, Except.map] at h
        · exact absurd h (by simp)
        · exact ⟨source, more, Resolution.argument_eq_ok_iff.1 hs, rfl, Except.ok.inj h⟩
    refine Run.Ensures.bind (compileSource_becomes hod hb hsource callable p.name) ?_
    intro operand hoperand
    refine Run.Ensures.bind (ih hmore) ?_
    rintro vs ⟨operands, rfl, rfl, hpairs⟩
    exact Run.Ensures.pure ⟨(p, operand) :: operands, rfl, rfl, .cons hsource hoperand hpairs⟩

lemma compileArguments_calls {b : Option Binding} {c : Callable} (hc : c.IsOrdered)
    (hod : ∀ w, (onDefault w).Ensures (contract.Becomes w) fun _ => True)
    (hb : ∀ call, b = some call → ∀ e ∈ call.arguments,
      (compileValue (some types) onDefault e.2).Ensures (contract.Becomes e.2) fun _ => True) :
    (compileArguments onDefault (boundRuns (some types) onDefault b) (some c)).Ensures
      (fun vs => contract.Calls b c vs c.keywords) fun _ => True := by
  have hresolve : (Resolution.resolve (Resolution.boundValues b) c).Ensures
      (fun sources => Resolution.argumentsFrom c.name
        (Resolution.lookup (Resolution.boundValues b)) 0 c.parameters = .ok sources)
      fun _ => True := by
    unfold Resolution.resolve
    split
    · exact Run.Ensures.mistaken fun _ => trivial
    · exact Run.Ensures.bind (Run.Ensures.always _) fun _ _ => Run.Ensures.pure ‹_›
  rw [compileArguments_eq]
  refine Run.Ensures.bind hresolve fun sources hsources => ?_
  refine (compileOperands_pairs c.name hod hb hsources).mono ?_ fun _ _ => trivial
  rintro vs ⟨operands, hparameters, rfl, hpairs⟩
  exact .mk hparameters hpairs (splitArguments_of_ordered hc hparameters)

/-! ## Definitions -/

lemma compileFields_assigns {className : Text} {fields : List FieldBinding}
    (h : ∀ b ∈ fields, (compileValue (some types) onDefault b.value).Ensures
      (contract.Becomes b.value) fun _ => True) :
    (compileFields (some types) types onDefault className fields).Ensures
      (contract.Assigns fields) fun _ => True := by
  refine (compileFields_traverses className).ensures
    (R := fun b step => ∃ operand, step = .assign b.field operand ∧
      contract.Becomes b.value operand) .nil ?_ fun b hb => ?_
  · rintro b _ rest steps ⟨operand, rfl, hoperand⟩ hsteps
    exact .cons hoperand hsteps
  · refine Run.Ensures.bind (Run.Ensures.always _) fun _ _ => ?_
    exact Run.Ensures.bind (h b hb) fun operand hoperand =>
      Run.Ensures.pure ⟨operand, rfl, hoperand⟩

variable (hmeets : types.Meets contract) (hordered : contract.IsOrdered)
  (hod : ∀ w, (onDefault w).Ensures (contract.Becomes w) fun _ => True)

include hmeets hordered hod

lemma compileMethods_invokes {className : Text} {methods : List Binding}
    (h : ∀ b ∈ methods, ∀ e ∈ b.arguments,
      (compileValue (some types) onDefault e.2).Ensures (contract.Becomes e.2) fun _ => True) :
    (compileMethods (some types) types onDefault className methods).Ensures
      (contract.Invokes className methods) fun _ => True := by
  refine (compileMethods_traverses className).ensures
    (R := fun b step => ∃ c vs, contract.method className b.method c ∧
      step = .invoke b.method vs c.keywords ∧ contract.Calls (some b) c vs c.keywords) .nil ?_
    fun b hb => ?_
  · rintro b _ rest steps ⟨c, vs, hknown, rfl, hvs⟩ hsteps
    exact .cons hknown hvs hsteps
  refine Run.Ensures.bind (hmeets.method className b.method) fun callable hcallable => ?_
  rcases callable with _ | c
  · exact Run.Ensures.mismatched trivial
  have hknown : contract.method className b.method c := hcallable c rfl
  have hbound : ∀ call, some b = some call → ∀ e ∈ call.arguments,
      (compileValue (some types) onDefault e.2).Ensures (contract.Becomes e.2) fun _ => True := by
    intro call hcall
    obtain rfl := Option.some.inj hcall
    exact h b hb
  have harguments := compileArguments_calls (hordered.method _ _ c hknown) hod hbound
  exact Run.Ensures.bind harguments fun vs hvs => Run.Ensures.pure ⟨c, vs, hknown, rfl, hvs⟩

omit hmeets in
lemma compileConstructor_constructs {b : Option Binding} {callable : Option Callable}
    {className : Text} (hknown : contract.constructor className callable)
    (hb : ∀ call, b = some call → ∀ e ∈ call.arguments,
      (compileValue (some types) onDefault e.2).Ensures (contract.Becomes e.2) fun _ => True) :
    (compileArguments onDefault (boundRuns (some types) onDefault b) callable).Ensures
      (fun vs => contract.Constructs b callable vs (keywordsOf callable)) fun _ => True := by
  rcases callable with _ | c
  · exact Run.Ensures.pure .plain
  · have hcall := compileArguments_calls (hordered.constructor _ c hknown) hod hb
    exact hcall.mono (fun _ hvs => .declared hvs) fun _ _ => trivial

lemma eagerPlan_fills {d : Definition}
    (h : ∀ v, d.Binds v →
      (compileValue (some types) onDefault v).Ensures (contract.Becomes v) fun _ => True) :
    (eagerPlan types onDefault d).Ensures (contract.FillsEager d) fun _ => True := by
  refine Run.Ensures.bind (Run.Ensures.always _) fun _ _ => ?_
  refine Run.Ensures.bind (hmeets.constructor d.className) fun callable hknown => ?_
  have hconstructor := compileConstructor_constructs hordered hod hknown
    fun call hcall e he => h e.2 (.construct hcall he)
  have hfield : ∀ b ∈ d.fields, (compileValue (some types) onDefault b.value).Ensures
      (contract.Becomes b.value) fun _ => True := fun b hb => h b.value (.assign hb)
  have hmethod : ∀ b ∈ d.methods, ∀ e ∈ b.arguments,
      (compileValue (some types) onDefault e.2).Ensures (contract.Becomes e.2) fun _ => True :=
    fun b hb e he => h e.2 (.invoke hb he)
  refine Run.Ensures.bind hconstructor fun arguments hconstructs => ?_
  refine Run.Ensures.bind (compileFields_assigns hfield) fun assignments hassigns => ?_
  refine Run.Ensures.bind (compileMethods_invokes hmeets hordered hod hmethod)
    fun calls hinvokes => ?_
  exact Run.Ensures.pure (.mk hknown hconstructs hassigns hinvokes)

lemma compileDefinition_fills {d : Definition}
    (h : ∀ v, d.Binds v →
      (compileValue (some types) onDefault v).Ensures (contract.Becomes v) fun _ => True) :
    (compileDefinition (some types) onDefault d).Ensures (contract.Fills d) fun _ => True := by
  have hplan := eagerPlan_fills hmeets hordered hod h
  rw [compileDefinition_eq]
  refine Run.Ensures.within (Run.Ensures.bind (Run.Ensures.always _) fun _ _ => ?_) _
  cases hlazy : d.isLazy with
  | true =>
    -- the two notes before the eager plan is compiled tell nothing of it
    rw [if_pos rfl]
    refine Run.Ensures.bind (Run.Ensures.always _) fun _ _ => ?_
    refine Run.Ensures.bind (Run.Ensures.always _) fun _ _ => ?_
    exact Run.Ensures.bind hplan fun plan hfills => Run.Ensures.pure (.lazy hlazy hfills)
  | false =>
    rw [if_neg (by simp)]
    exact hplan.mono (fun _ hfills => .eager hlazy hfills) fun _ _ => trivial

/-! ## Values -/

omit hmeets hordered hod in
lemma compileEntries_become {entries : List (Value × Value)}
    (h : ∀ e ∈ entries,
      (compileValue (some types) onDefault e.2).Ensures (contract.Becomes e.2) fun _ => True) :
    (compileEntries (some types) onDefault entries).Ensures (contract.EntriesBecome entries)
      fun _ => True := by
  refine compileEntries_traverses.ensures
    (R := fun e x => ∃ operand, x = (e.1, operand) ∧ contract.Becomes e.2 operand) .nil ?_
    fun e he => ?_
  · rintro e _ rest operands ⟨operand, rfl, hoperand⟩ hoperands
    exact .cons hoperand hoperands
  · exact Run.Ensures.bind (h e he) fun operand hoperand =>
      Run.Ensures.pure ⟨operand, rfl, hoperand⟩

lemma compileValue_becomes (v : Value) :
    (compileValue (some types) onDefault v).Ensures (contract.Becomes v) fun _ => True := by
  induction v using Value.positionInduct with
  | literal v h =>
    rw [compileValue_literal h]
    exact Run.Ensures.pure (.literal h)
  | reference entry =>
    rw [compileValue]
    exact Run.Ensures.pure (.reference entry)
  | useDefault =>
    rw [compileValue]
    exact Run.Ensures.mismatched trivial
  | unsupported v h =>
    rw [compileValue_unsupported h]
    exact Run.Ensures.fail trivial
  | list items ih =>
    have hitems := compileItems_traverses.ensures ItemsBecome.nil ItemsBecome.cons ih
    rw [compileValue]
    exact Run.Ensures.bind hitems fun _ h => Run.Ensures.pure (.list h)
  | tuple items ih =>
    have hitems := compileItems_traverses.ensures ItemsBecome.nil ItemsBecome.cons ih
    rw [compileValue]
    exact Run.Ensures.bind hitems fun _ h => Run.Ensures.pure (.tuple h)
  | dict entries ih =>
    rw [compileValue]
    exact Run.Ensures.bind (compileEntries_become ih) fun _ h => Run.Ensures.pure (.dict h)
  | definition d ih =>
    -- the positions of a nested definition are filled by what the induction gives for them
    have hfills := compileDefinition_fills hmeets hordered hod ih
    rw [compileValue]
    exact Run.Ensures.bind hfills fun _ h => Run.Ensures.pure (.definition h)

omit hod in
lemma compileUpTo_becomes (n : Nat) (w : Value) :
    (compileUpTo types n w).Ensures (contract.Becomes w) fun _ => True := by
  induction n generalizing w with
  | zero => exact Run.Ensures.fail trivial
  | succ n ih => exact compileValue_becomes hmeets hordered ih w

omit hod in
/-- A plan that is compiled from answers that meet an ordered contract gives every parameter of
every callable its own argument. -/
theorem compile_fills (d : Definition) :
    (compile types d).Ensures (contract.Fills d) fun _ => True :=
  compileDefinition_fills hmeets hordered (compileUpTo_becomes hmeets hordered types.depth)
    fun v _ => compileValue_becomes hmeets hordered
      (compileUpTo_becomes hmeets hordered types.depth) v

end Compilation

end Contract

end Blueprint
