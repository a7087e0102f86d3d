/-
# Which definitions compile

`Registry.Accepts` describes the values that compile against a registry, as a set closed under a few
rules and nothing else: a definition is accepted if its class, its fields and its methods are
declared as it uses them, and if every operand of its plan is accepted, whether it is bound or a
declared default.  No order of checks, no state and no bound on a depth occurs in the rules.

The compiler treats a declared default apart from a bound value: it hands it to a parameter of the
recursion.  So the proof goes through `Registry.AcceptsGiven`, where the declared defaults are
judged by a set `D` that is given.  `compileValue_decides` shows that this is what the compiler
decides, for every way of compiling defaults.
-/
import Blueprint.Proofs.Compilation

namespace Blueprint.Registry

variable {registry : Registry} {d : Definition} {schema : TypeSchema}

/-! ## The rules -/

/-- The declarations of a registry are as a definition uses them; `schema` is that of its class. -/
structure Fits (registry : Registry) (d : Definition) (schema : TypeSchema) : Prop where
  /-- The path of the class goes through nothing anonymous. -/
  nameable : IsNameable d.className
  /-- The class is declared and can be instantiated. -/
  instantiates : registry.Instantiates d.className schema
  /-- Where the class has a constructor, each of its parameters gets an argument. -/
  constructs : ∀ c, schema.constructor = some c → Resolves d.constructor c
  /-- The fields are there, public and writable. -/
  assigns : ∀ b ∈ d.fields, registry.Assignable (fieldOwner b.owner d.className) b.field
  /-- The methods are there, and each of their parameters gets an argument. -/
  invokes : ∀ b ∈ d.methods, ∃ c, Entries.get? b.method schema.methods = some c ∧
    Resolves (some b) c

/-- What stands in the plan of a definition as an operand. -/
inductive Operand (d : Definition) (schema : TypeSchema) : Source Value → Prop where
  /-- An argument of the constructor. -/
  | construct {c : Callable} {s : Source Value} (hc : schema.constructor = some c)
      (hs : Passes d.constructor c s) : Operand d schema s
  /-- The value of a field. -/
  | assign {b : FieldBinding} (hb : b ∈ d.fields) : Operand d schema (.bound b.value)
  /-- An argument of a method. -/
  | invoke {b : Binding} {c : Callable} {s : Source Value} (hb : b ∈ d.methods)
      (hc : Entries.get? b.method schema.methods = some c) (hs : Passes (some b) c s) :
      Operand d schema s

/-- The values that compile against a registry. -/
inductive Accepts (registry : Registry) : Value → Prop where
  /-- Literals. -/
  | literal {v : Value} (h : v.isLiteral = true) : Accepts registry v
  /-- References. -/
  | reference (entry : Value) : Accepts registry (.reference entry)
  /-- Lists of accepted items. -/
  | list {items : List Value} (h : ∀ v ∈ items, Accepts registry v) :
      Accepts registry (.list items)
  /-- Tuples of accepted items. -/
  | tuple {items : List Value} (h : ∀ v ∈ items, Accepts registry v) :
      Accepts registry (.tuple items)
  /-- Dictionaries of accepted values. -/
  | dict {entries : List (Value × Value)} (h : ∀ e ∈ entries, Accepts registry e.2) :
      Accepts registry (.dict entries)
  /-- Definitions that fit the declarations and have accepted operands. -/
  | definition {d : Definition} {schema : TypeSchema} (hfits : registry.Fits d schema)
      (hoperands : ∀ s, Operand d schema s → Accepts registry (Resolution.Source.value s)) :
      Accepts registry (.definition d)

/-- The definitions that compile against a registry: they fit the declarations and have accepted
operands. -/
def Compilable (registry : Registry) (d : Definition) : Prop :=
  ∃ schema, registry.Fits d schema ∧
    ∀ s, Operand d schema s → registry.Accepts (Resolution.Source.value s)

/-! ## The rules, given which defaults are accepted -/

/-- The values that compile against a registry if the declared defaults in `D` do. -/
inductive AcceptsGiven (registry : Registry) (D : Value → Prop) : Value → Prop where
  /-- Literals. -/
  | literal {v : Value} (h : v.isLiteral = true) : AcceptsGiven registry D v
  /-- References. -/
  | reference (entry : Value) : AcceptsGiven registry D (.reference entry)
  /-- Lists of accepted items. -/
  | list {items : List Value} (h : ∀ v ∈ items, AcceptsGiven registry D v) :
      AcceptsGiven registry D (.list items)
  /-- Tuples of accepted items. -/
  | tuple {items : List Value} (h : ∀ v ∈ items, AcceptsGiven registry D v) :
      AcceptsGiven registry D (.tuple items)
  /-- Dictionaries of accepted values. -/
  | dict {entries : List (Value × Value)} (h : ∀ e ∈ entries, AcceptsGiven registry D e.2) :
      AcceptsGiven registry D (.dict entries)
  /-- Definitions that fit the declarations, bind accepted values and rely on defaults in `D`. -/
  | definition {d : Definition} {schema : TypeSchema} (hfits : registry.Fits d schema)
      (hbound : ∀ v, Operand d schema (.bound v) → AcceptsGiven registry D v)
      (hdeclared : ∀ w, Operand d schema (.declared w) → D w) :
      AcceptsGiven registry D (.definition d)

/-- A source is accepted as what it is: a bound value by the rules, a declared default by `D`. -/
def SourceAccepted (registry : Registry) (D : Value → Prop) : Source Value → Prop
  | .bound v => registry.AcceptsGiven D v
  | .declared w => D w

/-- A call finds an argument for every parameter, and all that it passes is accepted. -/
def CallAccepted (registry : Registry) (D : Value → Prop) (b : Option Binding) (c : Callable) :
    Prop :=
  Resolves b c ∧ ∀ s, Passes b c s → registry.SourceAccepted D s

/-- A field can be assigned, and its value is accepted. -/
def FieldAccepted (registry : Registry) (D : Value → Prop) (className : Text) (b : FieldBinding) :
    Prop :=
  registry.Assignable (fieldOwner b.owner className) b.field ∧ registry.AcceptsGiven D b.value

/-- A method is declared, and the call of it is accepted. -/
def MethodAccepted (registry : Registry) (D : Value → Prop) (schema : TypeSchema) (b : Binding) :
    Prop :=
  ∃ c, Entries.get? b.method schema.methods = some c ∧ registry.CallAccepted D (some b) c

/-- All calls and fields of a definition are accepted. -/
structure PartsAccepted (registry : Registry) (D : Value → Prop) (d : Definition)
    (schema : TypeSchema) : Prop where
  /-- The call of the constructor, if one is declared. -/
  constructs : ∀ c, schema.constructor = some c → registry.CallAccepted D d.constructor c
  /-- The fields. -/
  assigns : ∀ b ∈ d.fields, registry.FieldAccepted D d.className b
  /-- The methods. -/
  invokes : ∀ b ∈ d.methods, registry.MethodAccepted D schema b

section Inversion

variable {D D' : Value → Prop}

lemma acceptsGiven_list_iff {items : List Value} :
    registry.AcceptsGiven D (.list items) ↔ ∀ v ∈ items, registry.AcceptsGiven D v := by
  constructor
  · intro h
    cases h with
    | literal h => exact absurd h (by simp [Value.isLiteral])
    | list h => exact h
  · exact .list

lemma acceptsGiven_tuple_iff {items : List Value} :
    registry.AcceptsGiven D (.tuple items) ↔ ∀ v ∈ items, registry.AcceptsGiven D v := by
  constructor
  · intro h
    cases h with
    | literal h => exact absurd h (by simp [Value.isLiteral])
    | tuple h => exact h
  · exact .tuple

lemma acceptsGiven_dict_iff {entries : List (Value × Value)} :
    registry.AcceptsGiven D (.dict entries) ↔ ∀ e ∈ entries, registry.AcceptsGiven D e.2 := by
  constructor
  · intro h
    cases h with
    | literal h => exact absurd h (by simp [Value.isLiteral])
    | dict h => exact h
  · exact .dict

lemma acceptsGiven_definition_iff :
    registry.AcceptsGiven D (.definition d) ↔
      ∃ schema, registry.Fits d schema ∧
        ∀ s, Operand d schema s → registry.SourceAccepted D s := by
  constructor
  · intro h
    -- a definition is no literal, so it was accepted for the schema that it fits
    cases h with
    | literal h => exact absurd h (by simp [Value.isLiteral])
    | @definition _ schema hfits hbound hdeclared =>
      refine ⟨schema, hfits, ?_⟩
      rintro (v | w) hs
      · exact hbound v hs
      · exact hdeclared w hs
  · rintro ⟨schema, hfits, h⟩
    exact .definition hfits (fun v => h (.bound v)) (fun w => h (.declared w))

lemma not_acceptsGiven_useDefault : ¬ registry.AcceptsGiven D .useDefault := by
  intro h
  cases h with
  | literal h => exact absurd h (by simp [Value.isLiteral])

lemma not_acceptsGiven_unsupported {v : Value} (hv : v.isUnsupported = true) :
    ¬ registry.AcceptsGiven D v := by
  intro h
  cases h with
  | literal h => cases v <;> simp [Value.isLiteral, Value.isUnsupported] at h hv
  | _ => exact absurd hv (by simp [Value.isUnsupported])

end Inversion

/-! ## What the compiler decides -/

variable {D : Value → Prop} {onDefault : Value → Run Value}

lemma compileSource_decides {s : Source Value} {name parameter : Text}
    (hd : ∀ w, (onDefault w).Decides (D w))
    (h : ∀ v, s = .bound v → (compileValue (some registry.introspector) onDefault v).Decides
      (registry.AcceptsGiven D v)) :
    (compileSource (some registry.introspector) onDefault name parameter s).Decides
      (registry.SourceAccepted D s) := by
  rcases s with v | w
  · exact h v rfl
  · exact blameDefault_decides (hd w)

/-- What is done for a field. -/
lemma compileField_decides (className : Text) {b : FieldBinding}
    (h : (compileValue (some registry.introspector) onDefault b.value).Decides
      (registry.AcceptsGiven D b.value)) :
    (checkField registry.introspector (fieldOwner b.owner className) b.field >>= fun _ =>
      compileValue (some registry.introspector) onDefault b.value >>= fun v =>
        pure (Instruction.assign b.field v)).Decides (registry.FieldAccepted D className b) :=
  (checkField_decides _ _).bind fun _ _ => h.map _

/-- The arguments of a call whose callable may be missing. -/
lemma compileConstructor_decides (b : Option Binding) (callable : Option Callable)
    (hd : ∀ w, (onDefault w).Decides (D w))
    (h : ∀ c, callable = some c → ∀ v, Passes b c (.bound v) →
      (compileValue (some registry.introspector) onDefault v).Decides
        (registry.AcceptsGiven D v)) :
    (compileArguments onDefault (boundRuns (some registry.introspector) onDefault b)
      callable).Decides (∀ c, callable = some c → registry.CallAccepted D b c) := by
  rcases callable with _ | c
  · exact (Run.Decides.pure []).congr (by simp)
  · refine (compileArguments_decides (A := registry.SourceAccepted D) ?_).congr
      (by simp [CallAccepted])
    rintro s hs parameter
    refine compileSource_decides hd ?_
    rintro v rfl
    exact h c rfl v hs

/-- The call of a method, which may be missing. -/
lemma compileCall_decides (className : Text) (b : Binding) (callable : Option Callable)
    (hd : ∀ w, (onDefault w).Decides (D w))
    (h : ∀ e ∈ b.arguments, (compileValue (some registry.introspector) onDefault e.2).Decides
      (registry.AcceptsGiven D e.2)) :
    (compileCall (some registry.introspector) onDefault className b callable).Decides
      (∃ c, callable = some c ∧ registry.CallAccepted D (some b) c) := by
  rcases callable with _ | c
  · exact (Run.Decides.mismatched _).congr (by simp)
  · refine (Run.Decides.map (compileConstructor_decides (some b) (some c) hd ?_) _).congr
      (by simp)
    rintro c' - v hv
    obtain ⟨call, e, hb, he, -, rfl⟩ := hv.exists_mem
    obtain rfl := Option.some.inj hb
    exact h e he

/-- What is done for a method. -/
lemma compileMethod_decides {className : Text} (hf : registry.find? className = some schema)
    (hd : ∀ w, (onDefault w).Decides (D w)) {b : Binding}
    (h : ∀ e ∈ b.arguments, (compileValue (some registry.introspector) onDefault e.2).Decides
      (registry.AcceptsGiven D e.2)) :
    (registry.introspector.method className b.method >>=
      compileCall (some registry.introspector) onDefault className b).Decides
        (registry.MethodAccepted D schema b) := by
  rw [introspector_method hf, pure_bind]
  exact compileCall_decides className b _ hd h

lemma declaredPlan_decides (hf : registry.find? d.className = some schema)
    (hd : ∀ w, (onDefault w).Decides (D w))
    (h : ∀ v, d.Binds v → (compileValue (some registry.introspector) onDefault v).Decides
      (registry.AcceptsGiven D v)) :
    (declaredPlan registry onDefault d schema).Decides (registry.PartsAccepted D d schema) := by
  have hbound : ∀ c, schema.constructor = some c → ∀ v, Passes d.constructor c (.bound v) →
      (compileValue (some registry.introspector) onDefault v).Decides
        (registry.AcceptsGiven D v) := by
    rintro c - v hv
    obtain ⟨b, e, hb, he, -, rfl⟩ := hv.exists_mem
    exact h e.2 (.construct hb he)
  have hconstructor := compileConstructor_decides d.constructor schema.constructor hd hbound
  have hfields := (compileFields_traverses d.className).decides fun b hb =>
    compileField_decides d.className (h b.value (.assign hb))
  have hmethods := (compileMethods_traverses d.className).decides fun b hb =>
    compileMethod_decides hf hd fun e he => h e.2 (.invoke hb he)
  refine ((Run.Decides.note _).bind fun _ _ => hconstructor.bind fun _ arguments =>
    hfields.bind fun _ assignments => hmethods.map fun calls =>
      .construct d.className arguments (keywordsOf schema.constructor) ::
        (assignments ++ calls)).congr ?_
  rw [true_and]
  exact ⟨fun h => ⟨h.1, h.2.1, h.2.2⟩, fun h => ⟨h.constructs, h.assigns, h.invokes⟩⟩

/-- What a definition compiles by is what the rules ask of it. -/
lemma fits_and_operands_iff (hn : IsNameable d.className)
    (hi : registry.Instantiates d.className schema) :
    registry.PartsAccepted D d schema ↔
      registry.Fits d schema ∧ ∀ s, Operand d schema s → registry.SourceAccepted D s := by
  constructor
  · rintro ⟨hconstructor, hfields, hmethods⟩
    refine ⟨⟨hn, hi, fun c hc => (hconstructor c hc).1, fun b hb => (hfields b hb).1, ?_⟩, ?_⟩
    · intro b hb
      obtain ⟨c, hc, hr, -⟩ := hmethods b hb
      exact ⟨c, hc, hr⟩
    · intro s hs
      cases hs with
      | construct hc hs => exact (hconstructor _ hc).2 s hs
      | assign hb => exact (hfields _ hb).2
      | @invoke b c _ hb hc hs =>
        obtain ⟨c', hc', -, hA⟩ := hmethods b hb
        obtain rfl : c = c' := Option.some.inj (hc.symm.trans hc')
        exact hA s hs
  · rintro ⟨hfits, hA⟩
    refine ⟨fun c hc => ⟨hfits.constructs c hc, fun s hs => hA s (.construct hc hs)⟩,
      fun b hb => ⟨hfits.assigns b hb, hA _ (.assign hb)⟩, ?_⟩
    intro b hb
    obtain ⟨c, hc, hr⟩ := hfits.invokes b hb
    exact ⟨c, hc, hr, fun s hs => hA s (.invoke hb hc hs)⟩

lemma compileDefinition_decides (hd : ∀ w, (onDefault w).Decides (D w))
    (h : ∀ v, d.Binds v → (compileValue (some registry.introspector) onDefault v).Decides
      (registry.AcceptsGiven D v)) :
    (compileDefinition (some registry.introspector) onDefault d).Decides
      (registry.AcceptsGiven D (.definition d)) := by
  rw [compileDefinition_eq, acceptsGiven_definition_iff]
  have hfits : (∃ schema, registry.Fits d schema ∧
      ∀ s, Operand d schema s → registry.SourceAccepted D s) →
        IsNameable d.className ∧ ∃ schema, registry.Instantiates d.className schema := by
    rintro ⟨schema, hfits, -⟩
    exact ⟨hfits.nameable, schema, hfits.instantiates⟩
  have hplan : IsNameable d.className ∧ (∃ schema, registry.Instantiates d.className schema) →
      (eagerPlan registry.introspector onDefault d).Decides (∃ schema, registry.Fits d schema ∧
        ∀ s, Operand d schema s → registry.SourceAccepted D s) := by
    rintro ⟨hn, schema, hi⟩
    rw [eagerPlan_eq_declaredPlan hi.1]
    refine (declaredPlan_decides hi.1 hd h).congr ((fits_and_operands_iff hn hi).trans ?_)
    constructor
    · exact fun h => ⟨schema, h⟩
    · rintro ⟨schema', h⟩
      -- a name is registered for one class only
      obtain rfl : schema = schema' := Option.some.inj (hi.1.symm.trans h.1.instantiates.1)
      exact h
  -- the lazy path checks the class once more, which decides nothing new
  refine Run.Decides.within ?_ _
  split
  · refine ((checkClass_decides d.name).bind fun hc _ => (Run.Decides.note _).bind fun _ _ =>
      (checkClass_decides d.name).bind fun hc _ => (hplan hc).map _).congr ?_
    exact ⟨fun h => h.2.2.2, fun h => ⟨hfits h, trivial, hfits h, h⟩⟩
  · refine ((checkClass_decides d.name).bind fun hc _ => hplan hc).congr ?_
    exact ⟨fun h => h.2, fun h => ⟨hfits h, h⟩⟩

/-- The compiler decides the rules, if the way it compiles declared defaults decides `D`. -/
theorem compileValue_decides (hd : ∀ w, (onDefault w).Decides (D w)) (v : Value) :
    (compileValue (some registry.introspector) onDefault v).Decides
      (registry.AcceptsGiven D v) := by
  induction v using Value.positionInduct with
  | literal v h =>
    rw [compileValue_literal h]
    exact (Run.Decides.pure v).congr ⟨fun _ => .literal h, fun _ => trivial⟩
  | reference entry =>
    rw [compileValue]
    exact (Run.Decides.pure _).congr ⟨fun _ => .reference entry, fun _ => trivial⟩
  | useDefault =>
    rw [compileValue]
    exact (Run.Decides.mismatched _).congr ⟨False.elim, not_acceptsGiven_useDefault⟩
  | unsupported v h =>
    rw [compileValue_unsupported h]
    exact (Run.Decides.fail _).congr ⟨False.elim, not_acceptsGiven_unsupported h⟩
  | list items ih =>
    have hitems := compileItems_traverses.decides ih
    rw [compileValue, acceptsGiven_list_iff]
    exact hitems.map _
  | tuple items ih =>
    have hitems := compileItems_traverses.decides ih
    rw [compileValue, acceptsGiven_tuple_iff]
    exact hitems.map _
  | dict entries ih =>
    -- only the value of an entry is compiled, its key stays as it is
    have hentries := compileEntries_traverses.decides fun e he => (ih e he).map (e.1, ·)
    rw [compileValue, acceptsGiven_dict_iff]
    exact hentries.map _
  | definition d ih =>
    rw [compileValue]
    exact (compileDefinition_decides hd ih).map _

end Blueprint.Registry
