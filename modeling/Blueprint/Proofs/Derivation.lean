/-
# How a plan comes about

A plan is the end of a compilation; this file keeps the whole of it.  `Registry.Derives c` says that
the value `c.value` is compiled to the operand `c.operand` with the warnings `c.warnings`, by one
rule for each kind of value.  The rule for definitions goes through a *worksheet*: what was compiled
for each parameter of each call, and for each field.  A plan and its warnings are read off the
worksheet, in the order in which the compiler goes through it.

`Registry.Reaches v w` says that the compilation of `v` comes to the value `w` at some depth:
through collections, and through what definitions bind and which declared defaults they rely on.

* Every result of the compiler has a derivation (`compile_tells`).
* A value has at most one derivation (`Derives.unique`), so that the operand of a derivation is what
  compiling its value on its own returns (`Derives.returns`).
-/
import Blueprint.Proofs.Defaults

namespace Blueprint

/-! ## What a run warns of -/

namespace Run

variable {α β : Type}

/-- A result of the run comes with warnings that were added to the earlier ones; both together
satisfy `P`. -/
def Tells (x : Run α) (P : α → List Warning → Prop) : Prop :=
  ∀ entry world a world', x entry world = (.ok a, world') →
    ∃ warnings, world'.warnings = world.warnings ++ warnings ∧ P a warnings

namespace Tells

variable {x : Run α} {f : α → Run β} {P P' : α → List Warning → Prop}
  {Q : β → List Warning → Prop}

lemma exists_of_ok {entry : Option Value} {world : World} {a : α} (h : x.Tells P)
    (hx : (x entry world).1 = .ok a) : ∃ warnings, P a warnings := by
  rcases hr : x entry world with ⟨result, world'⟩
  rw [hr] at hx
  obtain rfl : result = .ok a := hx
  obtain ⟨warnings, -, ha⟩ := h entry world a world' hr
  exact ⟨warnings, ha⟩

lemma mono (h : x.Tells P) (hP : ∀ a warnings, P a warnings → P' a warnings) : x.Tells P' := by
  intro entry world a world' hx
  obtain ⟨warnings, hw, ha⟩ := h entry world a world' hx
  exact ⟨warnings, hw, hP a warnings ha⟩

protected lemma pure {a : α} (h : P a []) : (Pure.pure a : Run α).Tells P := by
  intro entry world a' world' hx
  obtain ⟨ha, rfl⟩ := Prod.mk.inj hx
  obtain rfl := Except.ok.inj ha
  exact ⟨[], (List.append_nil _).symm, h⟩

lemma fail (failure : Failure) : (Run.fail failure : Run α).Tells P := by
  intro entry world a world' hx
  exact absurd (congrArg Prod.fst hx) nofun

lemma mistaken (cause : Mistake) : (Run.mistaken cause : Run α).Tells P := by
  intro entry world a world' hx
  exact absurd (congrArg Prod.fst hx) nofun

lemma mismatched (cause : Mismatch) : (Run.mismatched cause : Run α).Tells P :=
  Tells.fail (.mismatch cause)

/-- The warnings of two runs one after the other are those of the first, and then of the second. -/
protected lemma bind (hx : x.Tells P)
    (hf : ∀ a before, P a before → (f a).Tells fun b after => Q b (before ++ after)) :
    (x >>= f).Tells Q := by
  intro entry world b world' h
  obtain ⟨a, middle, hxa, hfb⟩ := bind_eq_ok h
  obtain ⟨before, hbefore, ha⟩ := hx entry world a middle hxa
  obtain ⟨after, hafter, hb⟩ := hf a before ha entry middle b world' hfb
  refine ⟨before ++ after, ?_, hb⟩
  rw [hafter, hbefore, List.append_assoc]

protected lemma within (h : x.Tells P) (name : Option Value) : (Run.within name x).Tells P :=
  fun _ world => h name world

/-- A handler that has no result leaves the results as they are. -/
protected lemma recover {handler : Failure → Run α} (h : x.Tells P)
    (hh : ∀ failure, (handler failure).Tells fun _ _ => False) : (x.recover handler).Tells P := by
  intro entry world a world' hx
  rw [Run.recover_apply] at hx
  rcases hr : x entry world with ⟨failure | a', w⟩ <;> rw [hr] at hx
  · obtain ⟨_, _, hfalse⟩ := hh failure entry w a world' hx
    exact hfalse.elim
  · exact h entry world a world' (hr.trans hx)

lemma note (event : Event) {P : Unit → List Warning → Prop} (h : P () []) :
    (Run.note event).Tells P := by
  intro entry world a world' hx
  obtain ⟨-, rfl⟩ := Prod.mk.inj hx
  exact ⟨[], (List.append_nil _).symm, h⟩

lemma warn (warning : Warning) {P : Unit → List Warning → Prop} (h : P () [warning]) :
    (Run.warn warning).Tells P := by
  intro entry world a world' hx
  obtain ⟨-, rfl⟩ := Prod.mk.inj hx
  exact ⟨[warning], rfl, h⟩

/-- What is done for the items of a list one after the other.  A row stands for what was done for
one item; it has the item, the result and the warnings. -/
lemma each {γ ρ : Type} {run : List α → Run (List γ)} {one : α → Run γ} (ht : Traverses run one)
    {key : ρ → α} {out : ρ → γ} {told : ρ → List Warning} {R : ρ → Prop} {items : List α}
    (h : ∀ a ∈ items, (one a).Tells fun v warnings =>
      ∃ row, R row ∧ key row = a ∧ out row = v ∧ told row = warnings) :
    (run items).Tells fun vs warnings => ∃ rows : List ρ, (∀ row ∈ rows, R row) ∧
      rows.map key = items ∧ rows.map out = vs ∧ rows.flatMap told = warnings := by
  induction items with
  | nil =>
    rw [ht.nil]
    exact Tells.pure ⟨[], List.forall_mem_nil _, rfl, rfl, rfl⟩
  | cons a rest ih =>
    have hrest := ih fun a' ha' => h a' (List.mem_cons_of_mem _ ha')
    rw [ht.cons]
    -- the row of the first item stands before those of the rest, and so do its warnings
    refine (h a List.mem_cons_self).bind ?_
    rintro _ _ ⟨row, hrow, rfl, rfl, rfl⟩
    refine hrest.bind ?_
    rintro _ _ ⟨rows, hrows, rfl, rfl, rfl⟩
    refine Tells.pure ⟨row :: rows, List.forall_mem_cons.2 ⟨hrow, hrows⟩, rfl, rfl, ?_⟩
    rw [List.flatMap_cons, List.append_nil]

end Tells

end Run

/-! ## Worksheets -/

/-- A value that was compiled: the operand it became, and the warnings on the way. -/
structure Compiled where
  /-- The value. -/
  value : Value
  /-- Its operand. -/
  operand : Value
  /-- The warnings, in order. -/
  warnings : List Warning

/-- What a call warns of, before its arguments are compiled: the bound positions that its callable
does not have.  A callable that is missing gives no warning. -/
def callWarnings (b : Option Binding) : Option Callable → List Warning
  | none => []
  | some c =>
    if (Resolution.unused ((Resolution.boundValues b).map Prod.fst) c).isEmpty then []
    else [.unusedPositions c.name c.parameters.length
      (Resolution.unused ((Resolution.boundValues b).map Prod.fst) c)]

/-- The arguments of a call: for each parameter one, compiled from what the call passes for it.  A
callable that is missing takes none. -/
inductive Supplies (b : Option Binding) : Option Callable → List Compiled → Prop where
  | missing : Supplies b none []
  | call {c : Callable} {arguments : List Compiled}
      (length : arguments.length = c.parameters.length)
      (supply : ∀ (i : Nat) (p : Parameter) (x : Compiled), c.parameters[i]? = some p →
        arguments[i]? = some x → ∃ s, Argument b i p s ∧ x.value = Resolution.Source.value s) :
      Supplies b (some c) arguments

/-- Resolution keeps the parameters in their order, each with its own argument. -/
lemma Resolution.argumentsFrom_getElem? {α : Type} {name : Text} {bound : Nat → Option α} {k : Nat}
    {ps : List Parameter} {sources : List (Parameter × Source α)}
    (h : argumentsFrom name bound k ps = .ok sources) :
    sources.map Prod.fst = ps ∧
      ∀ i p s, sources[i]? = some (p, s) → argument name p (bound (k + i)) = .ok s := by
  induction ps generalizing k sources with
  | nil =>
    obtain rfl : [] = sources := Except.ok.inj h
    exact ⟨rfl, fun i p s hi => absurd hi (by simp)⟩
  | cons q rest ih =>
    simp only [argumentsFrom] at h
    rcases hq : argument name q (bound k) with mistake | source <;> rw [hq] at h
    · exact absurd h (by simp)
    rcases hr : argumentsFrom name bound (k + 1) rest with mistake | more <;>
      simp only [hr, Except.map] at h
    · exact absurd h (by simp)
    obtain rfl : (q, source) :: more = sources := Except.ok.inj h
    obtain ⟨hfst, harguments⟩ := ih hr
    refine ⟨by rw [List.map_cons, hfst], ?_⟩
    intro i p s hi
    cases i with
    | zero =>
      obtain ⟨rfl, rfl⟩ := Prod.mk.inj (Option.some.inj hi)
      exact hq
    | succ i =>
      rw [show k + (i + 1) = k + 1 + i by omega]
      exact harguments i p s hi

lemma Argument.unique {b : Option Binding} {i : Nat} {p : Parameter} {s s' : Source Value}
    (h : Argument b i p s) (h' : Argument b i p s') : s = s' := by
  have hresolved : ∀ s, Argument b i p s →
      Resolution.argument "" p (Resolution.lookup (Resolution.boundValues b) i) = .ok s :=
    fun _ => Resolution.argument_eq_ok_iff.2
  exact Except.ok.inj ((hresolved s h).symm.trans (hresolved s' h'))

namespace Supplies

variable {b : Option Binding} {callable : Option Callable} {c : Callable}
  {arguments arguments' : List Compiled}

lemma eq_nil_of_missing (h : Supplies b callable arguments) (hc : callable = none) :
    arguments = [] := by
  cases h with
  | missing => rfl
  | call => exact absurd hc (by simp)

lemma passes_of_mem (h : Supplies b callable arguments) {x : Compiled} (hx : x ∈ arguments) :
    ∃ c s, callable = some c ∧ Passes b c s ∧ x.value = Resolution.Source.value s := by
  cases h with
  | missing => exact absurd hx (by simp)
  | @call c _ length supply =>
    obtain ⟨i, hi⟩ := List.mem_iff_getElem?.1 hx
    have hlt : i < c.parameters.length := by
      rw [← length]
      exact (List.getElem?_eq_some_iff.1 hi).1
    obtain ⟨s, hs, hv⟩ := supply i _ x (List.getElem?_eq_getElem hlt) hi
    exact ⟨c, s, rfl, ⟨i, _, List.getElem?_eq_getElem hlt, hs⟩, hv⟩

lemma resolves (h : Supplies b callable arguments) (hc : callable = some c) : Resolves b c := by
  cases h with
  | missing => exact absurd hc (by simp)
  | call length supply =>
    obtain rfl := Option.some.inj hc
    intro i p hp
    have hlt : i < arguments.length := by
      rw [length]
      exact (List.getElem?_eq_some_iff.1 hp).1
    obtain ⟨s, hs, -⟩ := supply i p _ hp (List.getElem?_eq_getElem hlt)
    exact ⟨s, hs⟩

lemma mem_of_passes (h : Supplies b (some c) arguments) {s : Source Value} (hs : Passes b c s) :
    ∃ x ∈ arguments, x.value = Resolution.Source.value s := by
  cases h with
  | call length supply =>
    obtain ⟨i, p, hp, ha⟩ := hs
    have hlt : i < arguments.length := by
      rw [length]
      exact (List.getElem?_eq_some_iff.1 hp).1
    obtain ⟨s', hs', hv⟩ := supply i p _ hp (List.getElem?_eq_getElem hlt)
    obtain rfl := ha.unique hs'
    exact ⟨_, List.getElem_mem hlt, hv⟩

/-- A call passes the same values, whoever compiles them. -/
lemma values_eq (h : Supplies b callable arguments) (h' : Supplies b callable arguments') :
    arguments.map Compiled.value = arguments'.map Compiled.value := by
  cases h with
  | missing =>
    cases h'
    rfl
  | @call c _ length supply =>
    cases h' with
    | call length' supply' =>
      refine List.ext_getElem (by simp only [List.length_map, length, length']) ?_
      intro i hi hi'
      rw [List.length_map] at hi hi'
      have hlt : i < c.parameters.length := by
        rw [← length]
        exact hi
      have hp : c.parameters[i]? = some c.parameters[i] := List.getElem?_eq_getElem hlt
      obtain ⟨s, hs, hv⟩ := supply i _ _ hp (List.getElem?_eq_getElem hi)
      obtain ⟨s', hs', hv'⟩ := supply' i _ _ hp (List.getElem?_eq_getElem hi')
      obtain rfl := hs.unique hs'
      rw [List.getElem_map, List.getElem_map, hv, hv']

end Supplies

/-- A field with its compiled value. -/
structure Assignment where
  /-- What the definition has for the field. -/
  binding : FieldBinding
  /-- Its compiled value. -/
  compiled : Compiled

/-- The step that assigns the field. -/
def Assignment.step (x : Assignment) : Instruction :=
  .assign x.binding.field x.compiled.operand

/-- A method call with its callable and its compiled arguments. -/
structure Invocation where
  /-- What the definition has for the call. -/
  binding : Binding
  /-- The method. -/
  callable : Callable
  /-- The compiled arguments. -/
  arguments : List Compiled

/-- The step that calls the method. -/
def Invocation.step (x : Invocation) : Instruction :=
  .invoke x.binding.method (x.arguments.map Compiled.operand) x.callable.keywords

/-- What the call warns of, its arguments included. -/
def Invocation.warnings (x : Invocation) : List Warning :=
  callWarnings (some x.binding) (some x.callable) ++ x.arguments.flatMap Compiled.warnings

/-- Everything that was compiled for a definition. -/
structure Worksheet where
  /-- The definition. -/
  definition : Definition
  /-- The constructor of its class, where it has one. -/
  callable : Option Callable
  /-- The compiled arguments of the constructor. -/
  arguments : List Compiled
  /-- The fields with their compiled values. -/
  assignments : List Assignment
  /-- The method calls with their compiled arguments. -/
  invocations : List Invocation

namespace Worksheet

/-- The steps after the object was constructed. -/
def steps (w : Worksheet) : Plan :=
  w.assignments.map Assignment.step ++ w.invocations.map Invocation.step

/-- The steps that build the object at once. -/
def eager (w : Worksheet) : Plan :=
  .construct w.definition.className (w.arguments.map Compiled.operand) (keywordsOf w.callable) ::
    w.steps

/-- The plan of the definition. -/
def plan (w : Worksheet) : Plan :=
  if w.definition.isLazy then [.placeholder w.definition.className w.eager] else w.eager

/-- The warnings, in the order of the steps. -/
def warnings (w : Worksheet) : List Warning :=
  (callWarnings w.definition.constructor w.callable ++
      w.arguments.flatMap Compiled.warnings) ++
    (w.assignments.flatMap (fun x => x.compiled.warnings) ++
      w.invocations.flatMap Invocation.warnings)

/-- Everything on the worksheet that was compiled. -/
def compiled (w : Worksheet) : List Compiled :=
  w.arguments ++ (w.assignments.map Assignment.compiled ++
    w.invocations.flatMap Invocation.arguments)

variable {w : Worksheet}

lemma mem_compiled_of_argument {c : Compiled} (hc : c ∈ w.arguments) : c ∈ w.compiled :=
  List.mem_append_left _ hc

lemma mem_compiled_of_assignment {x : Assignment} (hx : x ∈ w.assignments) :
    x.compiled ∈ w.compiled :=
  List.mem_append_right _ (List.mem_append_left _ (List.mem_map_of_mem hx))

lemma mem_compiled_of_invocation {x : Invocation} (hx : x ∈ w.invocations) {c : Compiled}
    (hc : c ∈ x.arguments) : c ∈ w.compiled :=
  List.mem_append_right _ (List.mem_append_right _ (List.mem_flatMap.2 ⟨x, hx, hc⟩))

end Worksheet

/-- The worksheet is filled in as the definition and the declarations of the registry have it. -/
structure Registry.Prepares (registry : Registry) (schema : TypeSchema) (w : Worksheet) : Prop where
  /-- The declarations are as the definition uses them. -/
  fits : registry.Fits w.definition schema
  /-- The constructor is the declared one. -/
  callable : w.callable = schema.constructor
  /-- The constructor gets what the definition passes. -/
  arguments : Supplies w.definition.constructor w.callable w.arguments
  /-- The fields are those of the definition, in order. -/
  fields : w.assignments.map Assignment.binding = w.definition.fields
  /-- Each field gets its own value. -/
  values : ∀ x ∈ w.assignments, x.compiled.value = x.binding.value
  /-- The calls are those of the definition, in order. -/
  methods : w.invocations.map Invocation.binding = w.definition.methods
  /-- Each call is that of a declared method. -/
  callables : ∀ x ∈ w.invocations,
    Entries.get? x.binding.method schema.methods = some x.callable
  /-- Each method gets what its call passes. -/
  supplies : ∀ x ∈ w.invocations, Supplies (some x.binding) (some x.callable) x.arguments

namespace Registry

variable {registry : Registry} {schema : TypeSchema} {d : Definition}

/-! ## Derivations -/

/-- The value is compiled to the operand, with the warnings. -/
inductive Derives (registry : Registry) : Compiled → Prop where
  /-- A literal stays as it is. -/
  | literal {v : Value} (h : v.isLiteral = true) : Derives registry ⟨v, v, []⟩
  /-- So does a reference. -/
  | reference (entry : Value) : Derives registry ⟨.reference entry, .reference entry, []⟩
  /-- The items of a list are compiled. -/
  | list {items : List Compiled} (h : ∀ c ∈ items, Derives registry c) :
      Derives registry ⟨.list (items.map Compiled.value), .list (items.map Compiled.operand),
        items.flatMap Compiled.warnings⟩
  /-- So are those of a tuple. -/
  | tuple {items : List Compiled} (h : ∀ c ∈ items, Derives registry c) :
      Derives registry ⟨.tuple (items.map Compiled.value), .tuple (items.map Compiled.operand),
        items.flatMap Compiled.warnings⟩
  /-- The values of a dictionary are compiled, and the keys stay. -/
  | dict {entries : List (Value × Compiled)} (h : ∀ e ∈ entries, Derives registry e.2) :
      Derives registry ⟨.dict (entries.map fun e => (e.1, e.2.value)),
        .dict (entries.map fun e => (e.1, e.2.operand)),
        entries.flatMap fun e => e.2.warnings⟩
  /-- A definition becomes an object with the plan of its worksheet. -/
  | definition {w : Worksheet} {schema : TypeSchema} (hw : registry.Prepares schema w)
      (h : ∀ c ∈ w.compiled, Derives registry c) :
      Derives registry ⟨.definition w.definition, .nested w.definition.className w.plan,
        w.warnings⟩

/-- A call of a definition, with the callable that is declared for it. -/
inductive Calls (registry : Registry) (d : Definition) : Option Binding → Callable → Prop where
  | construct {schema : TypeSchema} {c : Callable} (hd : registry.find? d.className = some schema)
      (hc : schema.constructor = some c) : Calls registry d d.constructor c
  | invoke {schema : TypeSchema} {b : Binding} {c : Callable}
      (hd : registry.find? d.className = some schema) (hb : b ∈ d.methods)
      (hc : Entries.get? b.method schema.methods = some c) : Calls registry d (some b) c

/-- The compilation of a value comes to another one, the value itself included. -/
inductive Reaches (registry : Registry) : Value → Value → Prop where
  | refl (v : Value) : Reaches registry v v
  | list {items : List Value} {v w : Value} (hv : v ∈ items) (h : Reaches registry v w) :
      Reaches registry (.list items) w
  | tuple {items : List Value} {v w : Value} (hv : v ∈ items) (h : Reaches registry v w) :
      Reaches registry (.tuple items) w
  | dict {entries : List (Value × Value)} {e : Value × Value} {w : Value} (he : e ∈ entries)
      (h : Reaches registry e.2 w) : Reaches registry (.dict entries) w
  /-- Through what a definition binds, and the declared defaults that it relies on. -/
  | operand {d : Definition} {schema : TypeSchema} {s : Source Value} {w : Value}
      (hd : registry.find? d.className = some schema) (hs : Operand d schema s)
      (h : Reaches registry (Resolution.Source.value s) w) : Reaches registry (.definition d) w

/-! ## What is compiled for a definition -/

namespace Prepares

variable {w w' : Worksheet} {schema' : TypeSchema}

lemma schema_unique (h : registry.Prepares schema w) (h' : registry.Prepares schema' w')
    (hd : w'.definition = w.definition) : schema' = schema := by
  have hf := h'.fits.instantiates.1
  rw [hd] at hf
  exact Option.some.inj (hf.symm.trans h.fits.instantiates.1)

lemma mem_methods (h : registry.Prepares schema w) {x : Invocation} (hx : x ∈ w.invocations) :
    x.binding ∈ w.definition.methods := by
  rw [← h.methods]
  exact List.mem_map_of_mem hx

lemma mem_fields (h : registry.Prepares schema w) {x : Assignment} (hx : x ∈ w.assignments) :
    x.binding ∈ w.definition.fields := by
  rw [← h.fields]
  exact List.mem_map_of_mem hx

/-- What is compiled for a definition are its operands … -/
lemma operand_of_mem (h : registry.Prepares schema w) {c : Compiled} (hc : c ∈ w.compiled) :
    ∃ s, Operand w.definition schema s ∧ c.value = Resolution.Source.value s := by
  rw [Worksheet.compiled, List.mem_append, List.mem_append] at hc
  rcases hc with hc | hc | hc
  · obtain ⟨callable, s, hcallable, hs, hv⟩ := h.arguments.passes_of_mem hc
    exact ⟨s, .construct (h.callable.symm.trans hcallable) hs, hv⟩
  · obtain ⟨x, hx, rfl⟩ := List.mem_map.1 hc
    exact ⟨.bound x.binding.value, .assign (h.mem_fields hx), h.values x hx⟩
  · obtain ⟨x, hx, hc⟩ := List.mem_flatMap.1 hc
    obtain ⟨callable, s, hcallable, hs, hv⟩ := (h.supplies x hx).passes_of_mem hc
    obtain rfl := Option.some.inj hcallable
    exact ⟨s, .invoke (h.mem_methods hx) (h.callables x hx) hs, hv⟩

/-- … and all of them. -/
lemma mem_of_operand (h : registry.Prepares schema w) {s : Source Value}
    (hs : Operand w.definition schema s) :
    ∃ c ∈ w.compiled, c.value = Resolution.Source.value s := by
  simp only [Worksheet.compiled, List.mem_append]
  cases hs with
  | construct hcallable hs =>
    have harguments := h.arguments
    rw [h.callable, hcallable] at harguments
    obtain ⟨c, hc, hv⟩ := harguments.mem_of_passes hs
    exact ⟨c, .inl hc, hv⟩
  | assign hb =>
    rw [← h.fields] at hb
    obtain ⟨x, hx, rfl⟩ := List.mem_map.1 hb
    exact ⟨x.compiled, .inr (.inl (List.mem_map_of_mem hx)), h.values x hx⟩
  | invoke hb hcallable hs =>
    rw [← h.methods] at hb
    obtain ⟨x, hx, rfl⟩ := List.mem_map.1 hb
    obtain rfl := Option.some.inj (hcallable.symm.trans (h.callables x hx))
    obtain ⟨c, hc, hv⟩ := (h.supplies x hx).mem_of_passes hs
    exact ⟨c, .inr (.inr (List.mem_flatMap.2 ⟨x, hx, hc⟩)), hv⟩

lemma calls_construct (h : registry.Prepares schema w) {c : Callable} (hc : w.callable = some c) :
    registry.Calls w.definition w.definition.constructor c :=
  .construct h.fits.instantiates.1 (h.callable.symm.trans hc)

lemma calls_invoke (h : registry.Prepares schema w) {x : Invocation} (hx : x ∈ w.invocations) :
    registry.Calls w.definition (some x.binding) x.callable :=
  .invoke h.fits.instantiates.1 (h.mem_methods hx) (h.callables x hx)

lemma reaches_of_mem (h : registry.Prepares schema w) {c : Compiled} (hc : c ∈ w.compiled)
    {v : Value} (hr : registry.Reaches c.value v) :
    registry.Reaches (.definition w.definition) v := by
  obtain ⟨s, hs, hv⟩ := h.operand_of_mem hc
  rw [hv] at hr
  exact .operand h.fits.instantiates.1 hs hr

end Prepares

/-! ## One derivation for each value -/

/-- Lists with the same images are the same, if items with the same image are. -/
lemma eq_of_map_eq {α β : Type} {f : α → β} {xs ys : List α} (h : ys.map f = xs.map f)
    (hf : ∀ x ∈ xs, ∀ y ∈ ys, f y = f x → y = x) : ys = xs := by
  induction xs generalizing ys with
  | nil => exact List.map_eq_nil_iff.1 h
  | cons x xs ih =>
    cases ys with
    | nil => exact absurd h (by simp)
    | cons y ys =>
      obtain ⟨hhead, htail⟩ := List.cons.inj h
      have hfirst : y = x := hf x List.mem_cons_self y List.mem_cons_self hhead
      have hrest : ys = xs :=
        ih htail fun x hx y hy => hf x (List.mem_cons_of_mem _ hx) y (List.mem_cons_of_mem _ hy)
      rw [hfirst, hrest]

/-- Worksheets for one definition agree if what they have compiled for equal values does. -/
lemma Prepares.unique {w w' : Worksheet} {schema' : TypeSchema} (h : registry.Prepares schema w)
    (h' : registry.Prepares schema' w') (hd : w'.definition = w.definition)
    (hc : ∀ c ∈ w.compiled, ∀ c' ∈ w'.compiled, c'.value = c.value → c' = c) : w' = w := by
  obtain rfl := h.schema_unique h' hd
  -- the shape of a worksheet is given by the definition, so it is enough to compare what it holds
  have hcallable : w'.callable = w.callable := h'.callable.trans h.callable.symm
  have hsame {xs ys : List Compiled} (hxs : ∀ x ∈ xs, x ∈ w.compiled)
      (hys : ∀ y ∈ ys, y ∈ w'.compiled) (hv : ys.map Compiled.value = xs.map Compiled.value) :
      ys = xs :=
    eq_of_map_eq hv fun x hx y hy => hc x (hxs x hx) y (hys y hy)
  have harguments : w'.arguments = w.arguments := by
    refine hsame (fun _ => Worksheet.mem_compiled_of_argument)
      (fun _ => Worksheet.mem_compiled_of_argument) ?_
    have hsupplies := h'.arguments
    rw [hd, hcallable] at hsupplies
    exact hsupplies.values_eq h.arguments
  have hassignments : w'.assignments = w.assignments := by
    refine eq_of_map_eq (f := Assignment.binding) (by rw [h'.fields, hd, h.fields]) ?_
    rintro ⟨b, c⟩ hx ⟨b', c'⟩ hx' (rfl : b' = b)
    have hcc := hc c (Worksheet.mem_compiled_of_assignment hx) c'
      (Worksheet.mem_compiled_of_assignment hx') ((h'.values _ hx').trans (h.values _ hx).symm)
    rw [hcc]
  have hinvocations : w'.invocations = w.invocations := by
    refine eq_of_map_eq (f := Invocation.binding) (by rw [h'.methods, hd, h.methods]) ?_
    rintro ⟨b, c, xs⟩ hx ⟨b', c', ys⟩ hx' (rfl : b' = b)
    obtain rfl : c = c' := Option.some.inj ((h.callables _ hx).symm.trans (h'.callables _ hx'))
    have hxs : ys = xs := hsame (fun _ => Worksheet.mem_compiled_of_invocation hx)
      (fun _ => Worksheet.mem_compiled_of_invocation hx')
      ((h'.supplies _ hx').values_eq (h.supplies _ hx))
    rw [hxs]
  cases w
  cases w'
  simp only at hd hcallable harguments hassignments hinvocations
  rw [hd, hcallable, harguments, hassignments, hinvocations]

theorem Derives.unique {c c' : Compiled} (h : registry.Derives c) (h' : registry.Derives c')
    (hv : c'.value = c.value) : c' = c := by
  -- the last rule is told from the value, once a literal is known to be nothing else
  induction h generalizing c' with
  | @literal v hl =>
    cases h' with
    | @literal v' _ =>
      obtain rfl : v' = v := hv
      rfl
    | _ => subst hv; exact absurd hl (by simp [Value.isLiteral])
  | reference entry =>
    cases h' with
    | literal hl => subst hv; exact absurd hl (by simp [Value.isLiteral])
    | reference entry' => rw [Value.reference.inj hv]
    | _ => exact absurd hv (by simp)
  | @list items _ ih =>
    cases h' with
    | literal hl => subst hv; exact absurd hl (by simp [Value.isLiteral])
    | @list items' hitems =>
      obtain rfl := eq_of_map_eq (Value.list.inj hv) fun x hx y hy => ih x hx (hitems y hy)
      rfl
    | _ => exact absurd hv (by simp)
  | @tuple items _ ih =>
    cases h' with
    | literal hl => subst hv; exact absurd hl (by simp [Value.isLiteral])
    | @tuple items' hitems =>
      obtain rfl := eq_of_map_eq (Value.tuple.inj hv) fun x hx y hy => ih x hx (hitems y hy)
      rfl
    | _ => exact absurd hv (by simp)
  | @dict entries _ ih =>
    cases h' with
    | literal hl => subst hv; exact absurd hl (by simp [Value.isLiteral])
    | @dict entries' hentries =>
      have heq : entries' = entries := by
        refine eq_of_map_eq (Value.dict.inj hv) ?_
        rintro ⟨key, c⟩ hx ⟨key', c'⟩ hy he
        obtain ⟨rfl, hvalue⟩ := Prod.mk.inj he
        obtain rfl : c' = c := ih _ hx (hentries _ hy) hvalue
        rfl
      rw [heq]
    | _ => exact absurd hv (by simp)
  | @definition w schema hw _ ih =>
    cases h' with
    | literal hl => subst hv; exact absurd hl (by simp [Value.isLiteral])
    | definition hw' h' =>
      obtain rfl := hw.unique hw' (Value.definition.inj hv) fun c hc c' hc' => ih c hc (h' c' hc')
      rfl
    | _ => exact absurd hv (by simp)

lemma Derives.accepts {c : Compiled} (h : registry.Derives c) : registry.Accepts c.value := by
  induction h with
  | literal hl => exact .literal hl
  | reference entry => exact .reference entry
  | list _ ih =>
    refine .list ?_
    rw [List.forall_mem_map]
    exact ih
  | tuple _ ih =>
    refine .tuple ?_
    rw [List.forall_mem_map]
    exact ih
  | dict _ ih =>
    refine .dict ?_
    rw [List.forall_mem_map]
    exact ih
  | definition hw _ ih =>
    -- every operand of the definition is one of the values on its worksheet
    refine .definition hw.fits ?_
    intro s hs
    obtain ⟨c, hc, hv⟩ := hw.mem_of_operand hs
    rw [← hv]
    exact ih c hc

/-! ## The compiler finds the derivation -/

/-- What the run returns is the operand of a derivation of the value, and the warnings that it adds
are those of the derivation. -/
def Finds (registry : Registry) (v : Value) (x : Run Value) : Prop :=
  x.Tells fun operand warnings => registry.Derives ⟨v, operand, warnings⟩

variable {onDefault : Value → Run Value}

lemma blameDefault_tells {x : Run Value} {P : Value → List Warning → Prop}
    {parameter callable : Text} (h : x.Tells P) : (blameDefault parameter callable x).Tells P := by
  refine h.recover ?_
  intro failure
  cases failure with
  | mismatch cause => exact Run.Tells.mistaken _
  | _ => exact Run.Tells.fail _

lemma compileItems_tells {items : List Value}
    (h : ∀ v ∈ items, registry.Finds v (compileValue (some registry.introspector) onDefault v)) :
    (compileItems (some registry.introspector) onDefault items).Tells fun operands warnings =>
      ∃ cs : List Compiled, (∀ c ∈ cs, registry.Derives c) ∧ cs.map Compiled.value = items ∧
        cs.map Compiled.operand = operands ∧ cs.flatMap Compiled.warnings = warnings := by
  refine Run.Tells.each compileItems_traverses fun v hv => ?_
  refine (h v hv).mono ?_
  intro operand warnings hc
  exact ⟨⟨v, operand, warnings⟩, hc, rfl, rfl, rfl⟩

lemma compileEntries_tells {entries : List (Value × Value)}
    (h : ∀ e ∈ entries,
      registry.Finds e.2 (compileValue (some registry.introspector) onDefault e.2)) :
    (compileEntries (some registry.introspector) onDefault entries).Tells fun operands warnings =>
      ∃ cs : List (Value × Compiled), (∀ c ∈ cs, registry.Derives c.2) ∧
        (cs.map fun c => (c.1, c.2.value)) = entries ∧
        (cs.map fun c => (c.1, c.2.operand)) = operands ∧
        (cs.flatMap fun c => c.2.warnings) = warnings := by
  refine Run.Tells.each compileEntries_traverses fun e he => ?_
  refine (h e he).bind fun operand warnings hc => Run.Tells.pure ?_
  exact ⟨(e.1, ⟨e.2, operand, warnings⟩), hc, rfl, rfl, (List.append_nil _).symm⟩

/-- Resolution finds what the call passes for each parameter, and warns of what it does not use. -/
lemma resolve_tells (b : Option Binding) (c : Callable) :
    (Resolution.resolve (Resolution.boundValues b) c).Tells fun sources warnings =>
      sources.map Prod.fst = c.parameters ∧
        (∀ i p s, sources[i]? = some (p, s) → Argument b i p s) ∧
        warnings = callWarnings b (some c) := by
  unfold Resolution.resolve
  rcases hr : Resolution.argumentsFrom c.name
    (Resolution.lookup (Resolution.boundValues b)) 0 c.parameters with mistake | sources
  · exact Run.Tells.mistaken mistake
  obtain ⟨hparameters, harguments⟩ := Resolution.argumentsFrom_getElem? hr
  have hsources : ∀ i p s, sources[i]? = some (p, s) → Argument b i p s := by
    intro i p s hi
    have h := harguments i p s hi
    rw [Nat.zero_add] at h
    exact Resolution.argument_eq_ok_iff.1 h
  have hwarn : (Resolution.warnUnused ((Resolution.boundValues b).map Prod.fst) c).Tells
      fun _ warnings => warnings = callWarnings b (some c) := by
    rw [Resolution.warnUnused_eq, callWarnings]
    split
    · exact Run.Tells.pure rfl
    · exact Run.Tells.warn _ rfl
  refine hwarn.bind ?_
  rintro _ _ rfl
  exact Run.Tells.pure ⟨hparameters, hsources, List.append_nil _⟩

/-- What an argument is compiled to is derived from the value that it takes. -/
lemma compileSource_finds {b : Option Binding} {i : Nat} {p : Parameter} {s : Source Value}
    (hs : Argument b i p s) (name : Text) (hod : ∀ v, registry.Finds v (onDefault v))
    (h : ∀ call, b = some call → ∀ e ∈ call.arguments,
      registry.Finds e.2 (compileValue (some registry.introspector) onDefault e.2)) :
    registry.Finds (Resolution.Source.value s)
      (compileSource (some registry.introspector) onDefault name p.name s) := by
  cases hs with
  | bound hb hne => exact h _ hb _ (Binding.mem_of_get hne)
  | declared => exact blameDefault_tells (hod _)

/-- The arguments of a call are compiled after it was warned of what is not used. -/
lemma compileArguments_tells {b : Option Binding} (callable : Option Callable)
    (hod : ∀ v, registry.Finds v (onDefault v))
    (h : ∀ call, b = some call → ∀ e ∈ call.arguments,
      registry.Finds e.2 (compileValue (some registry.introspector) onDefault e.2)) :
    (compileArguments onDefault (boundRuns (some registry.introspector) onDefault b)
      callable).Tells fun operands warnings => ∃ cs : List Compiled,
        (∀ c ∈ cs, registry.Derives c) ∧ Supplies b callable cs ∧
          cs.map Compiled.operand = operands ∧
          callWarnings b callable ++ cs.flatMap Compiled.warnings = warnings := by
  rcases callable with _ | c
  · exact Run.Tells.pure ⟨[], List.forall_mem_nil _, .missing, rfl, rfl⟩
  rw [compileArguments_eq]
  refine (resolve_tells b c).bind ?_
  rintro sources _ ⟨hparameters, hsources, rfl⟩
  -- beside what a source is compiled to stays its parameter, so that positions are not lost
  have hone : ∀ e ∈ sources,
      (compileSource (some registry.introspector) onDefault c.name e.1.name e.2).Tells
        fun operand warnings => ∃ row : (Parameter × Source Value) × Compiled,
          (row.2.value = Resolution.Source.value row.1.2 ∧ registry.Derives row.2) ∧
            row.1 = e ∧ row.2.operand = operand ∧ row.2.warnings = warnings := by
    rintro ⟨p, s⟩ he
    obtain ⟨i, hi⟩ := List.mem_iff_getElem?.1 he
    refine (compileSource_finds (hsources i p s hi) c.name hod h).mono ?_
    intro operand warnings hc
    exact ⟨((p, s), ⟨_, operand, warnings⟩), ⟨rfl, hc⟩, rfl, rfl, rfl⟩
  refine (Run.Tells.each (compileOperands_traverses c.name) hone).mono ?_
  rintro _ _ ⟨rows, hrows, rfl, rfl, rfl⟩
  refine ⟨rows.map Prod.snd, ?_, .call ?_ ?_, ?_, ?_⟩
  · rw [List.forall_mem_map]
    exact fun row hrow => (hrows row hrow).2
  · rw [← hparameters, List.length_map, List.length_map, List.length_map]
  · intro i p x hp hx
    rw [List.getElem?_map] at hx
    obtain ⟨row, hi, rfl⟩ := Option.map_eq_some_iff.1 hx
    have hrow : (rows.map Prod.fst)[i]? = some row.1 := by
      rw [List.getElem?_map, hi, Option.map_some]
    rw [← hparameters, List.getElem?_map, hrow, Option.map_some] at hp
    obtain rfl := Option.some.inj hp
    exact ⟨row.1.2, hsources i _ _ hrow, (hrows row (List.mem_of_getElem? hi)).1⟩
  · rw [List.map_map]
    rfl
  · rw [List.flatMap_map]

lemma checkClass_tells (name : Value) (className : Text) :
    (checkClass registry.introspector name className).Tells fun _ warnings =>
      (IsNameable className ∧ ∃ schema, registry.Instantiates className schema) ∧
        warnings = [] := by
  rcases checkClass_cases registry name className with ⟨hn, hi, h⟩ | ⟨-, cause, h⟩ | ⟨-, h⟩ <;>
    rw [h]
  · exact Run.Tells.pure ⟨⟨hn, hi⟩, rfl⟩
  · exact Run.Tells.mistaken cause
  · exact Run.Tells.mismatched _

lemma checkField_tells (owner : Value) (field : Text) :
    (checkField registry.introspector owner field).Tells fun _ warnings =>
      registry.Assignable owner field ∧ warnings = [] := by
  rcases checkField_cases registry owner field with
    ⟨ha, h⟩ | ⟨-, ⟨cause, h⟩ | ⟨typeName, h⟩⟩ | ⟨-, cause, h⟩ <;> rw [h]
  · exact Run.Tells.pure ⟨ha, rfl⟩
  · exact Run.Tells.mistaken cause
  · exact Run.Tells.fail _
  · exact Run.Tells.mismatched cause

lemma compileFields_tells {className : Text} {fields : List FieldBinding}
    (h : ∀ b ∈ fields,
      registry.Finds b.value (compileValue (some registry.introspector) onDefault b.value)) :
    (compileFields (some registry.introspector) registry.introspector onDefault className
      fields).Tells fun steps warnings => ∃ xs : List Assignment,
        (∀ x ∈ xs, registry.Assignable (fieldOwner x.binding.owner className) x.binding.field ∧
          x.compiled.value = x.binding.value ∧ registry.Derives x.compiled) ∧
          xs.map Assignment.binding = fields ∧ xs.map Assignment.step = steps ∧
          (xs.flatMap fun x => x.compiled.warnings) = warnings := by
  refine Run.Tells.each (compileFields_traverses className) fun b hb => ?_
  refine (checkField_tells _ _).bind ?_
  rintro _ _ ⟨ha, rfl⟩
  refine (h b hb).bind fun operand warnings hc => Run.Tells.pure ?_
  exact ⟨⟨b, ⟨b.value, operand, warnings⟩⟩, ⟨ha, rfl, hc⟩, rfl, rfl, (List.append_nil _).symm⟩

lemma compileMethods_tells {className : Text} {methods : List Binding}
    (hf : registry.find? className = some schema)
    (hod : ∀ v, registry.Finds v (onDefault v))
    (h : ∀ b ∈ methods, ∀ e ∈ b.arguments,
      registry.Finds e.2 (compileValue (some registry.introspector) onDefault e.2)) :
    (compileMethods (some registry.introspector) registry.introspector onDefault className
      methods).Tells fun steps warnings => ∃ xs : List Invocation,
        (∀ x ∈ xs, (∀ c ∈ x.arguments, registry.Derives c) ∧
          Entries.get? x.binding.method schema.methods = some x.callable ∧
          Supplies (some x.binding) (some x.callable) x.arguments) ∧
          xs.map Invocation.binding = methods ∧ xs.map Invocation.step = steps ∧
          xs.flatMap Invocation.warnings = warnings := by
  refine Run.Tells.each (compileMethods_traverses className) fun b hb => ?_
  rw [introspector_method hf, pure_bind]
  rcases hc : Entries.get? b.method schema.methods with _ | c
  · exact Run.Tells.mismatched _
  have hbound : ∀ call, some b = some call → ∀ e ∈ call.arguments,
      registry.Finds e.2 (compileValue (some registry.introspector) onDefault e.2) := by
    intro call hcall
    obtain rfl := Option.some.inj hcall
    exact h b hb
  refine (compileArguments_tells (some c) hod hbound).bind ?_
  rintro _ _ ⟨cs, hcs, hsupplies, rfl, rfl⟩
  exact Run.Tells.pure ⟨⟨b, c, cs⟩, ⟨hcs, hc, hsupplies⟩, rfl, rfl, (List.append_nil _).symm⟩

/-- What is compiled for a definition whose class was checked fills in a worksheet. -/
lemma declaredPlan_tells (hn : IsNameable d.className)
    (hi : registry.Instantiates d.className schema)
    (hod : ∀ v, registry.Finds v (onDefault v))
    (h : ∀ v, d.Binds v →
      registry.Finds v (compileValue (some registry.introspector) onDefault v)) :
    (declaredPlan registry onDefault d schema).Tells fun plan warnings => ∃ w : Worksheet,
      w.definition = d ∧ registry.Prepares schema w ∧ (∀ c ∈ w.compiled, registry.Derives c) ∧
        w.eager = plan ∧ w.warnings = warnings := by
  unfold declaredPlan
  refine Run.Tells.bind (P := fun _ warnings => warnings = []) (Run.Tells.note _ rfl) ?_
  rintro _ _ rfl
  have hconstructor := compileArguments_tells schema.constructor hod
    fun call hcall e he => h e.2 (.construct hcall he)
  refine hconstructor.bind ?_
  rintro _ _ ⟨arguments, harguments, hsupplies, rfl, rfl⟩
  refine (compileFields_tells fun b hb => h b.value (.assign hb)).bind ?_
  rintro _ _ ⟨assignments, hassignments, hfields, rfl, rfl⟩
  refine (compileMethods_tells hi.1 hod fun b hb e he => h e.2 (.invoke hb he)).bind ?_
  rintro _ _ ⟨invocations, hinvocations, hmethods, rfl, rfl⟩
  refine Run.Tells.pure ⟨⟨d, schema.constructor, arguments, assignments, invocations⟩, rfl, ?_, ?_,
    rfl, ?_⟩
  · have hassigns : ∀ b ∈ d.fields,
        registry.Assignable (fieldOwner b.owner d.className) b.field := by
      intro b hb
      rw [← hfields] at hb
      obtain ⟨x, hx, rfl⟩ := List.mem_map.1 hb
      exact (hassignments x hx).1
    have hinvokes : ∀ b ∈ d.methods, ∃ c, Entries.get? b.method schema.methods = some c ∧
        Resolves (some b) c := by
      intro b hb
      rw [← hmethods] at hb
      obtain ⟨x, hx, rfl⟩ := List.mem_map.1 hb
      obtain ⟨-, hc, hx⟩ := hinvocations x hx
      exact ⟨x.callable, hc, hx.resolves rfl⟩
    exact {
      fits := ⟨hn, hi, fun c hc => hsupplies.resolves hc, hassigns, hinvokes⟩
      callable := rfl
      arguments := hsupplies
      fields := hfields
      values := fun x hx => (hassignments x hx).2.1
      methods := hmethods
      callables := fun x hx => (hinvocations x hx).2.1
      supplies := fun x hx => (hinvocations x hx).2.2 }
  · intro c hc
    rw [Worksheet.compiled, List.mem_append, List.mem_append] at hc
    rcases hc with hc | hc | hc
    · exact harguments c hc
    · obtain ⟨x, hx, rfl⟩ := List.mem_map.1 hc
      exact (hassignments x hx).2.2
    · obtain ⟨x, hx, hc⟩ := List.mem_flatMap.1 hc
      exact (hinvocations x hx).1 c hc
  · simp only [Worksheet.warnings, List.nil_append, List.append_nil]

lemma compileDefinition_tells
    (hod : ∀ v, registry.Finds v (onDefault v))
    (h : ∀ v, d.Binds v →
      registry.Finds v (compileValue (some registry.introspector) onDefault v)) :
    (compileDefinition (some registry.introspector) onDefault d).Tells fun plan warnings =>
      registry.Derives ⟨.definition d, .nested d.className plan, warnings⟩ := by
  rw [compileDefinition_eq]
  refine Run.Tells.within ?_ _
  refine (checkClass_tells d.name d.className).bind ?_
  rintro _ _ ⟨⟨hn, schema, hi⟩, rfl⟩
  have hplan := declaredPlan_tells hn hi hod h
  rw [← eagerPlan_eq_declaredPlan hi.1] at hplan
  split
  case isTrue hlazy =>
    refine Run.Tells.bind (P := fun _ warnings => warnings = []) (Run.Tells.note _ rfl) ?_
    rintro _ _ rfl
    -- a lazy definition has its class checked once more, with nothing new to tell
    refine (checkClass_tells d.name d.className).bind ?_
    rintro _ _ ⟨-, rfl⟩
    refine hplan.bind ?_
    rintro _ _ ⟨w, rfl, hw, hc, rfl, rfl⟩
    refine Run.Tells.pure ?_
    have hderives := Derives.definition hw hc
    rw [Worksheet.plan, if_pos hlazy] at hderives
    simpa only [List.nil_append, List.append_nil] using hderives
  case isFalse heager =>
    refine hplan.mono ?_
    rintro _ _ ⟨w, rfl, hw, hc, rfl, rfl⟩
    have hderives := Derives.definition hw hc
    rw [Worksheet.plan, if_neg heager] at hderives
    exact hderives

/-- What a value is compiled to has a derivation, if what declared defaults are compiled to has. -/
lemma compileValue_finds (hod : ∀ v, registry.Finds v (onDefault v)) (v : Value) :
    registry.Finds v (compileValue (some registry.introspector) onDefault v) := by
  induction v using Value.positionInduct with
  | literal v h =>
    rw [compileValue_literal h]
    exact Run.Tells.pure (.literal h)
  | reference entry =>
    rw [compileValue]
    exact Run.Tells.pure (.reference entry)
  | useDefault =>
    rw [compileValue]
    exact Run.Tells.mismatched _
  | unsupported v h =>
    rw [compileValue_unsupported h]
    exact Run.Tells.fail _
  | list items ih =>
    rw [compileValue]
    refine (compileItems_tells ih).bind ?_
    rintro _ _ ⟨cs, hcs, rfl, rfl, rfl⟩
    refine Run.Tells.pure ?_
    rw [List.append_nil]
    exact .list hcs
  | tuple items ih =>
    rw [compileValue]
    refine (compileItems_tells ih).bind ?_
    rintro _ _ ⟨cs, hcs, rfl, rfl, rfl⟩
    refine Run.Tells.pure ?_
    rw [List.append_nil]
    exact .tuple hcs
  | dict entries ih =>
    rw [compileValue]
    refine (compileEntries_tells ih).bind ?_
    rintro _ _ ⟨cs, hcs, rfl, rfl, rfl⟩
    refine Run.Tells.pure ?_
    rw [List.append_nil]
    exact .dict hcs
  | definition d ih =>
    rw [compileValue]
    refine (compileDefinition_tells hod ih).bind ?_
    intro plan warnings h
    refine Run.Tells.pure ?_
    rw [List.append_nil]
    exact h

lemma compileUpTo_finds (n : Nat) (v : Value) :
    registry.Finds v (compileUpTo registry.introspector n v) := by
  induction n generalizing v with
  | zero => exact Run.Tells.fail .circularDefaults
  | succ n ih => exact compileValue_finds ih v

/-- The plan of a definition, and what was warned of on the way, have a derivation. -/
theorem compile_tells (registry : Registry) (d : Definition) :
    (compile registry.introspector d).Tells fun plan warnings =>
      registry.Derives ⟨.definition d, .nested d.className plan, warnings⟩ :=
  compileDefinition_tells (compileUpTo_finds registry.introspector.depth)
    fun v _ => compileValue_finds (compileUpTo_finds registry.introspector.depth) v

/-- The operand of a derivation is what compiling its value on its own returns, whatever the entry
and the world. -/
theorem Derives.returns {c : Compiled} (h : registry.Derives c) (entry : Option Value)
    (world : World) :
    (compileOperand (some registry.introspector) c.value entry world).1 = .ok c.operand := by
  have hdecides : (compileOperand (some registry.introspector) c.value).Decides
      (registry.Accepts c.value) :=
    (compileValue_decides (compileUpTo_decides registry.introspector.depth) c.value).congr
      acceptsUpTo_depth_iff
  have hfinds : registry.Finds c.value (compileOperand (some registry.introspector) c.value) :=
    compileValue_finds (compileUpTo_finds registry.introspector.depth) c.value
  obtain ⟨operand, hoperand⟩ := (hdecides.returns_iff entry world).2 h.accepts
  obtain ⟨warnings, hderives⟩ := hfinds.exists_of_ok hoperand
  rw [hoperand, ← h.unique hderives rfl]

end Registry

end Blueprint
