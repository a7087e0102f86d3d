/-
# What a chain of steps comes to

Every step changes one part of a definition and leaves the others as they are (`BuildStep.Makes`),
and whether it is accepted depends on its own arguments only.  So the definition that a chain comes
to can be told from the steps of each kind (`BuildChain.Builds`): the last constructor call and the
last lazy flag count, fields and method calls stand in the order of their steps.  This determines
the definition, whatever the order in which steps of different kinds are taken.

In a session several chains may go on from one place.  Each request comes to what the chain of steps
behind it comes to (`BuildRequest.results_eq`), and no request changes what an earlier one came to.
-/
import Blueprint.Definition.Chain
import Blueprint.Proofs.KeyedArguments
import Blueprint.Proofs.Rearranging

namespace Blueprint

/-! ## The binding of a call -/

/-- The binding is that of a call: each position has the value of the last argument whose name
stands for it, or else the value that is given for it in order. -/
structure Binding.IsOfCall (method : Text) (given : GivenArguments) (b : Binding) : Prop where
  /-- It is of the method that is called. -/
  method : b.method = method
  /-- It holds what is given by name, over what is given in order. -/
  keyed : KeyedBy Position.Names Eq given.named given.inOrder b.arguments
  /-- Its positions are bound in the order in which they are first given. -/
  order : ∃ positions, List.Forall₂ (fun e n => Position.Names e.1 n) given.named positions ∧
    b.boundPositions = (List.range given.inOrder.length ++ positions).eraseDups

/-- Every argument that is given by name stands for a position. -/
def GivenArguments.IsAccepted (given : GivenArguments) : Prop :=
  ∀ e ∈ given.named, ∃ n, Position.Names e.1 n

namespace Binding

variable {method : Text} {given : GivenArguments} {b b' : Binding}

lemma IsOfCall.isAccepted (h : b.IsOfCall method given) : given.IsAccepted :=
  fun e he => (h.keyed.accepted e he).1

/-- There is but one binding of a call. -/
lemma IsOfCall.unique (h : b.IsOfCall method given) (h' : b'.IsOfCall method given) : b' = b := by
  obtain ⟨positions, hpositions, horder⟩ := h.order
  obtain ⟨positions', hpositions', horder'⟩ := h'.order
  -- the names determine which positions are bound and in which order, the rows what they have
  have hnames : Relator.RightUnique fun (e : Text × Value) n => Position.Names e.1 n :=
    fun _ _ _ => Position.Names.unique
  have hkeys : b'.boundPositions = b.boundPositions := by
    rw [horder, horder', List.right_unique_forall₂' hnames hpositions' hpositions]
  have hget : ∀ n, Entries.get? n b'.arguments = Entries.get? n b.arguments :=
    fun n => Option.ext fun v => (h'.keyed.get?_iff n v).trans (h.keyed.get?_iff n v).symm
  have harguments : b'.arguments = b.arguments :=
    Entries.eq_of_keys_of_get? h.keyed.nodup hkeys hget
  obtain ⟨_, _⟩ := b
  obtain ⟨_, _⟩ := b'
  obtain rfl := h.method
  obtain rfl := h'.method
  exact congrArg _ harguments

lemma isOfCall_of_ofCall (h : ofCall method given.inOrder given.named = .ok b) :
    b.IsOfCall method given := by
  have hmeans : ∀ v v' v'' : Value, v = v' → v = v'' → v' = v'' := fun _ _ _ h h' => h.symm.trans h'
  have hnames : ∀ name n n', Position.Names name n → Position.Names name n' → n = n' :=
    fun _ _ _ => Position.Names.unique
  rw [ofCall] at h
  rcases namedArguments_cases given.named with ⟨pairs, hok, hpairs⟩ | ⟨_, _, _, _, -, -, -, hfails⟩
  · rw [hok] at h
    obtain rfl := Except.ok.inj h
    refine ⟨rfl, keyedBy_ofList hnames hmeans hpairs given.inOrder, pairs.map Prod.fst, ?_, ?_⟩
    · exact List.forall₂_map_right_iff.2 (hpairs.imp fun _ _ he => he.1)
    · have hkeys : Entries.keys (enumerate given.inOrder 0 ++ pairs) =
          List.range given.inOrder.length ++ pairs.map Prod.fst := by
        rw [List.range_eq_range', ← keys_enumerate]
        exact List.map_append
      exact (Entries.keys_ofList _).trans (congrArg _ hkeys)
  · rw [hfails] at h
    exact absurd h (by simp [Except.map])

/-- A call whose names stand for positions is bound. -/
lemma exists_ofCall (h : given.IsAccepted) (method : Text) :
    ∃ b, ofCall method given.inOrder given.named = .ok b := by
  rcases namedArguments_cases given.named with
    ⟨pairs, hok, -⟩ | ⟨before, e, after, _, hnamed, -, he, -⟩
  · exact ⟨_, by rw [ofCall, hok]; rfl⟩
  · have hmem : e ∈ given.named := hnamed ▸ List.mem_append_right _ List.mem_cons_self
    obtain ⟨n, hn⟩ := h e hmem
    exact absurd hn (he.not_names n)

lemma ofCall_eq_ok_iff :
    ofCall method given.inOrder given.named = .ok b ↔ b.IsOfCall method given := by
  refine ⟨isOfCall_of_ofCall, fun h => ?_⟩
  obtain ⟨b', hb'⟩ := exists_ofCall h.isAccepted method
  rw [hb', h.unique (isOfCall_of_ofCall hb')]

lemma exists_isOfCall (h : given.IsAccepted) (method : Text) : ∃ b, IsOfCall method given b :=
  (exists_ofCall h method).imp fun _ => isOfCall_of_ofCall

end Binding

/-! ## Steps -/

/-- The names of the arguments that a step gives stand for positions. -/
def BuildStep.IsAccepted : BuildStep → Prop
  | .constructor given | .method _ given => given.IsAccepted
  | .field .. | .lazy _ => True

/-- What a step changes in a definition; everything else stays as it is. -/
inductive BuildStep.Makes (d : Definition) : BuildStep → Definition → Prop where
  /-- The constructor has the arguments of the call. -/
  | constructor {given : GivenArguments} {b : Binding} (h : b.IsOfCall "__init__" given) :
      Makes d (.constructor given) { d with constructor := some b }
  /-- One more field is assigned. -/
  | field (field : Text) (value owner : Value) :
      Makes d (.field field value owner) { d with fields := d.fields ++ [⟨field, value, owner⟩] }
  /-- One more method is called. -/
  | method {name : Text} {given : GivenArguments} {b : Binding} (h : b.IsOfCall name given) :
      Makes d (.method name given) { d with methods := d.methods ++ [b] }
  /-- The lazy flag is set. -/
  | lazy (flag : Bool) : Makes d (.lazy flag) { d with isLazy := flag }

section Steps

variable {d d' : Definition} {step : BuildStep} {given : GivenArguments}

/-- The arguments that a step takes for itself have no names that stand for positions. -/
lemma Position.Names.ne_own {name : Text} {n : Nat} (h : Position.Names name n) :
    name ≠ "self" ∧ name ≠ "method_name" := by
  obtain ⟨key, rfl, -⟩ := h
  have hfirst : ("p" ++ key : Text).points.head? = some (.char 'p') := rfl
  constructor <;> intro heq <;> rw [heq] at hfirst <;> exact absurd hfirst (by decide)

lemma checkNames_eq_ok (h : given.IsAccepted) {own : List Text}
    (hown : ∀ name ∈ own, name = "self" ∨ name = "method_name") (label : Text) :
    checkNames label own given.named = .ok () := by
  rcases checkNames_cases label own given.named with ⟨e, he, hmem, -⟩ | hok
  · obtain ⟨n, hn⟩ := h e he
    obtain ⟨hself, hmethod⟩ := hn.ne_own
    exact absurd (hown e.1 hmem) (not_or.2 ⟨hself, hmethod⟩)
  · exact hok

/-- A call comes to what is made of its binding: names that stand for positions are never those of
the arguments that it takes for itself. -/
lemma checked_eq_ok_iff {own : List Text}
    (hown : ∀ name ∈ own, name = "self" ∨ name = "method_name") (label method : Text)
    (change : Binding → Definition) :
    (do checkNames label own given.named
        let b ← Binding.ofCall method given.inOrder given.named
        return change b : Except Failure Definition) = .ok d' ↔
      ∃ b, b.IsOfCall method given ∧ change b = d' := by
  constructor
  · intro h
    -- the names are checked before the binding is made, and either may fail
    rcases hnames : checkNames label own given.named with failure | ⟨⟨⟩⟩
    · rw [hnames] at h
      exact absurd h nofun
    rcases hbinding : Binding.ofCall method given.inOrder given.named with failure | b
    · rw [hnames, hbinding] at h
      exact absurd h nofun
    · rw [hnames, hbinding] at h
      have hcall : b.IsOfCall method given := Binding.ofCall_eq_ok_iff.1 hbinding
      have hchange : change b = d' := Except.ok.inj h
      exact ⟨b, hcall, hchange⟩
  · rintro ⟨b, hb, rfl⟩
    have hnames := checkNames_eq_ok hb.isAccepted hown label
    have hbinding := Binding.ofCall_eq_ok_iff.2 hb
    rw [hnames, hbinding]
    rfl

/-- Taking a step changes what the step is for, and nothing else. -/
lemma take_eq_ok_iff : d.take step = .ok d' ↔ step.Makes d d' := by
  -- only steps with arguments are checked; the other two are always taken
  cases step with
  | constructor given =>
    refine (checked_eq_ok_iff (by simp) _ _ fun b => { d with constructor := some b }).trans ?_
    constructor
    · rintro ⟨b, hb, rfl⟩
      exact .constructor hb
    · intro h
      cases h with
      | constructor hb => exact ⟨_, hb, rfl⟩
  | method name given =>
    refine (checked_eq_ok_iff (by simp) _ _ fun b =>
      { d with methods := d.methods ++ [b] }).trans ?_
    constructor
    · rintro ⟨b, hb, rfl⟩
      exact .method hb
    · intro h
      cases h with
      | method hb => exact ⟨_, hb, rfl⟩
  | field field value owner =>
    constructor
    · intro h
      obtain rfl := Except.ok.inj h
      exact .field field value owner
    · rintro ⟨⟩
      rfl
  | lazy flag =>
    constructor
    · intro h
      obtain rfl := Except.ok.inj h
      exact .lazy flag
    · rintro ⟨⟩
      rfl

/-- A step is taken on any definition, if its arguments are accepted, and on none otherwise. -/
lemma exists_take_iff (d : Definition) (step : BuildStep) :
    (∃ d', d.take step = .ok d') ↔ step.IsAccepted := by
  simp only [take_eq_ok_iff]
  constructor
  · rintro ⟨d', h⟩
    cases h with
    | constructor h | method h => exact h.isAccepted
    | field | lazy => trivial
  · -- accepted arguments make a binding, and the binding makes the definition
    intro h
    cases step with
    | constructor given =>
      obtain ⟨b, hb⟩ := Binding.exists_isOfCall h "__init__"
      exact ⟨_, .constructor hb⟩
    | method name given =>
      obtain ⟨b, hb⟩ := Binding.exists_isOfCall h name
      exact ⟨_, .method hb⟩
    | field field value owner => exact ⟨_, .field field value owner⟩
    | lazy flag => exact ⟨_, .lazy flag⟩

end Steps

/-! ## Chains -/

/-- The arguments that a step gives to the constructor. -/
def BuildStep.constructorCall? : BuildStep → Option GivenArguments
  | .constructor given => some given
  | _ => none

/-- The field that a step assigns. -/
def BuildStep.fieldBinding? : BuildStep → Option FieldBinding
  | .field name value owner => some ⟨name, value, owner⟩
  | _ => none

/-- The method that a step calls, and the arguments that it is given. -/
def BuildStep.methodCall? : BuildStep → Option (Text × GivenArguments)
  | .method name given => some (name, given)
  | _ => none

/-- The lazy flag that a step sets. -/
def BuildStep.lazyFlag? : BuildStep → Option Bool
  | .lazy flag => some flag
  | _ => none

lemma eq_of_rel {α β : Type} {R : α → β → Prop} (hR : Relator.RightUnique R) {x : Option α}
    {y y' : Option β} (h : Option.Rel R x y) (h' : Option.Rel R x y') : y = y' := by
  cases h with
  | none =>
    cases h'
    rfl
  | some h =>
    cases h' with
    | some h' => exact congrArg some (hR h h')

lemma filterMap_concat {α β : Type} (f : α → Option β) (xs : List α) (x : α) :
    (xs ++ [x]).filterMap f = xs.filterMap f ++ (f x).toList := by
  rw [List.filterMap_append]
  cases h : f x <;> simp [h]

namespace BuildChain

/-- What the constructor is given, call by call. -/
def constructorCalls (chain : BuildChain) : List GivenArguments :=
  chain.steps.filterMap BuildStep.constructorCall?

/-- The fields that are assigned, in the order of the steps. -/
def fieldBindings (chain : BuildChain) : List FieldBinding :=
  chain.steps.filterMap BuildStep.fieldBinding?

/-- The methods that are called, in the order of the steps. -/
def methodCalls (chain : BuildChain) : List (Text × GivenArguments) :=
  chain.steps.filterMap BuildStep.methodCall?

/-- The lazy flags that are set, in the order of the steps. -/
def lazyFlags (chain : BuildChain) : List Bool :=
  chain.steps.filterMap BuildStep.lazyFlag?

/-- The definition has what the steps of each kind give: of constructor calls and of lazy flags that
of the last step, of fields and method calls those of all steps, in their order. -/
structure Builds (chain : BuildChain) (d : Definition) : Prop where
  /-- The class is that of the start. -/
  className : d.className = chain.className
  /-- The name is that of the start, or the class where that is missing or empty. -/
  name : d.name = if chain.name.isFalsy then .str chain.className else chain.name
  /-- The lazy flag is the last one that is set; it is not lazy where none is. -/
  isLazy : d.isLazy = chain.lazyFlags.getLast?.getD false
  /-- The constructor has the arguments of its last call; it has none where it is not called. -/
  constructor : Option.Rel (fun given b => b.IsOfCall "__init__" given)
    chain.constructorCalls.getLast? d.constructor
  /-- The fields are those of the steps. -/
  fields : d.fields = chain.fieldBindings
  /-- The methods have the arguments of their calls. -/
  methods : List.Forall₂ (fun call b => b.IsOfCall call.1 call.2) chain.methodCalls d.methods

/-- The chains have the same start, and the same steps of each kind in the same order. -/
structure SameByKind (chain chain' : BuildChain) : Prop where
  /-- The class is the same. -/
  className : chain'.className = chain.className
  /-- The name is the same. -/
  name : chain'.name = chain.name
  /-- The constructor calls are the same. -/
  constructorCalls : chain'.constructorCalls = chain.constructorCalls
  /-- The fields are the same. -/
  fieldBindings : chain'.fieldBindings = chain.fieldBindings
  /-- The method calls are the same. -/
  methodCalls : chain'.methodCalls = chain.methodCalls
  /-- The lazy flags are the same. -/
  lazyFlags : chain'.lazyFlags = chain.lazyFlags

variable {chain chain' : BuildChain} {d d' : Definition} {step : BuildStep}

@[simp] lemma constructorCalls_snoc : (chain.snoc step).constructorCalls =
    chain.constructorCalls ++ step.constructorCall?.toList :=
  filterMap_concat _ _ _

@[simp] lemma fieldBindings_snoc : (chain.snoc step).fieldBindings =
    chain.fieldBindings ++ step.fieldBinding?.toList :=
  filterMap_concat _ _ _

@[simp] lemma methodCalls_snoc : (chain.snoc step).methodCalls =
    chain.methodCalls ++ step.methodCall?.toList :=
  filterMap_concat _ _ _

@[simp] lemma lazyFlags_snoc : (chain.snoc step).lazyFlags =
    chain.lazyFlags ++ step.lazyFlag?.toList :=
  filterMap_concat _ _ _

lemma builds_create (className : Text) (name : Value) :
    Builds ⟨className, name, []⟩ (Definition.create className name) where
  className := rfl
  name := rfl
  isLazy := rfl
  constructor := .none
  fields := rfl
  methods := .nil

/-- One more step adds to what the steps of its kind give, and to nothing else. -/
lemma Builds.snoc (h : chain.Builds d) (hstep : step.Makes d d') : (chain.snoc step).Builds d' := by
  have hname : d'.className = d.className ∧ d'.name = d.name := by
    cases hstep <;> exact ⟨rfl, rfl⟩
  refine ⟨hname.1.trans h.className, hname.2.trans h.name, ?_, ?_, ?_, ?_⟩
  -- each part changes with the steps of its own kind; the others give nothing to it
  · rw [lazyFlags_snoc]
    cases hstep with
    | lazy flag => simp [BuildStep.lazyFlag?]
    | constructor | field | method => simpa [BuildStep.lazyFlag?] using h.isLazy
  · rw [constructorCalls_snoc]
    cases hstep with
    | constructor hb => simpa [BuildStep.constructorCall?] using hb
    | field | method | lazy => simpa [BuildStep.constructorCall?] using h.constructor
  · rw [fieldBindings_snoc]
    cases hstep with
    | field name value owner => simp [BuildStep.fieldBinding?, h.fields]
    | constructor | method | lazy => simpa [BuildStep.fieldBinding?] using h.fields
  · rw [methodCalls_snoc]
    cases hstep with
    | method hb => exact List.rel_append h.methods (.cons hb .nil)
    | constructor | field | lazy => simpa [BuildStep.methodCall?] using h.methods

/-- A chain comes to what its last step makes of what the steps before it come to. -/
lemma build_snoc_eq_ok_iff :
    (chain.snoc step).build = .ok d' ↔ ∃ d, chain.build = .ok d ∧ d.take step = .ok d' := by
  rw [build_snoc]
  rcases chain.build with failure | d
  · simp [Except.bind]
  · simp [Except.bind]

/-- Chains grow step by step. -/
lemma induction {P : BuildChain → Prop} (hnil : ∀ className name, P ⟨className, name, []⟩)
    (hsnoc : ∀ chain step, P chain → P (chain.snoc step)) (chain : BuildChain) : P chain := by
  obtain ⟨className, name, steps⟩ := chain
  induction steps using List.reverseRecOn with
  | nil => exact hnil className name
  | append_singleton before step ih => exact hsnoc _ step ih

/-- What a chain comes to has what the steps of each kind give. -/
lemma builds_of_build (h : chain.build = .ok d) : chain.Builds d := by
  -- from the right: the last step is taken on what the steps before it have built
  induction chain using BuildChain.induction generalizing d with
  | hnil className name =>
    obtain rfl := Except.ok.inj h
    exact builds_create className name
  | hsnoc chain step ih =>
    obtain ⟨d₀, hbefore, hstep⟩ := build_snoc_eq_ok_iff.1 h
    exact (ih hbefore).snoc (take_eq_ok_iff.1 hstep)

/-- A chain comes to a definition if all of its steps are accepted, and to a failure otherwise. -/
lemma exists_build_iff :
    (∃ d, chain.build = .ok d) ↔ ∀ step ∈ chain.steps, step.IsAccepted := by
  induction chain using BuildChain.induction with
  | hnil className name => exact iff_of_true ⟨_, build_nil className name⟩ (List.forall_mem_nil _)
  | hsnoc chain step ih =>
    have hsteps : (∀ s ∈ (chain.snoc step).steps, s.IsAccepted) ↔
        (∀ s ∈ chain.steps, s.IsAccepted) ∧ step.IsAccepted := by
      simp [BuildChain.snoc, or_imp, forall_and]
    rw [hsteps, ← ih]
    simp only [build_snoc_eq_ok_iff]
    constructor
    · rintro ⟨d', d, hbefore, hstep⟩
      exact ⟨⟨d, hbefore⟩, (exists_take_iff d step).1 ⟨d', hstep⟩⟩
    · rintro ⟨⟨d, hbefore⟩, hstep⟩
      obtain ⟨d', hd'⟩ := (exists_take_iff d step).2 hstep
      exact ⟨d', d, hbefore, hd'⟩

/-- What the steps of each kind give determines the definition. -/
lemma Builds.unique (h : chain.Builds d) (h' : chain.Builds d') : d' = d := by
  have hconstructor : d'.constructor = d.constructor :=
    eq_of_rel (fun _ _ _ hb hb' => hb'.unique hb) h'.constructor h.constructor
  have hcall : Relator.RightUnique fun (call : Text × GivenArguments) (b : Binding) =>
      b.IsOfCall call.1 call.2 := fun _ _ _ hb hb' => hb'.unique hb
  have hmethods : d'.methods = d.methods :=
    List.right_unique_forall₂' hcall h'.methods h.methods
  have hclass := h'.className.trans h.className.symm
  have hname := h'.name.trans h.name.symm
  have hlazy := h'.isLazy.trans h.isLazy.symm
  have hfields := h'.fields.trans h.fields.symm
  obtain ⟨⟩ := d
  obtain ⟨⟩ := d'
  simp only [Definition.mk.injEq]
  exact ⟨hname, hclass, hlazy, hconstructor, hfields, hmethods⟩

/-- A chain comes to the definition that has what its steps of each kind give, if all of its steps
are accepted. -/
lemma build_eq_ok_iff :
    chain.build = .ok d ↔ (∀ step ∈ chain.steps, step.IsAccepted) ∧ chain.Builds d := by
  constructor
  · exact fun h => ⟨exists_build_iff.1 ⟨d, h⟩, builds_of_build h⟩
  · rintro ⟨haccepted, h⟩
    obtain ⟨d', hd'⟩ := exists_build_iff.2 haccepted
    rw [hd', h.unique (builds_of_build hd')]

/-! ### Chains of the same steps by kind -/

/-- Whether all steps are accepted can be told from the constructor calls and the method calls. -/
lemma forall_isAccepted_iff : (∀ step ∈ chain.steps, step.IsAccepted) ↔
    (∀ given ∈ chain.constructorCalls, given.IsAccepted) ∧
      ∀ call ∈ chain.methodCalls, call.2.IsAccepted := by
  simp only [constructorCalls, methodCalls, List.mem_filterMap]
  constructor
  · intro h
    refine ⟨?_, ?_⟩
    · rintro given ⟨step, hstep, hgiven⟩
      cases step <;> cases hgiven
      exact h _ hstep
    · rintro call ⟨step, hstep, hcall⟩
      cases step <;> cases hcall
      exact h _ hstep
  · rintro ⟨hconstructor, hmethod⟩ step hstep
    cases step with
    | constructor given => exact hconstructor given ⟨_, hstep, rfl⟩
    | method name given => exact hmethod (name, given) ⟨_, hstep, rfl⟩
    | field | lazy => trivial

lemma SameByKind.builds (h : chain.SameByKind chain') (hd : chain.Builds d) :
    chain'.Builds d where
  className := hd.className.trans h.className.symm
  name := by rw [hd.name, h.name, h.className]
  isLazy := by rw [hd.isLazy, h.lazyFlags]
  constructor := by
    rw [h.constructorCalls]
    exact hd.constructor
  fields := hd.fields.trans h.fieldBindings.symm
  methods := by
    rw [h.methodCalls]
    exact hd.methods

/-- Chains of the same steps by kind come to the same definition, in whatever order steps of
different kinds are taken. -/
lemma SameByKind.build (h : chain.SameByKind chain') (hd : chain.build = .ok d) :
    chain'.build = .ok d := by
  obtain ⟨haccepted, hbuilds⟩ := build_eq_ok_iff.1 hd
  refine build_eq_ok_iff.2 ⟨?_, h.builds hbuilds⟩
  rw [forall_isAccepted_iff, h.constructorCalls, h.methodCalls]
  exact forall_isAccepted_iff.1 haccepted

end BuildChain

/-! ## Arguments by name in another order -/

/-- The arguments are the same, or those that are given by name stand in another order and no two of
them stand for one position. -/
def GivenArguments.Alike (given given' : GivenArguments) : Prop :=
  given' = given ∨
    given'.inOrder = given.inOrder ∧ given'.named.Perm given.named ∧
      given.named.Pairwise NamesDiffer

section Alike

variable {stands : Text → Nat → Prop} {n : Nat}

/-- Where no two keys stand for one position, the last row for a position is the only one. -/
lemma lastRow_iff_of_pairwise {β : Type} {rows : List (Text × β)} {e : Text × β}
    (h : rows.Pairwise fun a b => ∀ n, stands a.1 n → ¬ stands b.1 n) :
    LastRow stands n e rows ↔ e ∈ rows ∧ stands e.1 n := by
  constructor
  · intro hlast
    induction hlast with
    | here hn => exact ⟨List.mem_cons_self, hn⟩
    | later _ ih =>
      obtain ⟨hmem, hn⟩ := ih (List.pairwise_cons.1 h).2
      exact ⟨List.mem_cons_of_mem _ hmem, hn⟩
  · rintro ⟨he, hn⟩
    exact lastRow_of_pairwise h he hn

variable {method : Text} {given given' : GivenArguments} {b b' : Binding}

lemma Binding.IsOfCall.get?_eq (h : b.IsOfCall method given) (h' : b'.IsOfCall method given')
    (halike : given.Alike given') (n : Nat) :
    Entries.get? n b'.arguments = Entries.get? n b.arguments := by
  rcases halike with rfl | ⟨hinOrder, hperm, hapart⟩
  · rw [h.unique h']
  -- the only row for a position is the last one wherever it stands
  have hpairwise : given.named.Pairwise fun a b => ∀ n, Position.Names a.1 n →
      ¬ Position.Names b.1 n := hapart.imp NamesDiffer.not_names
  have hpairwise' : given'.named.Pairwise fun a b => ∀ n, Position.Names a.1 n →
      ¬ Position.Names b.1 n :=
    hperm.symm.pairwise hpairwise fun hab n hb ha => hab n ha hb
  refine Option.ext fun v => ?_
  rw [h.keyed.get?_iff, h'.keyed.get?_iff]
  simp only [lastRow_iff_of_pairwise hpairwise, lastRow_iff_of_pairwise hpairwise', hinOrder,
    hperm.mem_iff]

/-- Bindings of calls whose arguments are alike bind the same values, in whatever order. -/
lemma Binding.IsOfCall.rearranged (h : b.IsOfCall method given) (h' : b'.IsOfCall method given')
    (halike : given.Alike given') : b.Rearranged b' where
  method := h'.method.trans h.method.symm
  nodup := h.keyed.nodup
  perm := by
    refine (List.perm_ext_iff_of_nodup h'.keyed.nodup h.keyed.nodup).2 fun n => ?_
    have hiff : n ∈ Entries.keys b'.arguments ↔ n ∈ Entries.keys b.arguments := by
      rw [Entries.mem_keys_iff, Entries.mem_keys_iff, h.get?_eq h' halike n]
    exact hiff
  get := by
    intro n
    rw [Binding.get, Binding.get, h.get?_eq h' halike n]
    exact .refl _

end Alike

namespace BuildChain

/-- The chains come to definitions that differ in the order of bound positions only: they assign the
same fields, and the calls that count are given arguments that are alike. -/
structure Alike (chain chain' : BuildChain) : Prop where
  /-- The class is the same. -/
  className : chain'.className = chain.className
  /-- The name is the same. -/
  name : chain'.name = chain.name
  /-- The last lazy flag is the same. -/
  lazyFlag : chain'.lazyFlags.getLast? = chain.lazyFlags.getLast?
  /-- The last constructor calls are alike. -/
  constructorCall : Option.Rel GivenArguments.Alike chain.constructorCalls.getLast?
    chain'.constructorCalls.getLast?
  /-- The fields are the same. -/
  fieldBindings : chain'.fieldBindings = chain.fieldBindings
  /-- The method calls are alike. -/
  methodCalls : List.Forall₂ (fun call call' => call'.1 = call.1 ∧ call.2.Alike call'.2)
    chain.methodCalls chain'.methodCalls

variable {chain chain' : BuildChain} {d d' : Definition}

/-- What calls are given carries over to what they are bound to. -/
lemma forall₂_rearranged {calls calls' : List (Text × GivenArguments)} {bs bs' : List Binding}
    (h : List.Forall₂ (fun call b => b.IsOfCall call.1 call.2) calls bs)
    (h' : List.Forall₂ (fun call b => b.IsOfCall call.1 call.2) calls' bs')
    (halike : List.Forall₂ (fun call call' => call'.1 = call.1 ∧ call.2.Alike call'.2)
      calls calls') : List.Forall₂ Binding.Rearranged bs bs' := by
  induction halike generalizing bs bs' with
  | nil =>
    cases h
    cases h'
    exact .nil
  | cons hcall _ ih =>
    obtain ⟨hmethod, hgiven⟩ := hcall
    cases h with
    | cons hb h =>
      cases h' with
      | cons hb' h' =>
        have hsame := hb.rearranged (hmethod ▸ hb') hgiven
        exact .cons hsame (ih h h')

lemma rel_rearranged {given given' : Option GivenArguments} {b b' : Option Binding}
    (h : Option.Rel (fun given b => b.IsOfCall "__init__" given) given b)
    (h' : Option.Rel (fun given b => b.IsOfCall "__init__" given) given' b')
    (halike : Option.Rel GivenArguments.Alike given given') :
    Option.Rel Binding.Rearranged b b' := by
  cases halike with
  | none =>
    cases h
    cases h'
    exact .none
  | some hgiven =>
    cases h with
    | some hb =>
      cases h' with
      | some hb' => exact .some (hb.rearranged hb' hgiven)

/-- Chains that are alike come to definitions that bind the same values, in whatever order. -/
lemma Alike.rearranged (halike : chain.Alike chain') (h : chain.Builds d)
    (h' : chain'.Builds d') : d.Rearranged d' := by
  refine .of_parts ?_ ?_ ?_ ?_ ?_ (forall₂_rearranged h.methods h'.methods halike.methodCalls)
  · rw [h.name, h'.name, halike.name, halike.className]
  · rw [h.className, h'.className, halike.className]
  · rw [h.isLazy, h'.isLazy, halike.lazyFlag]
  · exact rel_rearranged h.constructor h'.constructor halike.constructorCall
  · rw [h.fields, h'.fields, halike.fieldBindings]
    exact List.forall₂_same.2 fun f _ => ⟨rfl, rfl, .refl _⟩

/-- The order in which arguments are given by name does not matter to anyone who compiles or
compares what a chain comes to, nor do constructor calls and lazy flags that are followed by
others. -/
theorem Alike.compile_eq (halike : chain.Alike chain') (h : chain.build = .ok d)
    (h' : chain'.build = .ok d') :
    (∀ types, compile types d = compile types d') ∧ ∀ x : Definition, (x == d') = (x == d) := by
  have hrearranged : d.Rearranged d' :=
    halike.rearranged (builds_of_build h) (builds_of_build h')
  exact ⟨hrearranged.compile_eq, hrearranged.equalDefinitions_eq false⟩

end BuildChain

/-! ## Sessions -/

namespace BuildRequest

/-- The chains behind what was made, with that of one more request. -/
def extend (chains : List BuildChain) : BuildRequest → List BuildChain
  | create className name => chains ++ [⟨className, name, []⟩]
  | take source step =>
    match chains[source]? with
    | some chain => chains ++ [chain.snoc step]
    | none => chains

/-- For each request of a session, the start that it goes back to and the steps from there on. -/
def chains (requests : List BuildRequest) : List BuildChain :=
  requests.foldl extend []

/-- A request comes to what its chain comes to. -/
lemma serve_map_build (chains : List BuildChain) (request : BuildRequest) :
    serve (chains.map BuildChain.build) request = (extend chains request).map BuildChain.build := by
  cases request with
  | create className name => rw [serve, extend, List.map_append, List.map_singleton,
      BuildChain.build_nil]
  | take source step =>
    rw [serve, extend, List.getElem?_map]
    rcases chains[source]? with _ | chain
    · rfl
    · rw [Option.map_some, List.map_append, List.map_singleton, BuildChain.build_snoc]

lemma foldl_serve_map_build (requests : List BuildRequest) (chains : List BuildChain) :
    requests.foldl serve (chains.map BuildChain.build) =
      (requests.foldl extend chains).map BuildChain.build := by
  -- both lists grow by the same requests, so a source is in both or in neither
  induction requests generalizing chains with
  | nil => rfl
  | cons request rest ih => rw [List.foldl_cons, serve_map_build, ih, List.foldl_cons]

/-- Each request of a session comes to what the chain of steps behind it comes to. -/
theorem results_eq (requests : List BuildRequest) :
    results requests = (chains requests).map BuildChain.build :=
  foldl_serve_map_build requests []

/-- A request leaves what earlier ones came to as it is. -/
lemma prefix_serve (made : List (Except Failure Definition)) (request : BuildRequest) :
    made <+: serve made request := by
  cases request with
  | create className name => exact List.prefix_append _ _
  | take source step =>
    rw [serve]
    split
    · exact List.prefix_append _ _
    · exact List.prefix_rfl

lemma prefix_foldl_serve (made : List (Except Failure Definition)) (later : List BuildRequest) :
    made <+: later.foldl serve made := by
  induction later generalizing made with
  | nil => exact List.prefix_rfl
  | cons request rest ih => exact (prefix_serve made request).trans (ih _)

/-- Whatever is asked for later leaves what a session came to as it is. -/
lemma prefix_results (requests later : List BuildRequest) :
    results requests <+: results (requests ++ later) := by
  rw [results, results, List.foldl_append]
  exact prefix_foldl_serve _ later

end BuildRequest

/-- A chain comes to a definition exactly if all names of its arguments stand for positions, and the
definition is that which its steps of each kind give; so chains of the same steps by kind come to
one definition, which compiles to one result.  In a session in which several chains go on from any
places, whatever came to a definition comes to it still after every later request, and it is the one
that the steps of its own chain give. -/
theorem chains_built_by_kind :
    -- one chain
    (∀ chain : BuildChain,
      ((∃ d, chain.build = .ok d) ↔ ∀ step ∈ chain.steps, step.IsAccepted) ∧
        ∀ d, chain.build = .ok d ↔ (∀ step ∈ chain.steps, step.IsAccepted) ∧ chain.Builds d) ∧
    -- chains of the same steps by kind
    (∀ chain chain' : BuildChain, chain.SameByKind chain' → ∀ d, chain.build = .ok d →
      chain'.build = .ok d ∧
        ∀ types, (Run.ofExcept chain'.build >>= compile types) =
          (Run.ofExcept chain.build >>= compile types)) ∧
    -- chains that go on from one place
    ∀ (requests later : List BuildRequest) (i : Nat) (d : Definition),
      (BuildRequest.results requests)[i]? = some (.ok d) →
        (BuildRequest.results (requests ++ later))[i]? = some (.ok d) ∧
          ∃ chain, (BuildRequest.chains requests)[i]? = some chain ∧ chain.build = .ok d ∧
            chain.Builds d := by
  refine ⟨fun chain => ⟨BuildChain.exists_build_iff, fun d => BuildChain.build_eq_ok_iff⟩, ?_, ?_⟩
  · intro chain chain' hsame d hd
    have hd' : chain'.build = .ok d := hsame.build hd
    exact ⟨hd', fun types => by rw [hd, hd']⟩
  · intro requests later i d hd
    obtain ⟨more, hmore⟩ := BuildRequest.prefix_results requests later
    refine ⟨?_, ?_⟩
    · obtain ⟨hi, -⟩ := List.getElem?_eq_some_iff.1 hd
      rw [← hmore, List.getElem?_append_left hi, hd]
    · rw [BuildRequest.results_eq, List.getElem?_map, Option.map_eq_some_iff] at hd
      obtain ⟨chain, hchain, hbuild⟩ := hd
      exact ⟨chain, hchain, hbuild, BuildChain.builds_of_build hbuild⟩

/-- A chain in which the constructor is called twice, the second time with a name that stands for a
position that is given in order, too. -/
def serviceChain : BuildChain :=
  ⟨"app.Service", .str "service",
    [.constructor ⟨[.str "x"], []⟩,
      .field "x" (.int 1) .null,
      .lazy false,
      .constructor ⟨[.str "a", .str "b"], [("p3", .str "d"), ("p1", .str "c")]⟩,
      .method "start" ⟨[], []⟩,
      .field "y" (.int 2) (.str "app.Base"),
      .lazy true]⟩

/-- The same steps, kind after kind. -/
def sortedServiceChain : BuildChain :=
  ⟨"app.Service", .str "service",
    [.lazy false, .lazy true,
      .method "start" ⟨[], []⟩,
      .field "x" (.int 1) .null, .field "y" (.int 2) (.str "app.Base"),
      .constructor ⟨[.str "x"], []⟩,
      .constructor ⟨[.str "a", .str "b"], [("p3", .str "d"), ("p1", .str "c")]⟩]⟩

/-- What both chains come to. -/
def service : Definition :=
  { name := .str "service"
    className := "app.Service"
    isLazy := true
    constructor := some ⟨"__init__", [(0, .str "a"), (1, .str "c"), (3, .str "d")]⟩
    fields := [⟨"x", .int 1, .null⟩, ⟨"y", .int 2, .str "app.Base"⟩]
    methods := [⟨"start", []⟩] }

/-- Requests that go on from the first two definitions of a session, from each in two ways, one of
which is refused. -/
def branchingRequests : List BuildRequest :=
  [.take 0 (.field "y" (.int 2) .null),
    .take 1 (.lazy true),
    .take 0 (.constructor ⟨[], [("size", .int 3)]⟩),
    .take 1 (.field "z" (.int 4) .null)]

/-- The service is built in both orders of its steps, and a definition with one field has one field
still after others have gone on from it. -/
theorem serviceChain_built :
    serviceChain.build = .ok service ∧ serviceChain.SameByKind sortedServiceChain ∧
      sortedServiceChain.build = .ok service ∧ serviceChain.Builds service ∧
      (∃ d, d.fields = [⟨"x", .int 1, .null⟩] ∧
        (BuildRequest.results ([.create "app.Service" .null, .take 0 (.field "x" (.int 1) .null)] ++
          branchingRequests))[1]? = some (.ok d)) := by
  obtain ⟨hchain, hsame, hsession⟩ := chains_built_by_kind
  have hbuild : serviceChain.build = .ok service := by rfl
  have hkinds : serviceChain.SameByKind sortedServiceChain := ⟨rfl, rfl, rfl, rfl, rfl, rfl⟩
  refine ⟨hbuild, hkinds, (hsame _ _ hkinds _ hbuild).1, (((hchain _).2 _).1 hbuild).2, ?_⟩
  exact ⟨_, rfl, (hsession _ branchingRequests 1 _ rfl).1⟩

end Blueprint
