/-
# The order of bound positions

A binding says which value each of its positions has, and in which order the positions were bound.
`Value.Rearranged v v'` says that two values differ in that order only: in the bindings of a
definition, and of the definitions at value positions inside it.

Nothing depends on the order.  A call looks its arguments up by position, one parameter after the
other, and the positions that are left over are sorted before they are named in a warning; so
definitions that are rearranged compile to the same, against any knowledge of classes
(`Definition.Rearranged.compile_eq`).  And where values are compared, the rows of one binding are
looked for among those of the other; so whatever is equal to a value is equal to every
rearrangement of it (`Value.Rearranged.equalAlike`).
-/
import Blueprint.Proofs.BoundPositions
import Blueprint.Proofs.Comparing
import Blueprint.Proofs.Rebinding

namespace Blueprint

/-! ## Values that differ in the order of bound positions -/

/-- The bindings are of one method and of the same positions, each of them bound once. -/
structure Binding.SamePositions (b b' : Binding) : Prop where
  /-- The method is the same. -/
  method : b'.method = b.method
  /-- No position is bound twice. -/
  nodup : b.boundPositions.Nodup
  /-- The positions are the same, in whatever order. -/
  perm : b'.boundPositions.Perm b.boundPositions

/-- The definitions are the same but for what they bind, and for the order in which they bind it. -/
structure Definition.SameFrame (d d' : Definition) : Prop where
  /-- The entry is the same. -/
  name : d'.name = d.name
  /-- The class is the same. -/
  className : d'.className = d.className
  /-- The lazy flag is the same. -/
  isLazy : d'.isLazy = d.isLazy
  /-- The constructor binds the same positions. -/
  constructor : Option.Rel Binding.SamePositions d.constructor d'.constructor
  /-- The same fields are assigned in the same order. -/
  fields : List.Forall₂ (fun f f' : FieldBinding => f'.field = f.field ∧ f'.owner = f.owner)
    d.fields d'.fields
  /-- The same methods are called in the same order, with the same positions bound. -/
  methods : List.Forall₂ Binding.SamePositions d.methods d'.methods

/-- The values differ at most in the order in which positions are bound: in definitions at value
positions, each position of a binding has the same value up to such differences in turn. -/
inductive Value.Rearranged : Value → Value → Prop where
  /-- There is no difference. -/
  | refl (v : Value) : Rearranged v v
  /-- The items of a list differ so. -/
  | list {items items' : List Value} (hlength : items'.length = items.length)
      (h : ∀ (i : Nat) (v v' : Value), items[i]? = some v → items'[i]? = some v' →
        Rearranged v v') :
      Rearranged (.list items) (.list items')
  /-- The items of a tuple differ so. -/
  | tuple {items items' : List Value} (hlength : items'.length = items.length)
      (h : ∀ (i : Nat) (v v' : Value), items[i]? = some v → items'[i]? = some v' →
        Rearranged v v') :
      Rearranged (.tuple items) (.tuple items')
  /-- The values of a dictionary differ so. -/
  | dict {entries entries' : List (Value × Value)}
      (hkeys : entries'.map Prod.fst = entries.map Prod.fst)
      (h : ∀ (i : Nat) (e e' : Value × Value), entries[i]? = some e → entries'[i]? = some e' →
        Rearranged e.2 e'.2) :
      Rearranged (.dict entries) (.dict entries')
  /-- What a definition binds differs so, and so may the order in which it does. -/
  | definition {d d' : Definition} (hframe : d.SameFrame d')
      (hconstructor : ∀ b b', d.constructor = some b → d'.constructor = some b' →
        ∀ i, Rearranged (b.get i) (b'.get i))
      (hfields : ∀ (k : Nat) (f f' : FieldBinding), d.fields[k]? = some f →
        d'.fields[k]? = some f' → Rearranged f.value f'.value)
      (hmethods : ∀ (k : Nat) (b b' : Binding), d.methods[k]? = some b → d'.methods[k]? = some b' →
        ∀ i, Rearranged (b.get i) (b'.get i)) :
      Rearranged (.definition d) (.definition d')

/-- The definitions differ at most in the order in which they and the definitions at value positions
inside them bind positions. -/
def Definition.Rearranged (d d' : Definition) : Prop :=
  (Value.definition d).Rearranged (.definition d')

/-- The bindings bind the same positions, and the values at each of them are rearranged. -/
structure Binding.Rearranged (b b' : Binding) : Prop extends b.SamePositions b' where
  /-- The values at each position are rearranged. -/
  get : ∀ i, (b.get i).Rearranged (b'.get i)

/-- Values that are rearranged are assigned to the same field. -/
structure FieldBinding.Rearranged (f f' : FieldBinding) : Prop where
  /-- The field is the same. -/
  field : f'.field = f.field
  /-- Its owner is the same. -/
  owner : f'.owner = f.owner
  /-- The values are rearranged. -/
  value : f.value.Rearranged f'.value

/-- Lists of one length are aligned by what stands at each place. -/
lemma forall₂_of_getElem? {α β : Type} {R : α → β → Prop} {xs : List α} {ys : List β}
    (hlength : ys.length = xs.length)
    (h : ∀ (i : Nat) (x : α) (y : β), xs[i]? = some x → ys[i]? = some y → R x y) :
    List.Forall₂ R xs ys := by
  refine List.forall₂_iff_get.2 ⟨hlength.symm, fun i hx hy => ?_⟩
  exact h i _ _ (List.getElem?_eq_getElem hx) (List.getElem?_eq_getElem hy)

lemma rel_of_getElem? {α β : Type} {R : α → β → Prop} {xs : List α} {ys : List β}
    (h : List.Forall₂ R xs ys) {i : Nat} {x : α} {y : β} (hx : xs[i]? = some x)
    (hy : ys[i]? = some y) : R x y := by
  obtain ⟨hxlt, rfl⟩ := List.getElem?_eq_some_iff.1 hx
  obtain ⟨hylt, rfl⟩ := List.getElem?_eq_some_iff.1 hy
  exact h.get hxlt hylt

lemma none_or_some_of_rel {α β : Type} {R : α → β → Prop} {x : Option α} {y : Option β}
    (h : Option.Rel R x y) :
    x = none ∧ y = none ∨ ∃ a b, x = some a ∧ y = some b ∧ R a b := by
  cases h with
  | none => exact .inl ⟨rfl, rfl⟩
  | some h => exact .inr ⟨_, _, rfl, rfl, h⟩

/-- Definitions are rearranged if their parts are. -/
lemma Definition.Rearranged.of_parts {d d' : Definition} (hname : d'.name = d.name)
    (hclass : d'.className = d.className) (hlazy : d'.isLazy = d.isLazy)
    (hconstructor : Option.Rel Binding.Rearranged d.constructor d'.constructor)
    (hfields : List.Forall₂ FieldBinding.Rearranged d.fields d'.fields)
    (hmethods : List.Forall₂ Binding.Rearranged d.methods d'.methods) : d.Rearranged d' := by
  have hsame : Option.Rel Binding.SamePositions d.constructor d'.constructor := by
    rcases none_or_some_of_rel hconstructor with ⟨hd, hd'⟩ | ⟨b, b', hd, hd', h⟩ <;> rw [hd, hd']
    · exact .none
    · exact .some h.toSamePositions
  have hframe : d.SameFrame d' :=
    { name := hname
      className := hclass
      isLazy := hlazy
      constructor := hsame
      fields := hfields.imp fun _ _ h => ⟨h.field, h.owner⟩
      methods := hmethods.imp fun _ _ h => h.toSamePositions }
  refine .definition hframe ?_ ?_ ?_
  · intro b b' hb hb' i
    rw [hb, hb'] at hconstructor
    cases hconstructor with
    | some h => exact h.get i
  · intro k f f' hf hf'
    have hbinding := rel_of_getElem? hfields hf hf'
    exact hbinding.value
  · intro k b b' hb hb'
    have hbinding := rel_of_getElem? hmethods hb hb'
    exact hbinding.get

/-! ## Compiling -/

section Compiling

variable {types : Option Introspector} {knowledge : Introspector} {onDefault : Value → Run Value}

/-- The positions that are left over are sorted. -/
lemma Resolution.unused_eq_of_perm {positions positions' : List Nat}
    (h : positions'.Perm positions) (c : Callable) :
    unused positions' c = unused positions c :=
  List.Perm.eq_of_pairwise (fun _ _ _ _ => Nat.le_antisymm) (pairwise_mergeSort _)
    (pairwise_mergeSort _)
    ((List.mergeSort_perm _ _).trans ((h.filter _).trans (List.mergeSort_perm _ _).symm))

/-- Both values ask for the declared default, or neither does. -/
lemma Value.Rearranged.explicit? {v v' : Value} (h : v.Rearranged v') :
    v.explicit? = none ∧ v'.explicit? = none ∨ v.explicit? = some v ∧ v'.explicit? = some v' := by
  cases h with
  | refl v =>
    by_cases hv : v = .useDefault
    · exact .inl ⟨Value.explicit?_eq_none_iff.2 hv, Value.explicit?_eq_none_iff.2 hv⟩
    · exact .inr ⟨Value.explicit?_eq_some_iff.2 ⟨hv, rfl⟩, Value.explicit?_eq_some_iff.2 ⟨hv, rfl⟩⟩
  | list | tuple | dict | definition => exact .inr ⟨rfl, rfl⟩

/-- A call comes to the same, if the values that its positions have compile to the same. -/
lemma compileArguments_rearranged {b b' : Binding} (h : b.Rearranged b')
    (hcompiles : ∀ i, compileValue types onDefault (b.get i) =
      compileValue types onDefault (b'.get i)) (callable : Option Callable) :
    compileArguments onDefault (boundRuns types onDefault (some b)) callable =
      compileArguments onDefault (boundRuns types onDefault (some b')) callable := by
  rcases callable with _ | c
  · rw [compileArguments, compileArguments]
  -- a position keeps the request for its default, or has values that compile to the same
  have halike : CallsAlike (fun s s' => s = s' ∨ ∃ v v', s = .bound v ∧ s' = .bound v' ∧
      compileValue types onDefault v = compileValue types onDefault v') (some b) c (some b') c := by
    refine callsAlike_of_get (Resolution.unused_eq_of_perm h.perm c) fun j p _ => ?_
    rcases (h.get j).explicit? with ⟨hv, hv'⟩ | ⟨hv, hv'⟩
    · rw [hv, hv']
      exact Resolution.alike_refl (fun _ => .inl rfl) _
    · rw [hv, hv']
      exact .ok (.inr ⟨_, _, rfl, rfl, hcompiles j⟩)
  refine compileArguments_congruence Run.Congruence.eq halike (A := fun _ => True)
    (fun _ _ _ => .always _) ?_
  rintro j p s s' - - - (rfl | ⟨v, v', rfl, rfl, hv⟩) -
  · rfl
  · exact hv

lemma compileCall_rearranged {className : Text} {b b' : Binding} (h : b.Rearranged b')
    (hcompiles : ∀ i, compileValue types onDefault (b.get i) =
      compileValue types onDefault (b'.get i)) (callable : Option Callable) :
    compileCall types onDefault className b callable =
      compileCall types onDefault className b' callable := by
  rcases callable with _ | c
  · rw [compileCall, compileCall, h.method]
  · rw [compileCall, compileCall, compileArguments_rearranged h hcompiles, h.method]

/-- Definitions of one frame have the same plan, if what they bind compiles to the same. -/
lemma eagerPlan_rearranged {d d' : Definition} (hframe : d.SameFrame d')
    (hconstructor : ∀ b b', d.constructor = some b → d'.constructor = some b' →
      ∀ i, (b.get i).Rearranged (b'.get i) ∧ compileValue (some knowledge) onDefault (b.get i) =
        compileValue (some knowledge) onDefault (b'.get i))
    (hfields : ∀ (k : Nat) (f f' : FieldBinding), d.fields[k]? = some f → d'.fields[k]? = some f' →
      compileValue (some knowledge) onDefault f.value =
        compileValue (some knowledge) onDefault f'.value)
    (hmethods : ∀ (k : Nat) (b b' : Binding), d.methods[k]? = some b → d'.methods[k]? = some b' →
      ∀ i, (b.get i).Rearranged (b'.get i) ∧ compileValue (some knowledge) onDefault (b.get i) =
        compileValue (some knowledge) onDefault (b'.get i)) :
    eagerPlan knowledge onDefault d = eagerPlan knowledge onDefault d' := by
  have harguments : ∀ callable,
      compileArguments onDefault (boundRuns (some knowledge) onDefault d.constructor) callable =
        compileArguments onDefault (boundRuns (some knowledge) onDefault d'.constructor)
          callable := by
    intro callable
    rcases none_or_some_of_rel hframe.constructor with ⟨hd, hd'⟩ | ⟨b, b', hd, hd', hb⟩
    · rw [hd, hd']
    · rw [hd, hd']
      exact compileArguments_rearranged ⟨hb, fun i => (hconstructor b b' hd hd' i).1⟩
        (fun i => (hconstructor b b' hd hd' i).2) callable
  have hassignments : compileFields (some knowledge) knowledge onDefault d.className d.fields =
      compileFields (some knowledge) knowledge onDefault d'.className d'.fields := by
    rw [hframe.className]
    refine Run.Congruence.eq.each (A := fun _ => True) (compileFields_traverses _)
      (compileFields_traverses _) hframe.fields.length_eq.symm (fun _ _ => .always _) ?_
    intro k f f' hf hf' _
    obtain ⟨hfield, howner⟩ := rel_of_getElem? hframe.fields hf hf'
    rw [hfield, howner, hfields k f f' hf hf']
  have hcalls : compileMethods (some knowledge) knowledge onDefault d.className d.methods =
      compileMethods (some knowledge) knowledge onDefault d'.className d'.methods := by
    rw [hframe.className]
    refine Run.Congruence.eq.each (A := fun _ => True) (compileMethods_traverses _)
      (compileMethods_traverses _) hframe.methods.length_eq.symm (fun _ _ => .always _) ?_
    intro k b b' hb hb' _
    have hsame := rel_of_getElem? hframe.methods hb hb'
    rw [hsame.method]
    refine congrArg _ (funext fun callable => ?_)
    exact compileCall_rearranged ⟨hsame, fun i => (hmethods k b b' hb hb' i).1⟩
      (fun i => (hmethods k b b' hb hb' i).2) callable
  simp only [eagerPlan, hframe.name, harguments, hassignments, hcalls, hframe.className]

lemma Definition.SameFrame.compileDefinition_eq {d d' : Definition} (hframe : d.SameFrame d')
    (hplan : eagerPlan knowledge onDefault d = eagerPlan knowledge onDefault d') :
    compileDefinition (some knowledge) onDefault d =
      compileDefinition (some knowledge) onDefault d' := by
  rw [Blueprint.compileDefinition_eq, Blueprint.compileDefinition_eq, hframe.name,
    hframe.className, hframe.isLazy, hplan]

/-- Values that are rearranged compile to the same. -/
lemma Value.Rearranged.compileValue_eq {v v' : Value} (h : v.Rearranged v') :
    compileValue types onDefault v = compileValue types onDefault v' := by
  induction h with
  | refl v => rfl
  | list hlength _ ih =>
    rw [compileValue, compileValue]
    refine congrArg (· >>= _) (Run.Congruence.eq.each (A := fun _ => True) compileItems_traverses
      compileItems_traverses hlength (fun _ _ => .always _) ?_)
    exact fun i v v' hv hv' _ => ih i v v' hv hv'
  | tuple hlength _ ih =>
    rw [compileValue, compileValue]
    refine congrArg (· >>= _) (Run.Congruence.eq.each (A := fun _ => True) compileItems_traverses
      compileItems_traverses hlength (fun _ _ => .always _) ?_)
    exact fun i v v' hv hv' _ => ih i v v' hv hv'
  | @dict entries entries' hkeys _ ih =>
    have hlength : entries'.length = entries.length := by
      simpa using congrArg List.length hkeys
    rw [compileValue, compileValue]
    refine congrArg (· >>= _) (Run.Congruence.eq.each (A := fun _ => True) compileEntries_traverses
      compileEntries_traverses hlength (fun _ _ => .always _) ?_)
    intro i e e' he he' _
    have hkey : e'.1 = e.1 := by
      have hkeys' := congrArg (·[i]?) hkeys
      simpa [he, he'] using hkeys'
    rw [hkey, ih i e e' he he']
  | @definition d d' hframe hconstructor hfields hmethods ihconstructor ihfields ihmethods =>
    rw [compileValue, compileValue, hframe.className]
    refine congrArg (· >>= _) ?_
    rcases types with _ | knowledge
    · -- where no classes are known, only the name of the class is looked at
      obtain ⟨⟩ := d
      obtain ⟨⟩ := d'
      rw [compileDefinition, compileDefinition]
      exact congrArg (fun name => Run.mismatched (.noClasses name)) hframe.className.symm
    · have hplan := eagerPlan_rearranged hframe
        (fun b b' hb hb' i => ⟨hconstructor b b' hb hb' i, ihconstructor b b' hb hb' i⟩)
        ihfields fun k b b' hb hb' i => ⟨hmethods k b b' hb hb' i, ihmethods k b b' hb hb' i⟩
      exact hframe.compileDefinition_eq hplan

/-- Definitions that are rearranged compile to the same. -/
lemma Definition.Rearranged.compile_eq {d d' : Definition} (h : d.Rearranged d')
    (knowledge : Introspector) : compile knowledge d = compile knowledge d' := by
  cases h with
  | refl => rfl
  | definition hframe hconstructor hfields hmethods =>
    -- values that are rearranged compile alike, wherever in the definition they are bound
    refine hframe.compileDefinition_eq (eagerPlan_rearranged hframe ?_ ?_ ?_)
    · intro b b' hb hb' i
      have hvalue := hconstructor b b' hb hb' i
      exact ⟨hvalue, hvalue.compileValue_eq⟩
    · intro k f f' hf hf'
      exact (hfields k f f' hf hf').compileValue_eq
    · intro k b b' hb hb' i
      have hvalue := hmethods k b b' hb hb' i
      exact ⟨hvalue, hvalue.compileValue_eq⟩

end Compiling

/-! ## Comparing -/

section Comparing

lemma any_eq_of_forall₂ {α β : Type} {p : α → Bool} {q : β → Bool} {xs : List α} {ys : List β}
    (h : List.Forall₂ (fun x y => q y = p x) xs ys) : ys.any q = xs.any p := by
  induction h with
  | nil => rfl
  | cons hxy _ ih => rw [List.any_cons, List.any_cons, hxy, ih]

/-- Whatever is compared with the values, it is equal to both or to neither: where it shares objects
with them and where it does not. -/
def Value.EqualAlike (v v' : Value) : Prop :=
  ∀ (shared : Bool) (x : Value), x.equal shared v' = x.equal shared v

variable {shared : Bool} {b b' : Binding}

lemma equalAll_eq {items items' : List Value} (h : List.Forall₂ Value.EqualAlike items items')
    (xs : List Value) : equalAll shared xs items' = equalAll shared xs items := by
  induction h generalizing xs with
  | nil => rfl
  | cons hv _ ih =>
    cases xs with
    | nil => rfl
    | cons x xs => rw [equalAll, equalAll, hv shared x, ih xs]

lemma equalEntries_eq {entries entries' : List (Value × Value)}
    (h : List.Forall₂ (fun e e' => e'.1 = e.1 ∧ e.2.EqualAlike e'.2) entries entries')
    (xs : List (Value × Value)) :
    equalEntries shared xs entries' = equalEntries shared xs entries := by
  induction xs with
  | nil => rfl
  | cons x xs ih =>
    obtain ⟨key, value⟩ := x
    rw [equalEntries, equalEntries, ih]
    refine congrArg (· && _) (any_eq_of_forall₂ (h.imp ?_))
    rintro e e' ⟨hkey, hvalue⟩
    simp only [hkey, hvalue shared value]

/-- A binding has something of a kind at a position if the value that it has there is so. -/
lemma Binding.exists_mem_iff (hb : b.boundPositions.Nodup) {i : Nat} {P : Value → Prop} :
    (∃ e ∈ b.arguments, i = e.1 ∧ P e.2) ↔ i ∈ b.boundPositions ∧ P (b.get i) := by
  have hget : ∀ e ∈ b.arguments, b.get e.1 = e.2 := by
    intro e he
    obtain ⟨before, after, hsplit⟩ := List.append_of_mem he
    rw [boundPositions, hsplit, List.map_append, List.map_cons, List.nodup_append] at hb
    have hbefore : e.1 ∉ before.map Prod.fst := fun hmem => hb.2.2 _ hmem _ (by simp) rfl
    rw [get, hsplit, Entries.get?_append, Entries.get?_eq_none hbefore, Entries.get?]
    simp
  constructor
  · rintro ⟨e, he, rfl, hP⟩
    exact ⟨List.mem_map_of_mem he, (hget e he).symm ▸ hP⟩
  · rintro ⟨hi, hP⟩
    obtain ⟨e, he, rfl⟩ := List.mem_map.1 hi
    exact ⟨e, he, rfl, hget e he ▸ hP⟩

lemma equalBindings_eq (hb : b.SamePositions b') (h : ∀ i, (b.get i).EqualAlike (b'.get i))
    (x : Binding) : equalBindings shared x b' = equalBindings shared x b := by
  have hrows :
      equalArguments shared x.arguments b'.arguments =
        equalArguments shared x.arguments b.arguments := by
    rw [Bool.eq_iff_iff, equalArguments_iff, equalArguments_iff]
    refine forall₂_congr fun e _ => ?_
    have hiff := Binding.exists_mem_iff hb.nodup (i := e.1) (P := (e.2.equal shared · = true))
    have hiff' := Binding.exists_mem_iff (hb.perm.nodup_iff.2 hb.nodup) (i := e.1)
      (P := (e.2.equal shared · = true))
    rw [hiff, hiff', hb.perm.mem_iff, h e.1 shared e.2]
  have hlength : b'.arguments.length = b.arguments.length := by
    simpa [Binding.boundPositions] using hb.perm.length_eq
  obtain ⟨method, rows⟩ := x
  obtain ⟨method', arguments⟩ := b
  obtain ⟨method'', arguments'⟩ := b'
  obtain rfl : method'' = method' := hb.method
  rw [equalBindings, equalBindings, hlength, hrows]

lemma equalMethods_eq {methods methods' : List Binding}
    (h : List.Forall₂ (fun b b' => ∀ x, equalBindings shared x b' = equalBindings shared x b)
      methods methods')
    (xs : List Binding) : equalMethods shared xs methods' = equalMethods shared xs methods := by
  induction h generalizing xs with
  | nil => rfl
  | cons hb _ ih =>
    cases xs with
    | nil => rfl
    | cons x xs => rw [equalMethods, equalMethods, hb x, ih xs]

lemma equalFields_eq {fields fields' : List FieldBinding}
    (h : List.Forall₂ (fun f f' : FieldBinding =>
      (f'.field = f.field ∧ f'.owner = f.owner) ∧ f.value.EqualAlike f'.value) fields fields')
    (xs : List FieldBinding) : equalFields shared xs fields' = equalFields shared xs fields := by
  induction h generalizing xs with
  | nil => rfl
  | @cons f f' _ _ hf _ ih =>
    cases xs with
    | nil => rfl
    | cons x xs =>
      obtain ⟨⟨hfield, howner⟩, hvalue⟩ := hf
      rw [equalFields_cons, equalFields_cons, hfield, howner, hvalue shared x.value, ih xs]

/-- Values that are rearranged are equal to the same values. -/
lemma Value.Rearranged.equalAlike {v v' : Value} (h : v.Rearranged v') : v.EqualAlike v' := by
  induction h with
  | refl v => exact fun _ _ => rfl
  | list hlength _ ih =>
    have hitems := forall₂_of_getElem? hlength ih
    intro shared x
    -- a value of another kind is equal to neither of the two
    cases x with
    | list xs => rw [Value.equal, Value.equal, equalAll_eq hitems xs]
    | _ => simp [Value.equal, Value.number?, Value.scalar?]
  | tuple hlength _ ih =>
    have hitems := forall₂_of_getElem? hlength ih
    intro shared x
    cases x with
    | tuple xs => rw [Value.equal, Value.equal, equalAll_eq hitems xs]
    | _ => simp [Value.equal, Value.number?, Value.scalar?]
  | @dict entries entries' hkeys _ ih =>
    intro shared x
    cases x with
    | dict xs =>
      have hlength : entries'.length = entries.length := by
        simpa using congrArg List.length hkeys
      rw [Value.equal, Value.equal, hlength, equalEntries_eq (forall₂_of_getElem? hlength ?_) xs]
      intro i e e' he he'
      refine ⟨?_, ih i e e' he he'⟩
      simpa [he, he'] using congrArg (·[i]?) hkeys
    | _ => simp [Value.equal, Value.number?, Value.scalar?]
  | @definition d d' hframe _ _ _ ihconstructor ihfields ihmethods =>
    intro shared x
    cases x with
    | definition x =>
      -- the frame is the same, so what is left are the three places that values are bound in
      have hconstructors :
          equalConstructors shared x.constructor d'.constructor =
            equalConstructors shared x.constructor d.constructor := by
        rcases none_or_some_of_rel hframe.constructor with ⟨hd, hd'⟩ | ⟨b, b', hd, hd', hb⟩
        · rw [hd, hd']
        · rw [hd, hd']
          cases x.constructor with
          | none => rfl
          | some c =>
            rw [equalConstructors, equalConstructors,
              equalBindings_eq hb (ihconstructor b b' hd hd') c]
      have hassigned : equalFields shared x.fields d'.fields =
          equalFields shared x.fields d.fields := by
        have hlength := hframe.fields.length_eq.symm
        exact equalFields_eq (forall₂_of_getElem? hlength fun k f f' hf hf' =>
          ⟨rel_of_getElem? hframe.fields hf hf', ihfields k f f' hf hf'⟩) x.fields
      have hcalled : equalMethods shared x.methods d'.methods =
          equalMethods shared x.methods d.methods := by
        have hlength := hframe.methods.length_eq.symm
        refine equalMethods_eq (forall₂_of_getElem? hlength fun k b b' hb hb' => ?_) x.methods
        exact equalBindings_eq (rel_of_getElem? hframe.methods hb hb') (ihmethods k b b' hb hb')
      rw [Value.equal, Value.equal, equalDefinitions_eq, equalDefinitions_eq, hframe.name,
        hframe.className, hframe.isLazy, hconstructors, hassigned, hcalled]
    | _ => simp [Value.equal, Value.number?, Value.scalar?]

/-- Definitions that are rearranged are equal to the same definitions. -/
lemma Definition.Rearranged.equalDefinitions_eq {d d' : Definition} (h : d.Rearranged d')
    (shared : Bool) (x : Definition) :
    equalDefinitions shared x d' = equalDefinitions shared x d := by
  have hequal := h.equalAlike shared (.definition x)
  rwa [Value.equal, Value.equal] at hequal

end Comparing

end Blueprint
