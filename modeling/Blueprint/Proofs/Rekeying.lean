/-
# Arguments in order and arguments by position

A payload gives the arguments of a call in a list, or in an object that is keyed by positions.  A
list comes to the same as the object that has each of its items under the key of its place, in
whatever order the keys stand there.

`Rekeyed place json json'` says that a payload becomes another one by such exchanges alone: any
number of lists of arguments, at any depth, are objects in the second.  What a part of a payload is
read as (`Place`) says where lists are lists of arguments and where they are values.  Reading keeps
the relation: what is read from the two are rearrangements of each other (`Rekeyed.agree`), which
compile to the same and are equal.
-/
import Blueprint.Proofs.KeyedArguments
import Blueprint.Proofs.Rearranging

namespace Blueprint

namespace Definition

open Run

/-! ## Payloads that differ in the form of arguments -/

/-- What a part of a payload is read as. -/
inductive Place where
  /-- A value. -/
  | value
  /-- The arguments of a call. -/
  | arguments
  /-- The value of a field, as it stands or wrapped with an owner. -/
  | field
  /-- The fields of an entry. -/
  | fields
  /-- The call of a method. -/
  | method
  /-- The method calls of an entry. -/
  | methods
  /-- An entry. -/
  | entry
  /-- A payload of named entries. -/
  | entries

namespace Place

/-- What the items of a list are read as. -/
def item? : Place → Option Place
  | value | arguments => some value
  | methods => some method
  | _ => none

/-- What the members of an object are read as, if their names do not matter. -/
def member? : Place → Option Place
  | value | arguments => some value
  | fields => some field
  | entries => some entry
  | _ => none

/-- What the member of a name is read as, if something in it can be read as arguments. -/
def part? : Place → Text → Option Place
  | entry, name =>
    if name == "constructor" then some arguments
    else if name == "fields" then some fields
    else if name == "methods" then some methods
    else none
  | method, name => if name == "args" then some arguments else none
  | _, _ => none

end Place

/-- The members of an object that has items under the keys of positions, from a first one on. -/
def numbered (items : List Json) (first : Nat) : List (Text × Json) :=
  match items with
  | [] => []
  | item :: rest => (Position.key first, item) :: numbered rest (first + 1)

/-- In the second payload, some lists of arguments of the first are objects keyed by positions. -/
inductive Rekeyed : Place → Json → Json → Prop where
  /-- Nothing changes. -/
  | same (place : Place) (json : Json) : Rekeyed place json json
  /-- Something changes in the items of a list. -/
  | items {place inner : Place} {items items' : List Json} (hplace : place.item? = some inner)
      (hlength : items'.length = items.length)
      (h : ∀ (i : Nat) (item item' : Json), items[i]? = some item → items'[i]? = some item' →
        Rekeyed inner item item') :
      Rekeyed place (.array items) (.array items')
  /-- Something changes in the members of an object. -/
  | members {place inner : Place} {members members' : List (Text × Json)}
      (hplace : place.member? = some inner) (hplain : place = .value → IsPlain members)
      (hkeys : members'.map Prod.fst = members.map Prod.fst)
      (h : ∀ (i : Nat) (e e' : Text × Json), members[i]? = some e → members'[i]? = some e' →
        Rekeyed inner e.2 e'.2) :
      Rekeyed place (.object members) (.object members')
  /-- Something changes in the members of an entry or of the call of a method. -/
  | parts {place : Place} {members members' : List (Text × Json)}
      (hplace : place = .entry ∨ place = .method)
      (hkeys : members'.map Prod.fst = members.map Prod.fst)
      (hsame : ∀ name, place.part? name = none →
        Entries.get? name members' = Entries.get? name members)
      (h : ∀ (name : Text) (inner : Place) (json json' : Json), place.part? name = some inner →
        Entries.get? name members = some json → Entries.get? name members' = some json' →
          Rekeyed inner json json') :
      Rekeyed place (.object members) (.object members')
  /-- Something changes in a nested entry. -/
  | create {members members' : List (Text × Json)}
      (h : Rekeyed .entry (.object members) (.object members')) :
      Rekeyed .value (.object [("$create", .object members)])
        (.object [("$create", .object members')])
  /-- Something changes in the value of a field. -/
  | field {json json' : Json} (howner : fieldOwnerGiven json' = fieldOwnerGiven json)
      (h : Rekeyed .value (fieldContent json) (fieldContent json')) :
      Rekeyed .field json json'
  /-- A list of arguments becomes an object, with its keys in any order. -/
  | rekey {items items' : List Json} {rows : List (Text × Json)}
      (hlength : items'.length = items.length)
      (h : ∀ (i : Nat) (item item' : Json), items[i]? = some item → items'[i]? = some item' →
        Rekeyed .value item item')
      (hrows : rows.Perm (numbered items' 0)) :
      Rekeyed .arguments (.array items) (.object rows)

end Definition

/-! ## Bindings of arguments -/

lemma map_fst_eq_of_forall₂ {κ ι ι' : Type} {R : ι → ι' → Prop} {rows : List (κ × ι)}
    {rows' : List (κ × ι')} (h : List.Forall₂ (fun e e' => e'.1 = e.1 ∧ R e.2 e'.2) rows rows') :
    rows'.map Prod.fst = rows.map Prod.fst := by
  induction h with
  | nil => rfl
  | cons he _ ih => rw [List.map_cons, List.map_cons, he.1, ih]

namespace Binding

variable {method : Text} {arguments arguments' : List (Nat × Value)}

lemma nodup_enumerate (vs : List Value) (first : Nat) :
    ((enumerate vs first).map Prod.fst).Nodup := by
  have hpositions : (enumerate vs first).map Prod.fst = List.range' first vs.length :=
    keys_enumerate vs first
  rw [hpositions]
  exact List.nodup_range'

/-- Where each position is bound once, the order of the rows does not matter. -/
lemma get_eq_of_perm (hnodup : (arguments.map Prod.fst).Nodup)
    (hperm : arguments'.Perm arguments) (i : Nat) :
    (⟨method, arguments'⟩ : Binding).get i = (⟨method, arguments⟩ : Binding).get i := by
  have hpositions := hperm.map Prod.fst
  by_cases hi : i ∈ arguments.map Prod.fst
  · let b : Binding := ⟨method, arguments⟩
    let b' : Binding := ⟨method, arguments'⟩
    obtain ⟨e, he, hie, hv⟩ := (exists_mem_iff (b := b) hnodup (P := (· = b.get i))).2 ⟨hi, rfl⟩
    have hnodup' : b'.boundPositions.Nodup := hpositions.nodup_iff.2 hnodup
    exact ((exists_mem_iff hnodup' (P := (· = b.get i))).1 ⟨e, hperm.mem_iff.2 he, hie, hv⟩).2
  · rw [get, get, Entries.get?_eq_none hi, Entries.get?_eq_none (mt hpositions.mem_iff.1 hi)]

lemma Rearranged.refl {b : Binding} (hnodup : b.boundPositions.Nodup) : b.Rearranged b :=
  ⟨⟨rfl, hnodup, .refl _⟩, fun i => .refl (b.get i)⟩

/-- Bindings whose rows are rearranged one by one. -/
lemma Rearranged.of_forall₂ (hnodup : (arguments.map Prod.fst).Nodup)
    (h : List.Forall₂ (fun e e' => e'.1 = e.1 ∧ e.2.Rearranged e'.2) arguments arguments') :
    Rearranged ⟨method, arguments⟩ ⟨method, arguments'⟩ := by
  have hpositions := map_fst_eq_of_forall₂ h
  refine ⟨⟨rfl, hnodup, by rw [boundPositions, boundPositions, hpositions]⟩, fun i => ?_⟩
  clear hnodup hpositions
  induction h with
  | nil => exact .refl _
  | @cons e e' _ _ he _ ih =>
    obtain ⟨hposition, hvalue⟩ := he
    rw [Binding.get, Binding.get, Entries.get?, Entries.get?, hposition]
    split
    · exact hvalue
    · exact ih

/-- The rows of the second binding may be put into another order. -/
lemma Rearranged.perm_right {arguments'' : List (Nat × Value)}
    (h : Rearranged ⟨method, arguments⟩ ⟨method, arguments'⟩)
    (hperm : arguments''.Perm arguments') :
    Rearranged ⟨method, arguments⟩ ⟨method, arguments''⟩ := by
  refine ⟨⟨rfl, h.nodup, (hperm.map Prod.fst).trans h.perm⟩, fun i => ?_⟩
  rw [get_eq_of_perm (h.perm.nodup_iff.2 h.nodup) hperm]
  exact h.get i

lemma forall₂_enumerate {vs vs' : List Value} (h : List.Forall₂ Value.Rearranged vs vs')
    (first : Nat) :
    List.Forall₂ (fun e e' => e'.1 = e.1 ∧ e.2.Rearranged e'.2) (enumerate vs first)
      (enumerate vs' first) := by
  induction h generalizing first with
  | nil => exact .nil
  | cons hv _ ih => exact .cons ⟨rfl, hv⟩ (ih (first + 1))

end Binding

namespace Definition

open Run

/-- Two rows of results are related if they are for each place of what they are the results of. -/
lemma forall₂_of_results {α β γ δ : Type} {L : α → γ → Prop} {L' : β → δ → Prop}
    {R : γ → δ → Prop} {xs : List α} {ys : List β} {vs : List γ} {vs' : List δ}
    (hvs : List.Forall₂ L xs vs) (hvs' : List.Forall₂ L' ys vs') (hlength : ys.length = xs.length)
    (h : ∀ (i : Nat) (x : α) (y : β), xs[i]? = some x → ys[i]? = some y →
      ∀ v v', L x v → L' y v' → R v v') : List.Forall₂ R vs vs' := by
  refine forall₂_of_getElem? (by rw [← hvs.length_eq, ← hvs'.length_eq, hlength]) ?_
  intro i v v' hv hv'
  have hi : i < xs.length := hvs.length_eq ▸ (List.getElem?_eq_some_iff.1 hv).1
  have hi' : i < ys.length := hvs'.length_eq ▸ (List.getElem?_eq_some_iff.1 hv').1
  have hx : xs[i]? = some xs[i] := List.getElem?_eq_getElem hi
  have hy : ys[i]? = some ys[i] := List.getElem?_eq_getElem hi'
  exact h i _ _ hx hy v v' (rel_of_getElem? hvs hx hv) (rel_of_getElem? hvs' hy hv')

/-- Arguments that are read bind each position once. -/
lemma nodup_of_loadArguments {label : Text} {json : Json} {arguments : List (Nat × Value)}
    (h : (loadArguments label json).Returns arguments) : (arguments.map Prod.fst).Nodup := by
  rcases list_or_object_of_loadArguments h with ⟨items, rfl⟩ | ⟨members, rfl⟩
  · obtain ⟨vs, -, rfl⟩ := loadArguments_array_returns_iff.1 h
    exact Binding.nodup_enumerate vs 0
  · obtain ⟨rows, -, rfl⟩ := loadArguments_object_returns_iff.1 h
    exact Entries.nodup_keys_ofList rows

/-- The argument is read with its position. -/
abbrev LoadsRow (e : Text × Json) (row : Nat × Value) : Prop :=
  Position.Denotes e.1 row.1 ∧ Loads e.2 row.2

/-- Under the keys of their places, items are read as if they stood in order. -/
lemma exists_enumerate_of_numbered {items : List Json} {first : Nat} {rows : List (Nat × Value)}
    (h : List.Forall₂ LoadsRow (numbered items first) rows) :
    ∃ vs, List.Forall₂ Loads items vs ∧ rows = Binding.enumerate vs first := by
  induction items generalizing first rows with
  | nil =>
    rw [numbered, List.forall₂_nil_left_iff] at h
    exact ⟨[], .nil, h⟩
  | cons item rest ih =>
    rw [numbered] at h
    cases h with
    | @cons _ row _ rows hrow hrows =>
      obtain ⟨vs, hvs, rfl⟩ := ih hrows
      obtain ⟨hposition, hvalue⟩ := hrow
      refine ⟨row.2 :: vs, .cons hvalue hvs, ?_⟩
      rw [Binding.enumerate, ← hposition.eq_of_key]

/-- Items under the keys of their places, in any order, bind what they do in order. -/
lemma rearranged_of_rekey {items items' : List Json} {members : List (Text × Json)} {label : Text}
    {arguments arguments' : List (Nat × Value)} (hlength : items'.length = items.length)
    (h : ∀ (i : Nat) (item item' : Json), items[i]? = some item → items'[i]? = some item' →
      ∀ v v', Loads item v → Loads item' v' → v.Rearranged v')
    (hmembers : members.Perm (numbered items' 0))
    (harguments : (loadArguments label (.array items)).Returns arguments)
    (harguments' : (loadArguments label (.object members)).Returns arguments') (method : Text) :
    Binding.Rearranged ⟨method, arguments⟩ ⟨method, arguments'⟩ := by
  obtain ⟨vs, hvs, rfl⟩ := loadArguments_array_returns_iff.1 harguments
  obtain ⟨rows, hrows, rfl⟩ := loadArguments_object_returns_iff.1 harguments'
  -- the rows in the order of the places
  obtain ⟨rows', hrows', hperm⟩ := List.perm_comp_forall₂ hmembers.symm hrows
  obtain ⟨vs', hvs', rfl⟩ := exists_enumerate_of_numbered hrows'
  -- no two rows have one position, so making the table changes nothing
  have hapart : rows.Pairwise fun e e' => (e.1 == e'.1) = false := by
    have hnodup := (hperm.symm.map Prod.fst).nodup_iff.2 (Binding.nodup_enumerate vs' 0)
    exact (List.pairwise_map.1 hnodup).imp fun hne => beq_eq_false_iff_ne.2 hne
  rw [Entries.ofList_of_apart hapart]
  have hvalues : List.Forall₂ Value.Rearranged vs vs' := forall₂_of_results hvs hvs' hlength h
  exact (Binding.Rearranged.of_forall₂ (Binding.nodup_enumerate vs 0)
    (Binding.forall₂_enumerate hvalues 0)).perm_right hperm.symm

/-! ## Reading keeps the relation -/

/-- What is read from the payloads, where both are read, is rearranged. -/
def Place.Agree : Place → Json → Json → Prop
  | .value, json, json' => ∀ v v', Loads json v → Loads json' v' → v.Rearranged v'
  | .arguments, json, json' => ∀ label arguments arguments',
    (loadArguments label json).Returns arguments →
      (loadArguments label json').Returns arguments' →
        ∀ method, Binding.Rearranged ⟨method, arguments⟩ ⟨method, arguments'⟩
  | .field, json, json' => fieldOwnerGiven json' = fieldOwnerGiven json ∧
    ∀ v v', Loads (fieldContent json) v → Loads (fieldContent json') v' → v.Rearranged v'
  | .fields, json, json' => ∀ fields fields', ReadsFields json fields → ReadsFields json' fields' →
    List.Forall₂ FieldBinding.Rearranged fields fields'
  | .method, json, json' => ∀ b b', ReadsMethod json b → ReadsMethod json' b' → b.Rearranged b'
  | .methods, json, json' => ∀ bs bs', ReadsMethods json bs → ReadsMethods json' bs' →
    List.Forall₂ Binding.Rearranged bs bs'
  | .entry, json, json' => ∀ name d d', (loadEntry name json).Returns d →
    (loadEntry name json').Returns d' → d.Rearranged d'
  | .entries, json, json' => ∀ ds ds', (loadAll json).Returns ds → (loadAll json').Returns ds' →
    List.Forall₂ Definition.Rearranged ds ds'

section Agree

variable {items items' : List Json} {members members' : List (Text × Json)}

lemma ReadsMethod.rearranged_self {json : Json} {b b' : Binding} (h : ReadsMethod json b)
    (h' : ReadsMethod json b') : b.Rearranged b' := by
  obtain rfl := (loadMethodBinding_returns_iff.2 h).unique (loadMethodBinding_returns_iff.2 h')
  obtain ⟨members, -, -, harguments⟩ := h
  refine .refl ?_
  rw [Binding.boundPositions]
  rcases harguments with ⟨-, hnone⟩ | ⟨json, -, hread⟩
  · rw [hnone]
    exact List.nodup_nil
  · exact nodup_of_loadArguments hread

/-- Reading one payload twice gives the same. -/
lemma Place.agree_self (place : Place) (json : Json) : place.Agree json json := by
  cases place with
  | value =>
    intro v v' h h'
    exact h.unique h' ▸ .refl v
  | arguments =>
    intro label arguments arguments' h h' method
    obtain rfl := h.unique h'
    exact .refl (nodup_of_loadArguments h)
  | field => exact ⟨rfl, fun v v' h h' => h.unique h' ▸ .refl v⟩
  | fields =>
    rintro fields fields' ⟨given, rfl, h⟩ ⟨_, ⟨⟩, h'⟩
    refine forall₂_of_results h h' rfl fun i e e' he he' f f' hf hf' => ?_
    obtain rfl := Option.some.inj (he.symm.trans he')
    exact
      { field := hf'.field.trans hf.field.symm
        owner := hf'.owner.trans hf.owner.symm
        value := hf.value.unique hf'.value ▸ .refl _ }
  | method => exact fun b b' h h' => h.rearranged_self h'
  | methods =>
    rintro bs bs' ⟨items, rfl, h⟩ ⟨_, ⟨⟩, h'⟩
    refine forall₂_of_results h h' rfl fun i item item' hi hi' b b' hb hb' => ?_
    obtain rfl := Option.some.inj (hi.symm.trans hi')
    exact hb.rearranged_self hb'
  | entry =>
    intro name d d' h h'
    exact h.unique h' ▸ .refl _
  | entries =>
    intro ds ds' h h'
    obtain rfl := h.unique h'
    exact List.forall₂_same.2 fun d _ => .refl _

lemma agree_items {place inner : Place} (hplace : place.item? = some inner)
    (hlength : items'.length = items.length)
    (h : ∀ (i : Nat) (item item' : Json), items[i]? = some item → items'[i]? = some item' →
      inner.Agree item item') : place.Agree (.array items) (.array items') := by
  cases place with
  | value =>
    obtain rfl := Option.some.inj hplace
    intro v v' hv hv'
    obtain ⟨vs, hvs, rfl⟩ := loads_array_iff.1 hv
    obtain ⟨vs', hvs', rfl⟩ := loads_array_iff.1 hv'
    have hvalues : List.Forall₂ Value.Rearranged vs vs' := forall₂_of_results hvs hvs' hlength h
    exact .list hvalues.length_eq.symm fun i v v' hv hv' => rel_of_getElem? hvalues hv hv'
  | arguments =>
    obtain rfl := Option.some.inj hplace
    intro label arguments arguments' ha ha' method
    obtain ⟨vs, hvs, rfl⟩ := loadArguments_array_returns_iff.1 ha
    obtain ⟨vs', hvs', rfl⟩ := loadArguments_array_returns_iff.1 ha'
    have hvalues : List.Forall₂ Value.Rearranged vs vs' := forall₂_of_results hvs hvs' hlength h
    exact .of_forall₂ (Binding.nodup_enumerate vs 0) (Binding.forall₂_enumerate hvalues 0)
  | methods =>
    obtain rfl := Option.some.inj hplace
    rintro bs bs' ⟨_, ⟨⟩, hbs⟩ ⟨_, ⟨⟩, hbs'⟩
    exact forall₂_of_results hbs hbs' hlength h
  | _ => cases hplace

lemma agree_members {place inner : Place} (hplace : place.member? = some inner)
    (hplain : place = .value → IsPlain members)
    (hkeys : members'.map Prod.fst = members.map Prod.fst)
    (h : ∀ (i : Nat) (e e' : Text × Json), members[i]? = some e → members'[i]? = some e' →
      inner.Agree e.2 e'.2) : place.Agree (.object members) (.object members') := by
  have hlength : members'.length = members.length := by
    simpa using congrArg List.length hkeys
  have hkey : ∀ (i : Nat) (e e' : Text × Json), members[i]? = some e → members'[i]? = some e' →
      e'.1 = e.1 := by
    intro i e e' he he'
    simpa [he, he'] using congrArg (·[i]?) hkeys
  cases place with
  | value =>
    obtain rfl := Option.some.inj hplace
    intro v v' hv hv'
    -- a plain object stays one, because that is told from the keys
    have hplain' : IsPlain members' := by
      rintro e' rfl
      obtain ⟨e, rfl, he⟩ := List.map_eq_singleton_iff.1 hkeys.symm
      exact he ▸ hplain rfl e rfl
    obtain ⟨entries, hentries, rfl⟩ := (loads_object_iff (hplain rfl)).1 hv
    obtain ⟨entries', hentries', rfl⟩ := (loads_object_iff hplain').1 hv'
    have hrows : List.Forall₂ (fun x x' : Value × Value => x'.1 = x.1 ∧ x.2.Rearranged x'.2)
        entries entries' := by
      refine forall₂_of_results hentries hentries' hlength fun i e e' he he' x x' hx hx' => ?_
      exact ⟨by rw [hx.1, hx'.1, hkey i e e' he he'], h i e e' he he' _ _ hx.2 hx'.2⟩
    exact .dict (map_fst_eq_of_forall₂ hrows) fun i x x' hx hx' => (rel_of_getElem? hrows hx hx').2
  | arguments =>
    obtain rfl := Option.some.inj hplace
    intro label arguments arguments' ha ha' method
    obtain ⟨rows, hrows, rfl⟩ := loadArguments_object_returns_iff.1 ha
    obtain ⟨rows', hrows', rfl⟩ := loadArguments_object_returns_iff.1 ha'
    refine .of_forall₂ (Entries.nodup_keys_ofList rows) ?_
    refine Entries.forall₂_ofList (f := id) (fun _ _ => rfl) ?_
    refine forall₂_of_results hrows hrows' hlength fun i e e' he he' row row' hrow hrow' => ?_
    refine ⟨?_, h i e e' he he' _ _ hrow.2 hrow'.2⟩
    have hposition := hrow'.1
    rw [hkey i e e' he he'] at hposition
    exact hposition.unique hrow.1
  | fields =>
    obtain rfl := Option.some.inj hplace
    rintro fields fields' ⟨_, ⟨⟩, hfields⟩ ⟨_, ⟨⟩, hfields'⟩
    refine forall₂_of_results hfields hfields' hlength fun i e e' he he' f f' hf hf' => ?_
    obtain ⟨howner, hvalue⟩ := h i e e' he he'
    exact
      { field := by rw [hf'.field, hf.field, hkey i e e' he he']
        owner := by rw [hf'.owner, hf.owner, howner]
        value := hvalue _ _ hf.value hf'.value }
  | entries =>
    obtain rfl := Option.some.inj hplace
    intro ds ds' hds hds'
    refine forall₂_of_results (loadEntries_returns_iff.1 hds) (loadEntries_returns_iff.1 hds')
      hlength fun i e e' he he' d d' hd hd' => ?_
    rw [hkey i e e' he he'] at hd'
    exact h i e e' he he' _ d d' hd hd'
  | _ => cases hplace

lemma isSome_get? (name : Text) (members : List (Text × Json)) :
    (Entries.get? name members).isSome = (members.map Prod.fst).any (· == name) := by
  induction members with
  | nil => rfl
  | cons e rest ih =>
    rw [Entries.get?, List.map_cons, List.any_cons, ← ih]
    split <;> simp [*]

/-- What comes of members of one name is related, if what is read from them is. -/
lemma FromMember.related {α : Type} {R : α → α → Prop} {name : Text}
    {reads reads' : Json → α → Prop} {other a a' : α}
    (ha : FromMember name members reads other a) (ha' : FromMember name members' reads' other a')
    (hkeys : members'.map Prod.fst = members.map Prod.fst) (hother : R other other)
    (h : ∀ json json', Entries.get? name members = some json →
      Entries.get? name members' = some json' →
        ∀ a a', reads json a → reads' json' a' → R a a') : R a a' := by
  -- both have a member of the name, or neither
  have hsome : (Entries.get? name members').isSome = (Entries.get? name members).isSome := by
    rw [isSome_get?, isSome_get?, hkeys]
  rcases ha with ⟨hn, rfl⟩ | ⟨json, hget, hread⟩ <;>
    rcases ha' with ⟨hn', rfl⟩ | ⟨json', hget', hread'⟩
  · exact hother
  · rw [hn, hget'] at hsome
    cases hsome
  · rw [hget, hn'] at hsome
    cases hsome
  · exact h json json' hget hget' a a' hread hread'

/-- The head of an entry is read from members that no arguments stand in. -/
lemma loadHead_eq_of_keys (hkeys : members'.map Prod.fst = members.map Prod.fst)
    (hsame : ∀ name, Place.entry.part? name = none →
      Entries.get? name members' = Entries.get? name members) (name : Value) :
    loadHead name members' = loadHead name members := by
  unfold loadHead unknownKeys Entries.keys
  rw [hkeys, hsame "class" rfl, hsame "lazy" rfl]

lemma agree_parts {place : Place} (hplace : place = .entry ∨ place = .method)
    (hkeys : members'.map Prod.fst = members.map Prod.fst)
    (hsame : ∀ name, place.part? name = none →
      Entries.get? name members' = Entries.get? name members)
    (h : ∀ (name : Text) (inner : Place) (json json' : Json), place.part? name = some inner →
      Entries.get? name members = some json → Entries.get? name members' = some json' →
        inner.Agree json json') : place.Agree (.object members) (.object members') := by
  rcases hplace with rfl | rfl
  · intro name d d' hd hd'
    obtain ⟨hname, hhead, hconstructor, hfields, hmethods⟩ := loadEntry_returns_iff.1 hd
    obtain ⟨hname', hhead', hconstructor', hfields', hmethods'⟩ := loadEntry_returns_iff.1 hd'
    -- the heads stand in members that are the same
    rw [loadHead_eq_of_keys hkeys hsame] at hhead'
    obtain ⟨hclass, hlazy⟩ := Prod.mk.inj (hhead'.unique hhead)
    refine .of_parts (hname'.trans hname.symm) hclass hlazy ?_ ?_ ?_
    · refine hconstructor.related hconstructor' hkeys .none fun json json' hget hget' => ?_
      rintro _ _ ⟨arguments, hread, rfl⟩ ⟨arguments', hread', rfl⟩
      exact .some (h _ _ json json' rfl hget hget' _ _ _ hread hread' _)
    · exact hfields.related hfields' hkeys .nil fun json json' => h "fields" .fields json json' rfl
    · exact hmethods.related hmethods' hkeys .nil fun json json' =>
        h "methods" .methods json json' rfl
  · rintro ⟨method, arguments⟩ ⟨method', arguments'⟩ ⟨_, ⟨⟩, hname, hread⟩ ⟨_, ⟨⟩, hname', hread'⟩
    rw [hsame "name" rfl, hname] at hname'
    obtain rfl := Json.str.inj (Option.some.inj hname')
    refine hread.related (R := fun arguments arguments' =>
      Binding.Rearranged ⟨method, arguments⟩ ⟨method, arguments'⟩) hread' hkeys
      (.refl List.nodup_nil) fun json json' hget hget' arguments arguments' ha ha' => ?_
    exact h _ _ json json' rfl hget hget' _ _ _ ha ha' method

/-- Entries whose head is the same have the same name where they are nested. -/
lemma Rekeyed.nestedName_eq (h : Rekeyed .entry (.object members) (.object members')) :
    nestedName members' = nestedName members := by
  cases h with
  | same => rfl
  | members hplace => cases hplace
  | parts _ _ hsame => rw [nestedName, nestedName, hsame "class" rfl]

/-- What is read from payloads that are rekeyed is rearranged. -/
theorem Rekeyed.agree {place : Place} {json json' : Json} (h : Rekeyed place json json') :
    place.Agree json json' := by
  induction h with
  | same place json => exact place.agree_self json
  | items hplace hlength _ ih => exact agree_items hplace hlength ih
  | members hplace hplain hkeys _ ih => exact agree_members hplace hplain hkeys ih
  | parts hplace hkeys hsame _ ih => exact agree_parts hplace hkeys hsame ih
  | create h ih =>
    intro v v' hv hv'
    obtain ⟨d, hd, rfl⟩ := loads_create_iff.1 hv
    obtain ⟨d', hd', rfl⟩ := loads_create_iff.1 hv'
    rw [h.nestedName_eq] at hd'
    exact ih _ d d' hd hd'
  | field howner _ ih => exact ⟨howner, ih⟩
  | rekey hlength _ hrows ih =>
    intro label arguments arguments' ha ha' method
    exact rearranged_of_rekey hlength ih hrows ha ha' method

end Agree

/-! ## What the order of bindings comes to -/

/-- The definitions differ in the order of bound positions at most, and are equal. -/
structure Alike (d d' : Definition) : Prop where
  /-- They differ in the order of bound positions only. -/
  rearranged : d.Rearranged d'
  /-- They are equal, as what is read from payloads is compared. -/
  equal : equalDefinitions true d d' = true

lemma Rearranged.alike {d d' : Definition} (h : d.Rearranged d') : Alike d d' :=
  ⟨h, (h.equalDefinitions_eq true d).trans (equalDefinitions_self d)⟩

/-- Only which value a binding has at which position matters.  Where lists of arguments in a payload
are replaced by objects that are keyed by positions, in any order and at any depth, and both
payloads are read, the definitions that they give are the same up to the order of bound positions,
and are equal.  And definitions that are the same up to that order are equal to the same
definitions, whether they share objects with them or not, and compile to the same plan or fail with
the same failure, with the same warnings, whatever is known about classes. -/
theorem bindings_matter_by_position :
    -- a payload of one entry
    (∀ (name : Text) json json', Rekeyed .entry json json' → ∀ d d' entry world entry' world',
      (loadEntry (.str name) json entry world).1 = .ok d →
        (loadEntry (.str name) json' entry' world').1 = .ok d' → Alike d d') ∧
    -- a payload of named entries
    (∀ json json', Rekeyed .entries json json' → ∀ ds ds' entry world entry' world',
      (loadAll json entry world).1 = .ok ds → (loadAll json' entry' world').1 = .ok ds' →
        List.Forall₂ Alike ds ds') ∧
    -- definitions that are the same up to the order of bound positions
    ∀ d d' : Definition, d.Rearranged d' →
      (∀ (shared : Bool) (x : Definition),
        equalDefinitions shared x d' = equalDefinitions shared x d) ∧
          ∀ types : Introspector, compile types d = compile types d' := by
  refine ⟨?_, ?_, fun d d' h => ⟨h.equalDefinitions_eq, h.compile_eq⟩⟩
  · intro name json json' hjson d d' entry world entry' world' h h'
    have hd := (loadEntry_settled _ json).exists_returns h
    have hd' := (loadEntry_settled _ json').exists_returns h'
    have hrearranged : d.Rearranged d' := hjson.agree _ d d' hd hd'
    exact hrearranged.alike
  · intro json json' hjson ds ds' entry world entry' world' h h'
    have hds := (loadAll_settled json).exists_returns h
    have hds' := (loadAll_settled json').exists_returns h'
    have hrearranged : List.Forall₂ Definition.Rearranged ds ds' := hjson.agree ds ds' hds hds'
    exact hrearranged.imp fun _ _ h => h.alike

/-- The arguments of a constructor in order, the number that is no number among them. -/
def callInOrder : Json :=
  .object [("class", .str "app.A"), ("constructor", .array [.float .nan, .str "b"])]

/-- The same arguments by position, the later one first. -/
def callByPosition : Json :=
  .object [("class", .str "app.A"),
    ("constructor", .object [("1", .str "b"), ("0", .float .nan)])]

lemma callByPosition_rekeyed : Rekeyed .entry callInOrder callByPosition := by
  refine .parts (.inl rfl) rfl (fun name hpart => ?_)
    fun name inner json json' hpart hget hget' => ?_
  · have hname : ("constructor" : Text) ≠ name := by
      rintro rfl
      exact Option.some_ne_none _ hpart
    simp [Entries.get?, hname]
  · by_cases hname : ("constructor" : Text) = name
    · subst hname
      obtain rfl : Place.arguments = inner := Option.some.inj hpart
      obtain rfl : Json.array [.float .nan, .str "b"] = json := Option.some.inj hget
      obtain rfl : Json.object [("1", .str "b"), ("0", .float .nan)] = json' :=
        Option.some.inj hget'
      have hrows : numbered [.float .nan, .str "b"] 0 =
          ([("0", .float .nan), ("1", .str "b")] : List (Text × Json)) := by rfl
      refine .rekey rfl (fun i item item' hi hi' => ?_) (hrows ▸ List.Perm.swap _ _ [])
      exact Option.some.inj (hi.symm.trans hi') ▸ .same .value item
    · -- no arguments stand in the class
      have hclass : ("class" : Text) = name := by
        by_contra hne
        simp [Entries.get?, hname, hne] at hget
      subst hclass
      exact absurd hpart.symm (Option.some_ne_none inner)

/-- The two calls bind the same positions in another order, and are equal, since the number that is
no number is one object in both. -/
theorem callByPosition_alike :
    ∃ d d', (loadEntry (.str "e") callInOrder none {}).1 = .ok d ∧
      (loadEntry (.str "e") callByPosition none {}).1 = .ok d' ∧ d ≠ d' ∧
        equalDefinitions true d d' = true := by
  let call (arguments : List (Nat × Value)) : Definition :=
    { name := .str "e", className := "app.A", isLazy := false,
      constructor := some ⟨"__init__", arguments⟩, fields := [], methods := [] }
  have hknown : ∀ json, unknownKeys [("class", .str "app.A"), ("constructor", json)] = [] :=
    fun _ => List.mergeSort_nil
  have h : (loadEntry (.str "e") callInOrder none {}).1 =
      .ok (call [(0, .float .nan), (1, .str "b")]) := by
    rw [callInOrder, loadEntry, loadHead, hknown, loadConstructor_eq, loadFields_eq,
      loadMethods_eq]
    rfl
  have h' : (loadEntry (.str "e") callByPosition none {}).1 =
      .ok (call [(1, .str "b"), (0, .float .nan)]) := by
    rw [callByPosition, loadEntry, loadHead, hknown, loadConstructor_eq, loadFields_eq,
      loadMethods_eq]
    rfl
  refine ⟨_, _, h, h', fun heq => ?_, ?_⟩
  · have hpositions := congrArg (fun d => d.constructor.map Binding.boundPositions) heq
    exact absurd hpositions (by decide)
  · exact (bindings_matter_by_position.1 "e" _ _ callByPosition_rekeyed _ _ none {} none {} h
      h').equal

end Definition

end Blueprint
