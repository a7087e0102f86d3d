/-
# What a payload may hold

`EntryReadable` says which payloads are read as a definition: a few conditions on the members of
each entry and on the places in it that are read.  Nothing is asked of what stands under `$ref`, and
nothing of the owner that a field is given under `$class`; both are taken as they stand.

So most of the types in a definition that was read are as they should be, at any depth: a name is a
text, and so is the path of a class, which is not empty; and methods have no names but texts, and
arguments no positions but natural numbers, by the types of a definition.  What a reference names
and what owns a field is what the payload has there (`Gives`), and it is a text if and only if the
payload has one.
-/
import Blueprint.Proofs.Entries
import Blueprint.Proofs.Loading
import Blueprint.Proofs.Positions

namespace Blueprint

/-! ## Runs that succeed under a condition -/

namespace Run

variable {α β γ : Type}

/-- The run succeeds if `A` holds, with a result that satisfies `P`, and fails if it does not. -/
def Admits (x : Run α) (A : Prop) (P : α → Prop) : Prop :=
  x.Ensures (fun a => A ∧ P a) fun _ => ¬ A

namespace Admits

variable {x : Run α} {f : α → Run β} {A B : Prop} {P P' : α → Prop} {Q : β → Prop}

lemma mono (h : x.Admits A P) (hAB : A ↔ B) (hP : ∀ a, P a → P' a) : x.Admits B P' :=
  Ensures.mono h (fun a ha => ⟨hAB.1 ha.1, hP a ha.2⟩) fun _ hA hB => hA (hAB.2 hB)

protected lemma pure {a : α} (h : P a) : (Pure.pure a : Run α).Admits True P :=
  Ensures.pure ⟨trivial, h⟩

lemma mistaken (cause : Mistake) : (Run.mistaken cause : Run α).Admits False P :=
  Ensures.mistaken fun _ => id

lemma fail (failure : Failure) : (Run.fail failure : Run α).Admits False P :=
  Ensures.fail id

/-- Two runs one after the other succeed if both do. -/
protected lemma bind (hx : x.Admits A P) (hf : ∀ a, P a → (f a).Admits B Q) :
    (x >>= f).Admits (A ∧ B) Q := by
  refine Ensures.bind (Ensures.mono hx (fun _ => id) fun _ hA h => hA h.1) ?_
  rintro a ⟨hA, hP⟩
  exact Ensures.mono (hf a hP) (fun _ hB => ⟨⟨hA, hB.1⟩, hB.2⟩) fun _ hB h => hB h.2

/-- Something is made of the result. -/
lemma map (hx : x.Admits A P) {g : α → β} (hg : ∀ a, P a → Q (g a)) :
    (x >>= fun a => Pure.pure (g a)).Admits A Q :=
  (hx.bind fun a ha => Admits.pure (hg a ha)).mono (by simp) fun _ => id

protected lemma within (h : x.Admits A P) (name : Option Value) : (Run.within name x).Admits A P :=
  Ensures.within h name

lemma returns_iff (h : x.Admits A P) (entry : Option Value) (world : World) :
    (∃ a, (x entry world).1 = .ok a) ↔ A :=
  Decides.returns_iff (Ensures.mono h (fun _ ha => ha.1) fun _ => id) entry world

lemma of_returns (h : x.Admits A P) {entry : Option Value} {world : World} {a : α}
    (hx : (x entry world).1 = .ok a) : P a := by
  have ha := h entry world
  rw [hx] at ha
  exact ha.2

end Admits

/-- A traversal succeeds if what it does for each item does, with a result for each of them. -/
lemma Traverses.admits {run : List α → Run (List γ)} {one : α → Run γ} (ht : Traverses run one)
    {A : α → Prop} {P : List α → List γ → Prop} {R : α → γ → Prop} {items : List α}
    (hnil : P [] []) (hcons : ∀ {a v rest vs}, R a v → P rest vs → P (a :: rest) (v :: vs))
    (h : ∀ a ∈ items, (one a).Admits (A a) (R a)) :
    (run items).Admits (∀ a ∈ items, A a) (P items) := by
  induction items with
  | nil =>
    rw [ht.nil]
    exact (Admits.pure hnil).mono (by simp) fun _ => id
  | cons a rest ih =>
    rw [ht.cons]
    have hrest := ih fun b hb => h b (List.mem_cons_of_mem a hb)
    refine ((h a List.mem_cons_self).bind fun v hv =>
      hrest.map (Q := P (a :: rest)) fun vs hvs => hcons hv hvs).mono ?_ fun _ => id
    rw [List.forall_mem_cons]

end Run

/-! ## What a definition carries -/

/-- A part of a definition whose type matters later on. -/
inductive Part where
  /-- A definition that is nested, or the definition itself. -/
  | definition (d : Definition)
  /-- What a reference names. -/
  | reference (entry : Value)
  /-- The owner of a field. -/
  | owner (owner : Value)

/-- The part has the type that it should have. -/
def Part.IsTyped : Part → Prop
  | .definition d => (∃ name, d.name = .str name) ∧ d.className.isEmpty = false
  | .reference entry => ∃ name, entry = .str name
  | .owner value => value = .null ∨ ∃ className, value = .str className

/-- The part is taken from a payload as it stands. -/
def Part.IsGiven : Part → Prop
  | .definition _ => False
  | _ => True

/-- The part stands in the value, or in what a definition binds that stands in it, at any depth. -/
inductive Value.Carries : Value → Part → Prop where
  | reference (entry : Value) : Carries (.reference entry) (.reference entry)
  | list {items : List Value} {v : Value} {part : Part} (hv : v ∈ items) (h : Carries v part) :
      Carries (.list items) part
  | tuple {items : List Value} {v : Value} {part : Part} (hv : v ∈ items) (h : Carries v part) :
      Carries (.tuple items) part
  | dict {entries : List (Value × Value)} {e : Value × Value} {part : Part} (he : e ∈ entries)
      (h : Carries e.2 part) : Carries (.dict entries) part
  | definition (d : Definition) : Carries (.definition d) (.definition d)
  | owner {d : Definition} {b : FieldBinding} (hb : b ∈ d.fields) :
      Carries (.definition d) (.owner b.owner)
  | bound {d : Definition} {v : Value} {part : Part} (hv : d.Binds v) (h : Carries v part) :
      Carries (.definition d) part

/-- Every part of the definition has the type that it should have. -/
def Definition.IsTyped (d : Definition) : Prop :=
  ∀ part, (Value.definition d).Carries part → part.IsTyped

section Carries

variable {part : Part} {d : Definition}

lemma carries_list_iff {items : List Value} :
    (Value.list items).Carries part ↔ ∃ v ∈ items, v.Carries part := by
  constructor
  · rintro (_ | ⟨hv, h⟩)
    exact ⟨_, hv, h⟩
  · rintro ⟨v, hv, h⟩
    exact .list hv h

lemma carries_dict_iff {entries : List (Value × Value)} :
    (Value.dict entries).Carries part ↔ ∃ e ∈ entries, e.2.Carries part := by
  constructor
  · rintro (_ | _ | _ | ⟨he, h⟩)
    exact ⟨_, he, h⟩
  · rintro ⟨e, he, h⟩
    exact .dict he h

/-- A definition carries itself and what it binds, along with the owners of its fields. -/
lemma carries_definition_iff :
    (Value.definition d).Carries part ↔
      part = .definition d ∨
        (∃ b, d.constructor = some b ∧ ∃ e ∈ b.arguments, e.2.Carries part) ∨
        (∃ b ∈ d.fields, part = .owner b.owner ∨ b.value.Carries part) ∨
        ∃ b ∈ d.methods, ∃ e ∈ b.arguments, e.2.Carries part := by
  constructor
  · intro h
    cases h with
    | definition => exact .inl rfl
    | owner hb => exact .inr (.inr (.inl ⟨_, hb, .inl rfl⟩))
    | bound hv h =>
      cases hv with
      | construct hb he => exact .inr (.inl ⟨_, hb, _, he, h⟩)
      | assign hb => exact .inr (.inr (.inl ⟨_, hb, .inr h⟩))
      | invoke hb he => exact .inr (.inr (.inr ⟨_, hb, _, he, h⟩))
  · rintro (rfl | ⟨b, hb, e, he, h⟩ | ⟨b, hb, rfl | h⟩ | ⟨b, hb, e, he, h⟩)
    · exact .definition d
    · exact .bound (.construct hb he) h
    · exact .owner hb
    · exact .bound (.assign hb) h
    · exact .bound (.invoke hb he) h

end Carries

namespace Definition

/-! ## Which payloads are read -/

mutual

/-- A value that is read. -/
inductive Readable : Json → Prop where
  | null : Readable .null
  | bool (b : Bool) : Readable (.bool b)
  | int (i : Int) : Readable (.int i)
  | float (x : Double) : Readable (.float x)
  | str (s : Text) : Readable (.str s)
  | array {items : List Json} (h : ∀ item ∈ items, Readable item) : Readable (.array items)
  /-- An object without a meaning of its own. -/
  | object {members : List (Text × Json)} (hplain : IsPlain members)
      (h : ∀ e ∈ members, Readable e.2) : Readable (.object members)
  /-- A reference, whatever it names. -/
  | reference (json : Json) : Readable (.object [("$ref", json)])
  /-- The mark for a declared default, whatever it holds. -/
  | useDefault (json : Json) : Readable (.object [("$default", json)])
  /-- Bytes in base 64. -/
  | bytes {text : Text} {cs : List Char} {bytes : List UInt8}
      (hcs : text.points.mapM basicChar? = some cs) (h : Text.Base64.decode cs = .ok bytes) :
      Readable (.object [("$bytes", .str text)])
  /-- A nested entry. -/
  | create {members : List (Text × Json)} (h : EntryReadable members) :
      Readable (.object [("$create", .object members)])

/-- Arguments that are read. -/
inductive ArgumentsReadable : Json → Prop where
  /-- In order. -/
  | array {items : List Json} (h : ∀ item ∈ items, Readable item) :
      ArgumentsReadable (.array items)
  /-- By position. -/
  | object {members : List (Text × Json)} (hkey : ∀ e ∈ members, Position.isKey e.1 = true)
      (hposition : ∀ e ∈ members, ∃ n, Position.ofDigits e.1 = .ok n)
      (h : ∀ e ∈ members, Readable e.2) : ArgumentsReadable (.object members)

/-- Members of an entry that are read as a definition. -/
inductive EntryReadable : List (Text × Json) → Prop where
  | mk {members : List (Text × Json)} {className : Text} (hknown : unknownKeys members = [])
      (hclass : Entries.get? ("class" : Text) members = some (.str className))
      (hne : className.isEmpty = false)
      (hlazy : ∀ json, Entries.get? ("lazy" : Text) members = some json → ∃ flag, json = .bool flag)
      (hconstructor : ∀ json, Entries.get? ("constructor" : Text) members = some json →
        ArgumentsReadable json)
      (hfields : ∀ json, Entries.get? ("fields" : Text) members = some json →
        ∃ fields, json = .object fields)
      (hvalues : ∀ fields, Entries.get? ("fields" : Text) members = some (.object fields) →
        ∀ e ∈ fields, Readable (fieldContent e.2))
      (hmethods : ∀ json, Entries.get? ("methods" : Text) members = some json →
        ∃ items, json = .array items)
      (hcalls : ∀ items, Entries.get? ("methods" : Text) members = some (.array items) →
        ∀ item ∈ items, ∃ method name, item = .object method ∧
          Entries.get? ("name" : Text) method = some (.str name))
      (harguments : ∀ items, Entries.get? ("methods" : Text) members = some (.array items) →
        ∀ method, .object method ∈ items → ∀ json,
          Entries.get? ("args" : Text) method = some json → ArgumentsReadable json) :
      EntryReadable members

end

/-! ## What is taken as it stands -/

/-- An argument by its position, where the key is one. -/
def keyed? (e : Text × Json) : Option (Nat × Json) :=
  match Position.ofDigits e.1 with
  | .ok n => some (n, e.2)
  | .error _ => none

/-- Arguments by their positions.  Of several for one position the last one counts. -/
def keyedArguments (members : List (Text × Json)) : List (Nat × Json) :=
  Entries.ofList (members.filterMap keyed?)

mutual

/-- A value has something as a reference or as the owner of a field. -/
inductive Gives : Json → Part → Prop where
  | item {items : List Json} {item : Json} {part : Part} (hmem : item ∈ items)
      (h : Gives item part) : Gives (.array items) part
  | member {members : List (Text × Json)} {e : Text × Json} {part : Part}
      (hplain : IsPlain members) (hmem : e ∈ members) (h : Gives e.2 part) :
      Gives (.object members) part
  | reference (json : Json) : Gives (.object [("$ref", json)]) (.reference (.ofJson json))
  | create {members : List (Text × Json)} {part : Part} (h : EntryGives members part) :
      Gives (.object [("$create", .object members)]) part

/-- So do arguments. -/
inductive ArgumentsGive : Json → Part → Prop where
  | item {items : List Json} {item : Json} {part : Part} (hmem : item ∈ items)
      (h : Gives item part) : ArgumentsGive (.array items) part
  | value {members : List (Text × Json)} {e : Nat × Json} {part : Part}
      (hmem : e ∈ keyedArguments members) (h : Gives e.2 part) :
      ArgumentsGive (.object members) part

/-- So do the members of an entry. -/
inductive EntryGives : List (Text × Json) → Part → Prop where
  | construct {members : List (Text × Json)} {json : Json} {part : Part}
      (hget : Entries.get? ("constructor" : Text) members = some json)
      (h : ArgumentsGive json part) : EntryGives members part
  | owner {members fields : List (Text × Json)} {e : Text × Json}
      (hget : Entries.get? ("fields" : Text) members = some (.object fields)) (hmem : e ∈ fields) :
      EntryGives members (.owner (fieldOwnerGiven e.2))
  | assign {members fields : List (Text × Json)} {e : Text × Json} {part : Part}
      (hget : Entries.get? ("fields" : Text) members = some (.object fields)) (hmem : e ∈ fields)
      (h : Gives (fieldContent e.2) part) : EntryGives members part
  | invoke {members method : List (Text × Json)} {items : List Json} {json : Json} {part : Part}
      (hget : Entries.get? ("methods" : Text) members = some (.array items))
      (hmem : .object method ∈ items)
      (hargs : Entries.get? ("args" : Text) method = some json) (h : ArgumentsGive json part) :
      EntryGives members part

end

/-! ## From what is given to what is carried -/

/-- Something that was read carries what the payload gives, and the definitions in it are as they
should be. -/
structure Takes (carried given : Part → Prop) : Prop where
  typed : ∀ d, carried (.definition d) → (Part.definition d).IsTyped
  given : ∀ part, part.IsGiven → (carried part ↔ given part)

namespace Takes

variable {α β : Type} {carried carried' given given' : Part → Prop}

lemma congr (h : Takes carried given) (hcarried : ∀ part, carried' part ↔ carried part)
    (hgiven : ∀ part, given' part ↔ given part) : Takes carried' given' where
  typed d hd := h.typed d ((hcarried _).1 hd)
  given part hpart := by rw [hcarried, hgiven, h.given part hpart]

lemma none : Takes (fun _ => False) fun _ => False where
  typed _ := False.elim
  given _ _ := Iff.rfl

lemma or (h : Takes carried given) (h' : Takes carried' given') :
    Takes (fun part => carried part ∨ carried' part) fun part => given part ∨ given' part where
  typed d hd := hd.elim (h.typed d) (h'.typed d)
  given part hpart := or_congr (h.given part hpart) (h'.given part hpart)

lemma nil {c : β → Part → Prop} {g : α → Part → Prop} :
    Takes (fun part => ∃ y ∈ ([] : List β), c y part) fun part => ∃ x ∈ ([] : List α), g x part :=
  none.congr (by simp) (by simp)

lemma cons {c : β → Part → Prop} {g : α → Part → Prop} {x : α} {y : β} {xs : List α} {ys : List β}
    (h : Takes (c y) (g x))
    (hs : Takes (fun part => ∃ y ∈ ys, c y part) fun part => ∃ x ∈ xs, g x part) :
    Takes (fun part => ∃ z ∈ y :: ys, c z part) fun part => ∃ z ∈ x :: xs, g z part :=
  (h.or hs).congr (fun _ => by simp only [List.mem_cons, exists_eq_or_imp])
    fun _ => by simp only [List.mem_cons, exists_eq_or_imp]

/-- Rows that are aligned are taken one by one. -/
lemma each {c : β → Part → Prop} {g : α → Part → Prop} {xs : List α} {ys : List β}
    (h : List.Forall₂ (fun x y => Takes (c y) (g x)) xs ys) :
    Takes (fun part => ∃ y ∈ ys, c y part) fun part => ∃ x ∈ xs, g x part := by
  induction h with
  | nil => exact nil
  | cons hxy _ ih => exact cons hxy ih

end Takes

/-- The value is what was read. -/
abbrev ValueTakes (json : Json) (v : Value) : Prop :=
  Takes v.Carries (Gives json)

/-- The values of arguments are what was read. -/
abbrev ArgumentsTake (json : Json) (arguments : List (Nat × Value)) : Prop :=
  Takes (fun part => ∃ e ∈ arguments, e.2.Carries part) (ArgumentsGive json)

/-! ## Values in a row -/

/-- What is read in a row is taken one by one. -/
lemma takes_traverse {α γ : Type} {run : List α → Run (List γ)} {one : α → Run γ}
    (ht : Run.Traverses run one) {A : α → Prop} {c : γ → Part → Prop} {g : α → Part → Prop}
    {items : List α} (h : ∀ a ∈ items, (one a).Admits (A a) fun y => Takes (c y) (g a)) :
    (run items).Admits (∀ a ∈ items, A a) fun ys =>
      Takes (fun part => ∃ y ∈ ys, c y part) fun part => ∃ a ∈ items, g a part :=
  ht.admits (P := fun items ys =>
    Takes (fun part => ∃ y ∈ ys, c y part) fun part => ∃ a ∈ items, g a part) .nil .cons h

/-! ## Arguments -/

lemma loadKey_admits (key : Text) :
    (loadKey key).Admits (∃ n, Position.ofDigits key = .ok n)
      fun n => Position.ofDigits key = .ok n := by
  unfold loadKey
  rcases Position.ofDigits key with failure | n
  · exact (Run.Admits.fail failure).mono (by simp) fun _ => id
  · exact (Run.Admits.pure (P := fun m => Except.ok n = Except.ok m) rfl).mono (by simp)
      fun _ => id

lemma loadKeyed_admits (label : Text) (members : List (Text × Json))
    (h : ∀ e ∈ members, (loadValue e.2).Admits (Readable e.2) (ValueTakes e.2)) :
    (loadKeyed label members).Admits
      (∀ e ∈ members, Position.isKey e.1 = true ∧ (∃ n, Position.ofDigits e.1 = .ok n) ∧
        Readable e.2)
      fun arguments => List.Forall₂ (fun e x => x.1 = id e.1 ∧ ValueTakes e.2 x.2)
        (members.filterMap keyed?) arguments := by
  refine (loadKeyed_traverses label).admits
    (P := fun members arguments => List.Forall₂ (fun e x => x.1 = id e.1 ∧ ValueTakes e.2 x.2)
      (members.filterMap keyed?) arguments)
    (R := fun e x => keyed? e = some (x.1, e.2) ∧ ValueTakes e.2 x.2) .nil ?_ fun e hmem => ?_
  · rintro e x rest arguments ⟨hkeyed, hx⟩ hrest
    rw [List.filterMap_cons_some hkeyed]
    exact .cons ⟨rfl, hx⟩ hrest
  rcases hkey : Position.isKey e.1 with _ | _
  · rw [loadKeyedOne_of_not_isKey hkey]
    exact (Run.Admits.mistaken _).mono (by simp) fun _ => id
  · rw [loadKeyedOne_of_isKey hkey]
    -- the value is read before the key is
    have hrow := (h e hmem).bind fun v hv => (loadKey_admits e.1).map (g := fun n => (n, v))
      (Q := fun x : Nat × Value => keyed? e = some (x.1, e.2) ∧ ValueTakes e.2 x.2)
      fun n hn => ⟨by rw [keyed?, hn], hv⟩
    refine hrow.mono ?_ fun _ => id
    simp only [true_and, and_comm]

lemma argumentsReadable_array_iff {items : List Json} :
    ArgumentsReadable (.array items) ↔ ∀ item ∈ items, Readable item :=
  ⟨fun | .array h => h, .array⟩

lemma argumentsReadable_object_iff {members : List (Text × Json)} :
    ArgumentsReadable (.object members) ↔ ∀ e ∈ members, Position.isKey e.1 = true ∧
      (∃ n, Position.ofDigits e.1 = .ok n) ∧ Readable e.2 := by
  constructor
  · rintro (_ | ⟨hkey, hposition, h⟩) e he
    exact ⟨hkey e he, hposition e he, h e he⟩
  · intro h
    exact .object (fun e he => (h e he).1) (fun e he => (h e he).2.1) fun e he => (h e he).2.2

lemma argumentsGive_array_iff {items : List Json} {part : Part} :
    ArgumentsGive (.array items) part ↔ ∃ item ∈ items, Gives item part :=
  ⟨fun | .item hmem h => ⟨_, hmem, h⟩, fun ⟨_, hmem, h⟩ => .item hmem h⟩

lemma argumentsGive_object_iff {members : List (Text × Json)} {part : Part} :
    ArgumentsGive (.object members) part ↔ ∃ e ∈ keyedArguments members, Gives e.2 part :=
  ⟨fun | .value hmem h => ⟨_, hmem, h⟩, fun ⟨_, hmem, h⟩ => .value hmem h⟩

/-- Values are enumerated without a change. -/
lemma exists_mem_enumerate_iff {vs : List Value} {first : Nat} {P : Value → Prop} :
    (∃ e ∈ Binding.enumerate vs first, P e.2) ↔ ∃ v ∈ vs, P v := by
  induction vs generalizing first with
  | nil => simp [Binding.enumerate]
  | cons v rest ih => simp only [Binding.enumerate, List.mem_cons, exists_eq_or_imp, ih]

lemma loadArguments_admits (label : Text) {json : Json}
    (h : ∀ part, sizeOf part < sizeOf json →
      (loadValue part).Admits (Readable part) (ValueTakes part)) :
    (loadArguments label json).Admits (ArgumentsReadable json) (ArgumentsTake json) := by
  cases json with
  | array items =>
    have hitems := takes_traverse loadItems_traverses fun item hmem => h item (sizeOf_item hmem)
    rw [loadArguments]
    refine (hitems.map (Q := ArgumentsTake (.array items)) fun vs hvs => ?_).mono
      argumentsReadable_array_iff.symm fun _ => id
    exact hvs.congr (fun part => exists_mem_enumerate_iff (P := fun v => v.Carries part))
      fun _ => argumentsGive_array_iff
  | object members =>
    have hkeyed := loadKeyed_admits label members fun e hmem =>
      h e.2 (Nat.lt_trans (sizeOf_member hmem) (sizeOf_members members))
    rw [loadArguments]
    refine (hkeyed.map (Q := ArgumentsTake (.object members)) fun arguments harguments => ?_).mono
      argumentsReadable_object_iff.symm fun _ => id
    -- a repeated position keeps the last value on both sides
    have hlast := Entries.forall₂_ofList (fun _ _ => rfl) harguments
    exact (Takes.each (hlast.imp fun _ _ hx => hx.2)).congr (fun _ => Iff.rfl)
      fun _ => argumentsGive_object_iff
  | _ =>
    rw [loadArguments]
    · refine (Run.Admits.mistaken _).mono ⟨False.elim, fun h => ?_⟩ fun _ => id
      cases h
    all_goals
      intro _ heq
      cases heq

/-! ## The parts of an entry -/

section Entry

variable {members : List (Text × Json)}
  (h : ∀ part, sizeOf part < sizeOf members →
    (loadValue part).Admits (Readable part) (ValueTakes part))

include h

lemma loadConstructor_admits :
    (loadConstructor members).Admits
      (∀ json, Entries.get? ("constructor" : Text) members = some json → ArgumentsReadable json)
      fun constructor =>
        Takes (fun part => ∃ b, constructor = some b ∧ ∃ e ∈ b.arguments, e.2.Carries part)
          fun part => ∃ json, Entries.get? ("constructor" : Text) members = some json ∧
            ArgumentsGive json part := by
  rw [loadConstructor_eq]
  rcases hget : Entries.get? ("constructor" : Text) members with _ | json
  · exact (Run.Admits.pure (Takes.none.congr (by simp) (by simp))).mono (by simp) fun _ => id
  · have harguments : (loadArguments "constructor" json).Admits (ArgumentsReadable json)
        (ArgumentsTake json) := loadArguments_admits "constructor" fun part hpart =>
      h part (Nat.lt_trans hpart (sizeOf_get? hget))
    refine (harguments.mono (B := ∀ json', some json = some json' → ArgumentsReadable json')
      (by simp) fun _ => id).map fun arguments hload => hload.congr ?_ ?_
    · simp
    · simp

lemma loadMethodArguments_admits (label : Text) :
    (loadMethodArguments label members).Admits
      (∀ json, Entries.get? ("args" : Text) members = some json → ArgumentsReadable json)
      fun arguments => Takes (fun part => ∃ e ∈ arguments, e.2.Carries part)
        fun part => ∃ json, Entries.get? ("args" : Text) members = some json ∧
          ArgumentsGive json part := by
  rw [loadMethodArguments_eq]
  rcases hget : Entries.get? ("args" : Text) members with _ | json
  · exact (Run.Admits.pure (Takes.none.congr (by simp) (by simp))).mono (by simp) fun _ => id
  · have harguments : (loadArguments label json).Admits (ArgumentsReadable json)
        (ArgumentsTake json) := loadArguments_admits label fun part hpart =>
      h part (Nat.lt_trans hpart (sizeOf_get? hget))
    exact harguments.mono (by simp) fun arguments hload => hload.congr (fun _ => Iff.rfl) (by simp)

end Entry

/-- The owner of a field is the one that it is given. -/
lemma Takes.owner (owner : Value) :
    Takes (fun part => part = .owner owner) fun part => part = .owner owner where
  typed _ hd := absurd hd nofun
  given _ _ := Iff.rfl

lemma loadFieldBindings_admits {members : List (Text × Json)}
    (h : ∀ e ∈ members, (loadValue (fieldContent e.2)).Admits (Readable (fieldContent e.2))
      (ValueTakes (fieldContent e.2))) :
    (loadFieldBindings members).Admits (∀ e ∈ members, Readable (fieldContent e.2)) fun fields =>
      Takes (fun part => ∃ b ∈ fields, part = .owner b.owner ∨ b.value.Carries part)
        fun part => ∃ e ∈ members,
          part = .owner (fieldOwnerGiven e.2) ∨ Gives (fieldContent e.2) part := by
  refine takes_traverse loadFieldBindings_traverses
    (c := fun (b : FieldBinding) part => part = .owner b.owner ∨ b.value.Carries part)
    (g := fun (e : Text × Json) part =>
      part = .owner (fieldOwnerGiven e.2) ∨ Gives (fieldContent e.2) part) fun e hmem => ?_
  exact (h e hmem).map fun v hv => (Takes.owner _).or hv

/-- A method of an entry that is read: it has a name, and arguments that are read if it has any. -/
def MethodReadable (item : Json) : Prop :=
  ∃ method name, item = .object method ∧ Entries.get? ("name" : Text) method = some (.str name) ∧
    ∀ json, Entries.get? ("args" : Text) method = some json → ArgumentsReadable json

lemma loadMethodBinding_admits {item : Json}
    (h : ∀ part, sizeOf part < sizeOf item →
      (loadValue part).Admits (Readable part) (ValueTakes part)) :
    (loadMethodBinding item).Admits (MethodReadable item) fun b =>
      Takes (fun part => ∃ e ∈ b.arguments, e.2.Carries part)
        fun part => ∃ method, item = .object method ∧ ∃ json,
          Entries.get? ("args" : Text) method = some json ∧ ArgumentsGive json part := by
  cases item with
  | object members =>
    rw [loadMethodBinding]
    split
    · rename_i name hname
      have harguments := loadMethodArguments_admits
        (fun part hpart => h part (Nat.lt_trans hpart (sizeOf_members members))) name
      have hbinding := harguments.map (g := fun arguments => (⟨name, arguments⟩ : Binding))
        (Q := fun b : Binding => Takes (fun part => ∃ e ∈ b.arguments, e.2.Carries part)
          fun part => ∃ method, Json.object members = .object method ∧ ∃ json,
            Entries.get? ("args" : Text) method = some json ∧ ArgumentsGive json part)
        fun arguments hload => hload.congr (fun _ => Iff.rfl) (by simp)
      refine hbinding.mono ?_ fun _ => id
      simp [MethodReadable, hname]
    · -- the method has no name
      rename_i hname
      refine (Run.Admits.mistaken _).mono ⟨False.elim, ?_⟩ fun _ => id
      rintro ⟨method, name, heq, hget, -⟩
      obtain rfl := Json.object.inj heq
      exact hname name hget
  | _ =>
    rw [loadMethodBinding]
    · refine (Run.Admits.mistaken _).mono ⟨False.elim, ?_⟩ fun _ => id
      rintro ⟨method, name, heq, -⟩
      cases heq
    all_goals
      intro _ heq
      cases heq

/-- The class and the lazy flag of an entry that is read. -/
def HeadReadable (members : List (Text × Json)) : Prop :=
  unknownKeys members = [] ∧
    (∃ className : Text, Entries.get? ("class" : Text) members = some (.str className) ∧
      className.isEmpty = false) ∧
    ∀ json, Entries.get? ("lazy" : Text) members = some json → ∃ flag, json = .bool flag

lemma refuseEntry_admits {α : Type} {P : α → Prop} (name : Value) (cause : Value → Mistake) :
    (refuseEntry name cause : Run α).Admits False P := by
  unfold refuseEntry Run.ifWritten
  split
  · exact .mistaken _
  · exact .fail _

lemma loadHead_admits (name : Value) (members : List (Text × Json)) :
    (loadHead name members).Admits (HeadReadable members) fun head =>
      Entries.get? ("class" : Text) members = some (.str head.1) ∧ head.1.isEmpty = false := by
  unfold loadHead
  rcases hunknown : unknownKeys members with _ | ⟨key, keys⟩
  · simp only [List.isEmpty_nil, Bool.not_true, Bool.false_eq_true, if_false]
    split
    · -- the class is a text: it must not be empty, and then the flag decides
      rename_i className hclass
      cases hempty : className.isEmpty with
      | true =>
        refine (refuseEntry_admits _ _).mono ⟨False.elim, ?_⟩ fun _ => id
        rintro ⟨-, ⟨className', hclass', hne⟩, -⟩
        obtain rfl := Json.str.inj (Option.some.inj (hclass.symm.trans hclass'))
        exact absurd (hempty.symm.trans hne) nofun
      | false =>
        have hhead : HeadReadable members ↔
            ∀ json, Entries.get? ("lazy" : Text) members = some json →
              ∃ flag, json = .bool flag :=
          ⟨fun h => h.2.2, fun h => ⟨hunknown, ⟨className, hclass, hempty⟩, h⟩⟩
        simp only [Bool.false_eq_true, if_false]
        -- no flag, a flag, or something else in its place
        split
        · rename_i hlazy
          refine (Run.Admits.pure ?_).mono (hhead.trans (by simp [hlazy])).symm fun _ => id
          exact ⟨hclass, hempty⟩
        · rename_i flag hlazy
          refine (Run.Admits.pure ?_).mono (hhead.trans (by simp [hlazy])).symm fun _ => id
          exact ⟨hclass, hempty⟩
        · rename_i json hbool hlazy
          refine (refuseEntry_admits _ _).mono ⟨False.elim, fun h => ?_⟩ fun _ => id
          obtain ⟨flag, rfl⟩ := h.2.2 json hlazy
          exact hbool flag rfl
    · rename_i hclass
      refine (refuseEntry_admits _ _).mono ⟨False.elim, ?_⟩ fun _ => id
      rintro ⟨-, ⟨className, hget, -⟩, -⟩
      exact hclass className hget
  · simp only [List.isEmpty_cons, Bool.not_false, if_true, refuseEntry_bind]
    refine (refuseEntry_admits _ _).mono ⟨False.elim, fun h => ?_⟩ fun _ => id
    exact absurd (hunknown.symm.trans h.1) nofun

lemma loadFields_admits {members : List (Text × Json)}
    (h : ∀ part, sizeOf part < sizeOf members →
      (loadValue part).Admits (Readable part) (ValueTakes part)) :
    (loadFields members).Admits
      (∀ json, Entries.get? ("fields" : Text) members = some json →
        ∃ fields, json = .object fields ∧ ∀ e ∈ fields, Readable (fieldContent e.2))
      fun fields =>
        Takes (fun part => ∃ b ∈ fields, part = .owner b.owner ∨ b.value.Carries part)
          fun part => ∃ given, Entries.get? ("fields" : Text) members = some (.object given) ∧
            ∃ e ∈ given, part = .owner (fieldOwnerGiven e.2) ∨ Gives (fieldContent e.2) part := by
  rw [loadFields_eq]
  rcases hget : Entries.get? ("fields" : Text) members with _ | json
  · exact (Run.Admits.pure (Takes.none.congr (by simp) (by simp))).mono (by simp) fun _ => id
  · cases json with
    | object given =>
      have hgiven := Nat.lt_trans (sizeOf_members given) (sizeOf_get? hget)
      have hfields := loadFieldBindings_admits fun e hmem =>
        h _ (Nat.lt_trans (sizeOf_content hmem) hgiven)
      exact hfields.mono (by simp) fun fields hload => hload.congr (fun _ => Iff.rfl) (by simp)
    | _ => exact (Run.Admits.mistaken _).mono (by simp) fun _ => id

lemma loadMethods_admits {members : List (Text × Json)}
    (h : ∀ part, sizeOf part < sizeOf members →
      (loadValue part).Admits (Readable part) (ValueTakes part)) :
    (loadMethods members).Admits
      (∀ json, Entries.get? ("methods" : Text) members = some json →
        ∃ items, json = .array items ∧ ∀ item ∈ items, MethodReadable item)
      fun methods =>
        Takes (fun part => ∃ b ∈ methods, ∃ e ∈ b.arguments, e.2.Carries part)
          fun part => ∃ items, Entries.get? ("methods" : Text) members = some (.array items) ∧
            ∃ item ∈ items, ∃ method, item = .object method ∧ ∃ json,
              Entries.get? ("args" : Text) method = some json ∧ ArgumentsGive json part := by
  rw [loadMethods_eq]
  rcases hget : Entries.get? ("methods" : Text) members with _ | json
  · exact (Run.Admits.pure (Takes.none.congr (by simp) (by simp))).mono (by simp) fun _ => id
  · cases json with
    | array items =>
      have hbinding : ∀ item ∈ items, ∀ part, sizeOf part < sizeOf item →
          (loadValue part).Admits (Readable part) (ValueTakes part) := by
        intro item hmem part hpart
        have hsize := Nat.lt_trans (sizeOf_item hmem) (sizeOf_get? hget)
        exact h part (Nat.lt_trans hpart hsize)
      have hmethods := takes_traverse loadMethodBindings_traverses fun item hmem =>
        loadMethodBinding_admits (hbinding item hmem)
      exact hmethods.mono (by simp) fun methods hload => hload.congr (fun _ => Iff.rfl) (by simp)
    | _ => exact (Run.Admits.mistaken _).mono (by simp) fun _ => id

/-! ## Entries and values -/

/-- An entry is read if all its parts are. -/
lemma entryReadable_iff {members : List (Text × Json)} :
    EntryReadable members ↔
      HeadReadable members ∧
        (∀ json, Entries.get? ("constructor" : Text) members = some json →
          ArgumentsReadable json) ∧
        (∀ json, Entries.get? ("fields" : Text) members = some json →
          ∃ fields, json = .object fields ∧ ∀ e ∈ fields, Readable (fieldContent e.2)) ∧
        ∀ json, Entries.get? ("methods" : Text) members = some json →
          ∃ items, json = .array items ∧ ∀ item ∈ items, MethodReadable item := by
  constructor
  · rintro ⟨hknown, hclass, hne, hlazy, hconstructor, hfields, hvalues, hmethods, hcalls,
      harguments⟩
    refine ⟨⟨hknown, ⟨_, hclass, hne⟩, hlazy⟩, hconstructor, ?_, ?_⟩
    · intro json hget
      obtain ⟨fields, rfl⟩ := hfields json hget
      exact ⟨fields, rfl, hvalues fields hget⟩
    · intro json hget
      obtain ⟨items, rfl⟩ := hmethods json hget
      refine ⟨items, rfl, fun item hitem => ?_⟩
      obtain ⟨method, name, rfl, hname⟩ := hcalls items hget item hitem
      exact ⟨method, name, rfl, hname, harguments items hget method hitem⟩
  · rintro ⟨⟨hknown, ⟨className, hclass, hne⟩, hlazy⟩, hconstructor, hfields, hmethods⟩
    refine .mk hknown hclass hne hlazy hconstructor ?_ ?_ ?_ ?_ ?_
    · intro json hget
      obtain ⟨fields, rfl, -⟩ := hfields json hget
      exact ⟨fields, rfl⟩
    · intro fields hget
      obtain ⟨fields', heq, hvalues⟩ := hfields _ hget
      obtain rfl := Json.object.inj heq
      exact hvalues
    · intro json hget
      obtain ⟨items, rfl, -⟩ := hmethods json hget
      exact ⟨items, rfl⟩
    · intro items hget item hitem
      obtain ⟨items', heq, hall⟩ := hmethods _ hget
      obtain rfl := Json.array.inj heq
      obtain ⟨method, name, rfl, hname, -⟩ := hall item hitem
      exact ⟨method, name, rfl, hname⟩
    · intro items hget method hitem
      obtain ⟨items', heq, hall⟩ := hmethods _ hget
      obtain rfl := Json.array.inj heq
      obtain ⟨method', name, heq', hname, harguments⟩ := hall _ hitem
      obtain rfl := Json.object.inj heq'
      exact harguments

/-- What an entry gives is what its parts give. -/
lemma entryGives_iff {members : List (Text × Json)} {part : Part} :
    EntryGives members part ↔
      (∃ json, Entries.get? ("constructor" : Text) members = some json ∧
          ArgumentsGive json part) ∨
        (∃ given, Entries.get? ("fields" : Text) members = some (.object given) ∧
          ∃ e ∈ given, part = .owner (fieldOwnerGiven e.2) ∨ Gives (fieldContent e.2) part) ∨
        ∃ items, Entries.get? ("methods" : Text) members = some (.array items) ∧
          ∃ item ∈ items, ∃ method, item = .object method ∧ ∃ json,
            Entries.get? ("args" : Text) method = some json ∧ ArgumentsGive json part := by
  constructor
  · rintro (⟨hget, h⟩ | ⟨hget, hmem⟩ | ⟨hget, hmem, h⟩ | ⟨hget, hmem, hargs, h⟩)
    · exact .inl ⟨_, hget, h⟩
    · exact .inr (.inl ⟨_, hget, _, hmem, .inl rfl⟩)
    · exact .inr (.inl ⟨_, hget, _, hmem, .inr h⟩)
    · exact .inr (.inr ⟨_, hget, _, hmem, _, rfl, _, hargs, h⟩)
  · rintro (⟨json, hget, h⟩ | ⟨given, hget, e, hmem, rfl | h⟩ |
      ⟨items, hget, item, hmem, method, rfl, json, hargs, h⟩)
    · exact .construct hget h
    · exact .owner hget hmem
    · exact .assign hget hmem h
    · exact .invoke hget hmem hargs h

/-- A definition carries itself and what its parts carry. -/
lemma Takes.entry {d : Definition} {members : List (Text × Json)}
    (hd : (Part.definition d).IsTyped)
    (h : Takes (fun part =>
        (∃ b, d.constructor = some b ∧ ∃ e ∈ b.arguments, e.2.Carries part) ∨
          (∃ b ∈ d.fields, part = .owner b.owner ∨ b.value.Carries part) ∨
          ∃ b ∈ d.methods, ∃ e ∈ b.arguments, e.2.Carries part)
      (EntryGives members)) :
    Takes (Value.definition d).Carries (EntryGives members) := by
  refine ⟨fun d' hd' => ?_, fun part hpart => ?_⟩
  · -- the definition itself, or one that its parts carry
    rcases carries_definition_iff.1 hd' with heq | hcarried
    · rw [heq]
      exact hd
    · exact h.typed d' hcarried
  · rw [carries_definition_iff, ← h.given part hpart]
    refine or_iff_right ?_
    rintro rfl
    exact hpart

lemma loadEntry_admits (name : Value) {members : List (Text × Json)}
    (hname : ∀ className, Entries.get? ("class" : Text) members = some (.str className) →
      ∃ text, name = .str text)
    (h : ∀ part, sizeOf part < sizeOf members →
      (loadValue part).Admits (Readable part) (ValueTakes part)) :
    (loadEntry name (.object members)).Admits (EntryReadable members)
      fun d => Takes (Value.definition d).Carries (EntryGives members) := by
  rw [loadEntry]
  refine .within (((loadHead_admits name members).bind fun head hhead =>
    (loadConstructor_admits h).bind fun constructor hconstructor =>
      (loadFields_admits h).bind fun fields hfields => (loadMethods_admits h).map
        (Q := fun d : Definition => Takes (Value.definition d).Carries (EntryGives members))
        fun methods hmethods => ?_).mono entryReadable_iff.symm fun _ => id) _
  -- what the definition carries is what its constructor, its fields and its methods carry
  have hparts := hconstructor.or (hfields.or hmethods)
  refine Takes.entry ⟨hname head.1 hhead.1, hhead.2⟩ ?_
  exact hparts.congr (fun _ => Iff.rfl) fun _ => entryGives_iff

/-- Bytes are read from a text in base 64, and from nothing else. -/
lemma loadBytes_admits (json : Json) :
    (loadBytes json).Admits
      (∃ text cs bytes, json = .str text ∧ text.points.mapM basicChar? = some cs ∧
        Text.Base64.decode cs = .ok bytes)
      fun v => ∃ bytes, v = .bytes bytes := by
  cases json with
  | str text =>
    rw [loadBytes]
    rcases hcs : text.points.mapM basicChar? with _ | cs
    · exact (Run.Admits.fail _).mono (by simp [hcs]) fun _ => id
    · simp only
      rcases hbytes : Text.Base64.decode cs with failure | bytes
      · exact (Run.Admits.mistaken _).mono (by simp [hcs, hbytes]) fun _ => id
      · exact (Run.Admits.pure ⟨bytes, rfl⟩).mono (by simp [hcs, hbytes]) fun _ => id
  | _ => exact (Run.Admits.mistaken _).mono (by simp) fun _ => id

lemma readable_array_iff {items : List Json} :
    Readable (.array items) ↔ ∀ item ∈ items, Readable item :=
  ⟨fun | .array h => h, .array⟩

lemma gives_array_iff {items : List Json} {part : Part} :
    Gives (.array items) part ↔ ∃ item ∈ items, Gives item part :=
  ⟨fun | .item hmem h => ⟨_, hmem, h⟩, fun ⟨_, hmem, h⟩ => .item hmem h⟩

section Plain

variable {members : List (Text × Json)} (hplain : IsPlain members)

include hplain

lemma readable_object_plain :
    Readable (.object members) ↔ ∀ e ∈ members, Readable e.2 := by
  constructor
  · intro h
    cases h with
    | object _ h => exact h
    | reference => exact absurd (by simp [tags]) (hplain _ rfl)
    | useDefault => exact absurd (by simp [tags]) (hplain _ rfl)
    | bytes => exact absurd (by simp [tags]) (hplain _ rfl)
    | create => exact absurd (by simp [tags]) (hplain _ rfl)
  · exact .object hplain

lemma gives_object_plain {part : Part} :
    Gives (.object members) part ↔ ∃ e ∈ members, Gives e.2 part := by
  constructor
  · intro h
    cases h with
    | member _ hmem h => exact ⟨_, hmem, h⟩
    | reference => exact absurd (by simp [tags]) (hplain _ rfl)
    | create => exact absurd (by simp [tags]) (hplain _ rfl)
  · rintro ⟨e, hmem, h⟩
    exact .member hplain hmem h

end Plain

section Tagged

variable {key : Text} {json : Json} (htag : key ∈ tags)

include htag

lemma readable_tagged :
    Readable (.object [(key, json)]) ↔
      key = "$ref" ∨ key = "$default" ∨
        (key = "$bytes" ∧ ∃ text cs bytes, json = .str text ∧
          text.points.mapM basicChar? = some cs ∧ Text.Base64.decode cs = .ok bytes) ∨
        (key = "$create" ∧ ∃ members, json = .object members ∧ EntryReadable members) := by
  constructor
  · intro h
    cases h with
    | object hplain => exact absurd htag (hplain _ rfl)
    | reference => exact .inl rfl
    | useDefault => exact .inr (.inl rfl)
    | bytes hcs h => exact .inr (.inr (.inl ⟨rfl, _, _, _, rfl, hcs, h⟩))
    | create h => exact .inr (.inr (.inr ⟨rfl, _, rfl, h⟩))
  · rintro (rfl | rfl | ⟨rfl, text, cs, bytes, rfl, hcs, h⟩ | ⟨rfl, members, rfl, h⟩)
    · exact .reference json
    · exact .useDefault json
    · exact .bytes hcs h
    · exact .create h

lemma gives_tagged {part : Part} :
    Gives (.object [(key, json)]) part ↔
      (key = "$ref" ∧ part = .reference (.ofJson json)) ∨
        (key = "$create" ∧ ∃ members, json = .object members ∧ EntryGives members part) := by
  constructor
  · intro h
    cases h with
    | member hplain => exact absurd htag (hplain _ rfl)
    | reference => exact .inl ⟨rfl, rfl⟩
    | create h => exact .inr ⟨rfl, _, rfl, h⟩
  · rintro (⟨rfl, rfl⟩ | ⟨rfl, members, rfl, h⟩)
    · exact .reference json
    · exact .create h

end Tagged

/-- Where nothing is given, a value that carries nothing is what was read. -/
lemma valueTakes_of_none {json : Json} {v : Value} (hv : ∀ part, ¬ v.Carries part)
    (hjson : ∀ part, ¬ Gives json part) : ValueTakes json v :=
  Takes.none.congr (fun part => iff_of_false (hv part) id) fun part => iff_of_false (hjson part) id

lemma pure_admits_of_none {json : Json} {v : Value} (h : Readable json)
    (hv : ∀ part, ¬ v.Carries part) (hjson : ∀ part, ¬ Gives json part) :
    (pure v : Run Value).Admits (Readable json) (ValueTakes json) :=
  (Run.Admits.pure (valueTakes_of_none hv hjson)).mono (iff_of_true trivial h) fun _ => id

/-- An object whose single member is a tag goes by that tag. -/
lemma loadValue_tagged_admits {key : Text} {json : Json} (htag : key ∈ tags)
    (h : ∀ members, json = .object members → ∀ name,
      (∀ className, Entries.get? ("class" : Text) members = some (.str className) →
        ∃ text, name = .str text) →
      (loadEntry name (.object members)).Admits (EntryReadable members)
        fun d => Takes (Value.definition d).Carries (EntryGives members)) :
    (loadValue (.object [(key, json)])).Admits (Readable (.object [(key, json)]))
      (ValueTakes (.object [(key, json)])) := by
  refine Run.Admits.mono ?_ (readable_tagged htag).symm fun _ => id
  have hreference : ("$ref" : Text) ≠ "$create" := by decide
  have hmark : ("$default" : Text) ≠ "$ref" ∧ ("$default" : Text) ≠ "$create" := by decide
  have hbytes : ("$bytes" : Text) ≠ "$ref" ∧ ("$bytes" : Text) ≠ "$default" ∧
    ("$bytes" : Text) ≠ "$create" := by decide
  have hcreate : ("$create" : Text) ≠ "$ref" ∧ ("$create" : Text) ≠ "$default" := by decide
  have hnothing : ∀ key' : Text, key' ∈ tags → key' ≠ "$ref" → key' ≠ "$create" →
      ∀ part, ¬ Gives (.object [(key', json)]) part := by
    intro key' htag' href hcre part hgives
    rcases (gives_tagged htag').1 hgives with ⟨heq, -⟩ | ⟨heq, -⟩
    · exact href heq
    · exact hcre heq
  rw [loadValue_singleton]
  simp only [beq_iff_eq]
  split
  · -- a reference names whatever stands there
    rename_i hkey
    refine (Run.Admits.pure ?_).mono (iff_of_true trivial (.inl hkey)) fun _ => id
    refine ⟨nofun, fun part _ => ?_⟩
    rw [gives_tagged htag]
    simp only [hkey, hreference, true_and, false_and, or_false]
    exact ⟨fun | .reference _ => rfl, fun heq => heq ▸ .reference _⟩
  · rename_i href
    split
    · -- a mark is a mark, whatever stands there
      rename_i hkey
      refine (Run.Admits.pure ?_).mono (iff_of_true trivial (.inr (.inl hkey))) fun _ => id
      exact valueTakes_of_none nofun (hnothing key htag href (by simp [hkey, hmark]))
    · rename_i hdefault
      simp only [href, hdefault, false_or]
      split
      · rename_i hkey
        refine (loadBytes_admits json).mono (by simp [hkey, hbytes]) ?_
        rintro _ ⟨bytes, rfl⟩
        exact valueTakes_of_none nofun (hnothing key htag href (by simp [hkey, hbytes]))
      · rename_i hnotBytes
        have hkey : key = "$create" := by
          simpa [tags, href, hdefault, hnotBytes] using htag
        subst hkey
        simp only [hbytes.2.2.symm, if_true, false_and, false_or, true_and]
        cases json with
        | object members =>
          -- a nested entry has its class for a name
          have hname : ∀ className,
              Entries.get? ("class" : Text) members = some (.str className) →
                ∃ text, nestedName members = .str text := by
            intro className hclass
            exact ⟨className, by rw [nestedName, hclass]; rfl⟩
          have hentry := h members rfl (nestedName members) hname
          refine (hentry.map fun d hd => ?_).mono (by simp) fun _ => id
          exact hd.congr (fun _ => Iff.rfl) fun part => by
            rw [gives_tagged htag]
            simp [hreference.symm]
        | _ => exact (Run.Admits.mistaken _).mono (by simp) fun _ => id

lemma loadValue_admits (json : Json) :
    (loadValue json).Admits (Readable json) (ValueTakes json) := by
  induction json using payloadInduct with
  | array items ih =>
    rw [loadValue]
    have hitems := takes_traverse loadItems_traverses ih
    have hlist := hitems.map (Q := ValueTakes (.array items)) fun vs hvs =>
      hvs.congr (fun _ => carries_list_iff) fun _ => gives_array_iff
    exact hlist.mono readable_array_iff.symm fun _ => id
  | plain members hplain ih =>
    rw [loadValue_object_plain hplain]
    have hmembers := takes_traverse loadMembers_traverses
      (c := fun x : Value × Value => x.2.Carries) (g := fun e : Text × Json => Gives e.2)
      fun e hmem => (ih e hmem).map fun v hv => hv
    have hdict := hmembers.map (Q := ValueTakes (.object members)) fun entries hentries =>
      hentries.congr (fun _ => carries_dict_iff) fun _ => gives_object_plain hplain
    exact hdict.mono (readable_object_plain hplain).symm fun _ => id
  | tagged key json htag ih =>
    refine loadValue_tagged_admits htag ?_
    rintro members rfl name hname
    exact loadEntry_admits name hname fun part hlt =>
      ih part (Nat.le_of_lt (Nat.lt_trans hlt (sizeOf_members members)))
  | _ =>
    -- nothing but a sequence or an object is taken apart
    rw [loadValue]
    refine pure_admits_of_none (by constructor) ?_ ?_
    · intro _ hcarried
      cases hcarried
    · intro _ hgives
      cases hgives

/-- A payload with a name is read if and only if it is an object of members that are read.  Then
every definition in what was read has a text as its name and a path of a class that is not empty;
what is named by references, and what owns fields, is what the payload has in these places, and no
payload is refused for it.  So all of this has its type if and only if it has it in the payload. -/
theorem loadEntry_types (name : Text) (json : Json) (entry : Option Value) (world : World) :
    ((∃ d, (loadEntry (.str name) json entry world).1 = .ok d) ↔
        ∃ members, json = .object members ∧ EntryReadable members) ∧
      ∀ members d, json = .object members →
        (loadEntry (.str name) json entry world).1 = .ok d →
          (∀ e, (Value.definition d).Carries (.definition e) → (Part.definition e).IsTyped) ∧
            (∀ part, part.IsGiven → ((Value.definition d).Carries part ↔ EntryGives members part)) ∧
              (d.IsTyped ↔ ∀ part, part.IsGiven → EntryGives members part → part.IsTyped) := by
  have hadmits : ∀ members, (loadEntry (.str name) (.object members)).Admits (EntryReadable members)
      fun d => Takes (Value.definition d).Carries (EntryGives members) := fun members =>
    loadEntry_admits (.str name) (fun _ _ => ⟨name, rfl⟩) fun part _ => loadValue_admits part
  refine ⟨?_, ?_⟩
  · cases json with
    | object members =>
      simp only [Json.object.injEq, exists_eq_left']
      exact (hadmits members).returns_iff entry world
    | _ =>
      -- nothing but an object is an entry
      refine iff_of_false ?_ (by simp)
      rintro ⟨d, hd⟩
      rw [loadEntry] at hd
      · cases hd
      all_goals
        intro _ heq
        cases heq
  · rintro members d rfl hd
    have htakes := (hadmits members).of_returns hd
    refine ⟨htakes.typed, htakes.given, ?_, ?_⟩
    · intro htyped part hpart hgives
      exact htyped part ((htakes.given part hpart).2 hgives)
    · intro hgiven part hcarried
      cases part with
      | definition e => exact htakes.typed e hcarried
      | reference value =>
        exact hgiven _ trivial ((htakes.given (.reference value) trivial).1 hcarried)
      | owner value => exact hgiven _ trivial ((htakes.given (.owner value) trivial).1 hcarried)

/-- An entry with a reference to a number. -/
def numericReference : List (Text × Json) :=
  [("class", .str "app.X"), ("constructor", .array [.object [("$ref", .int 5)]])]

/-- It is read, and the reference names the number. -/
theorem loadEntry_types_numericReference :
    ∃ d, (loadEntry (.str "e") (.object numericReference) none {}).1 = .ok d ∧
      EntryReadable numericReference ∧ (Value.definition d).Carries (.reference (.int 5)) ∧
        ¬ d.IsTyped := by
  have hload : (loadEntry (.str "e") (.object numericReference) none {}).1 =
      .ok ⟨.str "e", "app.X", false, some ⟨"__init__", [(0, .reference (.int 5))]⟩, [], []⟩ := by
    with_unfolding_all rfl
  obtain ⟨hreadable, htypes⟩ := loadEntry_types "e" (.object numericReference) none {}
  obtain ⟨members, heq, hentry⟩ := hreadable.1 ⟨_, hload⟩
  obtain rfl := Json.object.inj heq
  obtain ⟨-, hgiven, htyped⟩ := htypes numericReference _ rfl hload
  have hgives : EntryGives numericReference (.reference (.int 5)) :=
    @EntryGives.construct _ (.array [.object [("$ref", .int 5)]]) _ rfl
      (.item List.mem_cons_self (.reference (.int 5)))
  refine ⟨_, hload, hentry, (hgiven (.reference (.int 5)) trivial).2 hgives, fun h => ?_⟩
  obtain ⟨text, htext⟩ := htyped.1 h (.reference (.int 5)) trivial hgives
  cases htext

end Definition

end Blueprint
