/-
# What reading a payload reports

Whatever an entry of a payload has wrong is to be reported as a mistake of that entry.  Three faults
of a payload are not: a key of an argument that is made of digits but is no numeral that can be read
(a superscript, say, or too many digits), and bytes whose text leaves the basic characters, both of
which the guard before a reader lets through to it; and in the place of the class of a nested entry
something that has no text, so that the mistake cannot be put in words.

`Unreported`, `ArgumentsUnreported` and `EntryUnreported` say where in a payload such a fault
stands, following the places that are read: arguments and fields, methods, nested entries, and the
items and members of values, but not what a reference or the mark for a default carries.  The main
statement is that there is nothing else: an entry comes to a definition, or to a mistake, or to one
of these faults, and to a definition only where there is none of them; unless it is nested so deep
that it exhausts the stack.
-/
import Blueprint.Definition.Loader
import Blueprint.Proofs.Run
import Blueprint.Stack

namespace Blueprint

/-! ## Runs that report -/

namespace Run

variable {α β γ : Type} {x : Run α} {f : α → Run β} {U V : Failure → Prop}

/-- The run comes to a result, to a mistake or to one of the failures `U`, and to a result only
where there are no such failures. -/
def Reports (x : Run α) (U : Failure → Prop) : Prop :=
  x.Ensures (fun _ => ∀ failure, ¬ U failure) fun failure =>
    (∃ m, failure = .mistake m) ∨ U failure

namespace Reports

lemma congr (h : x.Reports U) (hUV : ∀ failure, U failure ↔ V failure) : x.Reports V :=
  h.mono (fun _ hU failure hV => hU failure ((hUV failure).2 hV)) fun failure hU =>
    hU.imp_right (hUV failure).1

protected lemma pure (a : α) (h : ∀ failure, ¬ U failure) : (Pure.pure a : Run α).Reports U :=
  Ensures.pure h

lemma mistaken (cause : Mistake) : (Run.mistaken cause : Run α).Reports U :=
  Ensures.mistaken fun entry => .inl ⟨⟨cause, entry⟩, rfl⟩

lemma fail {failure : Failure} (h : U failure) : (Run.fail failure : Run α).Reports U :=
  Ensures.fail (.inr h)

/-- Two runs one after the other have the failures of both. -/
protected lemma bind (hx : x.Reports U) (hf : ∀ a, (f a).Reports V) :
    (x >>= f).Reports fun failure => U failure ∨ V failure := by
  have hx' : x.Ensures (fun _ => ∀ failure, ¬ U failure) fun failure =>
      (∃ m, failure = .mistake m) ∨ U failure ∨ V failure :=
    hx.mono (fun _ => id) fun _ h => h.imp_right .inl
  refine Ensures.bind hx' fun a hU => ?_
  refine (hf a).mono ?_ fun _ h => h.imp_right .inr
  rintro b hV failure (h | h)
  · exact hU failure h
  · exact hV failure h

/-- What is made of a result plays no part. -/
lemma map (hx : x.Reports U) (g : α → β) : (x >>= fun a => Pure.pure (g a)).Reports U :=
  (hx.bind fun a => Reports.pure (g a) fun _ => id).congr fun _ => iff_of_eq (or_false _)

protected lemma within (h : x.Reports U) (name : Option Value) : (Run.within name x).Reports U :=
  Ensures.within h name

end Reports

/-- A traversal has the failures of what it does for each item. -/
lemma Traverses.reports {run : List α → Run (List γ)} {one : α → Run γ} (ht : Traverses run one)
    {U : α → Failure → Prop} {items : List α} (h : ∀ a ∈ items, (one a).Reports (U a)) :
    (run items).Reports fun failure => ∃ a ∈ items, U a failure := by
  induction items with
  | nil =>
    rw [ht.nil]
    exact .pure [] (by simp)
  | cons a rest ih =>
    rw [ht.cons]
    have hfirst := h a List.mem_cons_self
    have hrest := ih fun b hb => h b (List.mem_cons_of_mem a hb)
    refine (hfirst.bind fun v => hrest.map (v :: ·)).congr fun failure => ?_
    simp only [List.mem_cons, exists_eq_or_imp]

end Run

/-! ## Keys of arguments -/

lemma Text.decimalFrom?_eq_none_iff {value : Nat} {points : List Point} :
    Text.decimalFrom? value points = none ↔ ∃ p ∈ points, Text.decimalPoint? p = none := by
  induction points generalizing value with
  | nil => simp [Text.decimalFrom?]
  | cons p rest ih =>
    rcases hp : Text.decimalPoint? p with _ | d
    · simp [Text.decimalFrom?, hp]
    · simp [Text.decimalFrom?, hp, ih]

/-- The decimal digits at the start of a text. -/
def Position.leadingDigits (key : Text) : List Point :=
  key.points.takeWhile fun p => (Text.decimalPoint? p).isSome

namespace Definition

/-- A key passes for a position, being made of digits, and yet none can be read from it. -/
inductive KeyUnreported (key : Text) : Failure → Prop where
  /-- The numeral is too long. -/
  | long (hkey : Position.isKey key = true)
      (hlong : Json.Reader.digitLimit < (Position.leadingDigits key).length) :
      KeyUnreported key (.longNumber (Position.leadingDigits key).length)
  /-- One of the digits has no place in a numeral. -/
  | notDecimal {p : Point} (hkey : Position.isKey key = true)
      (hlong : ¬ Json.Reader.digitLimit < (Position.leadingDigits key).length)
      (hp : p ∈ key.points) (hdigit : Text.decimalPoint? p = none) :
      KeyUnreported key (.notDecimal key)

lemma loadKey_reports {key : Text} (hkey : Position.isKey key = true) :
    (loadKey key).Reports (KeyUnreported key) := by
  unfold loadKey Position.ofDigits
  by_cases hlong : Json.Reader.digitLimit < (Position.leadingDigits key).length
  · simp only [Position.leadingDigits] at hlong
    simp only [hlong, if_true]
    exact .fail (.long hkey hlong)
  · have hlong' := hlong
    simp only [Position.leadingDigits] at hlong'
    simp only [hlong', if_false]
    rcases hn : Text.decimal? key with _ | n
    · obtain ⟨p, hp, hdigit⟩ := Text.decimalFrom?_eq_none_iff.1 hn
      exact .fail (.notDecimal hkey hlong hp hdigit)
    · refine .pure n fun failure h => ?_
      cases h with
      | long _ h => exact hlong h
      | notDecimal _ _ hp hdigit =>
        have hnone : Text.decimal? key = none :=
          Text.decimalFrom?_eq_none_iff.2 ⟨_, hp, hdigit⟩
        exact absurd (hn.symm.trans hnone) (by simp)

/-! ## Where the faults stand -/

/-- The member names that give an object of a single member a meaning of its own. -/
def tags : List Text :=
  ["$ref", "$default", "$bytes", "$create"]

/-- The members make an object without a meaning of its own. -/
def IsPlain (members : List (Text × Json)) : Prop :=
  ∀ e, members = [e] → e.1 ∉ tags

/-- The value of a field as it is given, which may be wrapped together with an owner. -/
def fieldContent : Json → Json
  | .object [(key, json)] => if key == "$value" then json else .object [(key, json)]
  | .object [(key, json), (key', json')] =>
    if key == "$value" && key' == "$class" then json
    else if key == "$class" && key' == "$value" then json'
    else .object [(key, json), (key', json')]
  | json => json

/-- The owner that a field is given along with its value; none where the value is not wrapped. -/
def fieldOwnerGiven : Json → Value
  | .object [(key, json), (key', json')] =>
    if key == "$value" && key' == "$class" then .ofJson json'
    else if key == "$class" && key' == "$value" then .ofJson json
    else .null
  | _ => .null

/-- A nested entry goes by its class, and that has a number too long to be written: so the entry is
refused, as its class is no text, and then there is no text to refuse it with. -/
def NameUnreported (members : List (Text × Json)) (failure : Failure) : Prop :=
  (nestedName members).isTextWritten = false ∧ failure = .longNumber none

mutual

/-- A value has a fault that is not reported. -/
inductive Unreported : Json → Failure → Prop where
  /-- In an item of a sequence. -/
  | item {items : List Json} {item : Json} {failure : Failure} (hmem : item ∈ items)
      (h : Unreported item failure) : Unreported (.array items) failure
  /-- In a member of an object that is a dictionary. -/
  | member {members : List (Text × Json)} {e : Text × Json} {failure : Failure}
      (hplain : IsPlain members) (hmem : e ∈ members) (h : Unreported e.2 failure) :
      Unreported (.object members) failure
  /-- In the text of bytes, which leaves the basic characters. -/
  | bytes {text : Text} {p : Point} (hp : p ∈ text.points) (hbasic : basicChar? p = none) :
      Unreported (.object [("$bytes", .str text)]) .foreignBase64
  /-- In a nested entry. -/
  | create {members : List (Text × Json)} {failure : Failure}
      (h : EntryUnreported members failure) :
      Unreported (.object [("$create", .object members)]) failure
  /-- In the class of a nested entry. -/
  | name {members : List (Text × Json)} {failure : Failure} (h : NameUnreported members failure) :
      Unreported (.object [("$create", .object members)]) failure

/-- Arguments have a fault that is not reported. -/
inductive ArgumentsUnreported : Json → Failure → Prop where
  /-- In an argument that is given in order. -/
  | item {items : List Json} {item : Json} {failure : Failure} (hmem : item ∈ items)
      (h : Unreported item failure) : ArgumentsUnreported (.array items) failure
  /-- In an argument that is given by position. -/
  | value {members : List (Text × Json)} {e : Text × Json} {failure : Failure}
      (hmem : e ∈ members) (h : Unreported e.2 failure) :
      ArgumentsUnreported (.object members) failure
  /-- In a position. -/
  | key {members : List (Text × Json)} {e : Text × Json} {failure : Failure}
      (hmem : e ∈ members) (h : KeyUnreported e.1 failure) :
      ArgumentsUnreported (.object members) failure

/-- An entry of some members has a fault that is not reported. -/
inductive EntryUnreported : List (Text × Json) → Failure → Prop where
  /-- In the arguments of the constructor. -/
  | construct {members : List (Text × Json)} {json : Json} {failure : Failure}
      (hget : Entries.get? ("constructor" : Text) members = some json)
      (h : ArgumentsUnreported json failure) : EntryUnreported members failure
  /-- In the value of a field. -/
  | assign {members fields : List (Text × Json)} {e : Text × Json} {failure : Failure}
      (hget : Entries.get? ("fields" : Text) members = some (.object fields))
      (hmem : e ∈ fields) (h : Unreported (fieldContent e.2) failure) :
      EntryUnreported members failure
  /-- In the arguments of a method. -/
  | invoke {members method : List (Text × Json)} {items : List Json} {json : Json}
      {failure : Failure} (hget : Entries.get? ("methods" : Text) members = some (.array items))
      (hmem : .object method ∈ items)
      (hargs : Entries.get? ("args" : Text) method = some json)
      (h : ArgumentsUnreported json failure) : EntryUnreported members failure

end

/-! ## Parts of a payload are smaller than it -/

lemma sizeOf_items (items : List Json) : sizeOf items < sizeOf (Json.array items) := by
  rw [Json.array.sizeOf_spec]
  omega

lemma sizeOf_members (members : List (Text × Json)) :
    sizeOf members < sizeOf (Json.object members) := by
  rw [Json.object.sizeOf_spec]
  omega

lemma sizeOf_item {items : List Json} {item : Json} (h : item ∈ items) :
    sizeOf item < sizeOf (Json.array items) :=
  Nat.lt_trans (List.sizeOf_lt_of_mem h) (sizeOf_items items)

lemma sizeOf_member {members : List (Text × Json)} {e : Text × Json} (h : e ∈ members) :
    sizeOf e.2 < sizeOf members := by
  have hlt := List.sizeOf_lt_of_mem h
  obtain ⟨key, json⟩ := e
  simp only [Prod.mk.sizeOf_spec] at hlt ⊢
  omega

lemma sizeOf_get? {key : Text} {members : List (Text × Json)} {json : Json}
    (h : Entries.get? key members = some json) : sizeOf json < sizeOf members := by
  induction members with
  | nil => exact absurd h nofun
  | cons e rest ih =>
    obtain ⟨k, v⟩ := e
    simp only [Entries.get?] at h
    simp only [List.cons.sizeOf_spec, Prod.mk.sizeOf_spec]
    split at h
    · obtain rfl := Option.some.inj h
      omega
    · have := ih h
      omega

lemma sizeOf_fieldContent (json : Json) : sizeOf (fieldContent json) ≤ sizeOf json := by
  unfold fieldContent
  repeat' split
  all_goals first
    | exact Nat.le_refl _
    | simp only [Json.object.sizeOf_spec, List.cons.sizeOf_spec, Prod.mk.sizeOf_spec]
      omega

lemma sizeOf_content {members : List (Text × Json)} {e : Text × Json} (h : e ∈ members) :
    sizeOf (fieldContent e.2) < sizeOf members :=
  Nat.lt_of_le_of_lt (sizeOf_fieldContent e.2) (sizeOf_member h)

section Induction

variable {P : Json → Prop}
  (null : P .null)
  (bool : ∀ b, P (.bool b))
  (int : ∀ i, P (.int i))
  (float : ∀ x, P (.float x))
  (str : ∀ s, P (.str s))
  (array : ∀ items, (∀ item ∈ items, P item) → P (.array items))
  (plain : ∀ members, IsPlain members → (∀ e ∈ members, P e.2) → P (.object members))
  (tagged : ∀ key json, key ∈ tags → (∀ part, sizeOf part ≤ sizeOf json → P part) →
    P (.object [(key, json)]))

include null bool int float str array plain tagged

/-- Induction over payloads as values are read from them.  What a tag is put to may be a nested
entry, whose readers take values from deeper than its members. -/
@[elab_as_elim]
theorem payloadInduct (json : Json) : P json := by
  induction hn : sizeOf json using Nat.strongRecOn generalizing json with
  | ind n ih =>
    subst hn
    cases json with
    | null => exact null
    | bool b => exact bool b
    | int i => exact int i
    | float x => exact float x
    | str s => exact str s
    | array items => exact array items fun item hmem => ih _ (sizeOf_item hmem) item rfl
    | object members =>
      -- an object with a meaning of its own has one member, whose tag says which
      by_cases hplain : IsPlain members
      · refine plain members hplain fun e hmem => ih _ ?_ e.2 rfl
        exact Nat.lt_trans (sizeOf_member hmem) (sizeOf_members members)
      · obtain ⟨⟨key, json⟩, rfl, htag⟩ : ∃ e, members = [e] ∧ e.1 ∈ tags := by
          simpa [IsPlain] using hplain
        have hjson : sizeOf json < sizeOf (Json.object [(key, json)]) :=
          Nat.lt_trans (sizeOf_member (List.mem_singleton_self (key, json))) (sizeOf_members _)
        exact tagged key json htag fun part hle => ih _ (Nat.lt_of_le_of_lt hle hjson) part rfl

end Induction

/-! ## Values in a row -/

lemma loadItems_traverses : Run.Traverses loadItems loadValue where
  nil := by rw [loadItems]
  cons item rest := by rw [loadItems]

lemma loadMembers_traverses : Run.Traverses loadMembers fun e => do
    return (Value.str e.1, ← loadValue e.2) where
  nil := by rw [loadMembers]
  cons e rest := by
    obtain ⟨name, item⟩ := e
    simp only [loadMembers, bind_assoc, pure_bind]

/-! ## Arguments -/

/-- One argument with its key, as it is read. -/
def loadKeyedOne (label : Text) (e : Text × Json) : Run (Nat × Value) := do
  if !Position.isKey e.1 then Run.mistaken (.argumentKey label e.1)
  let v ← loadValue e.2
  let position ← loadKey e.1
  return (position, v)

lemma loadKeyedOne_of_not_isKey {label : Text} {e : Text × Json}
    (h : Position.isKey e.1 = false) :
    loadKeyedOne label e = Run.mistaken (.argumentKey label e.1) := by
  unfold loadKeyedOne
  rw [h]
  rfl

lemma loadKeyedOne_of_isKey {label : Text} {e : Text × Json} (h : Position.isKey e.1 = true) :
    loadKeyedOne label e = loadValue e.2 >>= fun v => loadKey e.1 >>= fun position =>
      pure (position, v) := by
  unfold loadKeyedOne
  rw [h]
  rfl

lemma loadKeyed_traverses (label : Text) :
    Run.Traverses (loadKeyed label) (loadKeyedOne label) where
  nil := by rw [loadKeyed]
  cons e rest := by
    obtain ⟨key, item⟩ := e
    simp only [loadKeyed, loadKeyedOne]
    split <;> simp only [bind_assoc, pure_bind]

lemma loadKeyedOne_reports (label : Text) {e : Text × Json}
    (h : (loadValue e.2).Reports (Unreported e.2)) :
    (loadKeyedOne label e).Reports fun failure =>
      Unreported e.2 failure ∨ KeyUnreported e.1 failure := by
  rcases hkey : Position.isKey e.1 with _ | _
  · rw [loadKeyedOne_of_not_isKey hkey]
    exact .mistaken _
  · rw [loadKeyedOne_of_isKey hkey]
    exact h.bind fun v => (loadKey_reports hkey).map _

lemma loadArguments_reports (label : Text) {json : Json}
    (h : ∀ part, sizeOf part < sizeOf json → (loadValue part).Reports (Unreported part)) :
    (loadArguments label json).Reports (ArgumentsUnreported json) := by
  cases json with
  | array items =>
    have hitems := loadItems_traverses.reports fun item hmem => h item (sizeOf_item hmem)
    rw [loadArguments]
    refine (hitems.map fun vs => Binding.enumerate vs 0).congr fun failure => ⟨?_, ?_⟩
    · rintro ⟨item, hmem, hf⟩
      exact .item hmem hf
    · rintro (⟨hmem, hf⟩ | _)
      exact ⟨_, hmem, hf⟩
  | object members =>
    have hkeyed := (loadKeyed_traverses label).reports fun e hmem => loadKeyedOne_reports label
      (h e.2 (Nat.lt_trans (sizeOf_member hmem) (sizeOf_members members)))
    rw [loadArguments]
    refine (hkeyed.map Entries.ofList).congr fun failure => ⟨?_, ?_⟩
    · rintro ⟨e, hmem, hf | hf⟩
      · exact .value hmem hf
      · exact .key hmem hf
    · rintro (_ | ⟨hmem, hf⟩ | ⟨hmem, hf⟩)
      · exact ⟨_, hmem, .inl hf⟩
      · exact ⟨_, hmem, .inr hf⟩
  | _ =>
    rw [loadArguments]
    · exact .mistaken _
    all_goals nofun

/-! ## The parts of an entry -/

section Members

variable (members : List (Text × Json))

lemma loadConstructor_eq :
    loadConstructor members =
      match Entries.get? ("constructor" : Text) members with
      | none => pure none
      | some json => do return some ⟨"__init__", ← loadArguments "constructor" json⟩ := by
  induction members with
  | nil => rw [loadConstructor]; rfl
  | cons e rest ih =>
    rw [loadConstructor, Entries.get?]
    split
    · rfl
    · exact ih

lemma loadFields_eq :
    loadFields members =
      match Entries.get? ("fields" : Text) members with
      | none => pure []
      | some (.object fields) => loadFieldBindings fields
      | some _ => Run.mistaken .fieldsShape := by
  induction members with
  | nil => rw [loadFields]; rfl
  | cons e rest ih =>
    obtain ⟨key, json⟩ := e
    by_cases hkey : (key == "fields") = true
    · cases json <;> simp only [loadFields, Entries.get?, hkey, if_true]
    · cases json <;> simp only [loadFields, Entries.get?, hkey] <;> exact ih

lemma loadMethodArguments_eq (label : Text) :
    loadMethodArguments label members =
      match Entries.get? ("args" : Text) members with
      | none => pure []
      | some json => loadArguments label json := by
  induction members with
  | nil => rw [loadMethodArguments]; rfl
  | cons e rest ih =>
    rw [loadMethodArguments, Entries.get?]
    split
    · rfl
    · exact ih

lemma loadMethods_eq :
    loadMethods members =
      match Entries.get? ("methods" : Text) members with
      | none => pure []
      | some (.array items) => loadMethodBindings items
      | some _ => Run.mistaken .methodsShape := by
  induction members with
  | nil => rw [loadMethods]; rfl
  | cons e rest ih =>
    obtain ⟨key, json⟩ := e
    by_cases hkey : (key == "methods") = true
    · cases json <;> simp only [loadMethods, Entries.get?, hkey, if_true]
    · cases json <;> simp only [loadMethods, Entries.get?, hkey] <;> exact ih

end Members

/-- The binding of a field has the content of its value, and its owner as it is given. -/
lemma loadFieldBindings_cons (field : Text) (json : Json) (rest : List (Text × Json)) :
    loadFieldBindings ((field, json) :: rest) = do
      let v ← loadValue (fieldContent json)
      let more ← loadFieldBindings rest
      return ⟨field, v, fieldOwnerGiven json⟩ :: more := by
  rcases json with _ | _ | _ | _ | _ | _ | members
  -- only an object of one or two members can wrap a value, and one of two names the owner too
  case object =>
    rcases members with _ | ⟨⟨key, json⟩, _ | ⟨⟨key', json'⟩, _ | ⟨e, more⟩⟩⟩
    · rw [loadFieldBindings, fieldContent, fieldOwnerGiven] <;> nofun
    · rw [loadFieldBindings, fieldContent, fieldOwnerGiven]
      · split <;> rfl
      · nofun
    · rw [loadFieldBindings, fieldContent, fieldOwnerGiven]
      split
      · simp only [pure_bind]
      · split <;> simp only [pure_bind]
    · rw [loadFieldBindings, fieldContent, fieldOwnerGiven] <;> nofun
  all_goals rw [loadFieldBindings, fieldContent, fieldOwnerGiven] <;> nofun

lemma loadFieldBindings_traverses : Run.Traverses loadFieldBindings fun e => do
    return (⟨e.1, ← loadValue (fieldContent e.2), fieldOwnerGiven e.2⟩ : FieldBinding) where
  nil := by rw [loadFieldBindings]
  cons e rest := by
    obtain ⟨field, json⟩ := e
    simp only [loadFieldBindings_cons, bind_assoc, pure_bind]

lemma loadMethodArguments_reports (label : Text) {members : List (Text × Json)}
    (h : ∀ part, sizeOf part < sizeOf members → (loadValue part).Reports (Unreported part)) :
    (loadMethodArguments label members).Reports fun failure =>
      ∃ json, Entries.get? ("args" : Text) members = some json ∧
        ArgumentsUnreported json failure := by
  rw [loadMethodArguments_eq]
  rcases hget : Entries.get? ("args" : Text) members with _ | json
  · exact .pure [] nofun
  · simp only [Option.some.injEq, exists_eq_left']
    have hsize := sizeOf_get? hget
    exact loadArguments_reports label fun part hpart => h part (Nat.lt_trans hpart hsize)

/-- The binding of a method. -/
def loadMethodBinding : Json → Run Binding
  | .object members =>
    match Entries.get? ("name" : Text) members with
    | some (.str method) => do return ⟨method, ← loadMethodArguments method members⟩
    | _ => Run.mistaken .methodShape
  | _ => Run.mistaken .methodShape

lemma loadMethodBindings_traverses : Run.Traverses loadMethodBindings loadMethodBinding where
  nil := by rw [loadMethodBindings]
  cons item rest := by
    cases item with
    | object members =>
      rw [loadMethodBindings, loadMethodBinding]
      rcases Entries.get? ("name" : Text) members with _ | name
      · rfl
      · cases name with
        | str method => simp only [bind_assoc, pure_bind]
        | _ => rfl
    | _ =>
      simp only [loadMethodBindings, loadMethodBinding, Run.mistaken_bind]

lemma loadMethodBinding_reports {item : Json}
    (h : ∀ part, sizeOf part < sizeOf item → (loadValue part).Reports (Unreported part)) :
    (loadMethodBinding item).Reports fun failure =>
      ∃ method, item = .object method ∧ ∃ json,
        Entries.get? ("args" : Text) method = some json ∧ ArgumentsUnreported json failure := by
  cases item with
  | object members =>
    simp only [Json.object.injEq, exists_eq_left']
    rw [loadMethodBinding]
    split
    · rename_i method _
      have harguments := loadMethodArguments_reports method fun part hpart =>
        h part (Nat.lt_trans hpart (sizeOf_members members))
      exact harguments.map _
    · exact .mistaken _
  | _ =>
    rw [loadMethodBinding]
    · exact .mistaken _
    all_goals nofun

/-! ## Entries and values -/

lemma refuseEntry_of_written {α : Type} {name : Value} (h : name.isTextWritten = true)
    (cause : Value → Mistake) : (refuseEntry name cause : Run α) = Run.mistaken (cause name) := by
  rw [refuseEntry, h, Run.ifWritten_true]

lemma refuseEntry_bind {α β : Type} (name : Value) (cause : Value → Mistake) (f : α → Run β) :
    (refuseEntry name cause >>= f) = refuseEntry name cause := by
  unfold refuseEntry Run.ifWritten
  split <;> rfl

/-- The head of an entry is read, or the entry is refused for one of three mistakes. -/
lemma loadHead_cases (name : Value) (members : List (Text × Json)) :
    (∃ cause : Value → Mistake,
        cause ∈ [(.unknownKeys · (unknownKeys members)), .classShape, .lazyShape] ∧
          loadHead name members = refuseEntry name cause) ∨
      ∃ className isLazy, Entries.get? ("class" : Text) members = some (.str className) ∧
        loadHead name members = pure (className, isLazy) := by
  unfold loadHead
  by_cases hunknown : (!(unknownKeys members).isEmpty) = true
  · simp only [hunknown, if_true]
    exact .inl ⟨_, List.mem_cons_self, refuseEntry_bind ..⟩
  · simp only [hunknown, if_false, Bool.false_eq_true]
    -- the class has to be a text that is not empty, the flag a truth value if it is there
    split
    · rename_i className hclass
      split
      · exact .inl ⟨.classShape, by simp, rfl⟩
      · split
        · exact .inr ⟨className, false, hclass, rfl⟩
        · exact .inr ⟨className, _, hclass, rfl⟩
        · exact .inl ⟨.lazyShape, by simp, rfl⟩
    · exact .inl ⟨.classShape, by simp, rfl⟩

/-- Whatever is wrong with the class or the lazy flag of an entry is a mistake, if its name can be
written. -/
lemma loadHead_reports {name : Value} (hname : name.isTextWritten = true)
    (members : List (Text × Json)) : (loadHead name members).Reports fun _ => False := by
  rcases loadHead_cases name members with ⟨cause, -, h⟩ | ⟨className, isLazy, -, h⟩ <;> rw [h]
  · rw [refuseEntry_of_written hname]
    exact .mistaken _
  · exact .pure _ fun _ => id

/-- A nested entry whose class cannot be written is refused, and there is no text to refuse it
with. -/
lemma loadHead_nested {members : List (Text × Json)}
    (hname : (nestedName members).isTextWritten = false) :
    loadHead (nestedName members) members = Run.fail (.longNumber none) := by
  rcases loadHead_cases (nestedName members) members with ⟨cause, -, h⟩ | ⟨className, _, hclass, -⟩
  · rw [h, refuseEntry, hname, Run.ifWritten_false]
  · rw [nestedName, hclass] at hname
    exact absurd hname (by simp [Value.ofJson, Value.isTextWritten])

section Entry

variable {members : List (Text × Json)}
  (h : ∀ part, sizeOf part < sizeOf members → (loadValue part).Reports (Unreported part))

include h

lemma loadConstructor_reports :
    (loadConstructor members).Reports fun failure =>
      ∃ json, Entries.get? ("constructor" : Text) members = some json ∧
        ArgumentsUnreported json failure := by
  rw [loadConstructor_eq]
  rcases hget : Entries.get? ("constructor" : Text) members with _ | json
  · exact .pure none nofun
  · simp only [Option.some.injEq, exists_eq_left']
    have hsize := sizeOf_get? hget
    exact (loadArguments_reports _ fun part hpart => h part (Nat.lt_trans hpart hsize)).map _

lemma loadFields_reports :
    (loadFields members).Reports fun failure =>
      ∃ fields, Entries.get? ("fields" : Text) members = some (.object fields) ∧
        ∃ e ∈ fields, Unreported (fieldContent e.2) failure := by
  rw [loadFields_eq]
  rcases hget : Entries.get? ("fields" : Text) members with _ | json
  · exact .pure [] nofun
  · cases json with
    | object fields =>
      simp only [Option.some.injEq, Json.object.injEq, exists_eq_left']
      have hsize := Nat.lt_trans (sizeOf_members fields) (sizeOf_get? hget)
      exact loadFieldBindings_traverses.reports fun e hmem =>
        (h _ (Nat.lt_trans (sizeOf_content hmem) hsize)).map _
    | _ => exact .mistaken _

lemma loadMethods_reports :
    (loadMethods members).Reports fun failure =>
      ∃ items, Entries.get? ("methods" : Text) members = some (.array items) ∧
        ∃ item ∈ items, ∃ method, item = .object method ∧ ∃ json,
          Entries.get? ("args" : Text) method = some json ∧ ArgumentsUnreported json failure := by
  rw [loadMethods_eq]
  rcases hget : Entries.get? ("methods" : Text) members with _ | json
  · exact .pure [] nofun
  · cases json with
    | array items =>
      simp only [Option.some.injEq, Json.array.injEq, exists_eq_left']
      refine loadMethodBindings_traverses.reports fun item hmem => ?_
      have hsize := Nat.lt_trans (sizeOf_item hmem) (sizeOf_get? hget)
      exact loadMethodBinding_reports fun part hpart => h part (Nat.lt_trans hpart hsize)
    | _ => exact .mistaken _

lemma loadEntry_object_reports {name : Value} (hname : name.isTextWritten = true) :
    (loadEntry name (.object members)).Reports (EntryUnreported members) := by
  have hparts := (loadHead_reports hname members).bind fun head =>
    (loadConstructor_reports h).bind fun b => (loadFields_reports h).bind fun fields =>
      (loadMethods_reports h).map fun methods =>
        (⟨name, head.1, head.2, b, fields, methods⟩ : Definition)
  rw [loadEntry]
  refine .within (hparts.congr fun failure => ⟨?_, ?_⟩) _
  -- the four parts fail in turn, and the head only with mistakes
  · rintro (hfalse | ⟨json, hget, hf⟩ | ⟨fields, hget, e, hmem, hf⟩ |
      ⟨items, hget, _, hmem, method, rfl, json, hargs, hf⟩)
    · exact hfalse.elim
    · exact .construct hget hf
    · exact .assign hget hmem hf
    · exact .invoke hget hmem hargs hf
  · rintro (⟨hget, hf⟩ | ⟨hget, hmem, hf⟩ | ⟨hget, hmem, hargs, hf⟩)
    · exact .inr (.inl ⟨_, hget, hf⟩)
    · exact .inr (.inr (.inl ⟨_, hget, _, hmem, hf⟩))
    · exact .inr (.inr (.inr ⟨_, hget, _, hmem, _, rfl, _, hargs, hf⟩))

/-- A nested entry has the faults of its parts, or its class cannot be written. -/
lemma loadEntry_nested_reports :
    (loadEntry (nestedName members) (.object members)).Reports fun failure =>
      EntryUnreported members failure ∨ NameUnreported members failure := by
  rcases hname : (nestedName members).isTextWritten with _ | _
  · rw [loadEntry, loadHead_nested hname]
    exact .within (.fail (.inr ⟨hname, rfl⟩)) _
  · refine (loadEntry_object_reports h hname).congr fun failure => (or_iff_left ?_).symm
    rintro ⟨hunwritten, -⟩
    exact absurd (hname.symm.trans hunwritten) (by decide)

end Entry

lemma mapM_basicChar?_eq_none_iff {points : List Point} :
    points.mapM basicChar? = none ↔ ∃ p ∈ points, basicChar? p = none := by
  induction points with
  | nil => simp
  | cons p rest ih =>
    rcases hp : basicChar? p with _ | c
    · simp [List.mapM_cons, hp]
    · rcases hrest : rest.mapM basicChar? with _ | cs
      · simpa [List.mapM_cons, hp, hrest] using ih.1 hrest
      · have hnone := mt ih.2 (by simp [hrest])
        simpa [List.mapM_cons, hp, hrest] using hnone

/-- A text is read as bytes, or is reported, or leaves the basic characters. -/
lemma loadBytes_reports (json : Json) :
    (loadBytes json).Reports fun failure => ∃ text, json = .str text ∧
      (∃ p ∈ text.points, basicChar? p = none) ∧ failure = .foreignBase64 := by
  cases json with
  | str text =>
    simp only [loadBytes]
    rcases hcs : text.points.mapM basicChar? with _ | cs
    · exact .fail ⟨text, rfl, mapM_basicChar?_eq_none_iff.1 hcs, rfl⟩
    · have hnone : ∀ failure, ¬ ∃ text', Json.str text = .str text' ∧
          (∃ p ∈ text'.points, basicChar? p = none) ∧ failure = Failure.foreignBase64 := by
        rintro failure ⟨text', heq, hforeign, -⟩
        obtain rfl := Json.str.inj heq
        exact absurd (hcs.symm.trans (mapM_basicChar?_eq_none_iff.2 hforeign)) (by simp)
      simp only
      split
      · exact .pure _ hnone
      · exact .mistaken _
  | _ => exact .mistaken _

lemma loadValue_singleton (key : Text) (json : Json) :
    loadValue (.object [(key, json)]) =
      if key == "$ref" then pure (.reference (.ofJson json))
      else if key == "$default" then pure .useDefault
      else if key == "$bytes" then loadBytes json
      else if key == "$create" then
        match json with
        | .object members => do
          return .definition (← loadEntry (nestedName members) (.object members))
        | _ => Run.mistaken .nestedShape
      else do return .dict [(.str key, ← loadValue json)] := by
  refine (loadValue.eq_def _).trans ?_
  cases json <;> rfl

/-- An object without a meaning of its own is a dictionary. -/
lemma loadValue_object_plain {members : List (Text × Json)} (h : IsPlain members) :
    loadValue (.object members) = do return .dict (← loadMembers members) := by
  -- a single member needs a look at its key, any other number makes a dictionary at once
  rcases members with _ | ⟨⟨key, json⟩, _ | ⟨e, rest⟩⟩
  · rw [loadValue]
    simp
  · have hkey : key ∉ tags := h (key, json) rfl
    simp only [tags, List.mem_cons, not_or] at hkey
    rw [loadValue_singleton]
    simp only [beq_iff_eq, hkey, if_false, loadMembers, bind_assoc, pure_bind]
  · rw [loadValue]
    simp

lemma unreported_object_plain {members : List (Text × Json)} {failure : Failure}
    (h : IsPlain members) :
    Unreported (.object members) failure ↔ ∃ e ∈ members, Unreported e.2 failure := by
  constructor
  · intro hf
    cases hf with
    | member _ hmem hf => exact ⟨_, hmem, hf⟩
    | bytes => exact absurd (by simp [tags]) (h _ rfl)
    | create => exact absurd (by simp [tags]) (h _ rfl)
    | name => exact absurd (by simp [tags]) (h _ rfl)
  · rintro ⟨e, hmem, hf⟩
    exact .member h hmem hf

lemma unreported_tagged {key : Text} {json : Json} {failure : Failure} (h : key ∈ tags) :
    Unreported (.object [(key, json)]) failure ↔
      (key = "$bytes" ∧ ∃ text, json = .str text ∧ (∃ p ∈ text.points, basicChar? p = none) ∧
          failure = .foreignBase64) ∨
        (key = "$create" ∧ ∃ members, json = .object members ∧
          (EntryUnreported members failure ∨ NameUnreported members failure)) := by
  constructor
  · intro hf
    -- under a tag the member has the meaning of the tag
    cases hf with
    | member hplain => exact absurd h (hplain _ rfl)
    | bytes hp hbasic => exact .inl ⟨rfl, _, rfl, ⟨_, hp, hbasic⟩, rfl⟩
    | create hf => exact .inr ⟨rfl, _, rfl, .inl hf⟩
    | name hf => exact .inr ⟨rfl, _, rfl, .inr hf⟩
  · rintro (⟨rfl, text, rfl, ⟨p, hp, hbasic⟩, rfl⟩ | ⟨rfl, members, rfl, hf | hf⟩)
    · exact .bytes hp hbasic
    · exact .create hf
    · exact .name hf

/-- An object whose single member is a tag goes by that tag. -/
lemma loadValue_tagged_reports {key : Text} {json : Json} (htag : key ∈ tags)
    (h : ∀ members, json = .object members →
      (loadEntry (nestedName members) (.object members)).Reports fun failure =>
        EntryUnreported members failure ∨ NameUnreported members failure) :
    (loadValue (.object [(key, json)])).Reports (Unreported (.object [(key, json)])) := by
  refine Run.Reports.congr ?_ fun failure => (unreported_tagged htag).symm
  have hreference : ("$ref" : Text) ≠ "$bytes" ∧ ("$ref" : Text) ≠ "$create" := by decide
  have hmark : ("$default" : Text) ≠ "$bytes" ∧ ("$default" : Text) ≠ "$create" := by decide
  have hbytes : ("$bytes" : Text) ≠ "$create" := by decide
  rw [loadValue_singleton]
  simp only [beq_iff_eq]
  split
  · rename_i hkey
    exact .pure _ (by simp [hkey, hreference])
  · split
    · rename_i hkey
      exact .pure _ (by simp [hkey, hmark])
    · split
      · rename_i hkey
        exact (loadBytes_reports json).congr (by simp [hkey, hbytes])
      · rename_i href hdefault hnotBytes
        have hkey : key = "$create" := by
          simpa [tags, href, hdefault, hnotBytes] using htag
        simp only [hkey, hbytes.symm, if_true, false_and, false_or, true_and]
        cases json with
        | object members =>
          simp only [Json.object.injEq, exists_eq_left']
          exact (h members rfl).map Value.definition
        | _ => exact .mistaken _

/-- Nothing but a sequence or an object has parts that could have a fault. -/
lemma unreported_compound {json : Json} {failure : Failure} (h : Unreported json failure) :
    (∃ items, json = .array items) ∨ ∃ members, json = .object members := by
  cases h with
  | item => exact .inl ⟨_, rfl⟩
  | member => exact .inr ⟨_, rfl⟩
  | bytes => exact .inr ⟨_, rfl⟩
  | create => exact .inr ⟨_, rfl⟩
  | name => exact .inr ⟨_, rfl⟩

lemma loadValue_reports (json : Json) : (loadValue json).Reports (Unreported json) := by
  induction json using payloadInduct with
  | array items ih =>
    have hitems := loadItems_traverses.reports ih
    rw [loadValue]
    refine (hitems.map Value.list).congr fun failure => ⟨?_, ?_⟩
    · rintro ⟨item, hmem, hf⟩
      exact .item hmem hf
    · rintro (⟨hmem, hf⟩ | _)
      exact ⟨_, hmem, hf⟩
  | plain members hplain ih =>
    have hmembers := loadMembers_traverses.reports fun e he => (ih e he).map (Value.str e.1, ·)
    rw [loadValue_object_plain hplain]
    exact (hmembers.map Value.dict).congr fun failure => (unreported_object_plain hplain).symm
  | tagged key json htag ih =>
    refine loadValue_tagged_reports htag ?_
    rintro members rfl
    exact loadEntry_nested_reports fun part hlt =>
      ih part (Nat.le_of_lt (Nat.lt_trans hlt (sizeOf_members members)))
  | _ =>
    rw [loadValue]
    refine .pure _ fun failure hf => ?_
    rcases unreported_compound hf with ⟨_, h⟩ | ⟨_, h⟩ <;> cases h

lemma loadEntry_reports (name : Text) (json : Json) :
    (loadEntry (.str name) json).Reports fun failure =>
      ∃ members, json = .object members ∧ EntryUnreported members failure := by
  cases json with
  | object members =>
    refine (loadEntry_object_reports (fun part _ => loadValue_reports part) rfl).congr
      fun failure => ?_
    simp only [Json.object.injEq, exists_eq_left']
  | _ =>
    rw [loadEntry]
    · exact .within (.mistaken _) _
    all_goals nofun

/-- On a stack of any size, an entry comes to a definition, and then has no fault that is not
reported; or to a mistake; or to one of the faults that it has; or, if it has more levels than there
is room for, the stack may be exhausted. -/
theorem loadEntry_outcome (name : Text) (json : Json) (entry : Option Value) (world : World)
    (room : Nat) {result : Except Failure Definition}
    (h : Stack.ComesTo room json.levels (loadEntry (.str name) json entry world).1 result) :
    ((∃ d, result = .ok d) ∧
        ∀ members, json = .object members → ∀ failure, ¬ EntryUnreported members failure) ∨
      (∃ m, result = .error (.mistake m)) ∨
      (∃ members failure, json = .object members ∧ EntryUnreported members failure ∧
        result = .error failure) ∨
      (result = .error .stackExhausted ∧ room < json.levels) := by
  cases h with
  | exhausted hroom => exact .inr (.inr (.inr ⟨rfl, hroom⟩))
  | finished =>
    have hreports := loadEntry_reports name json entry world
    rcases hr : (loadEntry (.str name) json entry world).1 with failure | d <;>
      rw [hr] at hreports
    · -- a failure is a mistake, or one of those that are reported for the members
      rcases hreports with ⟨m, rfl⟩ | ⟨members, hjson, hf⟩
      · exact .inr (.inl ⟨m, rfl⟩)
      · exact .inr (.inr (.inl ⟨members, failure, hjson, hf, rfl⟩))
    · have hnone : ∀ members, json = .object members → ∀ failure,
          ¬ EntryUnreported members failure :=
        fun members hjson failure hf => hreports failure ⟨members, hjson, hf⟩
      exact .inl ⟨⟨d, rfl⟩, hnone⟩

/-- A payload with a superscript in the place of a position. -/
def superscriptPayload : Json :=
  .object [("class", .str "app.X"), ("constructor", .object [("²", .int 1)])]

/-- The superscript passes for a position and is no numeral, which is not reported as a mistake. -/
theorem superscriptPayload_outcome :
    (loadEntry (.str "e") superscriptPayload none {}).1 = .error (.notDecimal "²") ∧
      ∃ members, superscriptPayload = .object members ∧
        EntryUnreported members (.notDecimal "²") := by
  have hload : (loadEntry (.str "e") superscriptPayload none {}).1 =
      .error (.notDecimal "²") := by
    have hknown : unknownKeys [("class", .str "app.X"),
        ("constructor", .object [("²", .int 1)])] = [] := List.mergeSort_nil
    rw [superscriptPayload, loadEntry, loadHead, hknown, loadConstructor_eq]
    rfl
  have hcomes :=
    loadEntry_outcome "e" superscriptPayload none {} superscriptPayload.levels .finished
  rw [hload] at hcomes
  rcases hcomes with ⟨⟨d, h⟩, -⟩ | ⟨m, h⟩ | ⟨members, failure, hjson, hf, h⟩ | ⟨h, -⟩
  · exact absurd h nofun
  · exact absurd h nofun
  · obtain rfl := Except.error.inj h
    exact ⟨hload, members, hjson, hf⟩
  · exact absurd h nofun

end Definition

end Blueprint
