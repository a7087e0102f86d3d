/-
# What reading a payload returns

Reading a payload looks at nothing but the payload: the entry that is open only says whose mistake a
failure is, and the world is neither asked nor changed.  So a result that is read once is read
always (`Run.Settled`), and it can be told from the results of the parts: a list is read if its
items are, arguments that are keyed by positions are read if their keys stand for positions and
their values are read, and an entry is read if its head and its parts are.

Each reader is looked at twice here, once for being settled and once for what it returns; values
call every other reader, so the first is by induction on the size of the payload.
-/
import Blueprint.Proofs.Numerals
import Blueprint.Proofs.ReadingFaults
import Blueprint.Proofs.Reloading

namespace Blueprint

/-! ## Runs that only look at what they are given -/

namespace Run

variable {α β γ : Type}

/-- Whatever the entry and the world, the run has the result, and leaves the world as it is. -/
def Returns (x : Run α) (a : α) : Prop :=
  ∀ entry world, x entry world = (.ok a, world)

/-- What is once a result of the run is so whatever the entry and the world. -/
def Settled (x : Run α) : Prop :=
  ∀ entry world a, (x entry world).1 = .ok a → x.Returns a

variable {x : Run α} {f : α → Run β} {a : α} {b : β}

lemma Returns.unique {a' : α} (h : x.Returns a) (h' : x.Returns a') : a = a' :=
  Except.ok.inj (Prod.mk.inj ((h none {}).symm.trans (h' none {}))).1

lemma returns_pure_iff {a' : α} : (Pure.pure a : Run α).Returns a' ↔ a = a' := by
  constructor
  · exact fun h => Except.ok.inj (Prod.mk.inj (h none {})).1
  · rintro rfl entry world
    rfl

lemma not_returns_fail {failure : Failure} : ¬ (Run.fail failure : Run α).Returns a :=
  fun h => absurd (congrArg Prod.fst (h none {})) nofun

lemma not_returns_mistaken {cause : Mistake} : ¬ (Run.mistaken cause : Run α).Returns a :=
  fun h => absurd (congrArg Prod.fst (h none {})) nofun

lemma returns_within_iff {name : Option Value} (h : x.Settled) :
    (Run.within name x).Returns a ↔ x.Returns a := by
  constructor
  · intro hx
    exact h name {} a (congrArg Prod.fst (hx none {}))
  · exact fun hx entry world => hx name world

namespace Settled

lemma exists_returns (h : x.Settled) {entry : Option Value} {world : World}
    (hx : (x entry world).1 = .ok a) : x.Returns a :=
  h entry world a hx

protected lemma pure (a : α) : (Pure.pure a : Run α).Settled := by
  intro entry world a' h
  exact returns_pure_iff.2 (Except.ok.inj h)

lemma fail (failure : Failure) : (Run.fail failure : Run α).Settled :=
  fun _ _ _ h => absurd h (by simp [Run.fail])

lemma mistaken (cause : Mistake) : (Run.mistaken cause : Run α).Settled :=
  fun _ _ _ h => absurd h (by simp [Run.mistaken])

protected lemma within (h : x.Settled) (name : Option Value) : (Run.within name x).Settled := by
  intro entry world a hx
  exact (returns_within_iff h).2 (h name world a hx)

protected lemma bind (hx : x.Settled) (hf : ∀ a, (f a).Settled) : (x >>= f).Settled := by
  intro entry world b h
  rcases hr : x entry world with ⟨failure | a, w⟩
  · rw [bind_of_error hr] at h
    exact absurd h (by simp)
  · rw [bind_of_ok hr] at h
    have ha : x.Returns a := hx entry world a (by rw [hr])
    have hb : (f a).Returns b := hf a entry w b h
    intro entry' world'
    rw [bind_of_ok (ha entry' world')]
    exact hb entry' world'

lemma map (hx : x.Settled) (g : α → β) : (x >>= fun a => Pure.pure (g a)).Settled :=
  hx.bind fun a => Settled.pure (g a)

end Settled

/-- Two runs one after the other return what the second makes of the result of the first. -/
lemma returns_bind_iff (hx : x.Settled) :
    (x >>= f).Returns b ↔ ∃ a, x.Returns a ∧ (f a).Returns b := by
  constructor
  · intro h
    -- the first run returns in one world, and so, being settled, in all
    obtain ⟨a, w, ha, -⟩ := bind_eq_ok (h none {})
    have hreturns : x.Returns a := hx none {} a (by rw [ha])
    refine ⟨a, hreturns, fun entry world => ?_⟩
    have hb := h entry world
    rwa [bind_of_ok (hreturns entry world)] at hb
  · rintro ⟨a, ha, hb⟩ entry world
    rw [bind_of_ok (ha entry world)]
    exact hb entry world

lemma returns_map_iff (hx : x.Settled) {g : α → β} :
    (x >>= fun a => Pure.pure (g a)).Returns b ↔ ∃ a, x.Returns a ∧ g a = b := by
  simp only [returns_bind_iff hx, returns_pure_iff]

section Traversals

variable {run : List α → Run (List γ)} {one : α → Run γ} {items : List α}

lemma Settled.traverse (ht : Traverses run one) (h : ∀ a ∈ items, (one a).Settled) :
    (run items).Settled := by
  induction items with
  | nil =>
    rw [ht.nil]
    exact .pure []
  | cons a rest ih =>
    obtain ⟨ha, hrest⟩ := List.forall_mem_cons.1 h
    rw [ht.cons]
    exact ha.bind fun v => (ih hrest).map (v :: ·)

/-- A traversal returns what is returned for each of the items. -/
lemma returns_traverse_iff (ht : Traverses run one) (h : ∀ a ∈ items, (one a).Settled)
    {vs : List γ} :
    (run items).Returns vs ↔ List.Forall₂ (fun a v => (one a).Returns v) items vs := by
  induction items generalizing vs with
  | nil =>
    rw [ht.nil, returns_pure_iff, List.forall₂_nil_left_iff, eq_comm]
  | cons a rest ih =>
    obtain ⟨ha, hrest⟩ := List.forall_mem_cons.1 h
    rw [ht.cons, returns_bind_iff ha, List.forall₂_cons_left_iff]
    simp only [returns_map_iff (Settled.traverse ht hrest), ih hrest]
    constructor
    · rintro ⟨v, hv, vs', hvs', rfl⟩
      exact ⟨v, vs', hv, hvs', rfl⟩
    · rintro ⟨v, vs', hv, hvs', rfl⟩
      exact ⟨v, hv, vs', hvs', rfl⟩

/-- A traversal that fails does so at the first item for which nothing is returned. -/
lemma exists_of_traverse_error (ht : Traverses run one) (h : ∀ a ∈ items, (one a).Settled)
    {entry : Option Value} {world : World} {failure : Failure}
    (hfails : (run items entry world).1 = .error failure) :
    ∃ before a after, items = before ++ a :: after ∧ (∀ b ∈ before, ∃ v, (one b).Returns v) ∧
      (one a entry world).1 = .error failure := by
  induction items with
  | nil =>
    rw [ht.nil] at hfails
    exact absurd hfails (by simp)
  | cons a rest ih =>
    obtain ⟨ha, hrest⟩ := List.forall_mem_cons.1 h
    rw [ht.cons] at hfails
    rcases hr : one a entry world with ⟨failure' | v, w⟩
    · rw [bind_of_error hr] at hfails
      obtain rfl := Except.error.inj hfails
      exact ⟨[], a, rest, rfl, List.forall_mem_nil _, by rw [hr]⟩
    · -- the rest starts in the same world, and it is what fails
      have hv : (one a).Returns v := ha entry world v (by rw [hr])
      rw [bind_of_ok (hv entry world), bind_apply] at hfails
      have hfails' : (run rest entry world).1 = .error failure := by
        rcases hrun : run rest entry world with ⟨failure' | vs, w'⟩ <;> rw [hrun] at hfails
        · exact hfails
        · exact absurd hfails (by simp)
      obtain ⟨before, b, after, rfl, hbefore, hb⟩ := ih hrest hfails'
      exact ⟨a :: before, b, after, rfl, List.forall_mem_cons.2 ⟨⟨v, hv⟩, hbefore⟩, hb⟩

end Traversals

end Run

namespace Definition

open Run

/-! ## Every reader is settled -/

lemma loadKey_settled (key : Text) : (loadKey key).Settled := by
  unfold loadKey
  rcases Position.ofDigits key with failure | n
  · exact .fail failure
  · exact .pure n

lemma loadKeyedOne_settled {label : Text} {e : Text × Json} (h : (loadValue e.2).Settled) :
    (loadKeyedOne label e).Settled := by
  rcases hkey : Position.isKey e.1 with _ | _
  · rw [loadKeyedOne_of_not_isKey hkey]
    exact .mistaken _
  · rw [loadKeyedOne_of_isKey hkey]
    exact h.bind fun v => (loadKey_settled e.1).map _

lemma loadArguments_settled (label : Text) {json : Json}
    (h : ∀ part, sizeOf part < sizeOf json → (loadValue part).Settled) :
    (loadArguments label json).Settled := by
  cases json with
  | array items =>
    have hitems := Settled.traverse loadItems_traverses fun item hmem => h item (sizeOf_item hmem)
    rw [loadArguments]
    exact hitems.map _
  | object members =>
    have hkeyed := Settled.traverse (loadKeyed_traverses label) fun e hmem =>
      loadKeyedOne_settled (h e.2 (Nat.lt_trans (sizeOf_member hmem) (sizeOf_members members)))
    rw [loadArguments]
    exact hkeyed.map _
  | _ =>
    rw [loadArguments]
    · exact .mistaken _
    all_goals simp

section Parts

variable {members : List (Text × Json)}
  (h : ∀ part, sizeOf part < sizeOf members → (loadValue part).Settled)

include h

lemma loadConstructor_settled : (loadConstructor members).Settled := by
  rw [loadConstructor_eq]
  rcases hget : Entries.get? ("constructor" : Text) members with _ | json
  · exact .pure none
  · have hsize := sizeOf_get? hget
    exact (loadArguments_settled _ fun part hpart => h part (Nat.lt_trans hpart hsize)).map _

lemma loadFieldBinding_settled {e : Text × Json} (he : e ∈ members) :
    (loadValue (fieldContent e.2)).Settled :=
  h _ (sizeOf_content he)

lemma loadFields_settled : (loadFields members).Settled := by
  rw [loadFields_eq]
  rcases hget : Entries.get? ("fields" : Text) members with _ | json
  · exact .pure []
  · cases json with
    | object fields =>
      have hsize := Nat.lt_trans (sizeOf_members fields) (sizeOf_get? hget)
      exact Settled.traverse loadFieldBindings_traverses fun e he =>
        (loadFieldBinding_settled (fun part hpart => h part (Nat.lt_trans hpart hsize)) he).map _
    | _ => exact .mistaken _

lemma loadMethodArguments_settled (label : Text) :
    (loadMethodArguments label members).Settled := by
  rw [loadMethodArguments_eq]
  rcases hget : Entries.get? ("args" : Text) members with _ | json
  · exact .pure []
  · have hsize := sizeOf_get? hget
    exact loadArguments_settled label fun part hpart => h part (Nat.lt_trans hpart hsize)

end Parts

lemma loadMethodBinding_settled {json : Json}
    (h : ∀ part, sizeOf part < sizeOf json → (loadValue part).Settled) :
    (loadMethodBinding json).Settled := by
  cases json with
  | object members =>
    have harguments := loadMethodArguments_settled
      fun part hpart => h part (Nat.lt_trans hpart (sizeOf_members members))
    rw [loadMethodBinding]
    split
    · exact (harguments _).map _
    · exact .mistaken _
  | _ =>
    rw [loadMethodBinding]
    · exact .mistaken _
    all_goals simp

lemma loadMethods_settled {members : List (Text × Json)}
    (h : ∀ part, sizeOf part < sizeOf members → (loadValue part).Settled) :
    (loadMethods members).Settled := by
  rw [loadMethods_eq]
  rcases hget : Entries.get? ("methods" : Text) members with _ | json
  · exact .pure []
  · cases json with
    | array items =>
      refine Settled.traverse loadMethodBindings_traverses fun item hmem => ?_
      have hsize := Nat.lt_trans (sizeOf_item hmem) (sizeOf_get? hget)
      exact loadMethodBinding_settled fun part hpart => h part (Nat.lt_trans hpart hsize)
    | _ => exact .mistaken _

lemma refuseEntry_settled {α : Type} (name : Value) (cause : Value → Mistake) :
    (refuseEntry name cause : Run α).Settled := by
  unfold refuseEntry Run.ifWritten
  split
  · exact .mistaken _
  · exact .fail _

lemma loadHead_settled (name : Value) (members : List (Text × Json)) :
    (loadHead name members).Settled := by
  rcases loadHead_cases name members with ⟨cause, -, h⟩ | ⟨className, isLazy, -, h⟩ <;> rw [h]
  · exact refuseEntry_settled name cause
  · exact .pure _

lemma loadEntry_settled_of (name : Value) {members : List (Text × Json)}
    (h : ∀ part, sizeOf part < sizeOf members → (loadValue part).Settled) :
    (loadEntry name (.object members)).Settled := by
  rw [loadEntry]
  refine Settled.within ?_ _
  refine (loadHead_settled name members).bind fun head => ?_
  refine (loadConstructor_settled h).bind fun b => ?_
  exact (loadFields_settled h).bind fun fields => (loadMethods_settled h).map _

lemma loadBytes_settled (json : Json) : (loadBytes json).Settled := by
  cases json with
  | str text =>
    simp only [loadBytes]
    repeat' split
    · exact .fail _
    · exact .pure _
    · exact .mistaken _
  | _ => exact .mistaken _

lemma loadValue_settled (json : Json) : (loadValue json).Settled := by
  induction json using payloadInduct with
  | array items ih =>
    rw [loadValue]
    exact (Settled.traverse loadItems_traverses ih).map _
  | plain members hplain ih =>
    rw [loadValue_object_plain hplain]
    have hmembers := Settled.traverse loadMembers_traverses fun e hmem =>
      (ih e hmem).map fun v => (Value.str e.1, v)
    exact hmembers.map _
  | tagged key json htag ih =>
    -- a reference, the default, bytes, a nested entry, and any other member
    rw [loadValue_singleton]
    split
    · exact .pure _
    split
    · exact .pure _
    split
    · exact loadBytes_settled json
    split
    · cases json with
      | object members =>
        exact (loadEntry_settled_of _ fun part hlt =>
          ih part (Nat.le_of_lt (Nat.lt_trans hlt (sizeOf_members members)))).map _
      | _ => exact .mistaken _
    · exact (ih json (Nat.le_refl _)).map _
  | _ =>
    rw [loadValue]
    exact .pure _

lemma loadEntry_settled (name : Value) (json : Json) : (loadEntry name json).Settled := by
  cases json with
  | object members => exact loadEntry_settled_of name fun part _ => loadValue_settled part
  | _ =>
    rw [loadEntry]
    · exact (refuseEntry_settled name _).within _
    all_goals simp

/-- A value is loaded if it is returned. -/
lemma loads_iff_returns {json : Json} {v : Value} : Loads json v ↔ (loadValue json).Returns v := by
  constructor
  · rintro ⟨entry, world, h⟩
    exact loadValue_settled json entry world v h
  · intro h
    exact ⟨none, {}, by rw [h none {}]⟩

/-! ## Arguments -/

lemma loadKey_returns_iff {key : Text} {n : Nat} (hkey : Position.isKey key = true) :
    (loadKey key).Returns n ↔ Position.Denotes key n := by
  rw [loadKey, ← Position.ofDigits_eq_ok_iff hkey]
  rcases Position.ofDigits key with failure | m
  · simp only [Run.ofExcept, not_returns_fail, reduceCtorEq]
  · rw [Run.ofExcept, returns_pure_iff, Except.ok.injEq]

/-- An argument is read if its key stands for a position and its value is read. -/
lemma loadKeyedOne_returns_iff {label : Text} {e : Text × Json} {row : Nat × Value} :
    (loadKeyedOne label e).Returns row ↔ Position.Denotes e.1 row.1 ∧ Loads e.2 row.2 := by
  rcases hkey : Position.isKey e.1 with _ | _
  · rw [loadKeyedOne_of_not_isKey hkey]
    constructor
    · exact fun h => absurd h not_returns_mistaken
    · exact fun h => absurd (hkey.symm.trans h.1.isKey) (by simp)
  · rw [loadKeyedOne_of_isKey hkey, returns_bind_iff (loadValue_settled e.2)]
    simp only [returns_map_iff (loadKey_settled e.1), loadKey_returns_iff hkey, loads_iff_returns]
    constructor
    · rintro ⟨v, hv, n, hn, rfl⟩
      exact ⟨hn, hv⟩
    · rintro ⟨hn, hv⟩
      exact ⟨row.2, hv, row.1, hn, rfl⟩

/-- Arguments in order are read if their values are. -/
lemma loadArguments_array_returns_iff {label : Text} {items : List Json}
    {arguments : List (Nat × Value)} :
    (loadArguments label (.array items)).Returns arguments ↔
      ∃ vs, List.Forall₂ Loads items vs ∧ Binding.enumerate vs 0 = arguments := by
  have hitems : ∀ item ∈ items, (loadValue item).Settled := fun item _ => loadValue_settled item
  rw [loadArguments, returns_map_iff (Settled.traverse loadItems_traverses hitems)]
  simp only [returns_traverse_iff loadItems_traverses hitems, ← loads_iff_returns]

/-- Arguments by position are read if their keys stand for positions and their values are read. -/
lemma loadArguments_object_returns_iff {label : Text} {members : List (Text × Json)}
    {arguments : List (Nat × Value)} :
    (loadArguments label (.object members)).Returns arguments ↔
      ∃ rows, List.Forall₂ (fun e row => Position.Denotes e.1 row.1 ∧ Loads e.2 row.2)
        members rows ∧ Entries.ofList rows = arguments := by
  have hmembers : ∀ e ∈ members, (loadKeyedOne label e).Settled :=
    fun e _ => loadKeyedOne_settled (loadValue_settled e.2)
  rw [loadArguments, returns_map_iff (Settled.traverse (loadKeyed_traverses label) hmembers)]
  simp only [returns_traverse_iff (loadKeyed_traverses label) hmembers, loadKeyedOne_returns_iff]

/-- Nothing but a list or an object is read as arguments. -/
lemma list_or_object_of_loadArguments {label : Text} {json : Json}
    {arguments : List (Nat × Value)} (h : (loadArguments label json).Returns arguments) :
    (∃ items, json = .array items) ∨ ∃ members, json = .object members := by
  cases json with
  | array items => exact .inl ⟨items, rfl⟩
  | object members => exact .inr ⟨members, rfl⟩
  | _ =>
    rw [loadArguments] at h
    · exact absurd h not_returns_mistaken
    all_goals simp

/-! ## Values -/

/-- A list is read if its items are. -/
lemma loads_array_iff {items : List Json} {v : Value} :
    Loads (.array items) v ↔ ∃ vs, List.Forall₂ Loads items vs ∧ .list vs = v := by
  have hitems : ∀ item ∈ items, (loadValue item).Settled := fun item _ => loadValue_settled item
  rw [loads_iff_returns, loadValue, returns_map_iff (Settled.traverse loadItems_traverses hitems)]
  simp only [returns_traverse_iff loadItems_traverses hitems, ← loads_iff_returns]

/-- An object without a meaning of its own is read if its members are. -/
lemma loads_object_iff {members : List (Text × Json)} (hplain : IsPlain members) {v : Value} :
    Loads (.object members) v ↔ ∃ entries,
      List.Forall₂ (fun e entry => entry.1 = .str e.1 ∧ Loads e.2 entry.2) members entries ∧
        .dict entries = v := by
  have hone : ∀ (e : Text × Json) (entry : Value × Value),
      (loadValue e.2 >>= fun v => pure (Value.str e.1, v)).Returns entry ↔
        entry.1 = .str e.1 ∧ Loads e.2 entry.2 := by
    intro e entry
    rw [returns_map_iff (loadValue_settled e.2)]
    constructor
    · rintro ⟨v, hv, rfl⟩
      exact ⟨rfl, loads_iff_returns.2 hv⟩
    · rintro ⟨hkey, hv⟩
      exact ⟨entry.2, loads_iff_returns.1 hv, Prod.ext hkey.symm rfl⟩
  have hmembers : ∀ e ∈ members,
      (loadValue e.2 >>= fun v => pure (Value.str e.1, v)).Settled :=
    fun e _ => (loadValue_settled e.2).map _
  rw [loads_iff_returns, loadValue_object_plain hplain,
    returns_map_iff (Settled.traverse loadMembers_traverses hmembers)]
  simp only [returns_traverse_iff loadMembers_traverses hmembers, hone]

/-- A nested entry is read under the name of its class. -/
lemma loads_create_iff {members : List (Text × Json)} {v : Value} :
    Loads (.object [("$create", .object members)]) v ↔
      ∃ d, (loadEntry (nestedName members) (.object members)).Returns d ∧ .definition d = v := by
  rw [loads_iff_returns, loadValue_singleton, if_neg (by decide), if_neg (by decide),
    if_neg (by decide), if_pos (by decide), returns_map_iff (loadEntry_settled _ _)]

/-! ## Entries -/

/-- What comes of the member of a name: what is read from it, or the other thing where there is no
such member. -/
def FromMember {α : Type} (name : Text) (members : List (Text × Json)) (reads : Json → α → Prop)
    (other a : α) : Prop :=
  Entries.get? name members = none ∧ a = other ∨
    ∃ json, Entries.get? name members = some json ∧ reads json a

/-- The binding is read from arguments of a constructor. -/
def ReadsConstructor (json : Json) (b : Option Binding) : Prop :=
  ∃ arguments, (loadArguments "constructor" json).Returns arguments ∧
    b = some ⟨"__init__", arguments⟩

/-- The field is read from what it is given. -/
structure ReadsField (e : Text × Json) (f : FieldBinding) : Prop where
  /-- It goes by the name of the member. -/
  field : f.field = e.1
  /-- Its owner is the one that is given, if one is. -/
  owner : f.owner = fieldOwnerGiven e.2
  /-- Its value is read. -/
  value : Loads (fieldContent e.2) f.value

/-- The fields are read from an object. -/
def ReadsFields (json : Json) (fields : List FieldBinding) : Prop :=
  ∃ given, json = .object given ∧ List.Forall₂ ReadsField given fields

/-- The binding is read from the call of a method. -/
def ReadsMethod (json : Json) (b : Binding) : Prop :=
  ∃ members, json = .object members ∧
    Entries.get? ("name" : Text) members = some (.str b.method) ∧
      FromMember "args" members (fun json => (loadArguments b.method json).Returns) [] b.arguments

/-- The bindings are read from a list of calls. -/
def ReadsMethods (json : Json) (bs : List Binding) : Prop :=
  ∃ items, json = .array items ∧ List.Forall₂ ReadsMethod items bs

section Entry

variable {members : List (Text × Json)}

lemma loadConstructor_returns_iff {b : Option Binding} :
    (loadConstructor members).Returns b ↔
      FromMember "constructor" members ReadsConstructor none b := by
  rw [loadConstructor_eq, FromMember]
  rcases Entries.get? ("constructor" : Text) members with _ | json
  · simp [returns_pure_iff, eq_comm]
  · have hsettled : (loadArguments "constructor" json).Settled :=
      loadArguments_settled "constructor" fun part _ => loadValue_settled part
    simp only
    rw [returns_map_iff hsettled]
    simp [ReadsConstructor, eq_comm]

/-- The fields are read if the values that they are given are. -/
lemma loadFields_returns_iff {fields : List FieldBinding} :
    (loadFields members).Returns fields ↔ FromMember "fields" members ReadsFields [] fields := by
  have hone : ∀ (e : Text × Json) (f : FieldBinding),
      (loadValue (fieldContent e.2) >>= fun v =>
        pure (⟨e.1, v, fieldOwnerGiven e.2⟩ : FieldBinding)).Returns f ↔ ReadsField e f := by
    intro e f
    rw [returns_map_iff (loadValue_settled _)]
    constructor
    · rintro ⟨v, hv, rfl⟩
      exact ⟨rfl, rfl, loads_iff_returns.2 hv⟩
    · rintro ⟨hfield, howner, hv⟩
      obtain ⟨field, value, owner⟩ := f
      exact ⟨value, loads_iff_returns.1 hv, by rw [← hfield, ← howner]⟩
  rw [loadFields_eq, FromMember]
  -- no such member, an object of fields, or something that is refused
  rcases hget : Entries.get? ("fields" : Text) members with _ | json
  · simp [returns_pure_iff, eq_comm]
  · cases json with
    | object given =>
      have hgiven : ∀ e ∈ given, (loadValue (fieldContent e.2) >>= fun v =>
          pure (⟨e.1, v, fieldOwnerGiven e.2⟩ : FieldBinding)).Settled :=
        fun e _ => (loadValue_settled _).map _
      simp only
      rw [returns_traverse_iff loadFieldBindings_traverses hgiven]
      simp only [hone]
      simp [ReadsFields]
    | _ => simp [not_returns_mistaken, ReadsFields]

lemma loadMethodArguments_returns_iff {label : Text} {arguments : List (Nat × Value)} :
    (loadMethodArguments label members).Returns arguments ↔
      FromMember "args" members (fun json => (loadArguments label json).Returns) [] arguments := by
  rw [loadMethodArguments_eq, FromMember]
  rcases Entries.get? ("args" : Text) members with _ | json
  · simp [returns_pure_iff, eq_comm]
  · simp

lemma loadMethodBinding_returns_iff {json : Json} {b : Binding} :
    (loadMethodBinding json).Returns b ↔ ReadsMethod json b := by
  cases json with
  | object members =>
    have hsettled : ∀ method, (loadMethodArguments method members).Settled :=
      fun method => loadMethodArguments_settled (fun part _ => loadValue_settled part) method
    rw [loadMethodBinding, ReadsMethod]
    split
    · next method hname =>
      rw [returns_map_iff (hsettled method)]
      constructor
      · rintro ⟨arguments, harguments, rfl⟩
        exact ⟨members, rfl, hname, loadMethodArguments_returns_iff.1 harguments⟩
      · rintro ⟨members', hmembers, hname', harguments⟩
        obtain rfl := Json.object.inj hmembers
        obtain ⟨method', arguments⟩ := b
        obtain rfl := Json.str.inj (Option.some.inj (hname.symm.trans hname'))
        exact ⟨arguments, loadMethodArguments_returns_iff.2 harguments, rfl⟩
    · next hname =>
      constructor
      · exact fun h => absurd h not_returns_mistaken
      · rintro ⟨members', hmembers, hname', -⟩
        obtain rfl := Json.object.inj hmembers
        exact absurd hname' (hname b.method)
  | _ => simp [loadMethodBinding, not_returns_mistaken, ReadsMethod]

/-- The methods are read if each of them is. -/
lemma loadMethods_returns_iff {methods : List Binding} :
    (loadMethods members).Returns methods ↔
      FromMember "methods" members ReadsMethods [] methods := by
  have hsettled : ∀ items : List Json, ∀ item ∈ items, (loadMethodBinding item).Settled :=
    fun _ _ _ => loadMethodBinding_settled fun part _ => loadValue_settled part
  rw [loadMethods_eq, FromMember]
  -- no such member, a row of methods, or something that is refused
  rcases Entries.get? ("methods" : Text) members with _ | json
  · simp [returns_pure_iff, eq_comm]
  · cases json with
    | array items =>
      simp only
      rw [returns_traverse_iff loadMethodBindings_traverses (hsettled items)]
      simp only [loadMethodBinding_returns_iff]
      simp [ReadsMethods]
    | _ => simp [not_returns_mistaken, ReadsMethods]

/-- An entry is read if its head and its parts are. -/
lemma loadEntry_returns_iff {name : Value} {d : Definition} :
    (loadEntry name (.object members)).Returns d ↔
      d.name = name ∧ (loadHead name members).Returns (d.className, d.isLazy) ∧
        FromMember "constructor" members ReadsConstructor none d.constructor ∧
          FromMember "fields" members ReadsFields [] d.fields ∧
            FromMember "methods" members ReadsMethods [] d.methods := by
  have hconstructor : (loadConstructor members).Settled :=
    loadConstructor_settled fun part _ => loadValue_settled part
  have hfields : (loadFields members).Settled :=
    loadFields_settled fun part _ => loadValue_settled part
  have hmethods : (loadMethods members).Settled :=
    loadMethods_settled fun part _ => loadValue_settled part
  have hparts := (loadHead_settled name members).bind fun head => hconstructor.bind fun b =>
    hfields.bind fun fields => hmethods.map fun methods =>
      ({ name, className := head.1, isLazy := head.2, constructor := b, fields,
         methods } : Definition)
  rw [loadEntry, returns_within_iff hparts, returns_bind_iff (loadHead_settled name members)]
  simp only [returns_bind_iff hconstructor, returns_bind_iff hfields, returns_map_iff hmethods,
    loadConstructor_returns_iff, loadFields_returns_iff, loadMethods_returns_iff]
  constructor
  · rintro ⟨head, hhead, b, hb, fields, hfs, methods, hms, rfl⟩
    exact ⟨rfl, hhead, hb, hfs, hms⟩
  · obtain ⟨_, className, isLazy, b, fields, methods⟩ := d
    rintro ⟨rfl, hhead, hb, hfs, hms⟩
    exact ⟨_, hhead, b, hb, fields, hfs, methods, hms, rfl⟩

end Entry

lemma loadEntries_traverses :
    Traverses loadEntries fun e => loadEntry (.str e.1) e.2 where
  nil := by rw [loadEntries]
  cons _ _ := by rw [loadEntries]

/-- A payload is read if all of its entries are. -/
lemma loadEntries_returns_iff {members : List (Text × Json)} {ds : List Definition} :
    (loadEntries members).Returns ds ↔
      List.Forall₂ (fun e d => (loadEntry (.str e.1) e.2).Returns d) members ds :=
  returns_traverse_iff loadEntries_traverses fun e _ => loadEntry_settled (.str e.1) e.2

lemma loadAll_settled (json : Json) : (loadAll json).Settled := by
  cases json with
  | object members =>
    exact Settled.traverse loadEntries_traverses fun e _ => loadEntry_settled (.str e.1) e.2
  | _ => exact .fail _

end Definition

end Blueprint
