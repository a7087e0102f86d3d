/-
# Payloads can be loaded again

Values have one format in the definitions that are loaded and in the payloads that are exported: an
object of a single member, named after its kind, is a reference or bytes, and every other object is
a dictionary.  So a value that was loaded, and that holds no definition and no mark for a declared
default, is loaded again from its payload (`loadValue_payload`).

What carries the proof is which values loading can come to: the names of references are JSON as they
stand, and a dictionary has texts as keys, each once, and is none of a single member with a meaning
of its own (`Value.reloads_dict`).  For bytes it is that their text is read back, whatever their
number (`decode_encodeChars`).

That each name stands once is part of what JSON values are here; the reader sees to it
(`Json.Reader.read_hasDistinctNames`).
-/
import Blueprint.Plan.Payload
import Blueprint.Proofs.Comparing
import Blueprint.Proofs.Entries
import Blueprint.Proofs.Fatality
import Blueprint.Proofs.Loading

namespace Blueprint

/-! ## JSON values with distinct names -/

/-- Every object in the value has each of its names once. -/
inductive Json.HasDistinctNames : Json → Prop where
  | null : HasDistinctNames .null
  | bool (b : Bool) : HasDistinctNames (.bool b)
  | int (i : Int) : HasDistinctNames (.int i)
  | float (x : Double) : HasDistinctNames (.float x)
  | str (s : Text) : HasDistinctNames (.str s)
  | array {items : List Json} (h : ∀ item ∈ items, HasDistinctNames item) :
      HasDistinctNames (.array items)
  | object {members : List (Text × Json)} (hnames : (members.map Prod.fst).Nodup)
      (h : ∀ e ∈ members, HasDistinctNames e.2) : HasDistinctNames (.object members)

/-! ## What is read has distinct names -/

namespace Json

/-- The members of a repeated name come to one member, so the object of any members is one of
distinct names. -/
lemma HasDistinctNames.object_ofList {members : List (Text × Json)}
    (h : ∀ e ∈ members, HasDistinctNames e.2) :
    HasDistinctNames (.object (Entries.ofList members)) := by
  refine .object (Entries.nodup_keys_ofList members) fun e he => ?_
  obtain ⟨m, hm, heq⟩ := List.mem_map.1 (Entries.mem_ofList he).2
  exact heq ▸ h m hm

namespace Reader

lemma number_hasDistinctNames {text rest : List Char} {json : Json}
    (h : number text = .ok (json, rest)) : json.HasDistinctNames := by
  unfold number at h
  simp only at h
  split at h
  all_goals
    split at h
    · exact absurd h (by simp)
    · split at h
      · split at h
        · exact absurd h (by simp)
        · obtain ⟨rfl, -⟩ := Prod.mk.inj (Except.ok.inj h)
          exact .int _
      · obtain ⟨rfl, -⟩ := Prod.mk.inj (Except.ok.inj h)
        exact .float _

lemma scalar_hasDistinctNames {text rest : List Char} {json : Json}
    (h : scalar text = .ok (json, rest)) : json.HasDistinctNames := by
  unfold scalar at h
  split at h
  · rename_i found hfound
    obtain ⟨⟨word, j⟩, hmem, hword⟩ := List.exists_of_findSome?_eq_some hfound
    obtain ⟨r, -, hr⟩ := Option.map_eq_some_iff.1 hword
    obtain rfl : j = json := congrArg Prod.fst (hr.trans (Except.ok.inj h))
    simp only [words, List.mem_cons, Prod.mk.injEq, List.not_mem_nil, or_false] at hmem
    rcases hmem with ⟨-, rfl⟩ | ⟨-, rfl⟩ | ⟨-, rfl⟩ | ⟨-, rfl⟩ | ⟨-, rfl⟩ | ⟨-, rfl⟩ <;> constructor
  · exact number_hasDistinctNames h

lemma bind_eq_ok {α β : Type} {x : Except Fault α} {f : α → Except Fault β} {b : β}
    (h : (x >>= f) = .ok b) : ∃ a, x = .ok a ∧ f a = .ok b := by
  rcases x with fault | a
  · exact absurd h (by simp [bind, Except.bind])
  · exact ⟨a, rfl, h⟩

lemma map_eq_ok {α β : Type} {x : Except Fault α} {f : α → β} {b : β} (h : x.map f = .ok b) :
    ∃ a, x = .ok a ∧ f a = b := by
  rcases x with fault | a
  · exact absurd h (by simp [Except.map])
  · exact ⟨a, rfl, Except.ok.inj h⟩

/-- The three readers of values call each other with less fuel, so one induction on the fuel serves
all of them. -/
lemma readers_hasDistinctNames (fuel : Nat) :
    (∀ {text rest json}, value fuel text = .ok (json, rest) → json.HasDistinctNames) ∧
    (∀ {text rest jsons}, elements fuel text = .ok (jsons, rest) →
      ∀ json ∈ jsons, json.HasDistinctNames) ∧
    (∀ {text rest ms}, members fuel text = .ok (ms, rest) →
      ∀ e ∈ ms, e.2.HasDistinctNames) := by
  induction fuel with
  | zero =>
    refine ⟨fun h => ?_, fun h => ?_, fun h => ?_⟩
    · rw [value] at h; exact absurd h (by simp)
    · rw [elements] at h; exact absurd h (by simp)
    · rw [members] at h; exact absurd h (by simp)
  | succ fuel ih =>
    obtain ⟨hvalue, helements, hmembers⟩ := ih
    refine ⟨fun {text rest json} h => ?_, fun {text rest jsons} h => ?_,
      fun {text rest ms} h => ?_⟩
    · unfold value at h
      split at h
      · obtain ⟨_, -, heq⟩ := map_eq_ok h
        obtain ⟨rfl, -⟩ := Prod.mk.inj heq
        exact .str _
      · split at h
        · obtain ⟨rfl, -⟩ := Prod.mk.inj (Except.ok.inj h)
          exact .object List.nodup_nil (List.forall_mem_nil _)
        · obtain ⟨⟨ms, r⟩, hms, heq⟩ := map_eq_ok h
          obtain ⟨rfl, -⟩ := Prod.mk.inj heq
          exact .object_ofList (hmembers hms)
      · split at h
        · obtain ⟨rfl, -⟩ := Prod.mk.inj (Except.ok.inj h)
          exact .array (List.forall_mem_nil _)
        · obtain ⟨⟨jsons, r⟩, hjsons, heq⟩ := map_eq_ok h
          obtain ⟨rfl, -⟩ := Prod.mk.inj heq
          exact .array (helements hjsons)
      · exact scalar_hasDistinctNames h
    · rw [elements] at h
      obtain ⟨⟨json, r⟩, hjson, h⟩ := bind_eq_ok h
      simp only at h
      split at h
      · obtain ⟨rfl, -⟩ := Prod.mk.inj (Except.ok.inj h)
        exact List.forall_mem_singleton.2 (hvalue hjson)
      · obtain ⟨⟨more, r'⟩, hmore, h⟩ := bind_eq_ok h
        obtain ⟨rfl, -⟩ := Prod.mk.inj (Except.ok.inj h)
        exact List.forall_mem_cons.2 ⟨hvalue hjson, helements hmore⟩
      · exact absurd h (by simp)
    · unfold members at h
      split at h
      · obtain ⟨⟨name, r⟩, -, h⟩ := bind_eq_ok h
        simp only at h
        split at h
        · obtain ⟨⟨json, r'⟩, hjson, h⟩ := bind_eq_ok h
          simp only at h
          split at h
          · obtain ⟨rfl, -⟩ := Prod.mk.inj (Except.ok.inj h)
            exact List.forall_mem_singleton.2 (hvalue hjson)
          · obtain ⟨⟨more, r''⟩, hmore, h⟩ := bind_eq_ok h
            obtain ⟨rfl, -⟩ := Prod.mk.inj (Except.ok.inj h)
            exact List.forall_mem_cons.2 ⟨hvalue hjson, hmembers hmore⟩
          · exact absurd h (by simp)
        · exact absurd h (by simp)
      · exact absurd h (by simp)

/-- Every value that is read from a text has distinct names. -/
theorem read_hasDistinctNames {text : List Char} {json : Json} (h : read text = .ok json) :
    json.HasDistinctNames := by
  unfold read at h
  split at h
  · exact absurd h (by simp [bind, Except.bind, throw, throwThe, MonadExceptOf.throw])
  obtain ⟨⟨found, rest⟩, hfound, h⟩ := bind_eq_ok h
  simp only at h
  split at h
  · obtain rfl := Except.ok.inj h
    exact (readers_hasDistinctNames _).1 hfound
  · exact absurd h (by simp [throw, throwThe, MonadExceptOf.throw])

end Reader

end Json

/-! ## JSON values as they stand -/

mutual

/-- A JSON value is told from every other by the value that it is as it stands. -/
theorem Value.ofJson_injective : ∀ {json json' : Json}, Value.ofJson json = .ofJson json' →
    json = json'
  | .null, json', h => by
    cases json' <;> simp only [Value.ofJson, reduceCtorEq] at h
    rfl
  | .bool _, json', h => by
    cases json' <;> simp only [Value.ofJson, Value.bool.injEq, reduceCtorEq] at h
    rw [h]
  | .int _, json', h => by
    cases json' <;> simp only [Value.ofJson, Value.int.injEq, reduceCtorEq] at h
    rw [h]
  | .float _, json', h => by
    cases json' <;> simp only [Value.ofJson, Value.float.injEq, reduceCtorEq] at h
    rw [h]
  | .str _, json', h => by
    cases json' <;> simp only [Value.ofJson, Value.str.injEq, reduceCtorEq] at h
    rw [h]
  | .array _, json', h => by
    cases json' <;> simp only [Value.ofJson, Value.list.injEq, reduceCtorEq] at h
    rw [valuesOfJson_injective h]
  | .object _, json', h => by
    cases json' <;> simp only [Value.ofJson, Value.dict.injEq, reduceCtorEq] at h
    rw [entriesOfJson_injective h]

theorem valuesOfJson_injective : ∀ {items items' : List Json},
    valuesOfJson items = valuesOfJson items' → items = items'
  | [], items', h => by
    cases items' <;> simp only [valuesOfJson, reduceCtorEq] at h
    rfl
  | item :: rest, items', h => by
    cases items' <;> simp only [valuesOfJson, List.cons.injEq, reduceCtorEq] at h
    rw [Value.ofJson_injective h.1, valuesOfJson_injective h.2]

theorem entriesOfJson_injective : ∀ {members members' : List (Text × Json)},
    entriesOfJson members = entriesOfJson members' → members = members'
  | [], members', h => by
    cases members' <;> simp only [entriesOfJson, reduceCtorEq] at h
    rfl
  | (name, item) :: rest, members', h => by
    rcases members' with _ | ⟨⟨name', item'⟩, rest'⟩
    · simp only [entriesOfJson, reduceCtorEq] at h
    · simp only [entriesOfJson, List.cons.injEq, Prod.mk.injEq, Value.str.injEq] at h
      obtain ⟨⟨rfl, hitem⟩, hrest⟩ := h
      rw [Value.ofJson_injective hitem, entriesOfJson_injective hrest]

end

/-! ## Values that are data -/

namespace Value

/-- The value holds no definition and no mark for a declared default. -/
def IsData (v : Value) : Prop :=
  ∀ x, v.Holds x → x ≠ .useDefault ∧ ∀ d, x ≠ .definition d

namespace IsData

protected lemma str (s : Text) : (Value.str s).IsData := by
  rintro x ⟨⟩
  exact ⟨by simp, by simp⟩

protected lemma float (f : Double) : (Value.float f).IsData := by
  rintro x ⟨⟩
  exact ⟨by simp, by simp⟩

protected lemma bytes (b : List UInt8) : (Value.bytes b).IsData := by
  rintro x ⟨⟩
  exact ⟨by simp, by simp⟩

/-- What a reference is to does not count. -/
protected lemma reference (entry : Value) : (Value.reference entry).IsData := by
  rintro x ⟨⟩
  exact ⟨by simp, by simp⟩

protected lemma list {items : List Value} (h : ∀ v ∈ items, v.IsData) :
    (Value.list items).IsData := by
  rintro x (_ | ⟨hv, hx⟩)
  · exact ⟨by simp, by simp⟩
  · exact h _ hv x hx

protected lemma dict {entries : List (Value × Value)} (h : ∀ e ∈ entries, e.2.IsData) :
    (Value.dict entries).IsData := by
  intro x hx
  cases hx with
  | self => exact ⟨by simp, by simp⟩
  | dict he hx => exact h _ he x hx

end IsData

end Value

namespace Definition

/-! ## What loading comes to -/

/-- The value is what some run makes of the JSON value. -/
def Loads (json : Json) (v : Value) : Prop :=
  ∃ entry world, (loadValue json entry world).1 = .ok v

lemma loadValue_ensures (json : Json) : (loadValue json).Ensures (Loads json) fun _ => True := by
  intro entry world
  rcases h : (loadValue json entry world).1 with failure | v
  · exact trivial
  · exact ⟨entry, world, h⟩

lemma Loads.of_ensures {json : Json} {v : Value} {P : Value → Prop}
    (h : (loadValue json).Ensures P fun _ => True) (hv : Loads json v) : P v := by
  obtain ⟨entry, world, hv⟩ := hv
  have hP := h entry world
  rw [hv] at hP
  exact hP

lemma loadItems_ensures (items : List Json) :
    (loadItems items).Ensures (fun vs => ∀ v ∈ vs, ∃ item ∈ items, Loads item v)
      fun _ => True := by
  refine loadItems_traverses.ensures (P := fun items vs => ∀ v ∈ vs, ∃ item ∈ items, Loads item v)
    (List.forall_mem_nil _) ?_ fun item _ => loadValue_ensures item
  intro item v rest vs hv hvs
  refine List.forall_mem_cons.2 ⟨⟨item, List.mem_cons_self, hv⟩, fun w hw => ?_⟩
  obtain ⟨source, hmem, hload⟩ := hvs w hw
  exact ⟨source, List.mem_cons_of_mem item hmem, hload⟩

/-- The keys of a dictionary are the names of its members, in their order. -/
lemma loadMembers_ensures (members : List (Text × Json)) :
    (loadMembers members).Ensures
      (fun es => es.map Prod.fst = members.map (fun e => .str e.1) ∧
        ∀ e ∈ es, ∃ m ∈ members, Loads m.2 e.2)
      fun _ => True := by
  refine loadMembers_traverses.ensures
    (P := fun members es => es.map Prod.fst = members.map (fun e => .str e.1) ∧
      ∀ e ∈ es, ∃ m ∈ members, Loads m.2 e.2)
    (R := fun m e => e.1 = .str m.1 ∧ Loads m.2 e.2) ⟨rfl, List.forall_mem_nil _⟩ ?_ fun m _ => ?_
  · rintro m e rest es ⟨hkey, hv⟩ ⟨hkeys, hes⟩
    refine ⟨by rw [List.map_cons, List.map_cons, hkey, hkeys], ?_⟩
    refine List.forall_mem_cons.2 ⟨⟨m, List.mem_cons_self, hv⟩, fun e' he => ?_⟩
    obtain ⟨source, hmem, hload⟩ := hes e' he
    exact ⟨source, List.mem_cons_of_mem m hmem, hload⟩
  · exact (loadValue_ensures m.2).bind fun v hv => .pure ⟨rfl, hv⟩

lemma loadValue_array_ensures (items : List Json) :
    (loadValue (.array items)).Ensures
      (fun v => ∃ vs, v = .list vs ∧ ∀ w ∈ vs, ∃ item ∈ items, Loads item w)
      fun _ => True := by
  rw [loadValue]
  exact (loadItems_ensures items).bind fun vs hvs => .pure ⟨vs, rfl, hvs⟩

lemma loadValue_plain_ensures {members : List (Text × Json)} (h : IsPlain members) :
    (loadValue (.object members)).Ensures
      (fun v => ∃ es, v = .dict es ∧ es.map Prod.fst = members.map (fun e => .str e.1) ∧
        ∀ e ∈ es, ∃ m ∈ members, Loads m.2 e.2)
      fun _ => True := by
  rw [loadValue_object_plain h]
  exact (loadMembers_ensures members).bind fun es hes => .pure ⟨es, rfl, hes⟩

/-- What an object of a single member with a meaning of its own is loaded to. -/
lemma loadValue_tagged_ensures {key : Text} {json : Json} (htag : key ∈ tags) :
    (loadValue (.object [(key, json)])).Ensures
      (fun v => v = .reference (.ofJson json) ∨ (∃ bytes, v = .bytes bytes) ∨ v = .useDefault ∨
        ∃ d, v = .definition d)
      fun _ => True := by
  rw [loadValue_singleton]
  -- the tags in the order in which they are looked at
  split
  · exact .pure (.inl rfl)
  · split
    · exact .pure (.inr (.inr (.inl rfl)))
    · split
      · unfold loadBytes
        split
        · split
          · exact .fail trivial
          · split
            · exact .pure (.inr (.inl ⟨_, rfl⟩))
            · exact .mistaken fun _ => trivial
        · exact .mistaken fun _ => trivial
      · -- no other tag is left
        rename_i href hdefault hbytes
        have hkey : (key == "$create") = true := by
          simp only [beq_iff_eq] at href hdefault hbytes ⊢
          simpa [tags, href, hdefault, hbytes] using htag
        rw [if_pos hkey]
        split
        · exact (Run.Ensures.always _).bind fun d _ => .pure (.inr (.inr (.inr ⟨d, rfl⟩)))
        · exact .mistaken fun _ => trivial

end Definition

open Definition

namespace Value

/-! ## Values that are loaded from their payload -/

/-- The payload of the value is JSON, and the value is loaded from it. -/
def Reloads (v : Value) : Prop :=
  ∃ json, .ofJson json = v.payload ∧ loadValue json = pure v

lemma reloads_reference (json : Json) : (Value.reference (.ofJson json)).Reloads := by
  refine ⟨.object [("$ref", json)], by with_unfolding_all rfl, ?_⟩
  rw [loadValue_singleton, if_pos (by decide)]

lemma mapM_basicChar?_of_isBasic {cs : List Char} (h : ∀ c ∈ cs, c.toNat < 0x80) :
    (cs.map Point.char).mapM basicChar? = some cs := by
  induction cs with
  | nil => rfl
  | cons c rest ih =>
    have hc : basicChar? (.char c) = some c := by
      rw [basicChar?, Point.char?, Option.filter_some, if_pos]
      exact decide_eq_true (h c List.mem_cons_self)
    rw [List.map_cons, List.mapM_cons, hc, ih fun c' hc' => h c' (List.mem_cons_of_mem c hc')]
    rfl

lemma reloads_bytes (bytes : List UInt8) : (Value.bytes bytes).Reloads := by
  refine ⟨.object [("$bytes", .str (Text.Base64.encode bytes))], by with_unfolding_all rfl, ?_⟩
  have hpoints : (Text.ofString (Text.Base64.encode bytes)).points =
      (Text.Base64.encodeChars bytes).map Point.char := by
    rw [Text.ofString, Text.Base64.encode, String.toList_ofList]
    rfl
  rw [loadValue_singleton, if_neg (by decide), if_neg (by decide), if_pos (by decide), loadBytes,
    hpoints, mapM_basicChar?_of_isBasic fun c => Text.Base64.isBasic_of_mem_encodeChars]
  simp only [Text.Base64.decode_encodeChars]

lemma items_reload {items : List Value} (h : ∀ v ∈ items, v.Reloads) :
    ∃ jsons, valuesOfJson jsons = itemsPayload items ∧ loadItems jsons = pure items := by
  induction items with
  | nil => exact ⟨[], rfl, rfl⟩
  | cons v rest ih =>
    obtain ⟨json, hjson, hload⟩ := h v List.mem_cons_self
    obtain ⟨jsons, hjsons, hloads⟩ := ih fun w hw => h w (List.mem_cons_of_mem v hw)
    refine ⟨json :: jsons, by rw [valuesOfJson, itemsPayload, hjson, hjsons], ?_⟩
    rw [loadItems, hload, hloads]
    simp only [pure_bind]

lemma reloads_list {items : List Value} (h : ∀ v ∈ items, v.Reloads) :
    (Value.list items).Reloads := by
  obtain ⟨jsons, hjsons, hloads⟩ := items_reload h
  refine ⟨.array jsons, by rw [ofJson, payload, hjsons], ?_⟩
  rw [loadValue, hloads]
  simp only [pure_bind]

/-- In the payload of a dictionary of texts every entry is kept. -/
lemma payload_dict {names : List Text} {entries : List (Value × Value)}
    (hkeys : entries.map Prod.fst = names.map .str) (hnames : names.Nodup) :
    (Value.dict entries).payload = .dict (entriesPayload entries) := by
  have htexts : (entries.map Prod.fst).Pairwise fun k k' =>
      (Value.str k.text == Value.str k'.text) = false := by
    rw [hkeys, List.pairwise_map]
    exact hnames.imp fun hne => Value.equal_str_of_ne hne
  have happart : (entriesPayload entries).Pairwise fun e e' => (e.1 == e'.1) = false := by
    rw [entriesPayload_eq_map, List.pairwise_map]
    exact List.pairwise_map.1 htexts
  rw [payload, Entries.ofList_of_apart happart]

/-- The entries of a dictionary of texts are loaded from members of these names. -/
lemma entries_reload {names : List Text} {entries : List (Value × Value)}
    (hkeys : entries.map Prod.fst = names.map .str) (h : ∀ e ∈ entries, e.2.Reloads) :
    ∃ members, members.map Prod.fst = names ∧
      entriesOfJson members = entriesPayload entries ∧ loadMembers members = pure entries := by
  induction entries generalizing names with
  | nil =>
    obtain rfl := List.map_eq_nil_iff.1 hkeys.symm
    exact ⟨[], rfl, rfl, rfl⟩
  | cons e rest ih =>
    obtain ⟨key, v⟩ := e
    obtain ⟨name, names, rfl, rfl, hrest⟩ := List.map_eq_cons_iff.1 hkeys.symm
    obtain ⟨json, hjson, hload⟩ := h (.str name, v) List.mem_cons_self
    obtain ⟨members, hfst, hpayload, hloads⟩ :=
      ih hrest.symm fun e he => h e (List.mem_cons_of_mem _ he)
    refine ⟨(name, json) :: members, by rw [List.map_cons, hfst], ?_, ?_⟩
    · rw [entriesOfJson, entriesPayload, hjson, hpayload]
      rfl
    · rw [loadMembers, hload, hloads]
      simp only [pure_bind]

/-- A dictionary of texts is loaded from its payload, unless it is one of a single member with a
meaning of its own. -/
lemma reloads_dict {names : List Text} {entries : List (Value × Value)}
    (hkeys : entries.map Prod.fst = names.map .str) (hnames : names.Nodup)
    (hplain : ∀ name, names = [name] → name ∉ tags) (h : ∀ e ∈ entries, e.2.Reloads) :
    (Value.dict entries).Reloads := by
  obtain ⟨members, hfst, hpayload, hloads⟩ := entries_reload hkeys h
  refine ⟨.object members, ?_, ?_⟩
  · rw [ofJson, hpayload, payload_dict hkeys hnames]
  · rw [loadValue_object_plain, hloads]
    · simp only [pure_bind]
    · rintro e rfl
      exact hplain e.1 (by rw [← hfst, List.map_singleton])

end Value

/-! ## Loading and loading again -/

/-- A value that is loaded as it stands is loaded again. -/
lemma Definition.Loads.reloads_self {json : Json} {v w : Value} (h : Loads json w)
    (hload : loadValue json = pure v) (hpayload : .ofJson json = v.payload) : w.Reloads := by
  have hw : w = v := by
    refine h.of_ensures (P := fun w => w = v) ?_
    rw [hload]
    exact .pure rfl
  exact ⟨json, hw ▸ hpayload, hw ▸ hload⟩

/-- What is loaded, and is data, is loaded again. -/
lemma Definition.Loads.reloads {json : Json} (hnames : json.HasDistinctNames) {v : Value}
    (h : Loads json v) (hv : v.IsData) : v.Reloads := by
  induction hnames generalizing v with
  | null => exact h.reloads_self (by rw [loadValue]) (by rw [Value.ofJson, Value.payload])
  | bool b => exact h.reloads_self (by rw [loadValue]) (by rw [Value.ofJson, Value.payload])
  | int i => exact h.reloads_self (by rw [loadValue]) (by rw [Value.ofJson, Value.payload])
  | float x => exact h.reloads_self (by rw [loadValue]) (by rw [Value.ofJson, Value.payload])
  | str s => exact h.reloads_self (by rw [loadValue]) (by rw [Value.ofJson, Value.payload])
  | @array items _ ih =>
    obtain ⟨vs, rfl, hvs⟩ := h.of_ensures (loadValue_array_ensures items)
    refine Value.reloads_list fun w hw => ?_
    obtain ⟨item, hitem, hload⟩ := hvs w hw
    exact ih item hitem hload fun x hx => hv x (.list hw hx)
  | @object members hdistinct _ ih =>
    by_cases hplain : IsPlain members
    · obtain ⟨es, rfl, hkeys, hes⟩ := h.of_ensures (loadValue_plain_ensures hplain)
      have hnames : es.map Prod.fst = (members.map Prod.fst).map .str := by
        rw [hkeys, List.map_map]
        rfl
      refine Value.reloads_dict hnames hdistinct ?_ fun e he => ?_
      · intro name hname
        obtain ⟨e, rfl, rfl⟩ := List.map_eq_singleton_iff.1 hname
        exact hplain e rfl
      · obtain ⟨m, hm, hload⟩ := hes e he
        exact ih m hm hload fun x hx => hv x (.dict he hx)
    · obtain ⟨⟨key, json⟩, rfl, htag⟩ : ∃ e, members = [e] ∧ e.1 ∈ tags := by
        simpa [IsPlain] using hplain
      rcases h.of_ensures (loadValue_tagged_ensures htag) with rfl | ⟨bytes, rfl⟩ | rfl | ⟨d, rfl⟩
      · exact Value.reloads_reference json
      · exact Value.reloads_bytes bytes
      · exact absurd rfl (hv _ (.self _)).1
      · exact absurd rfl ((hv _ (.self _)).2 d)

/-- What was loaded, and holds no definition and no mark for a declared default, has a payload that
is JSON, and is loaded from that JSON as it is, without a failure and without any effect. -/
theorem loadValue_payload {json : Json} (hnames : json.HasDistinctNames) {entry : Option Value}
    {world : World} {v : Value} (hload : (loadValue json entry world).1 = .ok v) (hv : v.IsData) :
    (∃ json', .ofJson json' = v.payload) ∧
      ∀ json', .ofJson json' = v.payload → loadValue json' = pure v := by
  have hloads : Loads json v := ⟨entry, world, hload⟩
  obtain ⟨json₀, hpayload, hreload⟩ := hloads.reloads hnames hv
  refine ⟨⟨json₀, hpayload⟩, fun json' hpayload' => ?_⟩
  rw [Value.ofJson_injective (hpayload'.trans hpayload.symm), hreload]

/-- An object in which marks stand together, and so are names like others, with an object of each
kind below them.  The last bits of the text of the bytes belong to none of them, so that the payload
has another text for the same bytes. -/
def mixedMarks : Json :=
  .object [("$ref", .str "log"),
    ("$bytes", .array [.object [("$ref", .object [("$default", .bool true)])],
      .object [("$bytes", .str "YWJ=")], .object [("zoo", .float .nan)]])]

theorem loadValue_payload_mixedMarks :
    mixedMarks.HasDistinctNames ∧
      ∃ v, (loadValue mixedMarks none {}).1 = .ok v ∧ v.IsData ∧
        (∃ json', .ofJson json' = v.payload) ∧
          ∀ json', .ofJson json' = v.payload → loadValue json' = pure v := by
  have hnames : mixedMarks.HasDistinctNames := by
    refine .object (by decide) ?_
    simp only [List.forall_mem_cons]
    refine ⟨.str _, .array ?_, List.forall_mem_nil _⟩
    simp only [List.forall_mem_cons]
    refine ⟨.object (by decide) ?_, .object (by decide) ?_, .object (by decide) ?_,
      List.forall_mem_nil _⟩
    · exact List.forall_mem_singleton.2
        (.object (by decide) (List.forall_mem_singleton.2 (.bool true)))
    · exact List.forall_mem_singleton.2 (.str _)
    · exact List.forall_mem_singleton.2 (.float _)
  have hload : (loadValue mixedMarks none {}).1 =
      .ok (.dict [(.str "$ref", .str "log"),
        (.str "$bytes", .list [.reference (.dict [(.str "$default", .bool true)]),
          .bytes [97, 98], .dict [(.str "zoo", .float .nan)]])]) := by
    with_unfolding_all rfl
  have hdata : (Value.dict [(.str "$ref", .str "log"),
      (.str "$bytes", .list [.reference (.dict [(.str "$default", .bool true)]),
        .bytes [97, 98], .dict [(.str "zoo", .float .nan)]])]).IsData := by
    refine .dict ?_
    simp only [List.forall_mem_cons]
    refine ⟨.str _, .list ?_, List.forall_mem_nil _⟩
    simp only [List.forall_mem_cons]
    exact ⟨.reference _, .bytes _, .dict (List.forall_mem_singleton.2 (.float _)),
      List.forall_mem_nil _⟩
  exact ⟨hnames, _, hload, hdata, loadValue_payload hnames hload hdata⟩

end Blueprint
