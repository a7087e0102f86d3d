/-
# What reading a payload fails of

Reading an entry fails of a text that passes for a number or for bytes and is neither, of a number
with too many digits, or of a mistake.  A mistake belongs to the entry that is open when it is
found: the one that is read, or one that is nested in the payload (`Json.Nests`), which goes by its
class.  What is wrong with the head of an entry says its name (`HeadMistake`); what is wrong with
its other parts does not (`PartMistake`).

The failure of each reader is followed down to the part of the payload that it is of; the induction
is on the size of the payload.
-/
import Blueprint.Proofs.Failing
import Blueprint.Proofs.Loading

namespace Blueprint

open Run

/-- A text was taken for a number, or for bytes, and is neither; or a number is too long. -/
inductive Failure.IsMisread : Failure → Prop where
  /-- A number has too many digits to be read, or to be written in a message. -/
  | longNumber (digits : Option Nat) : IsMisread (.longNumber digits)
  /-- Digits are no decimal numeral. -/
  | notDecimal (text : Text) : IsMisread (.notDecimal text)
  /-- Bytes leave the basic characters. -/
  | foreignBase64 : IsMisread .foreignBase64

/-- Something is wrong with the head of an entry, and says the name of the entry. -/
inductive HeadMistake (name : Value) : Mistake → Prop where
  | entryShape : HeadMistake name (.entryShape name)
  | unknownKeys (keys : List Text) : HeadMistake name (.unknownKeys name keys)
  | classShape : HeadMistake name (.classShape name)
  | lazyShape : HeadMistake name (.lazyShape name)

/-- Something is wrong with a part of an entry, and says no name. -/
inductive PartMistake : Mistake → Prop where
  | fieldsShape : PartMistake .fieldsShape
  | methodsShape : PartMistake .methodsShape
  | methodShape : PartMistake .methodShape
  | argumentKey (label key : Text) : PartMistake (.argumentKey label key)
  | argumentsShape (label : Text) : PartMistake (.argumentsShape label)
  | bytesType (typeName : Text) : PartMistake (.bytesType typeName)
  | bytesText (fault : Text.Base64.Fault) : PartMistake (.bytesText fault)
  | nestedShape : PartMistake .nestedShape

/-- An entry of these members is nested in the payload, at any depth. -/
inductive Json.Nests : Json → List (Text × Json) → Prop where
  /-- The payload is the entry with its mark. -/
  | here (members : List (Text × Json)) : Nests (.object [("$create", .object members)]) members
  /-- In an item. -/
  | item {items : List Json} {item : Json} {members : List (Text × Json)} (hmem : item ∈ items)
      (h : Nests item members) : Nests (.array items) members
  /-- In a member. -/
  | member {outer : List (Text × Json)} {e : Text × Json} {members : List (Text × Json)}
      (hmem : e ∈ outer) (h : Nests e.2 members) : Nests (.object outer) members

namespace Definition

/-- What reading fails of while an entry is open, given the payload that nested entries stand in. -/
inductive ReadingFault (json : Json) (current : Option Value) : Failure → Prop where
  /-- A text is misread. -/
  | misread {failure : Failure} (h : failure.IsMisread) : ReadingFault json current failure
  /-- A part of the entry is wrong. -/
  | part {cause : Mistake} (h : PartMistake cause) :
      ReadingFault json current (.mistake ⟨cause, current⟩)
  /-- The head of a nested entry is wrong. -/
  | nestedHead {members : List (Text × Json)} {cause : Mistake} (hnests : json.Nests members)
      (h : HeadMistake (nestedName members) cause) :
      ReadingFault json current (.mistake ⟨cause, Value.entry? (nestedName members)⟩)
  /-- A part of a nested entry is wrong, which has a class. -/
  | nestedPart {members : List (Text × Json)} {className : Text} {cause : Mistake}
      (hnests : json.Nests members) (hclass : nestedName members = .str className)
      (h : PartMistake cause) : ReadingFault json current (.mistake ⟨cause, some (.str className)⟩)

variable {current : Option Value} {failure : Failure}

lemma ReadingFault.of_nests {part json : Json} (h : ReadingFault part current failure)
    (hnests : ∀ members, part.Nests members → json.Nests members) :
    ReadingFault json current failure := by
  cases h with
  | misread h => exact .misread h
  | part h => exact .part h
  | nestedHead hn h => exact .nestedHead (hnests _ hn) h
  | nestedPart hn hclass h => exact .nestedPart (hnests _ hn) hclass h

/-! ## Readers -/

lemma loadKey_fault {json : Json} {key : Text} (h : Fails current failure (loadKey key)) :
    ReadingFault json current failure := by
  unfold loadKey Position.ofDigits at h
  dsimp only at h
  by_cases hlong : Json.Reader.digitLimit <
      (key.points.takeWhile fun p => (Text.decimalPoint? p).isSome).length
  · rw [if_pos hlong] at h
    obtain rfl := h.of_fail
    exact .misread (.longNumber (some _))
  · rw [if_neg hlong] at h
    rcases hdecimal : Text.decimal? key with _ | n <;> rw [hdecimal] at h
    · obtain rfl := h.of_fail
      exact .misread (.notDecimal key)
    · exact absurd h Fails.not_pure

/-- Arguments fail as one of their values or keys does. -/
lemma loadArguments_fault {label : Text} {json : Json}
    (hpart : ∀ part, sizeOf part < sizeOf json → ∀ failure,
      Fails current failure (loadValue part) → ReadingFault part current failure)
    (h : Fails current failure (loadArguments label json)) : ReadingFault json current failure := by
  cases json with
  | array items =>
    rw [loadArguments] at h
    obtain ⟨i, item, hi, -, h⟩ := Fails.of_traverses loadItems_traverses h.of_map
    have hmem : item ∈ items := List.mem_of_getElem? hi
    exact (hpart item (sizeOf_item hmem) failure h).of_nests fun members hn => .item hmem hn
  | object members =>
    rw [loadArguments] at h
    obtain ⟨i, e, hi, -, h⟩ := Fails.of_traverses (loadKeyed_traverses label) h.of_map
    have hmem : e ∈ members := List.mem_of_getElem? hi
    rcases hkey : Position.isKey e.1 with _ | _
    · rw [loadKeyedOne_of_not_isKey hkey] at h
      obtain rfl := h.of_mistaken
      exact .part (.argumentKey label e.1)
    · rw [loadKeyedOne_of_isKey hkey] at h
      rcases h.of_bind with h | ⟨v, -, h⟩
      · have hsize := Nat.lt_trans (sizeOf_member hmem) (sizeOf_members members)
        exact (hpart e.2 hsize failure h).of_nests fun inner hn => .member hmem hn
      · exact loadKey_fault h.of_map
  | _ =>
    simp only [loadArguments] at h
    obtain rfl := h.of_mistaken
    exact .part (.argumentsShape label)

lemma nests_of_get? {key : Text} {members inner : List (Text × Json)} {json : Json}
    (h : Entries.get? key members = some json) (hn : json.Nests inner) :
    (Json.object members).Nests inner :=
  .member (Entries.mem_of_get? h) hn

lemma nests_of_fieldContent {json : Json} {inner : List (Text × Json)}
    (h : (fieldContent json).Nests inner) : json.Nests inner := by
  unfold fieldContent at h
  -- the content is that of a member of a wrapped value, or the value itself
  split at h
  · split at h
    · exact .member (List.mem_singleton_self _) h
    · exact h
  · split at h
    · exact .member List.mem_cons_self h
    · split at h
      · exact .member (List.mem_cons_of_mem _ List.mem_cons_self) h
      · exact h
  · exact h

/-- An entry is refused for a mistake that says the name of the entry, if that can be written. -/
lemma refuseEntry_fault {α : Type} {name : Value} {cause : Value → Mistake}
    (h : Fails current failure (refuseEntry name cause : Run α)) :
    failure = .mistake ⟨cause name, current⟩ ∨ failure = .longNumber none := by
  unfold refuseEntry Run.ifWritten at h
  split at h
  · exact .inl h.of_mistaken
  · exact .inr h.of_fail

/-- The head of an entry fails of a mistake that says the name of the entry, if that can be
written. -/
lemma loadHead_fault {name : Value} {members : List (Text × Json)}
    (h : Fails current failure (loadHead name members)) :
    (∃ cause, HeadMistake name cause ∧ failure = .mistake ⟨cause, current⟩) ∨
      failure = .longNumber none := by
  rcases loadHead_cases name members with ⟨cause, hcause, hhead⟩ | ⟨className, isLazy, -, hhead⟩
  · rw [hhead] at h
    refine (refuseEntry_fault h).imp_left fun h => ⟨cause name, ?_, h⟩
    simp only [List.mem_cons, List.not_mem_nil, or_false] at hcause
    rcases hcause with rfl | rfl | rfl
    · exact .unknownKeys _
    · exact .classShape
    · exact .lazyShape
  · rw [hhead] at h
    exact absurd h Fails.not_pure

/-- An entry has to have a class for its parts to be read. -/
lemma nestedName_of_loadHead {name : Value} {members : List (Text × Json)} {head : Text × Bool}
    (h : (loadHead name members).Yields (fun _ => True) head) :
    ∃ className, nestedName members = .str className := by
  obtain ⟨entry, world, -, h⟩ := h
  rcases loadHead_cases name members with ⟨cause, -, hhead⟩ | ⟨className, isLazy, hclass, -⟩
  · rw [hhead] at h
    unfold refuseEntry Run.ifWritten at h
    split at h <;> exact absurd h nofun
  · exact ⟨className, by rw [nestedName, hclass]; rfl⟩

section Parts

variable {members : List (Text × Json)}
  (hpart : ∀ part, sizeOf part < sizeOf members → ∀ current failure,
    Fails current failure (loadValue part) → ReadingFault part current failure)

include hpart

lemma loadConstructor_fault (h : Fails current failure (loadConstructor members)) :
    ReadingFault (.object members) current failure := by
  rw [loadConstructor_eq] at h
  split at h
  · exact absurd h Fails.not_pure
  · rename_i json hget
    have hfault := loadArguments_fault
      (fun part hlt => hpart part (Nat.lt_trans hlt (sizeOf_get? hget)) _) h.of_map
    exact hfault.of_nests fun inner hn => nests_of_get? hget hn

lemma loadFields_fault (h : Fails current failure (loadFields members)) :
    ReadingFault (.object members) current failure := by
  rw [loadFields_eq] at h
  split at h
  · exact absurd h Fails.not_pure
  · rename_i fields hget
    obtain ⟨i, e, hi, -, h⟩ := Fails.of_traverses loadFieldBindings_traverses h
    have hmem : e ∈ fields := List.mem_of_getElem? hi
    have hsize := Nat.lt_trans (sizeOf_members fields) (sizeOf_get? hget)
    have hfault :=
      hpart (fieldContent e.2) (Nat.lt_trans (sizeOf_content hmem) hsize) _ _ h.of_map
    exact hfault.of_nests fun inner hn =>
      nests_of_get? hget (.member hmem (nests_of_fieldContent hn))
  · obtain rfl := h.of_mistaken
    exact .part .fieldsShape

lemma loadMethodArguments_fault {label : Text}
    (h : Fails current failure (loadMethodArguments label members)) :
    ReadingFault (.object members) current failure := by
  rw [loadMethodArguments_eq] at h
  split at h
  · exact absurd h Fails.not_pure
  · rename_i json hargs
    have hfault := loadArguments_fault
      (fun part hlt => hpart part (Nat.lt_trans hlt (sizeOf_get? hargs)) _) h
    exact hfault.of_nests fun inner hn => nests_of_get? hargs hn

end Parts

lemma loadMethodBinding_fault {item : Json}
    (hpart : ∀ part, sizeOf part < sizeOf item → ∀ current failure,
      Fails current failure (loadValue part) → ReadingFault part current failure)
    (h : Fails current failure (loadMethodBinding item)) : ReadingFault item current failure := by
  cases item with
  | object method =>
    rw [loadMethodBinding] at h
    split at h
    · exact loadMethodArguments_fault
        (fun part hlt => hpart part (Nat.lt_trans hlt (sizeOf_members method))) h.of_map
    · obtain rfl := h.of_mistaken
      exact .part .methodShape
  | _ =>
    simp only [loadMethodBinding] at h
    obtain rfl := h.of_mistaken
    exact .part .methodShape

lemma loadMethods_fault {members : List (Text × Json)}
    (hpart : ∀ part, sizeOf part < sizeOf members → ∀ current failure,
      Fails current failure (loadValue part) → ReadingFault part current failure)
    (h : Fails current failure (loadMethods members)) :
    ReadingFault (.object members) current failure := by
  rw [loadMethods_eq] at h
  split at h
  · exact absurd h Fails.not_pure
  · rename_i items hget
    obtain ⟨i, item, hi, -, h⟩ := Fails.of_traverses loadMethodBindings_traverses h
    have hmem : item ∈ items := List.mem_of_getElem? hi
    have hsize := Nat.lt_trans (sizeOf_item hmem) (sizeOf_get? hget)
    have hfault := loadMethodBinding_fault
      (fun part hlt => hpart part (Nat.lt_trans hlt hsize)) h
    exact hfault.of_nests fun inner hn => nests_of_get? hget (.item hmem hn)
  · obtain rfl := h.of_mistaken
    exact .part .methodsShape

/-- An entry fails of its head, or of its name, or of one of its parts. -/
lemma loadEntry_object_fault {name : Value} {members : List (Text × Json)}
    (hpart : ∀ part, sizeOf part < sizeOf members → ∀ current failure,
      Fails current failure (loadValue part) → ReadingFault part current failure)
    (h : Fails current failure (loadEntry name (.object members))) :
    ((∃ cause, HeadMistake name cause ∧ failure = .mistake ⟨cause, name.entry?⟩) ∨
        failure = .longNumber none) ∨
      (∃ className, nestedName members = .str className) ∧
        ReadingFault (.object members) name.entry? failure := by
  rw [loadEntry] at h
  -- the head, the constructor, the fields and the methods are read in turn
  rcases h.of_within.of_bind with h | ⟨head, hhead, h⟩
  · exact .inl (loadHead_fault h)
  refine .inr ⟨nestedName_of_loadHead hhead, ?_⟩
  rcases h.of_bind with h | ⟨constructor, -, h⟩
  · exact loadConstructor_fault hpart h
  rcases h.of_bind with h | ⟨fields, -, h⟩
  · exact loadFields_fault hpart h
  · exact loadMethods_fault hpart h.of_map

lemma loadBytes_fault {json payload : Json} (h : Fails current failure (loadBytes json)) :
    ReadingFault payload current failure := by
  cases json with
  | str text =>
    simp only [loadBytes] at h
    rcases hcs : text.points.mapM basicChar? with _ | cs <;> rw [hcs] at h
    · obtain rfl := h.of_fail
      exact .misread .foreignBase64
    · simp only at h
      split at h
      · exact absurd h Fails.not_pure
      · obtain rfl := h.of_mistaken
        exact .part (.bytesText _)
  | _ =>
    obtain rfl := h.of_mistaken
    exact .part (.bytesType _)

/-- A value fails of a part of it, or in an entry that is nested in it. -/
theorem loadValue_fault {json : Json} (h : Fails current failure (loadValue json)) :
    ReadingFault json current failure := by
  induction json using payloadInduct generalizing current failure with
  | array items ih =>
    rw [loadValue] at h
    obtain ⟨i, item, hi, -, h⟩ := Fails.of_traverses loadItems_traverses h.of_map
    have hmem : item ∈ items := List.mem_of_getElem? hi
    exact (ih item hmem h).of_nests fun members hn => .item hmem hn
  | plain members hplain ih =>
    rw [loadValue_object_plain hplain] at h
    obtain ⟨i, e, hi, -, h⟩ := Fails.of_traverses loadMembers_traverses h.of_map
    have hmem : e ∈ members := List.mem_of_getElem? hi
    exact (ih e hmem h.of_map).of_nests fun inner hn => .member hmem hn
  | tagged key json htag ih =>
    -- a reference, the default, bytes, a nested entry, and any other member
    rw [loadValue_singleton] at h
    split at h
    · exact absurd h Fails.not_pure
    split at h
    · exact absurd h Fails.not_pure
    split at h
    · exact loadBytes_fault h
    split at h
    · rename_i hkey
      obtain rfl : key = "$create" := by simpa using hkey
      cases json with
      | object members =>
        have hfault := loadEntry_object_fault (fun part hlt current failure hfails =>
          ih part (Nat.le_of_lt (Nat.lt_trans hlt (sizeOf_members members))) hfails) h.of_map
        rcases hfault with (⟨cause, hcause, rfl⟩ | rfl) | ⟨⟨className, hclass⟩, hfault⟩
        · exact .nestedHead (.here members) hcause
        · exact .misread (.longNumber none)
        cases hfault with
        | misread hmisread => exact .misread hmisread
        | part hcause =>
          rw [hclass]
          exact .nestedPart (.here members) hclass hcause
        | nestedHead hn hcause =>
          exact .nestedHead (.member (List.mem_singleton_self _) hn) hcause
        | nestedPart hn hclass hcause =>
          exact .nestedPart (.member (List.mem_singleton_self _) hn) hclass hcause
      | _ =>
        obtain rfl := h.of_mistaken
        exact .part .nestedShape
    · exact (ih json (Nat.le_refl _) h.of_map).of_nests
        fun inner hn => .member (List.mem_singleton_self _) hn
  | _ =>
    rw [loadValue] at h
    exact absurd h Fails.not_pure

/-- What reading an entry fails of: a text that is misread, or a mistake of the entry itself or of
one that is nested in it, which bears the name of that entry. -/
inductive EntryFault (name : Value) (json : Json) : Failure → Prop where
  /-- The head of the entry is wrong. -/
  | head {cause : Mistake} (h : HeadMistake name cause) :
      EntryFault name json (.mistake ⟨cause, name.entry?⟩)
  /-- A text is misread, or a part of the entry or an entry that is nested in it is wrong. -/
  | reading {failure : Failure} (h : ReadingFault json name.entry? failure) :
      EntryFault name json failure

theorem loadEntry_fault {name : Value} {json : Json}
    (h : Fails current failure (loadEntry name json)) : EntryFault name json failure := by
  cases json with
  | object members =>
    rcases loadEntry_object_fault (fun part _ current failure h => loadValue_fault h) h with
      (⟨cause, hcause, rfl⟩ | rfl) | ⟨-, hfault⟩
    · exact .head hcause
    · exact .reading (.misread (.longNumber none))
    · exact .reading hfault
  | _ =>
    simp only [loadEntry] at h
    rcases refuseEntry_fault h.of_within with rfl | rfl
    · exact .head .entryShape
    · exact .reading (.misread (.longNumber none))

/-- A definition has the name that it was read under. -/
lemma loadEntry_name (name : Value) (json : Json) :
    (loadEntry name json).Ensures (fun d => d.name = name) fun _ => True := by
  cases json with
  | object members =>
    -- whatever the parts come to, the name is put in as it was given
    rw [loadEntry]
    refine Ensures.within ?_ _
    refine Ensures.bind (.always _) fun head _ => ?_
    refine Ensures.bind (.always _) fun constructor _ => ?_
    refine Ensures.bind (.always _) fun fields _ => ?_
    exact Ensures.bind (.always _) fun methods _ => .pure rfl
  | _ =>
    simp only [loadEntry]
    refine Ensures.within ?_ _
    unfold refuseEntry Run.ifWritten
    split
    · exact .mistaken fun _ => trivial
    · exact .fail trivial

end Definition

end Blueprint
