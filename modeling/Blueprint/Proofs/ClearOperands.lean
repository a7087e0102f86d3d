/-
# Clear operands

The payload of an operand puts bytes, references and nested objects into dictionaries, and turns
the keys of a dictionary into texts.  So there are operands that have the payload of another one:
a dictionary of a single member `$ref` has that of a reference, and a dictionary with a number among
its keys has that of the dictionary with the text of the number instead, and may lose an entry by
it.

The operands without such dictionaries are the *clear* ones (`Value.IsClear`), and the payloads of
two clear operands are equal just where the operands are (`equal_payload`), whatever stands where in
them.  What is to be shown is that a plain dictionary does not have the payload of anything else
(`Value.not_matches_of_isPlainDict`): if it had, each of its members could be read off that payload,
and it would look tagged.

Equality is that of values: a truth value equals its number, and dictionaries have no order.
-/
import Blueprint.Proofs.Comparing
import Blueprint.Proofs.Reloading
import Mathlib.Data.List.Forall2
import Mathlib.Data.List.Nodup
import Mathlib.Data.List.Perm.Subperm

namespace Blueprint

/-- Everything in the second of two lists that are aligned has its counterpart in the first. -/
lemma exists_of_forall₂ {α β : Type} {R : α → β → Prop} {xs : List α} {ys : List β}
    (h : List.Forall₂ R xs ys) {y : β} (hy : y ∈ ys) : ∃ x ∈ xs, R x y := by
  induction h with
  | nil => exact absurd hy List.not_mem_nil
  | @cons x y' xs ys hR _ ih =>
    rcases List.mem_cons.1 hy with rfl | hy
    · exact ⟨x, List.mem_cons_self, hR⟩
    · obtain ⟨x', hx', hR'⟩ := ih hy
      exact ⟨x', List.mem_cons_of_mem x hx', hR'⟩

/-! ## Operands -/

/-- The keys are texts, each once. -/
def KeyedByTexts (entries : List (Value × Value)) : Prop :=
  ∃ names : List Text, entries.map Prod.fst = names.map .str ∧ names.Nodup

/-- A member for every part, with a value as the part wants it, and no other member. -/
def Comprises (entries : List (Value × Value)) (shape : List (Text × (Value → Prop))) : Prop :=
  entries.length = shape.length ∧ ∀ part ∈ shape, ∃ v, (.str part.1, v) ∈ entries ∧ part.2 v

/-- The value is a text. -/
def Value.IsText (v : Value) : Prop :=
  ∃ s, v = .str s

/-- The value is a list. -/
def Value.IsList (v : Value) : Prop :=
  ∃ items, v = .list items

/-- The value is a list of texts. -/
def Value.IsTextList (v : Value) : Prop :=
  ∃ texts, v = textList texts

/-- The value is a dictionary like the payload of an instruction. -/
inductive Value.LooksLikeStep : Value → Prop where
  | construct {entries : List (Value × Value)}
      (h : Comprises entries [("op", (· = .str "Construct")), ("class_name", IsText),
        ("args", IsList), ("kwnames", IsTextList)]) :
      LooksLikeStep (.dict entries)
  | assign {entries : List (Value × Value)}
      (h : Comprises entries [("op", (· = .str "AssignField")), ("field_name", IsText),
        ("value", fun _ => True)]) :
      LooksLikeStep (.dict entries)
  | invoke {entries : List (Value × Value)}
      (h : Comprises entries [("op", (· = .str "InvokeMethod")), ("method_name", IsText),
        ("args", IsList), ("kwnames", IsTextList)]) :
      LooksLikeStep (.dict entries)
  | placeholder {entries : List (Value × Value)} {items : List Value}
      (h : Comprises entries [("op", (· = .str "InstallLazyPlaceholder")), ("class_name", IsText),
        ("initializer", (· = .list items))])
      (hitems : ∀ item ∈ items, LooksLikeStep item) :
      LooksLikeStep (.dict entries)

/-- A dictionary of these entries is like the payload of something that is no dictionary. -/
inductive LooksTagged (entries : List (Value × Value)) : Prop where
  | reference (h : Comprises entries [("$ref", fun _ => True)])
  | bytes {bytes : List UInt8}
      (h : Comprises entries [("$bytes", (· = .str (Text.Base64.encode bytes)))])
  | nested {items : List Value}
      (h : Comprises entries [("op", (· = .str "NestedObject")), ("class_name", Value.IsText),
        ("instructions", (· = .list items))])
      (hitems : ∀ item ∈ items, item.LooksLikeStep)

mutual

/-- The value is built of null, truth values, whole numbers, texts, bytes, references by a name that
equals itself, nested objects, lists, and dictionaries with the property. -/
inductive Value.IsBuilt (property : List (Value × Value) → Prop) : Value → Prop where
  | null : Value.IsBuilt property .null
  | bool (b : Bool) : Value.IsBuilt property (.bool b)
  | int (i : Int) : Value.IsBuilt property (.int i)
  | str (s : Text) : Value.IsBuilt property (.str s)
  | bytes (bytes : List UInt8) : Value.IsBuilt property (.bytes bytes)
  | reference {entry : Value} (h : entry.equal false entry = true) :
      Value.IsBuilt property (.reference entry)
  | list {items : List Value} (h : ∀ v ∈ items, Value.IsBuilt property v) :
      Value.IsBuilt property (.list items)
  | nested {className : Text} {plan : Plan} (h : ∀ step ∈ plan, Instruction.IsBuilt property step) :
      Value.IsBuilt property (.nested className plan)
  | dict {entries : List (Value × Value)} (hentries : property entries)
      (h : ∀ e ∈ entries, Value.IsBuilt property e.2) : Value.IsBuilt property (.dict entries)

/-- The operands of the instruction are built so. -/
inductive Instruction.IsBuilt (property : List (Value × Value) → Prop) : Instruction → Prop where
  | construct {className : Text} {arguments : List Value} {keywords : List Text}
      (h : ∀ v ∈ arguments, Value.IsBuilt property v) :
      Instruction.IsBuilt property (.construct className arguments keywords)
  | assign {field : Text} {value : Value} (h : Value.IsBuilt property value) :
      Instruction.IsBuilt property (.assign field value)
  | invoke {method : Text} {arguments : List Value} {keywords : List Text}
      (h : ∀ v ∈ arguments, Value.IsBuilt property v) :
      Instruction.IsBuilt property (.invoke method arguments keywords)
  | placeholder {className : Text} {plan : Plan}
      (h : ∀ step ∈ plan, Instruction.IsBuilt property step) :
      Instruction.IsBuilt property (.placeholder className plan)

end

/-- No two keys are equal, as in every dictionary. -/
def KeysApart (entries : List (Value × Value)) : Prop :=
  entries.Pairwise fun e e' => e.1.equal false e'.1 = false

/-- The value is no literal that is an object of a class of its own: such a class decides by itself
what the literal is displayed as. -/
def Value.IsOfBuiltin (v : Value) : Prop :=
  ∀ form literal, v ≠ .derived form literal

/-- The entries of a dictionary whose keys are displayed as what they are. -/
structure IsOperandDict (entries : List (Value × Value)) : Prop where
  apart : KeysApart entries
  builtin : ∀ e ∈ entries, e.1.IsOfBuiltin

/-- The dictionary of these entries is told from everything else by its payload. -/
structure IsPlainDict (entries : List (Value × Value)) : Prop where
  keyed : KeyedByTexts entries
  untagged : ¬ LooksTagged entries

/-- What can stand as an operand, tuples and doubles left out. -/
def Value.IsOperand (v : Value) : Prop :=
  v.IsBuilt IsOperandDict

/-- An operand of which every dictionary is plain. -/
def Value.IsClear (v : Value) : Prop :=
  v.IsBuilt IsPlainDict

/-! ## Dictionaries and their payloads -/

lemma Text.ofString_beq (s t : String) : ((s : Text) == (t : Text)) = (s == t) := by
  have hchar : Function.Injective Point.char := fun _ _ h => Point.char.inj h
  rw [Bool.eq_iff_iff, beq_iff_eq, beq_iff_eq]
  refine ⟨fun h => ?_, congrArg Text.ofString⟩
  exact String.toList_injective (hchar.list_map (congrArg Text.points h))

/-- A value is the text that it equals, unless it is an object of a class of its own. -/
lemma Value.eq_str_of_scalar? {v : Value} {s : Text} (h : v.scalar? = some (.str s))
    (hv : v.IsOfBuiltin) : v = .str s := by
  cases v with
  | str t => simpa using h
  | derived form literal => exact absurd rfl (hv form literal)
  | _ => simp at h

namespace KeyedByTexts

variable {entries : List (Value × Value)}

lemma key (h : KeyedByTexts entries) {e : Value × Value} (he : e ∈ entries) :
    ∃ name, e.1 = .str name := by
  obtain ⟨names, hkeys, -⟩ := h
  obtain ⟨name, -, hname⟩ := List.mem_map.1 (hkeys ▸ List.mem_map_of_mem (f := Prod.fst) he)
  exact ⟨name, hname.symm⟩

lemma isOfBuiltin (h : KeyedByTexts entries) {e : Value × Value} (he : e ∈ entries) :
    e.1.IsOfBuiltin := by
  obtain ⟨name, hname⟩ := h.key he
  rw [hname]
  exact fun _ _ => Value.noConfusion

lemma payload (h : KeyedByTexts entries) :
    (Value.dict entries).payload = .dict (entries.map fun e => (e.1, e.2.payload)) := by
  obtain ⟨names, hkeys, hnames⟩ := id h
  rw [Value.payload_dict hkeys hnames, entriesPayload_eq_map]
  refine congrArg Value.dict (List.map_congr_left fun e he => ?_)
  obtain ⟨name, hname⟩ := h.key he
  rw [hname]
  rfl

lemma unique (h : KeyedByTexts entries) {key v w : Value} (hv : (key, v) ∈ entries)
    (hw : (key, w) ∈ entries) : v = w := by
  obtain ⟨names, hkeys, hnames⟩ := h
  have hnodup : (entries.map Prod.fst).Nodup :=
    hkeys ▸ hnames.map fun _ _ => Value.str.inj
  exact congrArg Prod.snd (List.inj_on_of_nodup_map hnodup hv hw rfl)

end KeyedByTexts

/-! ## Reading a payload back -/

/-- The values are equal in one of the two orders of comparing them. -/
def Value.Matches (v w : Value) : Prop :=
  v.equal false w = true ∨ w.equal false v = true

/-- A dictionary that matches a record has a member for each of its parts. -/
lemma KeyedByTexts.comprises_of_matches {entries : List (Value × Value)}
    {parts : List (Text × Value)} (hentries : KeyedByTexts entries)
    (hparts : (parts.map Prod.fst).Nodup)
    (h : (Value.dict entries).payload.Matches (record parts)) :
    Comprises entries (parts.map fun p => (p.1, fun v => v.payload.Matches p.2)) := by
  rw [hentries.payload, record] at h
  refine ⟨?_, List.forall_mem_map.2 fun p hp => ?_⟩
  · rw [List.length_map]
    rcases h with h | h
    · simpa using (Value.equal_dict_iff.1 h).1
    · simpa using (Value.equal_dict_iff.1 h).1.symm
  · rcases h with h | h
    · obtain ⟨hlength, h⟩ := Value.equal_dict_iff.1 h
      rw [List.length_map, List.length_map] at hlength
      obtain ⟨names, hkeys, hnames⟩ := hentries
      have hfound : ∀ e ∈ entries, ∃ p ∈ parts,
          e.1 = .str p.1 ∧ e.2.payload.equal false p.2 = true := by
        intro e he
        obtain ⟨e', he', hkey, hvalue⟩ := h _ (List.mem_map_of_mem he)
        obtain ⟨p, hp, rfl⟩ := List.mem_map.1 he'
        have hbuiltin := KeyedByTexts.isOfBuiltin ⟨names, hkeys, hnames⟩ he
        exact ⟨p, hp, Value.eq_str_of_scalar? (Value.equal_str_iff.1 hkey) hbuiltin, hvalue⟩
      -- there are as many parts as members, so no part is without a member
      have hsubset : names ⊆ parts.map Prod.fst := by
        intro name hname
        obtain ⟨e, he, hkey⟩ := List.mem_map.1 (hkeys ▸ List.mem_map_of_mem hname)
        obtain ⟨p, hp, hkey', -⟩ := hfound e he
        have heq : Value.str name = .str p.1 := hkey.symm.trans hkey'
        exact Value.str.inj heq ▸ List.mem_map_of_mem hp
      have hsame : names.length = (parts.map Prod.fst).length := by
        have hlengths := congrArg List.length hkeys
        rw [List.length_map, List.length_map] at hlengths
        rw [← hlengths, hlength, List.length_map]
      have hperm : names.Perm (parts.map Prod.fst) :=
        (hnames.subperm hsubset).perm_of_length_le (Nat.le_of_eq hsame.symm)
      obtain ⟨e, he, hkey⟩ := List.mem_map.1
        (hkeys ▸ List.mem_map_of_mem (hperm.mem_iff.2 (List.mem_map_of_mem hp)))
      obtain ⟨p', hp', hkey', hvalue⟩ := hfound e he
      obtain rfl : p' = p := List.inj_on_of_nodup_map hparts hp' hp
        (Value.str.inj (hkey'.symm.trans hkey))
      exact ⟨e.2, hkey ▸ he, .inl hvalue⟩
    · obtain ⟨e', he', hkey, hvalue⟩ := (Value.equal_dict_iff.1 h).2 _ (List.mem_map_of_mem hp)
      obtain ⟨e, he, rfl⟩ := List.mem_map.1 he'
      have hname : e.1 = .str p.1 :=
        Value.eq_str_of_scalar? (Value.str_equal_iff.1 hkey) (hentries.isOfBuiltin he)
      exact ⟨e.2, hname ▸ he, .inr hvalue⟩

lemma Comprises.mono {entries : List (Value × Value)} {shape shape' : List (Text × (Value → Prop))}
    (h : Comprises entries shape)
    (hshape : List.Forall₂ (fun part part' =>
      part.1 = part'.1 ∧ ∀ v, (.str part.1, v) ∈ entries → part.2 v → part'.2 v) shape shape') :
    Comprises entries shape' := by
  refine ⟨h.1.trans hshape.length_eq, fun part' hpart' => ?_⟩
  obtain ⟨part, hpart, hname, himp⟩ := exists_of_forall₂ hshape hpart'
  obtain ⟨v, hmem, hv⟩ := h.2 part hpart
  exact ⟨v, hname ▸ hmem, himp v hmem hv⟩

/-- Records are not equal in which other texts stand under a name. -/
lemma equal_record_of_ne {key s t : Text} {parts parts' : List (Text × Value)} (hne : s ≠ t)
    (hkey : key ∉ parts'.map Prod.fst) :
    (record ((key, .str s) :: parts)).equal false (record ((key, .str t) :: parts')) = false := by
  rw [Bool.eq_false_iff]
  intro h
  rw [record, record, Value.equal_dict_iff] at h
  obtain ⟨e', he', hsame, hvalue⟩ := h.2 _ (List.mem_map_of_mem List.mem_cons_self)
  obtain ⟨p, hp, rfl⟩ := List.mem_map.1 he'
  have hname : key = p.1 := by
    simpa [eq_comm] using Value.str_equal_iff.1 hsame
  rcases List.mem_cons.1 hp with rfl | hp
  · exact hne (by simpa using Value.equal_str_iff.1 hvalue)
  · exact hkey (hname ▸ List.mem_map_of_mem hp)

namespace Value

variable {v : Value}

lemma IsClear.of_mem {entries : List (Value × Value)} (h : (Value.dict entries).IsClear)
    {e : Value × Value} (he : e ∈ entries) : e.2.IsClear := by
  cases h with
  | dict _ h => exact h e he

lemma IsClear.keyed {entries : List (Value × Value)} (h : (Value.dict entries).IsClear) :
    KeyedByTexts entries := by
  cases h with
  | dict hplain _ => exact hplain.keyed

lemma IsClear.isOfBuiltin (h : v.IsClear) : v.IsOfBuiltin := by
  cases h <;> exact fun _ _ => Value.noConfusion

lemma IsClear.item {items : List Value} (h : (Value.list items).IsClear) {v : Value}
    (hv : v ∈ items) : v.IsClear := by
  cases h with
  | list h => exact h v hv

lemma eq_str_of_matches (hv : v.IsClear) {s : Text} (h : v.payload.Matches (.str s)) :
    v = .str s := by
  have hpayload : v.payload.scalar? = some (.str s) := h.elim equal_str_iff.1 str_equal_iff.1
  cases hv with
  | str t => simpa [payload] using hpayload
  | _ => simp [payload, record] at hpayload

lemma list_of_matches (hv : v.IsClear) {items : List Value} (h : v.payload.Matches (.list items)) :
    ∃ vs, v = .list vs ∧ List.Forall₂ (fun v item => v.payload.Matches item) vs items := by
  cases hv with
  | @list vs hvs =>
    refine ⟨vs, rfl, ?_⟩
    rw [payload, itemsPayload_eq_map] at h
    rcases h with h | h
    · rw [equal, equalAll_iff, List.forall₂_map_left_iff] at h
      exact h.imp fun _ _ => .inl
    · rw [equal, equalAll_iff, List.forall₂_map_right_iff] at h
      exact h.flip.imp fun _ _ => .inr
  | _ => simp [Matches, payload, record, equal, number?] at h

lemma isList_of_matches (hv : v.IsClear) {items : List Value}
    (h : v.payload.Matches (.list items)) : v.IsList := by
  obtain ⟨vs, hvs, -⟩ := list_of_matches hv h
  exact ⟨vs, hvs⟩

lemma isTextList_of_matches (hv : v.IsClear) {texts : List Text}
    (h : v.payload.Matches (textList texts)) : v.IsTextList := by
  obtain ⟨vs, rfl, hvs⟩ := list_of_matches hv h
  rw [List.forall₂_map_right_iff] at hvs
  have heq : List.Forall₂ (· = ·) vs (texts.map .str) := by
    rw [List.forall₂_map_right_iff]
    have hclear : ∀ w ∈ vs, w.IsClear := fun w hw => hv.item hw
    exact ((List.forall₂_and_left _ _).2 ⟨hclear, hvs⟩).imp fun _ _ h => eq_str_of_matches h.1 h.2
  rw [List.forall₂_eq_eq_eq] at heq
  exact ⟨texts, by rw [heq, textList]⟩

/-- The payload of an instruction has several members. -/
lemma exists_dict_of_step {step : Instruction} {property} (hstep : step.IsBuilt property) :
    ∃ e e' more, instructionPayload step = .dict (e :: e' :: more) := by
  cases hstep <;> exact ⟨_, _, _, rfl⟩

lemma dict_of_matches_step (hv : v.IsClear) {step : Instruction} {property}
    (hstep : step.IsBuilt property) (h : v.payload.Matches (instructionPayload step)) :
    ∃ entries, v = .dict entries ∧ KeyedByTexts entries := by
  cases hv with
  | @dict entries hplain _ => exact ⟨entries, rfl, hplain.keyed⟩
  | @nested className plan _ =>
    have hne : (nested className plan).payload.equal false (instructionPayload step) = false ∧
        (instructionPayload step).equal false (nested className plan).payload = false := by
      cases hstep <;>
        exact ⟨equal_record_of_ne (by decide) (by simp only [List.map]; decide),
          equal_record_of_ne (by decide) (by simp only [List.map]; decide)⟩
    exact absurd h (by simp [Matches, hne.1, hne.2])
  | _ =>
    obtain ⟨e, e', more, hpayload⟩ := exists_dict_of_step hstep
    rw [hpayload] at h
    simp [Matches, payload, record, equal, number?] at h

/-- What has the payload of an instruction looks like one. -/
theorem looksLikeStep_of_matches {property} : ∀ {step : Instruction} {v : Value},
    step.IsBuilt property → v.IsClear → v.payload.Matches (instructionPayload step) →
      v.LooksLikeStep
  | .construct className arguments keywords, v, hstep, hv, h => by
    obtain ⟨entries, rfl, hkeyed⟩ := dict_of_matches_step hv hstep h
    have hparts := hkeyed.comprises_of_matches (by simp only [List.map]; decide) h
    refine .construct (hparts.mono ?_)
    refine .cons ⟨rfl, fun w hw => eq_str_of_matches (hv.of_mem hw)⟩ ?_
    refine .cons ⟨rfl, fun w hw h => ⟨_, eq_str_of_matches (hv.of_mem hw) h⟩⟩ ?_
    refine .cons ⟨rfl, fun w hw h => isList_of_matches (hv.of_mem hw) h⟩ ?_
    exact .cons ⟨rfl, fun w hw h => isTextList_of_matches (hv.of_mem hw) h⟩ .nil
  | .assign field value, v, hstep, hv, h => by
    obtain ⟨entries, rfl, hkeyed⟩ := dict_of_matches_step hv hstep h
    have hparts := hkeyed.comprises_of_matches (by simp only [List.map]; decide) h
    refine .assign (hparts.mono ?_)
    refine .cons ⟨rfl, fun w hw => eq_str_of_matches (hv.of_mem hw)⟩ ?_
    refine .cons ⟨rfl, fun w hw h => ⟨_, eq_str_of_matches (hv.of_mem hw) h⟩⟩ ?_
    exact .cons ⟨rfl, fun _ _ _ => trivial⟩ .nil
  | .invoke method arguments keywords, v, hstep, hv, h => by
    obtain ⟨entries, rfl, hkeyed⟩ := dict_of_matches_step hv hstep h
    have hparts := hkeyed.comprises_of_matches (by simp only [List.map]; decide) h
    refine .invoke (hparts.mono ?_)
    refine .cons ⟨rfl, fun w hw => eq_str_of_matches (hv.of_mem hw)⟩ ?_
    refine .cons ⟨rfl, fun w hw h => ⟨_, eq_str_of_matches (hv.of_mem hw) h⟩⟩ ?_
    refine .cons ⟨rfl, fun w hw h => isList_of_matches (hv.of_mem hw) h⟩ ?_
    exact .cons ⟨rfl, fun w hw h => isTextList_of_matches (hv.of_mem hw) h⟩ .nil
  | .placeholder className initializer, v, hstep, hv, h => by
    obtain ⟨entries, rfl, hkeyed⟩ := dict_of_matches_step hv hstep h
    have hparts := hkeyed.comprises_of_matches (by simp only [List.map]; decide) h
    obtain ⟨w, hw, hmatch⟩ := hparts.2 ("initializer", _)
      (.tail _ (.tail _ (.head _)))
    obtain ⟨items, rfl, hitems⟩ := list_of_matches (hv.of_mem hw) hmatch
    have hsteps : ∀ item ∈ items, item.LooksLikeStep := by
      rw [planPayload_eq_map, List.forall₂_map_right_iff] at hitems
      intro item hitem
      obtain ⟨step, hmem, hstep'⟩ := exists_of_forall₂ hitems.flip hitem
      cases hstep with
      | placeholder hplan =>
        exact looksLikeStep_of_matches (hplan step hmem) ((hv.of_mem hw).item hitem) hstep'
    refine .placeholder (hparts.mono ?_) hsteps
    refine .cons ⟨rfl, fun w hw => eq_str_of_matches (hv.of_mem hw)⟩ ?_
    refine .cons ⟨rfl, fun w hw h => ⟨_, eq_str_of_matches (hv.of_mem hw) h⟩⟩ ?_
    exact .cons ⟨rfl, fun v hv _ => hkeyed.unique hv hw⟩ .nil
  | .stray _, _, hstep, _, _ => nomatch hstep

lemma looksLikeSteps_of_matches {property} {plan : Plan} {items : List Value}
    (hplan : ∀ step ∈ plan, step.IsBuilt property) (hv : (Value.list items).IsClear)
    (h : List.Forall₂ (fun v item => v.payload.Matches item) items (planPayload plan)) :
    ∀ item ∈ items, item.LooksLikeStep := by
  rw [planPayload_eq_map, List.forall₂_map_right_iff] at h
  intro item hitem
  obtain ⟨step, hmem, hstep⟩ := exists_of_forall₂ h.flip hitem
  exact looksLikeStep_of_matches (hplan step hmem) (hv.item hitem) hstep

/-- A plain dictionary does not have the payload of anything but dictionaries. -/
lemma not_matches_of_isPlainDict {entries : List (Value × Value)}
    (hv : (Value.dict entries).IsClear) {w : Value} (hw : w.IsClear)
    (hdict : ∀ others, w ≠ .dict others) :
    ¬ (Value.dict entries).payload.Matches w.payload := by
  intro h
  have hplain : IsPlainDict entries := by
    cases hv with
    | dict hplain _ => exact hplain
  refine hplain.untagged ?_
  cases hw with
  | reference _ =>
    have hparts := hplain.keyed.comprises_of_matches (by simp only [List.map]; decide) h
    exact .reference (hparts.mono (.cons ⟨rfl, fun _ _ _ => trivial⟩ .nil))
  | bytes bytes =>
    have hparts := hplain.keyed.comprises_of_matches (by simp only [List.map]; decide) h
    exact .bytes (hparts.mono (.cons ⟨rfl, fun w hw => eq_str_of_matches (hv.of_mem hw)⟩ .nil))
  | nested hplan =>
    have hparts := hplain.keyed.comprises_of_matches (by simp only [List.map]; decide) h
    obtain ⟨w, hw, hmatch⟩ := hparts.2 ("instructions", _) (.tail _ (.tail _ (.head _)))
    obtain ⟨items, rfl, hitems⟩ := list_of_matches (hv.of_mem hw) hmatch
    have hsteps := looksLikeSteps_of_matches hplan (hv.of_mem hw) hitems
    refine .nested (hparts.mono ?_) hsteps
    refine .cons ⟨rfl, fun w hw => eq_str_of_matches (hv.of_mem hw)⟩ ?_
    refine .cons ⟨rfl, fun w hw h => ⟨_, eq_str_of_matches (hv.of_mem hw) h⟩⟩ ?_
    exact .cons ⟨rfl, fun v hv _ => hplain.keyed.unique hv hw⟩ .nil
  | dict _ _ => exact absurd rfl (hdict _)
  | _ => simp [Matches, payload, equal, number?] at h

end Value

/-! ## Clear operands are told apart -/

lemma equalAll_payload {xs ys : List Value}
    (h : ∀ x ∈ xs, ∀ y ∈ ys, x.payload.equal false y.payload = x.equal false y) :
    equalAll false (itemsPayload xs) (itemsPayload ys) = equalAll false xs ys := by
  induction xs generalizing ys with
  | nil => cases ys <;> rfl
  | cons x xs ih =>
    cases ys with
    | nil => rfl
    | cons y ys =>
      rw [itemsPayload, itemsPayload, equalAll, equalAll,
        h x List.mem_cons_self y List.mem_cons_self,
        ih fun x' hx y' hy => h x' (List.mem_cons_of_mem x hx) y' (List.mem_cons_of_mem y hy)]

lemma equalAll_planPayload {plan plan' : Plan}
    (h : ∀ s ∈ plan, ∀ t ∈ plan',
      (instructionPayload s).equal false (instructionPayload t) = equalInstructions false s t) :
    equalAll false (planPayload plan) (planPayload plan') = equalPlans false plan plan' := by
  induction plan generalizing plan' with
  | nil => cases plan' <;> rfl
  | cons s plan ih =>
    cases plan' with
    | nil => rfl
    | cons t plan' =>
      rw [planPayload, planPayload, equalAll, equalPlans,
        h s List.mem_cons_self t List.mem_cons_self,
        ih fun s' hs t' ht => h s' (List.mem_cons_of_mem s hs) t' (List.mem_cons_of_mem t ht)]

lemma equal_textList (xs ys : List Text) :
    (textList xs).equal false (textList ys) = (xs == ys) := by
  rw [textList, textList, Value.equal]
  induction xs generalizing ys with
  | nil => cases ys <;> rfl
  | cons x xs ih =>
    cases ys with
    | nil => rfl
    | cons y ys =>
      rw [List.map_cons, List.map_cons, equalAll, ih, List.cons_beq_cons]
      congr 1
      rw [Bool.eq_iff_iff, Value.equal_str_iff]
      simp

lemma encode_inj {bytes bytes' : List UInt8} :
    Text.Base64.encode bytes = Text.Base64.encode bytes' ↔ bytes = bytes' := by
  refine ⟨fun h => ?_, congrArg _⟩
  have hchars : Text.Base64.encodeChars bytes = Text.Base64.encodeChars bytes' :=
    String.ofList_injective h
  have hdecoded := Text.Base64.decode_encodeChars bytes
  rw [hchars, Text.Base64.decode_encodeChars] at hdecoded
  exact (Except.ok.inj hdecoded).symm

lemma equal_payload_dict {entries others : List (Value × Value)} (he : KeyedByTexts entries)
    (ho : KeyedByTexts others)
    (h : ∀ e ∈ entries, ∀ e' ∈ others,
      e.2.payload.equal false e'.2.payload = e.2.equal false e'.2) :
    (Value.dict entries).payload.equal false (Value.dict others).payload =
      (Value.dict entries).equal false (.dict others) := by
  rw [he.payload, ho.payload, Bool.eq_iff_iff, Value.equal_dict_iff, Value.equal_dict_iff,
    List.length_map, List.length_map, List.forall_mem_map]
  refine and_congr_right fun _ => forall₂_congr fun e hmem => ?_
  constructor
  · rintro ⟨_, hmem', hkey, hvalue⟩
    obtain ⟨e', he', rfl⟩ := List.mem_map.1 hmem'
    exact ⟨e', he', hkey, (h e hmem e' he') ▸ hvalue⟩
  · rintro ⟨e', he', hkey, hvalue⟩
    exact ⟨_, List.mem_map_of_mem he', hkey, (h e hmem e' he').symm ▸ hvalue⟩

/-- Neither a dictionary and anything else nor their payloads are equal, in either order. -/
lemma equal_payload_of_dict {entries : List (Value × Value)} (hv : (Value.dict entries).IsClear)
    {w : Value} (hw : w.IsClear) (hdict : ∀ others, w ≠ .dict others) :
    (Value.dict entries).payload.equal false w.payload = (Value.dict entries).equal false w ∧
      w.payload.equal false (Value.dict entries).payload = w.equal false (.dict entries) := by
  have hpayload := Value.not_matches_of_isPlainDict hv hw hdict
  have hvalue :
      (Value.dict entries).equal false w = false ∧ w.equal false (.dict entries) = false := by
    cases hw with
    | dict _ _ => exact absurd rfl (hdict _)
    | _ => simp [Value.equal, Value.number?]
  rw [hvalue.1, hvalue.2]
  exact ⟨Bool.eq_false_iff.2 fun h => hpayload (.inl h),
    Bool.eq_false_iff.2 fun h => hpayload (.inr h)⟩

mutual

/-- The payloads of clear operands are equal just where the operands are. -/
theorem equal_payload : ∀ {v w : Value}, v.IsBuilt IsPlainDict → w.IsBuilt IsPlainDict →
    v.payload.equal false w.payload = v.equal false w
  | _, w, .null, hw => by
    cases hw <;> simp [Value.payload, record, Value.equal]
  | _, w, .bool b, hw => by
    cases hw <;> simp [Value.payload, record, Value.equal, Value.number?]
  | _, w, .int i, hw => by
    cases hw <;> simp [Value.payload, record, Value.equal, Value.number?]
  | _, w, .str s, hw => by
    cases hw <;> simp [Value.payload, record, Value.equal]
  | _, w, .bytes bytes, hw => by
    cases hw with
    | dict hplain h =>
      exact (equal_payload_of_dict (.dict hplain h) (.bytes bytes) (by simp)).2
    | _ => simp [Value.payload, record, Value.equal, equalEntries, Text.ofString_beq, encode_inj]
  | _, w, .reference hentry, hw => by
    cases hw with
    | dict hplain h =>
      exact (equal_payload_of_dict (.dict hplain h) (.reference hentry) (by simp)).2
    | _ => simp [Value.payload, record, Value.equal, equalEntries, Text.ofString_beq]
  | _, w, .list hitems, hw => by
    cases hw with
    | list hothers =>
      rw [Value.payload, Value.payload, Value.equal, Value.equal]
      exact equalAll_payload fun x hx y hy => equal_payload (hitems x hx) (hothers y hy)
    | _ => simp [Value.payload, record, Value.equal]
  | _, w, .nested hplan, hw => by
    cases hw with
    | dict hplain h =>
      exact (equal_payload_of_dict (.dict hplain h) (.nested hplan) (by simp)).2
    | nested hothers =>
      have hsteps := equalAll_planPayload fun s hs t ht =>
        equal_instructionPayload (hplan s hs) (hothers t ht)
      simp [Value.payload, record, Value.equal, equalEntries, Text.ofString_beq, hsteps]
    | _ => simp [Value.payload, record, Value.equal, equalEntries, Text.ofString_beq]
  | _, w, .dict hplain h, hw => by
    by_cases hdict : ∃ others, w = .dict others
    · obtain ⟨others, rfl⟩ := hdict
      cases hw with
      | dict hplain' h' =>
        exact equal_payload_dict hplain.keyed hplain'.keyed fun e he e' he' =>
          equal_payload (h e he) (h' e' he')
    · exact (equal_payload_of_dict (.dict hplain h) hw fun others hw => hdict ⟨others, hw⟩).1

/-- The same of the payloads of instructions. -/
theorem equal_instructionPayload : ∀ {s t : Instruction}, s.IsBuilt IsPlainDict →
    t.IsBuilt IsPlainDict →
      (instructionPayload s).equal false (instructionPayload t) = equalInstructions false s t
  | _, t, .construct hitems, ht => by
    cases ht with
    | construct hothers =>
      have hsame := equalAll_payload fun x hx y hy => equal_payload (hitems x hx) (hothers y hy)
      simp [instructionPayload, equalInstructions, record, Value.equal, equalEntries,
        Text.ofString_beq, hsame, equal_textList, Bool.and_assoc]
    | _ => exact equal_record_of_ne (by decide) (by simp only [List.map]; decide)
  | _, t, .assign hvalue, ht => by
    cases ht with
    | assign hother =>
      have hsame := equal_payload hvalue hother
      simp [instructionPayload, equalInstructions, record, Value.equal, equalEntries,
        Text.ofString_beq, hsame]
    | _ => exact equal_record_of_ne (by decide) (by simp only [List.map]; decide)
  | _, t, .invoke hitems, ht => by
    cases ht with
    | invoke hothers =>
      have hsame := equalAll_payload fun x hx y hy => equal_payload (hitems x hx) (hothers y hy)
      simp [instructionPayload, equalInstructions, record, Value.equal, equalEntries,
        Text.ofString_beq, hsame, equal_textList, Bool.and_assoc]
    | _ => exact equal_record_of_ne (by decide) (by simp only [List.map]; decide)
  | _, t, .placeholder hplan, ht => by
    cases ht with
    | placeholder hothers =>
      have hsame := equalAll_planPayload fun s hs t ht =>
        equal_instructionPayload (hplan s hs) (hothers t ht)
      simp [instructionPayload, equalInstructions, record, Value.equal, equalEntries,
        Text.ofString_beq, hsame]
    | _ => exact equal_record_of_ne (by decide) (by simp only [List.map]; decide)

end

end Blueprint
