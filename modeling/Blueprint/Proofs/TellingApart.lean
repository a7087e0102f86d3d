/-
# What payloads tell apart

Payloads tell clear operands apart.  Clear operands are also all that there is to tell: the payload
of every operand is that of a clear one (`exists_isClear`), so an operand that is not clear shares
its payload with one that is, and does not equal it, since what equals a clear operand is clear
(`isClear_of_equal`).  Together this says which dictionaries an export cannot be read back from, and
that it can be from all others (`payload_tells_apart`).

A clear operand for a payload is found from the inside out: each dictionary gets the texts of its
keys and clear values, and where it then looks tagged, it is the reference, the bytes or the nested
object that it looks like.
-/
import Blueprint.Proofs.ClearOperands

namespace Blueprint

/-! ## Every payload is that of a clear operand -/

mutual

/-- A clear operand equals itself. -/
theorem equal_self_of_isClear : ∀ {v : Value}, v.IsBuilt IsPlainDict → v.equal false v = true
  | _, .null => by simp [Value.equal]
  | _, .bool b => by simp [Value.equal, Value.number?, numbersEqual]
  | _, .int i => by simp [Value.equal, Value.number?, numbersEqual]
  | _, .str s => by simp [Value.equal]
  | _, .bytes bytes => by simp [Value.equal]
  | _, .reference hentry => by simpa [Value.equal] using hentry
  | _, .list hitems => by
    rw [Value.equal, equalAll_iff, List.forall₂_same]
    exact fun v hv => equal_self_of_isClear (hitems v hv)
  | _, .nested hplan => by
    have hsteps := equalPlans_iff.2 (List.forall₂_same.2 fun s hs =>
      equalInstructions_self_of_isClear (hplan s hs))
    simp [Value.equal, hsteps]
  | _, .dict hplain h => by
    refine Value.equal_dict_iff.2 ⟨rfl, fun e he => ⟨e, he, ?_, equal_self_of_isClear (h e he)⟩⟩
    obtain ⟨name, hname⟩ := hplain.keyed.key he
    rw [hname]
    exact Value.str_equal_iff.2 rfl

theorem equalInstructions_self_of_isClear : ∀ {s : Instruction}, s.IsBuilt IsPlainDict →
    equalInstructions false s s = true
  | _, .construct hitems => by
    have hsame := equalAll_iff.2 (List.forall₂_same.2 fun v hv =>
      equal_self_of_isClear (hitems v hv))
    simp [equalInstructions, hsame]
  | _, .assign hvalue => by
    simp [equalInstructions, equal_self_of_isClear hvalue]
  | _, .invoke hitems => by
    have hsame := equalAll_iff.2 (List.forall₂_same.2 fun v hv =>
      equal_self_of_isClear (hitems v hv))
    simp [equalInstructions, hsame]
  | _, .placeholder hplan => by
    have hsteps := equalPlans_iff.2 (List.forall₂_same.2 fun s hs =>
      equalInstructions_self_of_isClear (hplan s hs))
    simp [equalInstructions, hsteps]

end

/-- A record has the payload of a dictionary, up to equality, if each of its parts has that of the
member of its name. -/
lemma record_equal_of_members {entries : List (Value × Value)} (hkeyed : KeyedByTexts entries)
    {parts : List (Text × Value)} (hlength : entries.length = parts.length)
    (hparts : ∀ part ∈ parts, ∃ w, (.str part.1, w) ∈ entries ∧
      ∀ q, w.payload.equal false q = true → part.2.equal false q = true)
    {q : Value} (h : (Value.dict entries).payload.equal false q = true) :
    (record parts).equal false q = true := by
  rw [hkeyed.payload] at h
  cases q with
  | dict others =>
    obtain ⟨hlength', h⟩ := Value.equal_dict_iff.1 h
    rw [List.length_map] at hlength'
    refine Value.equal_dict_iff.2 ⟨by rw [List.length_map, ← hlength, hlength'], ?_⟩
    refine List.forall_mem_map.2 fun part hpart => ?_
    obtain ⟨w, hw, hstands⟩ := hparts part hpart
    obtain ⟨e', he', hkey, hvalue⟩ := h _ (List.mem_map_of_mem hw)
    exact ⟨e', he', hkey, hstands _ hvalue⟩
  | _ => simp [Value.equal] at h

lemma textList_payload (texts : List Text) : (textList texts).payload = textList texts := by
  rw [textList, Value.payload, itemsPayload_eq_map, List.map_map]
  exact congrArg Value.list (List.map_congr_left fun t _ => by
    rw [Function.comp_apply, Value.payload])

lemma exists_forall₂ {α β : Type} {P : β → Prop} {R : β → α → Prop} {xs : List α}
    (h : ∀ x ∈ xs, ∃ y, P y ∧ R y x) : ∃ ys, (∀ y ∈ ys, P y) ∧ List.Forall₂ R ys xs := by
  induction xs with
  | nil => exact ⟨[], List.forall_mem_nil _, .nil⟩
  | cons x xs ih =>
    obtain ⟨y, hP, hR⟩ := h x List.mem_cons_self
    obtain ⟨ys, hPs, hRs⟩ := ih fun x' hx' => h x' (List.mem_cons_of_mem x hx')
    exact ⟨y :: ys, List.forall_mem_cons.2 ⟨hP, hPs⟩, .cons hR hRs⟩

/-- Whatever equals the payload of the value equals that of the instruction. -/
def Instruction.StandsFor (step : Instruction) (v : Value) : Prop :=
  ∀ q, v.payload.equal false q = true → (instructionPayload step).equal false q = true

lemma steps_equal_of_standsFor {plan : Plan} {items : List Value}
    (h : List.Forall₂ Instruction.StandsFor plan items) {q : Value}
    (hq : (Value.list items).payload.equal false q = true) :
    (Value.list (planPayload plan)).equal false q = true := by
  rw [Value.payload] at hq
  cases q with
  | list others =>
    rw [Value.equal] at hq ⊢
    induction h generalizing others with
    | nil => exact hq
    | cons hstep _ ih =>
      cases others with
      | nil => exact absurd hq (by simp [itemsPayload, equalAll])
      | cons other others =>
        rw [itemsPayload, equalAll, Bool.and_eq_true] at hq
        obtain ⟨hfirst, hrest⟩ := hq
        rw [planPayload, equalAll, Bool.and_eq_true]
        exact ⟨hstep other hfirst, ih others hrest⟩
  | _ => simp [Value.equal] at hq

/-- What looks like a step has the payload of one. -/
theorem exists_step_of_looksLikeStep {v : Value} (h : v.LooksLikeStep) (hv : v.IsClear) :
    ∃ step : Instruction, step.IsBuilt IsPlainDict ∧ step.StandsFor v := by
  induction h with
  | construct h =>
    obtain ⟨hlength, hparts⟩ := h
    simp only [List.forall_mem_cons] at hparts
    obtain ⟨⟨_, hop, rfl⟩, ⟨_, hclass, c, rfl⟩, ⟨_, has, vs, rfl⟩, ⟨_, hks, ks, rfl⟩, -⟩ := hparts
    refine ⟨.construct c vs ks, .construct fun v => (hv.of_mem has).item, fun q hq => ?_⟩
    refine record_equal_of_members hv.keyed hlength ?_ hq
    simp only [List.forall_mem_cons]
    exact ⟨⟨_, hop, fun q hq => hq⟩, ⟨_, hclass, fun q hq => hq⟩, ⟨_, has, fun q hq => hq⟩,
      ⟨_, hks, fun q hq => textList_payload ks ▸ hq⟩, List.forall_mem_nil _⟩
  | assign h =>
    obtain ⟨hlength, hparts⟩ := h
    simp only [List.forall_mem_cons] at hparts
    obtain ⟨⟨_, hop, rfl⟩, ⟨_, hfield, f, rfl⟩, ⟨w, hw, -⟩, -⟩ := hparts
    refine ⟨.assign f w, .assign (hv.of_mem hw), fun q hq => ?_⟩
    refine record_equal_of_members hv.keyed hlength ?_ hq
    simp only [List.forall_mem_cons]
    exact ⟨⟨_, hop, fun q hq => hq⟩, ⟨_, hfield, fun q hq => hq⟩, ⟨_, hw, fun q hq => hq⟩,
      List.forall_mem_nil _⟩
  | invoke h =>
    obtain ⟨hlength, hparts⟩ := h
    simp only [List.forall_mem_cons] at hparts
    obtain ⟨⟨_, hop, rfl⟩, ⟨_, hmethod, m, rfl⟩, ⟨_, has, vs, rfl⟩, ⟨_, hks, ks, rfl⟩, -⟩ := hparts
    refine ⟨.invoke m vs ks, .invoke fun v => (hv.of_mem has).item, fun q hq => ?_⟩
    refine record_equal_of_members hv.keyed hlength ?_ hq
    simp only [List.forall_mem_cons]
    exact ⟨⟨_, hop, fun q hq => hq⟩, ⟨_, hmethod, fun q hq => hq⟩, ⟨_, has, fun q hq => hq⟩,
      ⟨_, hks, fun q hq => textList_payload ks ▸ hq⟩, List.forall_mem_nil _⟩
  | placeholder h hitems ih =>
    obtain ⟨hlength, hparts⟩ := h
    simp only [List.forall_mem_cons] at hparts
    obtain ⟨⟨_, hop, rfl⟩, ⟨_, hclass, c, rfl⟩, ⟨_, his, rfl⟩, -⟩ := hparts
    obtain ⟨plan, hplan, hstands⟩ :=
      exists_forall₂ fun item hitem => ih item hitem ((hv.of_mem his).item hitem)
    refine ⟨.placeholder c plan, .placeholder hplan, fun q hq => ?_⟩
    refine record_equal_of_members hv.keyed hlength ?_ hq
    simp only [List.forall_mem_cons]
    exact ⟨⟨_, hop, fun q hq => hq⟩, ⟨_, hclass, fun q hq => hq⟩,
      ⟨_, his, fun q hq => steps_equal_of_standsFor hstands hq⟩, List.forall_mem_nil _⟩

/-- What looks tagged has the payload of something clear that is no dictionary. -/
lemma exists_of_looksTagged {entries : List (Value × Value)} (hkeyed : KeyedByTexts entries)
    (hvalues : ∀ e ∈ entries, e.2.IsClear) (h : LooksTagged entries) :
    ∃ c : Value, c.IsClear ∧
      ∀ q, (Value.dict entries).payload.equal false q = true → c.payload.equal false q = true := by
  cases h with
  | reference h =>
    obtain ⟨hlength, hparts⟩ := h
    obtain ⟨w, hw, -⟩ := List.forall_mem_singleton.1 hparts
    have hself : w.payload.equal false w.payload = true := by
      rw [equal_payload (hvalues _ hw) (hvalues _ hw)]
      exact equal_self_of_isClear (hvalues _ hw)
    refine ⟨.reference w.payload, .reference hself, fun q hq => ?_⟩
    rw [Value.payload]
    refine record_equal_of_members hkeyed hlength ?_ hq
    exact List.forall_mem_singleton.2 ⟨w, hw, fun q hq => hq⟩
  | @bytes bytes h =>
    obtain ⟨hlength, hparts⟩ := h
    obtain ⟨_, hw, rfl⟩ := List.forall_mem_singleton.1 hparts
    refine ⟨.bytes bytes, .bytes bytes, fun q hq => ?_⟩
    rw [Value.payload]
    refine record_equal_of_members hkeyed hlength ?_ hq
    exact List.forall_mem_singleton.2 ⟨_, hw, fun q hq => hq⟩
  | nested h hitems =>
    obtain ⟨hlength, hparts⟩ := h
    simp only [List.forall_mem_cons] at hparts
    obtain ⟨⟨_, hop, rfl⟩, ⟨_, hclass, c, rfl⟩, ⟨_, his, rfl⟩, -⟩ := hparts
    obtain ⟨plan, hplan, hstands⟩ := exists_forall₂ fun item hitem =>
      exists_step_of_looksLikeStep (hitems item hitem) (Value.IsClear.item (hvalues _ his) hitem)
    refine ⟨.nested c plan, .nested hplan, fun q hq => ?_⟩
    rw [Value.payload]
    refine record_equal_of_members hkeyed hlength ?_ hq
    simp only [List.forall_mem_cons]
    exact ⟨⟨_, hop, fun q hq => hq⟩, ⟨_, hclass, fun q hq => hq⟩,
      ⟨_, his, fun q hq => steps_equal_of_standsFor hstands hq⟩, List.forall_mem_nil _⟩

/-- The payload of a dictionary is that of a clear operand, if those of its values are. -/
lemma exists_of_dict {entries : List (Value × Value)}
    (h : ∀ e ∈ entries, ∃ c : Value, c.IsClear ∧ c.payload.equal false e.2.payload = true) :
    ∃ c : Value, c.IsClear ∧ c.payload.equal false (Value.dict entries).payload = true := by
  -- the dictionary of the same texts, with clear values
  obtain ⟨members, -, hmembers⟩ := exists_forall₂ (P := fun _ => True)
    (R := fun (m : Text × Value) (e : Value × Value) =>
      .str e.1.text = Value.str m.1 ∧ m.2.IsClear ∧ m.2.payload.equal false e.2.payload = true)
    fun e he => by
      obtain ⟨c, hc, hpayload⟩ := h e he
      exact ⟨(e.1.text, c), trivial, rfl, hc, hpayload⟩
  have haligned : List.Forall₂ (fun (m : Text × Value) (e : Value × Value) =>
      e.1 = .str m.1 ∧ m.2.IsClear ∧ m.2.payload.equal false e.2 = true)
      members (entriesPayload entries) := by
    rw [entriesPayload_eq_map]
    exact List.forall₂_map_right_iff.2 hmembers
  have htable := Entries.forall₂_ofList (f := Value.str)
    (R := fun (c payload : Value) => c.IsClear ∧ c.payload.equal false payload = true)
    Value.str_equal_str haligned
  generalize hd : (Entries.ofList members).map (fun m => (Value.str m.1, m.2)) = d
  have hkeyed : KeyedByTexts d := by
    refine ⟨Entries.keys (Entries.ofList members), ?_, Entries.nodup_keys_ofList members⟩
    rw [← hd, List.map_map, Entries.keys, List.map_map]
    rfl
  have hvalues : ∀ e ∈ d, e.2.IsClear := by
    rw [← hd]
    refine List.forall_mem_map.2 fun m hm => ?_
    obtain ⟨e, -, -, hclear, -⟩ := exists_of_forall₂ htable.flip hm
    exact hclear
  have hpayload : (Value.dict d).payload.equal false (Value.dict entries).payload = true := by
    rw [hkeyed.payload, Value.payload, ← hd, List.map_map]
    refine Value.equal_dict_iff.2 ⟨by rw [List.length_map, htable.length_eq], ?_⟩
    refine List.forall_mem_map.2 fun m hm => ?_
    obtain ⟨e, he, hkey, -, hequal⟩ := exists_of_forall₂ htable.flip hm
    exact ⟨e, he, hkey ▸ Value.str_equal_iff.2 rfl, hequal⟩
  by_cases htagged : LooksTagged d
  · obtain ⟨c, hc, hstands⟩ := exists_of_looksTagged hkeyed hvalues htagged
    exact ⟨c, hc, hstands _ hpayload⟩
  · exact ⟨.dict d, .dict ⟨hkeyed, htagged⟩ hvalues, hpayload⟩

lemma equalAll_itemsPayload_of_forall₂ {items others : List Value}
    (h : List.Forall₂ (fun v w => v.payload.equal false w.payload = true) items others) :
    equalAll false (itemsPayload items) (itemsPayload others) = true := by
  rw [equalAll_iff, itemsPayload_eq_map, itemsPayload_eq_map, List.forall₂_map_left_iff,
    List.forall₂_map_right_iff]
  exact h

lemma equalAll_planPayload_of_forall₂ {plan plan' : Plan}
    (h : List.Forall₂ (fun s t => (instructionPayload s).equal false (instructionPayload t) = true)
      plan plan') :
    equalAll false (planPayload plan) (planPayload plan') = true := by
  rw [equalAll_iff, planPayload_eq_map, planPayload_eq_map, List.forall₂_map_left_iff,
    List.forall₂_map_right_iff]
  exact h

mutual

/-- The payload of every operand is that of a clear one. -/
theorem exists_isClear {property : List (Value × Value) → Prop} :
    ∀ {v : Value}, v.IsBuilt property →
      ∃ c : Value, c.IsBuilt IsPlainDict ∧ c.payload.equal false v.payload = true
  | _, .null => ⟨.null, .null, by simp [Value.payload, Value.equal]⟩
  | _, .bool b => ⟨.bool b, .bool b, by
      simp [Value.payload, Value.equal, Value.number?, numbersEqual]⟩
  | _, .int i => ⟨.int i, .int i, by
      simp [Value.payload, Value.equal, Value.number?, numbersEqual]⟩
  | _, .str s => ⟨.str s, .str s, by simp [Value.payload, Value.equal]⟩
  | _, .bytes bytes => ⟨.bytes bytes, .bytes bytes, by
      simp [equal_payload (.bytes bytes) (.bytes bytes), Value.equal]⟩
  | _, .reference hentry => ⟨_, .reference hentry, by
      simpa [equal_payload (.reference hentry) (.reference hentry), Value.equal] using hentry⟩
  | _, .list hitems => by
    obtain ⟨cs, hcs, hpayloads⟩ := exists_forall₂ fun v hv => exists_isClear (hitems v hv)
    refine ⟨.list cs, .list hcs, ?_⟩
    rw [Value.payload, Value.payload, Value.equal]
    exact equalAll_itemsPayload_of_forall₂ hpayloads
  | .nested className plan, .nested hplan => by
    obtain ⟨plan', hplan', hpayloads⟩ := exists_forall₂ fun s hs => exists_isClearStep (hplan s hs)
    refine ⟨.nested className plan', .nested hplan', ?_⟩
    have hsteps := equalAll_planPayload_of_forall₂ hpayloads
    simp [Value.payload, record, Value.equal, equalEntries, Text.ofString_beq, hsteps]
  | _, .dict _ h => exists_of_dict fun e he => exists_isClear (h e he)

/-- The same of the payloads of instructions. -/
theorem exists_isClearStep {property : List (Value × Value) → Prop} :
    ∀ {s : Instruction}, s.IsBuilt property →
      ∃ t : Instruction, t.IsBuilt IsPlainDict ∧
        (instructionPayload t).equal false (instructionPayload s) = true
  | .construct className _ keywords, .construct hitems => by
    obtain ⟨cs, hcs, hpayloads⟩ := exists_forall₂ fun v hv => exists_isClear (hitems v hv)
    refine ⟨.construct className cs keywords, .construct hcs, ?_⟩
    have hsame := equalAll_itemsPayload_of_forall₂ hpayloads
    simp [instructionPayload, record, Value.equal, equalEntries, Text.ofString_beq, hsame,
      equal_textList]
  | .assign field _, .assign hvalue => by
    obtain ⟨c, hc, hpayload⟩ := exists_isClear hvalue
    refine ⟨.assign field c, .assign hc, ?_⟩
    simp [instructionPayload, record, Value.equal, equalEntries, Text.ofString_beq, hpayload]
  | .invoke method _ keywords, .invoke hitems => by
    obtain ⟨cs, hcs, hpayloads⟩ := exists_forall₂ fun v hv => exists_isClear (hitems v hv)
    refine ⟨.invoke method cs keywords, .invoke hcs, ?_⟩
    have hsame := equalAll_itemsPayload_of_forall₂ hpayloads
    simp [instructionPayload, record, Value.equal, equalEntries, Text.ofString_beq, hsame,
      equal_textList]
  | .placeholder className _, .placeholder hplan => by
    obtain ⟨plan', hplan', hpayloads⟩ := exists_forall₂ fun s hs => exists_isClearStep (hplan s hs)
    refine ⟨.placeholder className plan', .placeholder hplan', ?_⟩
    have hsteps := equalAll_planPayload_of_forall₂ hpayloads
    simp [instructionPayload, record, Value.equal, equalEntries, Text.ofString_beq, hsteps]

end

/-! ## What equals a clear operand is clear -/

lemma Value.dict_of_equal {entries : List (Value × Value)} {w : Value}
    (h : (Value.dict entries).equal false w = true) : ∃ others, w = .dict others := by
  cases w with
  | dict others => exact ⟨others, rfl⟩
  | _ => simp [Value.equal] at h

lemma Value.list_of_equal {items : List Value} {w : Value}
    (h : (Value.list items).equal false w = true) :
    ∃ others, w = .list others ∧ List.Forall₂ (fun v w => v.equal false w = true) items others := by
  cases w with
  | list others => exact ⟨others, rfl, equalAll_iff.1 (by rwa [Value.equal] at h)⟩
  | _ => simp [Value.equal] at h

lemma Comprises.of_equal {entries others : List (Value × Value)}
    {shape : List (Text × (Value → Prop))} (h : Comprises entries shape)
    (hothers : KeyedByTexts others)
    (hequal : (Value.dict entries).equal false (.dict others) = true) :
    Comprises others
      (shape.map fun part => (part.1, fun w => ∃ v, part.2 v ∧ v.equal false w = true)) := by
  obtain ⟨hlength, hmembers⟩ := Value.equal_dict_iff.1 hequal
  refine ⟨by rw [List.length_map, ← hlength, h.1], List.forall_mem_map.2 fun part hpart => ?_⟩
  obtain ⟨v, hv, hshape⟩ := h.2 part hpart
  obtain ⟨e', he', hkey, hvalue⟩ := hmembers _ hv
  have hname : e'.1 = .str part.1 :=
    Value.eq_str_of_scalar? (Value.str_equal_iff.1 hkey) (hothers.isOfBuiltin he')
  exact ⟨e'.2, hname ▸ he', v, hshape, hvalue⟩

namespace Value

variable {w : Value}

lemma eq_str_of_equal (hw : w.IsClear) {s : Text}
    (h : ∃ v : Value, v = .str s ∧ v.equal false w = true) : w = .str s := by
  obtain ⟨_, rfl, h⟩ := h
  exact eq_str_of_scalar? (str_equal_iff.1 h) hw.isOfBuiltin

lemma isText_of_equal (hw : w.IsClear) (h : ∃ v : Value, v.IsText ∧ v.equal false w = true) :
    w.IsText := by
  obtain ⟨_, ⟨s, rfl⟩, h⟩ := h
  exact ⟨s, eq_str_of_scalar? (str_equal_iff.1 h) hw.isOfBuiltin⟩

lemma isList_of_equal (h : ∃ v : Value, v.IsList ∧ v.equal false w = true) : w.IsList := by
  obtain ⟨_, ⟨items, rfl⟩, h⟩ := h
  obtain ⟨others, hw, -⟩ := list_of_equal h
  exact ⟨others, hw⟩

lemma isTextList_of_equal (hw : w.IsClear)
    (h : ∃ v : Value, v.IsTextList ∧ v.equal false w = true) : w.IsTextList := by
  obtain ⟨_, ⟨texts, rfl⟩, h⟩ := h
  obtain ⟨others, rfl, hothers⟩ := list_of_equal h
  rw [List.forall₂_map_left_iff] at hothers
  refine ⟨texts, congrArg Value.list ?_⟩
  rw [← List.forall₂_eq_eq_eq, List.forall₂_map_right_iff]
  have hclear : ∀ other ∈ others, other.IsClear := fun other hmem => hw.item hmem
  refine ((List.forall₂_and_left _ _).2 ⟨hclear, hothers.flip⟩).imp fun other text h => ?_
  exact eq_str_of_scalar? (str_equal_iff.1 h.2) h.1.isOfBuiltin

/-- What equals something that looks like a step looks like one. -/
theorem looksLikeStep_of_equal {v : Value} (h : v.LooksLikeStep) (hw : w.IsClear)
    (hequal : v.equal false w = true) : w.LooksLikeStep := by
  induction h generalizing w with
  | construct h =>
    obtain ⟨others, rfl⟩ := dict_of_equal hequal
    refine .construct ((h.of_equal hw.keyed hequal).mono ?_)
    refine .cons ⟨rfl, fun _ hmem => eq_str_of_equal (hw.of_mem hmem)⟩ ?_
    refine .cons ⟨rfl, fun _ hmem => isText_of_equal (hw.of_mem hmem)⟩ ?_
    refine .cons ⟨rfl, fun _ _ => isList_of_equal⟩ ?_
    exact .cons ⟨rfl, fun _ hmem => isTextList_of_equal (hw.of_mem hmem)⟩ .nil
  | assign h =>
    obtain ⟨others, rfl⟩ := dict_of_equal hequal
    refine .assign ((h.of_equal hw.keyed hequal).mono ?_)
    refine .cons ⟨rfl, fun _ hmem => eq_str_of_equal (hw.of_mem hmem)⟩ ?_
    refine .cons ⟨rfl, fun _ hmem => isText_of_equal (hw.of_mem hmem)⟩ ?_
    exact .cons ⟨rfl, fun _ _ _ => trivial⟩ .nil
  | invoke h =>
    obtain ⟨others, rfl⟩ := dict_of_equal hequal
    refine .invoke ((h.of_equal hw.keyed hequal).mono ?_)
    refine .cons ⟨rfl, fun _ hmem => eq_str_of_equal (hw.of_mem hmem)⟩ ?_
    refine .cons ⟨rfl, fun _ hmem => isText_of_equal (hw.of_mem hmem)⟩ ?_
    refine .cons ⟨rfl, fun _ _ => isList_of_equal⟩ ?_
    exact .cons ⟨rfl, fun _ hmem => isTextList_of_equal (hw.of_mem hmem)⟩ .nil
  | placeholder h hitems ih =>
    obtain ⟨others, rfl⟩ := dict_of_equal hequal
    have hparts := h.of_equal hw.keyed hequal
    obtain ⟨w, hmem, _, rfl, hlist⟩ := hparts.2 ("initializer", _) (.tail _ (.tail _ (.head _)))
    obtain ⟨items', rfl, hitems'⟩ := list_of_equal hlist
    have hsteps : ∀ item ∈ items', item.LooksLikeStep := by
      intro item hitem
      obtain ⟨v, hv, hequal⟩ := exists_of_forall₂ hitems' hitem
      exact ih v hv ((hw.of_mem hmem).item hitem) hequal
    refine .placeholder (hparts.mono ?_) hsteps
    refine .cons ⟨rfl, fun _ hmem => eq_str_of_equal (hw.of_mem hmem)⟩ ?_
    refine .cons ⟨rfl, fun _ hmem => isText_of_equal (hw.of_mem hmem)⟩ ?_
    exact .cons ⟨rfl, fun w hw' _ => hw.keyed.unique hw' hmem⟩ .nil

lemma looksTagged_of_equal {entries others : List (Value × Value)} (h : LooksTagged entries)
    (hw : (Value.dict others).IsClear)
    (hequal : (Value.dict entries).equal false (.dict others) = true) : LooksTagged others := by
  cases h with
  | reference h =>
    exact .reference ((h.of_equal hw.keyed hequal).mono (.cons ⟨rfl, fun _ _ _ => trivial⟩ .nil))
  | bytes h =>
    have hparts := h.of_equal hw.keyed hequal
    exact .bytes (hparts.mono (.cons ⟨rfl, fun _ hmem => eq_str_of_equal (hw.of_mem hmem)⟩ .nil))
  | nested h hitems =>
    have hparts := h.of_equal hw.keyed hequal
    obtain ⟨w, hmem, _, rfl, hlist⟩ := hparts.2 ("instructions", _) (.tail _ (.tail _ (.head _)))
    obtain ⟨items', rfl, hitems'⟩ := list_of_equal hlist
    have hsteps : ∀ item ∈ items', item.LooksLikeStep := by
      intro item hitem
      obtain ⟨v, hv, hequal⟩ := exists_of_forall₂ hitems' hitem
      exact looksLikeStep_of_equal (hitems v hv) ((hw.of_mem hmem).item hitem) hequal
    refine .nested (hparts.mono ?_) hsteps
    refine .cons ⟨rfl, fun _ hmem => eq_str_of_equal (hw.of_mem hmem)⟩ ?_
    refine .cons ⟨rfl, fun _ hmem => isText_of_equal (hw.of_mem hmem)⟩ ?_
    exact .cons ⟨rfl, fun w hw' _ => hw.keyed.unique hw' hmem⟩ .nil

lemma isPlainDict_of_equal {entries others : List (Value × Value)} (h : IsOperandDict entries)
    (hw : (Value.dict others).IsClear)
    (hequal : (Value.dict entries).equal false (.dict others) = true) : IsPlainDict entries := by
  have huntagged : ¬ LooksTagged others := by
    cases hw with
    | dict hplain _ => exact hplain.untagged
  refine ⟨?_, fun htagged => huntagged (looksTagged_of_equal htagged hw hequal)⟩
  have hkey : ∀ e ∈ entries, e.1 = .str e.1.text := by
    intro e he
    obtain ⟨e', he', hkey, -⟩ := (equal_dict_iff.1 hequal).2 e he
    obtain ⟨name, hname⟩ := hw.keyed.key he'
    rw [hname, equal_str_iff] at hkey
    rw [eq_str_of_scalar? hkey (h.builtin e he)]
    rfl
  refine ⟨entries.map fun e => e.1.text, ?_, ?_⟩
  · rw [List.map_map]
    exact List.map_congr_left hkey
  · rw [List.Nodup, List.pairwise_map]
    refine h.apart.imp_of_mem fun {e e'} he he' hne heq => ?_
    rw [hkey e he, hkey e' he', heq, Bool.eq_false_iff] at hne
    exact hne (str_equal_iff.2 rfl)

end Value

mutual

/-- An operand that equals a clear one is clear. -/
theorem isClear_of_equal : ∀ {v w : Value}, v.IsBuilt IsOperandDict → w.IsBuilt IsPlainDict →
    v.equal false w = true → v.IsBuilt IsPlainDict
  | _, _, .null, _, _ => .null
  | _, _, .bool b, _, _ => .bool b
  | _, _, .int i, _, _ => .int i
  | _, _, .str s, _, _ => .str s
  | _, _, .bytes bytes, _, _ => .bytes bytes
  | _, _, .reference hentry, _, _ => .reference hentry
  | _, w, .list hitems, hw, hequal => by
    obtain ⟨others, rfl, hothers⟩ := Value.list_of_equal hequal
    refine .list fun v hv => ?_
    obtain ⟨w, hmem, h⟩ := exists_of_forall₂ hothers.flip hv
    exact isClear_of_equal (hitems v hv) (Value.IsClear.item hw hmem) h
  | _, w, .nested hplan, hw, hequal => by
    cases hw with
    | nested hothers =>
      rw [Value.equal, Bool.and_eq_true, equalPlans_iff] at hequal
      refine .nested fun s hs => ?_
      obtain ⟨t, hmem, h⟩ := exists_of_forall₂ hequal.2.flip hs
      exact isClearStep_of_equal (hplan s hs) (hothers t hmem) h
    | _ => simp [Value.equal] at hequal
  | _, w, .dict hapart h, hw, hequal => by
    obtain ⟨others, rfl⟩ := Value.dict_of_equal hequal
    refine .dict (Value.isPlainDict_of_equal hapart hw hequal) fun e he => ?_
    obtain ⟨e', he', -, hvalue⟩ := (Value.equal_dict_iff.1 hequal).2 e he
    exact isClear_of_equal (h e he) (Value.IsClear.of_mem hw he') hvalue

/-- The same of instructions. -/
theorem isClearStep_of_equal : ∀ {s t : Instruction}, s.IsBuilt IsOperandDict →
    t.IsBuilt IsPlainDict → equalInstructions false s t = true → s.IsBuilt IsPlainDict
  | _, t, .construct hitems, ht, hequal => by
    cases ht with
    | construct hothers =>
      rw [equalInstructions, Bool.and_eq_true, Bool.and_eq_true, equalAll_iff] at hequal
      refine .construct fun v hv => ?_
      obtain ⟨w, hmem, h⟩ := exists_of_forall₂ hequal.1.2.flip hv
      exact isClear_of_equal (hitems v hv) (hothers w hmem) h
    | _ => simp [equalInstructions] at hequal
  | _, t, .assign hvalue, ht, hequal => by
    cases ht with
    | assign hother =>
      rw [equalInstructions, Bool.and_eq_true] at hequal
      exact .assign (isClear_of_equal hvalue hother hequal.2)
    | _ => simp [equalInstructions] at hequal
  | _, t, .invoke hitems, ht, hequal => by
    cases ht with
    | invoke hothers =>
      rw [equalInstructions, Bool.and_eq_true, Bool.and_eq_true, equalAll_iff] at hequal
      refine .invoke fun v hv => ?_
      obtain ⟨w, hmem, h⟩ := exists_of_forall₂ hequal.1.2.flip hv
      exact isClear_of_equal (hitems v hv) (hothers w hmem) h
    | _ => simp [equalInstructions] at hequal
  | _, t, .placeholder hplan, ht, hequal => by
    cases ht with
    | placeholder hothers =>
      rw [equalInstructions, Bool.and_eq_true, equalPlans_iff] at hequal
      refine .placeholder fun s hs => ?_
      obtain ⟨t, hmem, h⟩ := exists_of_forall₂ hequal.2.flip hs
      exact isClearStep_of_equal (hplan s hs) (hothers t hmem) h
    | _ => simp [equalInstructions] at hequal

end

lemma KeyedByTexts.isOperandDict {entries : List (Value × Value)} (h : KeyedByTexts entries) :
    IsOperandDict entries := by
  refine ⟨?_, fun e he => h.isOfBuiltin he⟩
  obtain ⟨names, hkeys, hnames⟩ := h
  have happart : (entries.map Prod.fst).Pairwise fun k k' => k.equal false k' = false := by
    rw [hkeys, List.pairwise_map]
    exact hnames.imp fun hne => Value.equal_str_of_ne hne
  exact List.pairwise_map.1 happart

mutual

lemma Value.IsBuilt.mono {property property' : List (Value × Value) → Prop}
    (himp : ∀ {entries}, property entries → property' entries) :
    ∀ {v : Value}, v.IsBuilt property → v.IsBuilt property'
  | _, .null => .null
  | _, .bool b => .bool b
  | _, .int i => .int i
  | _, .str s => .str s
  | _, .bytes bytes => .bytes bytes
  | _, .reference hentry => .reference hentry
  | _, .list hitems => .list fun v hv => (hitems v hv).mono himp
  | _, .nested hplan => .nested fun s hs => (hplan s hs).mono himp
  | _, .dict hentries h => .dict (himp hentries) fun e he => (h e he).mono himp

lemma Instruction.IsBuilt.mono {property property' : List (Value × Value) → Prop}
    (himp : ∀ {entries}, property entries → property' entries) :
    ∀ {s : Instruction}, s.IsBuilt property → s.IsBuilt property'
  | _, .construct hitems => .construct fun v hv => (hitems v hv).mono himp
  | _, .assign hvalue => .assign (hvalue.mono himp)
  | _, .invoke hitems => .invoke fun v hv => (hitems v hv).mono himp
  | _, .placeholder hplan => .placeholder fun s hs => (hplan s hs).mono himp

end

lemma Value.IsClear.isOperand {v : Value} (h : v.IsClear) : v.IsOperand :=
  Value.IsBuilt.mono (fun hplain => hplain.keyed.isOperandDict) h

/-- Payloads tell clear operands apart, and nothing else: the payload of a clear operand equals that
of another one just where the two are equal, and an operand that is not clear has the payload of one
that it does not equal, which is clear. -/
theorem payload_tells_apart {v : Value} (hv : v.IsOperand) :
    (v.IsClear → ∀ w : Value, w.IsClear → v.payload.equal false w.payload = v.equal false w) ∧
      (¬ v.IsClear →
        ∃ c : Value, c.IsOperand ∧ c.IsClear ∧ c.payload.equal false v.payload = true ∧
          v.equal false c = false) := by
  refine ⟨fun hclear w hw => equal_payload hclear hw, fun hunclear => ?_⟩
  obtain ⟨c, hc, hpayload⟩ := exists_isClear hv
  exact ⟨c, Value.IsClear.isOperand hc, hc, hpayload,
    Bool.eq_false_iff.2 fun h => hunclear (isClear_of_equal hv hc h)⟩

/-- A dictionary in which the mark of references stands beside another name. -/
def annotatedReference : Value :=
  .dict [(.str "$ref", .str "log"), (.str "since", .int 3)]

/-- A dictionary that has a number and its text as keys. -/
def numberedTwice : Value :=
  .dict [(.int 1, .str "a"), (.str "1", .reference (.str "log"))]

theorem payload_tells_annotatedReference :
    annotatedReference.IsOperand ∧ annotatedReference.IsClear ∧
      (Value.reference (.str "log")).IsClear ∧
      annotatedReference.payload.equal false (Value.reference (.str "log")).payload =
        annotatedReference.equal false (.reference (.str "log")) ∧
      numberedTwice.IsOperand ∧ ¬ numberedTwice.IsClear ∧
        ∃ c : Value, c.IsOperand ∧ c.IsClear ∧ c.payload.equal false numberedTwice.payload = true ∧
          numberedTwice.equal false c = false := by
  have hclear : annotatedReference.IsClear := by
    refine .dict ⟨⟨["$ref", "since"], rfl, by decide⟩, ?_⟩ ?_
    · rintro (⟨hlength, -⟩ | ⟨hlength, -⟩ | ⟨⟨hlength, -⟩, -⟩) <;> simp at hlength
    · simp only [List.forall_mem_cons]
      exact ⟨.str _, .int 3, List.forall_mem_nil _⟩
  have hreference : (Value.reference (.str "log")).IsClear :=
    .reference (Value.str_equal_iff.2 rfl)
  have hoperand : numberedTwice.IsOperand := by
    refine .dict ⟨?_, ?_⟩ ?_
    · simp [KeysApart, Value.equal, Value.number?]
    · simp [Value.IsOfBuiltin]
    · simp only [List.forall_mem_cons]
      exact ⟨.str _, hreference.isOperand, List.forall_mem_nil _⟩
  have hunclear : ¬ numberedTwice.IsClear := by
    intro h
    obtain ⟨name, hname⟩ := h.keyed.key List.mem_cons_self
    simp at hname
  have htold := (payload_tells_apart hclear.isOperand).1 hclear _ hreference
  exact ⟨hclear.isOperand, hclear, hreference, htold, hoperand, hunclear,
    (payload_tells_apart hoperand).2 hunclear⟩

end Blueprint
