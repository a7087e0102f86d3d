/-
# Everything that compiles can be rendered

A plan is rendered in two ways: as a factory, and as data.  Each renderer goes through the operands
on its own, and has its own values that it makes nothing of.  `Value.Renders` describes the operands
that both of them take: literals, references, collections of operands, and objects with a plan whose
steps have such operands.

* An operand with a derivation is of that kind, as long as the values that were reached on the way
  to it are ordinary ones (`Derives.renders`).
* From such operands a factory can be drafted, and it quotes nothing that has no text
  (`Factory.draftValue_succeeds`).
* Their payload consists of JSON values (`Value.Renders.payload`).

What has to be asked of the classes is that a factory can refer to them.
-/
import Blueprint.Json.Reader
import Blueprint.Plan.Payload
import Blueprint.Proofs.Derivation
import Blueprint.Proofs.Emission.Uses

namespace Blueprint

/-! ## Ordinary values -/

/-- The literal is no whole number, or one that is not too long to be written. -/
def Scalar.IsShort : Scalar → Prop
  | .int i => (Nat.toDigits 10 i.natAbs).length ≤ Json.Reader.digitLimit
  | _ => True

/-- The value is no whole number, or one that is not too long to be written; if it is an object of a
class of its own, the class makes both forms of it. -/
def Value.IsShort : Value → Prop
  | .int i => (Scalar.int i).IsShort
  | .derived form literal =>
    literal.IsShort ∧ form.display?.isSome = true ∧ form.text?.isSome = true
  | _ => True

lemma Value.IsShort.isWritten {v : Value} (hshort : v.IsShort) (h : v.isLiteral = true) :
    v.isWritten = true := by
  cases v with
  | int i => exact decide_eq_true hshort
  | derived form literal => exact hshort.2.1
  | null | bool | float | str | bytes => rw [Value.isWritten]
  | _ => exact absurd h Bool.false_ne_true

lemma Value.IsShort.isTextWritten {v : Value} (hshort : v.IsShort) (h : v.isLiteral = true) :
    v.isTextWritten = true := by
  cases v with
  | derived form literal => exact hshort.2.2
  | str => rfl
  | null | bool | int | float | bytes => exact hshort.isWritten h
  | _ => exact absurd h Bool.false_ne_true

/-- The value is one of JSON: null, a truth value, a number, a text, a list or a dictionary that is
keyed by texts.  A number or a text may be an object of a class of its own. -/
inductive Value.IsJson : Value → Prop where
  | null : IsJson .null
  | bool (b : Bool) : IsJson (.bool b)
  | int {i : Int} (h : (Value.int i).IsShort) : IsJson (.int i)
  | float (x : Double) : IsJson (.float x)
  | str (s : Text) : IsJson (.str s)
  | derived {form : Derived} {literal : Scalar} (hbytes : ∀ b, literal ≠ .bytes b)
      (h : (Value.derived form literal).IsShort) : IsJson (.derived form literal)
  | list {items : List Value} (h : ∀ v ∈ items, IsJson v) : IsJson (.list items)
  | dict {entries : List (Value × Value)} (hkeys : ∀ e ∈ entries, ∃ s, e.1 = .str s)
      (h : ∀ e ∈ entries, IsJson e.2) : IsJson (.dict entries)

lemma Value.IsJson.isWritten {v : Value} (h : v.IsJson) : v.isWritten = true := by
  induction h with
  | int h => exact Value.IsShort.isWritten h rfl
  | derived _ h => exact h.isWritten rfl
  | list _ ih =>
    rw [Value.isWritten]
    exact allWritten_iff.2 ih
  | dict hkeys _ ih =>
    rw [Value.isWritten]
    refine entriesWritten_iff.2 fun e he => ⟨?_, ih e he⟩
    obtain ⟨s, hs⟩ := hkeys e he
    rw [hs, Value.isWritten]
  | _ => rw [Value.isWritten]

/-- The value can be the key of a dictionary: a literal, a reference or a tuple of those. -/
inductive Value.IsKey : Value → Prop where
  | literal {v : Value} (h : v.isLiteral = true) (hshort : v.IsShort) : IsKey v
  | reference {entry : Value} (h : entry.IsJson) : IsKey (.reference entry)
  | tuple {items : List Value} (h : ∀ v ∈ items, IsKey v) : IsKey (.tuple items)

lemma Value.IsKey.isWritten {k : Value} (h : k.IsKey) : k.isWritten = true := by
  induction h with
  | literal h hshort => exact hshort.isWritten h
  | reference h =>
    rw [Value.isWritten]
    exact h.isWritten
  | tuple _ ih =>
    rw [Value.isWritten]
    exact allWritten_iff.2 ih

lemma Value.IsKey.isTextWritten {k : Value} (h : k.IsKey) : k.isTextWritten = true :=
  match h with
  | .literal h hshort => hshort.isTextWritten h
  | .reference h => (Value.IsKey.reference h).isWritten
  | .tuple h => (Value.IsKey.tuple h).isWritten

/-- What is asked of every value on its own: whole numbers are not too long, names of entries are
JSON values, and keys are such as can be written. -/
def Value.IsOrdinary : Value → Prop
  | .int i => (Value.int i).IsShort
  | .derived form literal => (Value.derived form literal).IsShort
  | .reference entry => entry.IsJson
  | .dict entries => ∀ e ∈ entries, e.1.IsKey
  | _ => True

lemma Value.IsOrdinary.isShort {v : Value} (h : v.IsOrdinary) : v.IsShort := by
  cases v with
  | int | derived => exact h
  | _ => trivial

/-! ## Operands that can be rendered -/

mutual

/-- The operand can be rendered, given that `P` holds of the classes that can be referred to. -/
inductive Value.Renders (P : Text → Prop) : Value → Prop where
  | literal {v : Value} (h : v.isLiteral = true) (hshort : v.IsShort) : Value.Renders P v
  | reference {entry : Value} (h : entry.IsJson) : Value.Renders P (.reference entry)
  | list {items : List Value} (h : ∀ v ∈ items, Value.Renders P v) :
      Value.Renders P (.list items)
  | tuple {items : List Value} (h : ∀ v ∈ items, Value.Renders P v) :
      Value.Renders P (.tuple items)
  | dict {entries : List (Value × Value)} (hkeys : ∀ e ∈ entries, Value.Renders P e.1)
      (htexts : ∀ e ∈ entries, e.1.isTextWritten = true)
      (h : ∀ e ∈ entries, Value.Renders P e.2) : Value.Renders P (.dict entries)
  | nested {className : Text} {plan : Plan} (h : ∀ step ∈ plan, Instruction.Renders P step) :
      Value.Renders P (.nested className plan)

/-- The step can be rendered. -/
inductive Instruction.Renders (P : Text → Prop) : Instruction → Prop where
  | construct {className : Text} {arguments : List Value} {keywords : List Text}
      (hclass : P className) (h : ∀ v ∈ arguments, Value.Renders P v) :
      Instruction.Renders P (.construct className arguments keywords)
  | assign {field : Text} {value : Value} (h : Value.Renders P value) :
      Instruction.Renders P (.assign field value)
  | invoke {method : Text} {arguments : List Value} {keywords : List Text}
      (h : ∀ v ∈ arguments, Value.Renders P v) :
      Instruction.Renders P (.invoke method arguments keywords)
  | placeholder {className : Text} {initializer : Plan}
      (h : ∀ step ∈ initializer, Instruction.Renders P step) :
      Instruction.Renders P (.placeholder className initializer)

end

lemma Value.IsKey.renders {P : Text → Prop} {k : Value} (h : k.IsKey) : k.Renders P := by
  induction h with
  | literal h hshort => exact .literal h hshort
  | reference h => exact .reference h
  | tuple _ ih => exact .tuple ih

/-- The plan of a worksheet can be rendered if what was compiled for it can. -/
lemma Worksheet.renders {P : Text → Prop} {w : Worksheet} (hclass : P w.definition.className)
    (h : ∀ c ∈ w.compiled, c.operand.Renders P) : ∀ step ∈ w.plan, step.Renders P := by
  have hoperands : ∀ cs : List Compiled, (∀ c ∈ cs, c ∈ w.compiled) →
      ∀ v ∈ cs.map Compiled.operand, v.Renders P := by
    intro cs hcs
    rw [List.forall_mem_map]
    exact fun c hc => h c (hcs c hc)
  have heager : ∀ step ∈ w.eager, step.Renders P := by
    intro step hstep
    rcases List.mem_cons.1 hstep with rfl | hstep
    · exact .construct hclass (hoperands w.arguments fun _ => mem_compiled_of_argument)
    rcases List.mem_append.1 hstep with hstep | hstep
    · obtain ⟨x, hx, rfl⟩ := List.mem_map.1 hstep
      exact .assign (h _ (mem_compiled_of_assignment hx))
    · obtain ⟨x, hx, rfl⟩ := List.mem_map.1 hstep
      exact .invoke (hoperands x.arguments fun _ => mem_compiled_of_invocation hx)
  unfold plan
  split
  · rw [List.forall_mem_singleton]
    exact .placeholder heager
  · exact heager

/-- What compiling makes of ordinary values can be rendered. -/
theorem Registry.Derives.renders {registry : Registry} {P : Text → Prop} {c : Compiled}
    (h : registry.Derives c) (hvalues : ∀ v, registry.Reaches c.value v → v.IsOrdinary)
    (hclasses : ∀ e, registry.Reaches c.value (.definition e) → P e.className) :
    c.operand.Renders P := by
  induction h with
  | literal h => exact .literal h (hvalues _ (.refl _)).isShort
  | reference entry => exact .reference (hvalues _ (.refl _))
  | list _ ih =>
    refine .list ?_
    rw [List.forall_mem_map]
    intro c hc
    exact ih c hc (fun v hr => hvalues v (.list (List.mem_map_of_mem hc) hr))
      fun e hr => hclasses e (.list (List.mem_map_of_mem hc) hr)
  | tuple _ ih =>
    refine .tuple ?_
    rw [List.forall_mem_map]
    intro c hc
    exact ih c hc (fun v hr => hvalues v (.tuple (List.mem_map_of_mem hc) hr))
      fun e hr => hclasses e (.tuple (List.mem_map_of_mem hc) hr)
  | @dict entries _ ih =>
    have hmem : ∀ x ∈ entries, (x.1, x.2.value) ∈ entries.map fun e => (e.1, e.2.value) :=
      fun x hx => List.mem_map.2 ⟨x, hx, rfl⟩
    -- keys are not compiled: what is known of them is that the dictionary is ordinary
    have hkey : ∀ x ∈ entries, x.1.IsKey := fun x hx => hvalues _ (.refl _) _ (hmem x hx)
    refine .dict ?_ ?_ ?_ <;> rw [List.forall_mem_map]
    · exact fun x hx => (hkey x hx).renders
    · exact fun x hx => (hkey x hx).isTextWritten
    · intro x hx
      exact ih x hx (fun v hr => hvalues v (.dict (hmem x hx) hr))
        fun e hr => hclasses e (.dict (hmem x hx) hr)
  | definition hw _ ih =>
    refine .nested (Worksheet.renders (hclasses _ (.refl _)) fun c hc => ?_)
    exact ih c hc (fun v hr => hvalues v (hw.reaches_of_mem hc hr))
      fun e hr => hclasses e (hw.reaches_of_mem hc hr)

/-! ## Payloads -/

lemma isJson_map {α : Type} {f : α → Value} {xs : List α} (h : ∀ x ∈ xs, (f x).IsJson) :
    (Value.list (xs.map f)).IsJson :=
  .list (List.forall_mem_map.2 h)

lemma record_isJson {parts : List (Text × Value)} (h : ∀ part ∈ parts, part.2.IsJson) :
    (record parts).IsJson :=
  .dict (List.forall_mem_map.2 fun part _ => ⟨part.1, rfl⟩) (List.forall_mem_map.2 h)

lemma textList_isJson (texts : List Text) : (textList texts).IsJson :=
  isJson_map fun t _ => .str t

lemma payload_isJson_of_isLiteral {v : Value} (h : v.isLiteral = true) (hshort : v.IsShort) :
    v.payload.IsJson := by
  cases v with
  | null => exact .null
  | bool b => exact .bool b
  | int i => exact .int hshort
  | float x => exact .float x
  | str s => exact .str s
  | bytes b => exact record_isJson (List.forall_mem_singleton.2 (.str _))
  | derived form literal =>
    -- bytes of whatever class are put as a record, every other literal stands as it is
    cases literal with
    | bytes b => exact record_isJson (List.forall_mem_singleton.2 (.str _))
    | int | float | str => exact .derived nofun hshort
  | _ => exact absurd h Bool.false_ne_true

/-- The entries are put together anew, as different keys can have the same text. -/
lemma dict_payload_isJson {entries : List (Value × Value)}
    (h : ∀ e ∈ entries, e.2.payload.IsJson) : (Value.dict entries).payload.IsJson := by
  rw [Value.payload, entriesPayload_eq_map]
  refine .dict ?_ ?_
  · intro e he
    have hkey := (Entries.mem_ofList he).1
    rw [List.map_map] at hkey
    obtain ⟨source, -, hkey⟩ := List.mem_map.1 hkey
    exact ⟨source.1.text, hkey.symm⟩
  · intro e he
    obtain ⟨pair, hpair, hv⟩ := List.mem_map.1 (Entries.mem_ofList he).2
    obtain ⟨source, hsource, rfl⟩ := List.mem_map.1 hpair
    rw [← hv]
    exact h source hsource

mutual

/-- The payload of an operand that can be rendered is a JSON value. -/
theorem Value.Renders.payload {P : Text → Prop} {v : Value} (h : v.Renders P) :
    v.payload.IsJson :=
  match h with
  | .literal h hshort => payload_isJson_of_isLiteral h hshort
  | .reference h => record_isJson (List.forall_mem_singleton.2 h)
  | .list h => by
    rw [Value.payload, itemsPayload_eq_map]
    exact isJson_map fun v hv => (h v hv).payload
  | .tuple h => by
    rw [Value.payload, itemsPayload_eq_map]
    exact isJson_map fun v hv => (h v hv).payload
  | .dict _ _ h => dict_payload_isJson fun e he => (h e he).payload
  | .nested h => by
    have hplan := isJson_map fun step hstep => (h step hstep).payload
    rw [Value.payload, planPayload_eq_map]
    refine record_isJson ?_
    simp only [List.forall_mem_cons]
    exact ⟨.str _, .str _, hplan, List.forall_mem_nil _⟩

/-- The payload of a step that can be rendered is a JSON value. -/
theorem Instruction.Renders.payload {P : Text → Prop} {step : Instruction} (h : step.Renders P) :
    (instructionPayload step).IsJson :=
  match h with
  | .construct _ h => by
    have harguments := isJson_map fun v hv => (h v hv).payload
    rw [instructionPayload, itemsPayload_eq_map]
    refine record_isJson ?_
    simp only [List.forall_mem_cons]
    exact ⟨.str _, .str _, harguments, textList_isJson _, List.forall_mem_nil _⟩
  | .assign h => by
    rw [instructionPayload]
    refine record_isJson ?_
    simp only [List.forall_mem_cons]
    exact ⟨.str _, .str _, h.payload, List.forall_mem_nil _⟩
  | .invoke h => by
    have harguments := isJson_map fun v hv => (h v hv).payload
    rw [instructionPayload, itemsPayload_eq_map]
    refine record_isJson ?_
    simp only [List.forall_mem_cons]
    exact ⟨.str _, .str _, harguments, textList_isJson _, List.forall_mem_nil _⟩
  | .placeholder h => by
    have hplan := isJson_map fun step hstep => (h step hstep).payload
    rw [instructionPayload, planPayload_eq_map]
    refine record_isJson ?_
    simp only [List.forall_mem_cons]
    exact ⟨.str _, .str _, hplan, List.forall_mem_nil _⟩

end

mutual

/-- The keys that it turns into texts can be written. -/
theorem Value.Renders.keysWritten {P : Text → Prop} {v : Value} (h : v.Renders P) :
    v.keysWritten = true :=
  match h with
  | .literal (v := v) h _ => by
    cases v with
    | null | bool | int | float | str | bytes | derived => rw [Value.keysWritten] <;> exact nofun
    | _ => exact absurd h Bool.false_ne_true
  | .reference _ => by rw [Value.keysWritten] <;> exact nofun
  | .list h => by
    rw [Value.keysWritten]
    exact itemsKeysWritten_iff.2 fun v hv => (h v hv).keysWritten
  | .tuple h => by
    rw [Value.keysWritten]
    exact itemsKeysWritten_iff.2 fun v hv => (h v hv).keysWritten
  | .dict _ htexts h => by
    rw [Value.keysWritten]
    exact entriesKeysWritten_iff.2 fun e he => ⟨htexts e he, (h e he).keysWritten⟩
  | .nested h => by
    rw [Value.keysWritten]
    exact planKeysWritten_iff.2 fun step hstep => (h step hstep).keysWritten

/-- So can those within a step. -/
theorem Instruction.Renders.keysWritten {P : Text → Prop} {step : Instruction}
    (h : step.Renders P) : instructionKeysWritten step = true :=
  match h with
  | .construct _ h | .invoke h => by
    rw [instructionKeysWritten]
    exact itemsKeysWritten_iff.2 fun v hv => (h v hv).keysWritten
  | .assign h => by
    rw [instructionKeysWritten]
    exact h.keysWritten
  | .placeholder h => by
    rw [instructionKeysWritten]
    exact planKeysWritten_iff.2 fun step hstep => (h step hstep).keysWritten

end

namespace Factory

/-! ## Texts of factories -/

mutual

/-- What the expression quotes has a text: its literals, and the names of entries. -/
def Expr.HasText : Expr → Prop
  | .constant v => v.isLiteral = true ∧ v.IsShort
  | .lookup entry => entry.IsJson
  | .build _ => True
  | .list items => ItemsHaveText items
  | .tuple items => ItemsHaveText items
  | .dict entries => EntriesHaveText entries

/-- What the expressions quote has a text. -/
def ItemsHaveText : List Expr → Prop
  | [] => True
  | e :: rest => e.HasText ∧ ItemsHaveText rest

/-- What the keys and values quote has a text. -/
def EntriesHaveText : List (Expr × Expr) → Prop
  | [] => True
  | (k, v) :: rest => k.HasText ∧ v.HasText ∧ EntriesHaveText rest

end

/-- What the call quotes has a text. -/
def Call.HasText (c : Call) : Prop :=
  ItemsHaveText c.positional ∧ ItemsHaveText (c.keywords.map Prod.snd)

/-- What the block quotes has a text, at any depth. -/
def BlockHasText : List Statement → Prop
  | [] => True
  | .define _ body :: rest => BlockHasText body ∧ BlockHasText rest
  | .bind _ call :: rest => call.HasText ∧ BlockHasText rest
  | .assign _ _ value :: rest => value.HasText ∧ BlockHasText rest
  | .perform call :: rest => call.HasText ∧ BlockHasText rest
  | .proxy _ _ _ :: rest => BlockHasText rest
  | .result _ :: rest => BlockHasText rest

attribute [local simp] Expr.HasText ItemsHaveText EntriesHaveText Call.HasText BlockHasText

lemma itemsHaveText_iff {es : List Expr} : ItemsHaveText es ↔ ∀ e ∈ es, e.HasText := by
  induction es with
  | nil => simp
  | cons e rest ih => rw [ItemsHaveText, ih, List.forall_mem_cons]

lemma blockHasText_append {body body' : List Statement} (h : BlockHasText body)
    (h' : BlockHasText body') : BlockHasText (body ++ body') := by
  induction body with
  | nil => exact h'
  | cons s rest ih => cases s <;> simp_all

/-! ## Drafting that succeeds -/

variable {W : World → Prop}

/-- From every draft, and in every world of `W`, the step drafts something that has `Q`, and leaves
a world of `W`. -/
def Succeeds {α : Type} (W : World → Prop) (x : Drafting α) (Q : α → Prop) : Prop :=
  ∀ draft entry world, W world → ∃ a draft' world',
    x.run draft entry world = (.ok (a, draft'), world') ∧ W world' ∧ Q a

/-- In every world of `W` a factory can refer to the class of the path: it is in a module, or needs
none. -/
def Places (split : Splitter) (W : World → Prop) (path : Text) : Prop :=
  ∀ entry world, W world → ∃ cut world', split path entry world = (.ok cut, world') ∧ W world' ∧
    (cut.1.isEmpty = false ∨ path ∈ builtinNames)

namespace Succeeds

variable {α β : Type} {x : Drafting α} {f : α → Drafting β} {Q : α → Prop} {R : β → Prop}

protected lemma pure {a : α} (h : Q a) : Succeeds W (pure a) Q :=
  fun draft _ world hw => ⟨a, draft, world, rfl, hw, h⟩

protected lemma bind (hx : Succeeds W x Q) (hf : ∀ a, Q a → Succeeds W (f a) R) :
    Succeeds W (x >>= f) R := by
  intro draft entry world hw
  obtain ⟨a, draft₁, world₁, hx, hw₁, ha⟩ := hx draft entry world hw
  obtain ⟨b, draft', world', hb, hw', hR⟩ := hf a ha draft₁ entry world₁ hw₁
  refine ⟨b, draft', world', ?_, hw', hR⟩
  rw [StateT.run_bind, Run.bind_apply, hx]
  exact hb

protected lemma ifWritten {v : Value} (hv : v.isWritten = true) (hx : Succeeds W x Q) :
    Succeeds W (ifWritten v x) Q := by
  intro draft entry world hw
  obtain ⟨a, draft', world', ha, hw', hQ⟩ := hx draft entry world hw
  refine ⟨a, draft', world', ?_, hw', hQ⟩
  show Run.ifWritten v.isWritten (x draft) entry world = _
  rw [hv]
  exact ha

protected lemma fresh (role : Role) : Succeeds W (fresh role) fun _ => True :=
  fun _ _ world hw => ⟨_, _, world, rfl, hw, trivial⟩

lemma useModule (name : Text) : Succeeds W (useModule name) fun _ => True :=
  fun _ _ world hw => ⟨_, _, world, rfl, hw, trivial⟩

lemma inBlock {steps : Local → Drafting (List Statement)}
    (h : ∀ target, Succeeds W (steps target) BlockHasText) :
    Succeeds W (inBlock steps) BlockHasText := by
  refine (Succeeds.fresh .object).bind fun target _ => ?_
  refine (h target).bind fun statements hstatements => .pure ?_
  exact blockHasText_append hstatements (by simp)

lemma draftClass {split : Splitter} {path : Text} (h : Places split W path) :
    Succeeds W (draftClass split path) fun _ => True := by
  have hsplit : Succeeds W (StateT.lift (split path)) fun cut =>
      cut.1.isEmpty = false ∨ path ∈ builtinNames := by
    intro draft entry world hw
    obtain ⟨cut, world', hcut, hw', hplace⟩ := h entry world hw
    refine ⟨cut, draft, world', ?_, hw', hplace⟩
    rw [StateT.run_lift, Run.bind_apply, hcut]
    rfl
  refine hsplit.bind ?_
  rintro ⟨moduleName, qualifiedName⟩ hplace
  by_cases hempty : moduleName.isEmpty = true
  · have hbuiltin : builtinNames.contains path = true := by
      rw [List.contains_iff_mem]
      exact hplace.resolve_left (by simp [hempty])
    simp only [hempty, hbuiltin, if_true]
    exact .pure trivial
  · simp only [hempty]
    exact (Succeeds.useModule moduleName).bind fun _ _ => .pure trivial

end Succeeds

/-- The drafted expression, and what has to be defined before it, have a text. -/
def DraftedHasText (drafted : Drafted) : Prop :=
  BlockHasText drafted.1 ∧ drafted.2.HasText

lemma draftAll_succeeds {xs : List (Drafting Drafted)}
    (h : ∀ x ∈ xs, Succeeds W x DraftedHasText) :
    Succeeds W (draftAll xs) fun drafted => BlockHasText drafted.1 ∧ ItemsHaveText drafted.2 := by
  induction xs with
  | nil => exact .pure ⟨by simp, by simp⟩
  | cons x rest ih =>
    obtain ⟨hfirst, hrest⟩ := List.forall_mem_cons.1 h
    rw [draftAll]
    refine hfirst.bind ?_
    rintro ⟨before, e⟩ ⟨hbefore, he⟩
    refine (ih hrest).bind ?_
    rintro ⟨more, es⟩ ⟨hmore, hes⟩
    exact .pure ⟨blockHasText_append hbefore hmore, by simpa using ⟨he, hes⟩⟩

/-- A collection is drafted if its items are. -/
lemma draftItems_succeeds {split : Splitter} {items : List Value} {collect : List Expr → Expr}
    (h : ∀ v ∈ items, Succeeds W (draftValue split v) DraftedHasText)
    (hcollect : ∀ es, ItemsHaveText es → (collect es).HasText) :
    Succeeds W (draftAll (draftItems split items) >>= fun drafted =>
      pure (drafted.1, collect drafted.2)) DraftedHasText := by
  rw [draftItems_eq_map]
  refine (draftAll_succeeds (List.forall_mem_map.2 h)).bind ?_
  rintro ⟨before, es⟩ ⟨hbefore, hes⟩
  exact .pure ⟨hbefore, hcollect es hes⟩

lemma draftNamed_succeeds {xs : List (Text × Drafting Drafted)}
    (h : ∀ x ∈ xs, Succeeds W x.2 DraftedHasText) :
    Succeeds W (draftNamed xs) fun drafted =>
      BlockHasText drafted.1 ∧ ItemsHaveText (drafted.2.map Prod.snd) := by
  rw [draftNamed_eq]
  refine (draftAll_succeeds (List.forall_mem_map.2 h)).bind ?_
  rintro ⟨before, es⟩ ⟨hbefore, hes⟩
  refine .pure ⟨hbefore, itemsHaveText_iff.2 (List.forall_mem_map.2 fun e he => ?_)⟩
  exact itemsHaveText_iff.1 hes e.2 (List.of_mem_zip he).2

lemma draftCall_succeeds {split : Splitter} {callee : Callee} {arguments : List Value}
    {keywords : List Text} (h : ∀ v ∈ arguments, Succeeds W (draftValue split v) DraftedHasText) :
    Succeeds W (draftCall callee (draftItems split arguments) keywords) fun drafted =>
      BlockHasText drafted.1 ∧ drafted.2.HasText := by
  have hargument : ∀ x ∈ draftItems split arguments, Succeeds W x DraftedHasText := by
    rw [draftItems_eq_map]
    exact List.forall_mem_map.2 h
  rw [draftCall]
  -- the arguments by position come first, then those that are passed by name
  refine Succeeds.bind (draftAll_succeeds fun x hx => ?_) ?_
  · exact hargument x (mem_of_mem_splitArguments (.inl hx))
  rintro ⟨before, es⟩ ⟨hbefore, hes⟩
  refine Succeeds.bind (draftNamed_succeeds fun x hx => ?_) ?_
  · exact hargument x.2 (mem_of_mem_splitArguments (.inr ⟨x, hx, rfl⟩))
  rintro ⟨more, ks⟩ ⟨hmore, hks⟩
  exact .pure ⟨blockHasText_append hbefore hmore, hes, hks⟩

lemma draftEntries_succeeds {split : Splitter} {entries : List (Value × Value)}
    (hkeys : ∀ e ∈ entries, Succeeds W (draftValue split e.1) DraftedHasText)
    (h : ∀ e ∈ entries, Succeeds W (draftValue split e.2) DraftedHasText) :
    Succeeds W (draftEntries split entries) fun drafted =>
      BlockHasText drafted.1 ∧ EntriesHaveText drafted.2 := by
  induction entries with
  | nil =>
    rw [draftEntries]
    exact .pure ⟨by simp, by simp⟩
  | cons e rest ih =>
    obtain ⟨hkey, hkeys⟩ := List.forall_mem_cons.1 hkeys
    obtain ⟨hvalue, h⟩ := List.forall_mem_cons.1 h
    rw [draftEntries]
    refine hkey.bind ?_
    rintro ⟨before, k⟩ ⟨hbefore, hk⟩
    refine hvalue.bind ?_
    rintro ⟨middle, v⟩ ⟨hmiddle, hv⟩
    refine (ih hkeys h).bind ?_
    rintro ⟨more, es⟩ ⟨hmore, hes⟩
    refine .pure ⟨?_, by simpa using ⟨hk, hv, hes⟩⟩
    exact blockHasText_append (blockHasText_append hbefore hmiddle) hmore

/-- Steps are drafted one after the other, so it is enough that each of them can be drafted before
others. -/
lemma draftSteps_succeeds {split : Splitter} {plan : Plan} {target : Local}
    (h : ∀ step ∈ plan, ∀ rest, Succeeds W (draftSteps split target rest) BlockHasText →
      Succeeds W (draftSteps split target (step :: rest)) BlockHasText) :
    Succeeds W (draftSteps split target plan) BlockHasText := by
  induction plan with
  | nil =>
    rw [draftSteps]
    exact .pure (by simp)
  | cons step rest ih =>
    exact h step List.mem_cons_self rest (ih fun s hs => h s (List.mem_cons_of_mem _ hs))

mutual

/-- An operand that can be rendered is drafted to an expression that has a text. -/
theorem draftValue_succeeds {split : Splitter} {v : Value} (h : v.Renders (Places split W)) :
    Succeeds W (draftValue split v) DraftedHasText :=
  match h with
  | .literal h hshort => by
    rw [draftValue_literal h]
    exact .ifWritten (hshort.isWritten h) (.pure ⟨by simp, by simpa using ⟨h, hshort⟩⟩)
  | .reference h => by
    rw [draftValue]
    exact .ifWritten h.isWritten (.pure ⟨by simp, by simpa using h⟩)
  | .list h => by
    rw [draftValue]
    exact draftItems_succeeds (fun v hv => draftValue_succeeds (h v hv)) fun es hes => by
      simpa using hes
  | .tuple h => by
    rw [draftValue]
    exact draftItems_succeeds (fun v hv => draftValue_succeeds (h v hv)) fun es hes => by
      simpa using hes
  | .dict hkeys _ h => by
    have hentries := draftEntries_succeeds (fun e he => draftValue_succeeds (hkeys e he))
      fun e he => draftValue_succeeds (h e he)
    rw [draftValue]
    refine hentries.bind ?_
    rintro ⟨before, es⟩ ⟨hbefore, hes⟩
    exact .pure ⟨hbefore, by simpa using hes⟩
  | .nested h => by
    -- a nested object is built by a function of its own, whose body is drafted in a block
    have hblock := Succeeds.inBlock fun target => draftSteps_succeeds fun step hstep rest =>
      draftStep_succeeds (h step hstep) target
    rw [draftValue]
    refine (Succeeds.fresh .nested).bind fun builder _ => ?_
    refine hblock.bind fun body hbody => ?_
    exact .pure ⟨by simpa using hbody, by simp⟩

/-- A step that can be rendered is drafted before others that are. -/
theorem draftStep_succeeds {split : Splitter} {step : Instruction}
    (h : step.Renders (Places split W)) (target : Local) {rest : Plan}
    (hrest : Succeeds W (draftSteps split target rest) BlockHasText) :
    Succeeds W (draftSteps split target (step :: rest)) BlockHasText :=
  match h with
  | .construct hclass h => by
    rw [draftSteps]
    refine (Succeeds.draftClass hclass).bind fun callee _ => ?_
    refine (draftCall_succeeds fun v hv => draftValue_succeeds (h v hv)).bind ?_
    rintro ⟨before, call⟩ ⟨hbefore, hcall⟩
    refine hrest.bind fun more hmore => .pure ?_
    exact blockHasText_append hbefore (by simpa using ⟨hcall, hmore⟩)
  | .assign h => by
    rw [draftSteps]
    refine (draftValue_succeeds h).bind ?_
    rintro ⟨before, e⟩ ⟨hbefore, he⟩
    refine hrest.bind fun more hmore => .pure ?_
    exact blockHasText_append hbefore (by simpa using ⟨he, hmore⟩)
  | .invoke h => by
    rw [draftSteps]
    refine (draftCall_succeeds fun v hv => draftValue_succeeds (h v hv)).bind ?_
    rintro ⟨before, call⟩ ⟨hbefore, hcall⟩
    refine hrest.bind fun more hmore => .pure ?_
    exact blockHasText_append hbefore (by simpa using ⟨hcall, hmore⟩)
  | .placeholder h => by
    have hblock := Succeeds.inBlock fun inner => draftSteps_succeeds fun step hstep rest =>
      draftStep_succeeds (h step hstep) inner
    rw [draftSteps]
    refine (Succeeds.fresh .initializer).bind fun builder _ => ?_
    refine hblock.bind fun body hbody => ?_
    refine hrest.bind fun more hmore => .pure ?_
    simpa using ⟨hbody, hmore⟩

end

/-- What the factory quotes has a text. -/
def HasText (f : Factory) : Prop :=
  BlockHasText f.body

/-- A plan whose steps can be rendered has a factory, under every name that is an identifier. -/
lemma ofPlan_returns {split : Splitter} {plan : Plan}
    (h : ∀ step ∈ plan, step.Renders (Places split W)) {name : Text}
    (hname : Text.isIdentifier name = true) (entry : Option Value) {world : World} (hw : W world) :
    ∃ f, (ofPlan split name plan entry world).1 = .ok f ∧ f.HasText := by
  have hdraft : Succeeds W (draftPlan split plan) BlockHasText :=
    Succeeds.inBlock fun target => draftSteps_succeeds fun step hstep rest =>
      draftStep_succeeds (h step hstep) target
  obtain ⟨body, draft, world', hbody, -, htext⟩ := hdraft ⟨0, []⟩ entry world hw
  refine ⟨⟨name, draft.modules, body⟩, ?_, htext⟩
  rw [ofPlan, if_neg (by simp [hname])]
  change (((draftPlan split plan).run ⟨0, []⟩ >>= fun drafted =>
    pure (⟨name, drafted.2.modules, drafted.1⟩ : Factory)) entry world).1 = _
  rw [Run.bind_apply, hbody]
  rfl

end Factory

namespace Registry

variable {registry : Registry} {d : Definition} {plan : Plan} {entry : Option Value} {world : World}

/-- Whatever compiles can be rendered in both ways, if the values that are reached are ordinary and
factories can refer to the classes: under every name that is an identifier it has a factory, which
quotes nothing without a text; and it has a payload, which is made of JSON values alone. -/
theorem compiled_renders (hplan : (compile registry.introspector d entry world).1 = .ok plan)
    (hvalues : ∀ v, registry.Reaches (.definition d) v → v.IsOrdinary)
    {split : Factory.Splitter} {W : World → Prop}
    (hclasses : ∀ e, registry.Reaches (.definition d) (.definition e) →
      Factory.Places split W e.className) :
    (∀ name entry' world', Text.isIdentifier name = true → W world' →
      ∃ f, (Factory.ofPlan split name plan entry' world').1 = .ok f ∧ f.HasText) ∧
      planData plan = .ok (.list (planPayload plan)) ∧ ∀ v ∈ planPayload plan, v.IsJson := by
  obtain ⟨warnings, hderives⟩ := (compile_tells registry d).exists_of_ok hplan
  have hrenders := hderives.renders hvalues hclasses
  -- the operand is an object with the plan, which is no literal
  have hsteps : ∀ step ∈ plan, step.Renders (Factory.Places split W) := by
    cases hrenders with
    | literal h => exact absurd h (by simp [Value.isLiteral])
    | nested h => exact h
  refine ⟨fun name entry' world' hname hw => Factory.ofPlan_returns hsteps hname entry' hw,
    ?written, ?json⟩
  case written =>
    rw [planData, if_pos (planKeysWritten_iff.2 fun step hstep => (hsteps step hstep).keysWritten)]
  case json =>
    rw [planPayload_eq_map, List.forall_mem_map]
    exact fun step hstep => (hsteps step hstep).payload

/-- A class whose constructor has a default. -/
def boxSchema : TypeSchema :=
  { name := "app.Box", isInstantiable := true,
    constructor := some ⟨constructorName, [⟨"lid", .declared (.bytes [0]), false⟩]⟩,
    methods := [], fields := [("content", ⟨"content", "app.Box", true, true⟩)] }

/-- A class that needs no module. -/
def dictSchema : TypeSchema :=
  { name := "dict", isInstantiable := true, constructor := none, methods := [], fields := [] }

/-- A registry of both. -/
def packaging : Registry := ⟨[boxSchema, dictSchema]⟩

/-- A definition of a dictionary. -/
def emptyDict : Definition :=
  { name := .null, className := "dict", isLazy := false, constructor := none, fields := [],
    methods := [] }

/-- The dictionary, under a key that is a tuple. -/
def content : Value :=
  .dict [(.tuple [.int 1, .reference (.str "key")], .definition emptyDict)]

/-- A lazy definition that holds it. -/
def packed : Definition :=
  { name := .str "box", className := "app.Box", isLazy := true, constructor := none,
    fields := [⟨"content", content, .null⟩], methods := [] }

/-- Its plan. -/
def packedPlan : Plan :=
  [.placeholder "app.Box"
    [.construct "app.Box" [.bytes [0]] [],
      .assign "content" (.dict [(.tuple [.int 1, .reference (.str "key")],
        .nested "dict" [.construct "dict" [] []])])]]

lemma content_isOrdinary : content.IsOrdinary := by
  refine List.forall_mem_singleton.2 (.tuple ?_)
  simp only [List.forall_mem_cons]
  refine ⟨.literal rfl ?_, .reference (.str "key"), List.forall_mem_nil _⟩
  show (Nat.toDigits 10 1).length ≤ Json.Reader.digitLimit
  decide

lemma packed_operand {s : Source Value} (h : Operand packed boxSchema s) :
    s = .declared (.bytes [0]) ∨ s = .bound content := by
  cases h with
  | construct hc hs =>
    obtain rfl := Option.some.inj hc
    obtain ⟨i, p, hp, hs⟩ := hs
    obtain rfl := List.mem_singleton.1 (List.mem_of_getElem? hp)
    cases hs with
    | bound hb => exact absurd hb nofun
    | declared _ hdefault =>
      obtain rfl := Default.declared.inj hdefault
      exact .inl rfl
  | assign hb =>
    obtain rfl := List.mem_singleton.1 hb
    exact .inr rfl
  | invoke hb => exact absurd hb List.not_mem_nil

/-- Its compilation comes to ordinary values, and to two definitions. -/
lemma packed_reaches {v : Value} (h : packaging.Reaches (.definition packed) v) :
    v.IsOrdinary ∧ ∀ e, v = .definition e → e = packed ∨ e = emptyDict := by
  cases h with
  | refl => exact ⟨trivial, fun e he => .inl (Value.definition.inj he).symm⟩
  | operand hd hs h =>
    obtain rfl := Option.some.inj hd
    rcases packed_operand hs with rfl | rfl
    · cases h with
      | refl => exact ⟨trivial, fun e he => absurd he nofun⟩
    · cases h with
      | refl => exact ⟨content_isOrdinary, fun e he => absurd he nofun⟩
      | dict he h =>
        obtain rfl := List.mem_singleton.1 he
        cases h with
        | refl => exact ⟨trivial, fun e he => .inr (Value.definition.inj he).symm⟩
        | operand hd hs =>
          obtain rfl := Option.some.inj hd
          cases hs with
          | construct hc => exact absurd hc nofun
          | assign hb => exact absurd hb List.not_mem_nil
          | invoke hb => exact absurd hb List.not_mem_nil

/-- The plan has a factory under every name, wherever no module was imported, and a payload. -/
theorem packed_renders : (compile packaging.introspector packed none {}).1 = .ok packedPlan ∧
    (∀ name entry world, Text.isIdentifier name = true → world.imported = [] →
      ∃ f, (Factory.ofPlan (Catalog.split ⟨[]⟩) name packedPlan entry world).1 = .ok f ∧
        f.HasText) ∧
      planData packedPlan = .ok (.list (planPayload packedPlan)) ∧
        ∀ v ∈ planPayload packedPlan, v.IsJson := by
  have hplan : (compile packaging.introspector packed none {}).1 = .ok packedPlan := by
    with_unfolding_all rfl
  have hclasses : ∀ e, packaging.Reaches (.definition packed) (.definition e) →
      Factory.Places (Catalog.split ⟨[]⟩) (fun world => world.imported = []) e.className := by
    rintro e he entry ⟨imported, annotated, files, warnings, log⟩ (rfl : imported = [])
    rcases (packed_reaches he).2 e rfl with rfl | rfl
    · exact ⟨("app", "Box"), _, by with_unfolding_all rfl, rfl, .inl rfl⟩
    · exact ⟨("", "dict"), _, by with_unfolding_all rfl, rfl, .inr (by decide)⟩
  exact ⟨hplan, compiled_renders hplan (fun v h => (packed_reaches h).1) hclasses⟩

end Registry

end Blueprint
