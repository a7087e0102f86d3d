/-
# The language of operands

A value compiles if it belongs to a small language: literals, those among them that are objects of
classes of their own, references, definitions that compile, and lists, tuples and dictionaries of
such.  `Compiles` gives the rules, with what each value
compiles to and the world that is left, and `Refuses` those by which a value is refused: the first
part of it that is not in the language decides.  Every value is one or the other
(`compiles_or_refuses`), and the compiler does what the rules say (`compileOperand_language`).

The rules ask of the keys of dictionaries that they are in a set `K`.  The compiler does not look at
keys, so `K` is everything for it; a value that compiles is in the language with fewer keys if and
only if its keys are among them.  A refusal is the failure of a compilation, unless it is that of a
definition, whatever that may be.
-/
import Blueprint.Proofs.Compilation

namespace Blueprint

open Run (bind_of_ok bind_of_error)

/-! ## The rules -/

/-- Compiles a definition that stands in a value, where there is something to compile it with. -/
def compileNested : Option Introspector → Definition → Run Plan
  | some knowledge, d => compile knowledge d
  | none, d => Run.mismatched (.noClasses d.className)

mutual

/-- The value is in the language, with keys from `K`, and compiles to the operand. -/
inductive Compiles (K : Value → Prop) (types : Option Introspector) (current : Option Value) :
    World → Value → Value → World → Prop where
  | literal {world : World} {v : Value} (h : v.isLiteral = true) :
      Compiles K types current world v v world
  | reference {world : World} (entry : Value) :
      Compiles K types current world (.reference entry) (.reference entry) world
  | definition {world world' : World} {d : Definition} {plan : Plan}
      (h : compileNested types d current world = (.ok plan, world')) :
      Compiles K types current world (.definition d) (.nested d.className plan) world'
  | list {world world' : World} {items operands : List Value}
      (h : CompilesAll K types current world items operands world') :
      Compiles K types current world (.list items) (.list operands) world'
  | tuple {world world' : World} {items operands : List Value}
      (h : CompilesAll K types current world items operands world') :
      Compiles K types current world (.tuple items) (.tuple operands) world'
  | dict {world world' : World} {entries : List (Value × Value)} {operands : List Value}
      (hkeys : ∀ e ∈ entries, K e.1)
      (h : CompilesAll K types current world (entries.map Prod.snd) operands world') :
      Compiles K types current world (.dict entries)
        (.dict ((entries.map Prod.fst).zip operands)) world'

/-- The values are, one after the other. -/
inductive CompilesAll (K : Value → Prop) (types : Option Introspector) (current : Option Value) :
    World → List Value → List Value → World → Prop where
  | nil {world : World} : CompilesAll K types current world [] [] world
  | cons {world world₁ world' : World} {v operand : Value} {rest operands : List Value}
      (h : Compiles K types current world v operand world₁)
      (hrest : CompilesAll K types current world₁ rest operands world') :
      CompilesAll K types current world (v :: rest) (operand :: operands) world'

end

/-- The value is not in the language, and refused before anything in it is looked at. -/
inductive Culprit (types : Option Introspector) (current : Option Value) :
    World → Value → Failure → World → Prop where
  | useDefault {world : World} :
      Culprit types current world .useDefault (.mismatch .misplacedDefault) world
  | unsupported {world : World} {v : Value} (h : v.isUnsupported = true)
      (hwritten : v.isWritten = true) :
      Culprit types current world v (.mismatch (.unsupportedValue v)) world
  | unwritten {world : World} {v : Value} (h : v.isUnsupported = true)
      (hwritten : v.isWritten = false) :
      Culprit types current world v (.longNumber none) world
  | definition {world world' : World} {d : Definition} {failure : Failure}
      (h : compileNested types d current world = (.error failure, world')) :
      Culprit types current world (.definition d) failure world'

/-- The value is refused for the first of its parts that is not in the language. -/
inductive Refuses (types : Option Introspector) (current : Option Value) :
    World → Value → Failure → World → Prop where
  | culprit {world world' : World} {v : Value} {failure : Failure}
      (h : Culprit types current world v failure world') :
      Refuses types current world v failure world'
  | list {world world₁ world' : World} {before operands after : List Value} {v : Value}
      {failure : Failure}
      (hbefore : CompilesAll (fun _ => True) types current world before operands world₁)
      (h : Refuses types current world₁ v failure world') :
      Refuses types current world (.list (before ++ v :: after)) failure world'
  | tuple {world world₁ world' : World} {before operands after : List Value} {v : Value}
      {failure : Failure}
      (hbefore : CompilesAll (fun _ => True) types current world before operands world₁)
      (h : Refuses types current world₁ v failure world') :
      Refuses types current world (.tuple (before ++ v :: after)) failure world'
  | dict {world world₁ world' : World} {entries : List (Value × Value)}
      {before operands after : List Value} {v : Value} {failure : Failure}
      (hentries : entries.map Prod.snd = before ++ v :: after)
      (hbefore : CompilesAll (fun _ => True) types current world before operands world₁)
      (h : Refuses types current world₁ v failure world') :
      Refuses types current world (.dict entries) failure world'

/-- The part stands in the value, though not in a key. -/
inductive Value.HasPart : Value → Value → Prop where
  | self (v : Value) : HasPart v v
  | list {items : List Value} {v part : Value} (hv : v ∈ items) (h : HasPart v part) :
      HasPart (.list items) part
  | tuple {items : List Value} {v part : Value} (hv : v ∈ items) (h : HasPart v part) :
      HasPart (.tuple items) part
  | dict {entries : List (Value × Value)} {v part : Value} (hv : v ∈ entries.map Prod.snd)
      (h : HasPart v part) : HasPart (.dict entries) part

/-- The keys of the dictionaries in the value are all in `K`. -/
def Value.HasKeysIn (K : Value → Prop) (v : Value) : Prop :=
  ∀ entries, v.HasPart (.dict entries) → ∀ e ∈ entries, K e.1

/-! ## The compiler follows the rules -/

section Steps

variable {types : Option Introspector} {onDefault : Value → Run Value}

/-- The values of a dictionary are compiled like items, and the keys stay. -/
lemma compileEntries_eq (entries : List (Value × Value)) :
    compileEntries types onDefault entries =
      compileItems types onDefault (entries.map Prod.snd) >>= fun operands =>
        pure ((entries.map Prod.fst).zip operands) := by
  induction entries with
  | nil => simp only [compileEntries, compileItems, List.map_nil, pure_bind, List.zip_nil_left]
  | cons e rest ih =>
    simp only [compileEntries_cons, ih, List.map_cons, compileItems_cons, bind_assoc, pure_bind,
      List.zip_cons_cons]

lemma compileItems_append (items more : List Value) :
    compileItems types onDefault (items ++ more) =
      compileItems types onDefault items >>= fun operands =>
        compileItems types onDefault more >>= fun others => pure (operands ++ others) := by
  induction items with
  | nil => simp only [List.nil_append, compileItems, pure_bind, bind_pure]
  | cons item rest ih =>
    simp only [List.cons_append, compileItems_cons, ih, bind_assoc, pure_bind]

end Steps

section Language

variable {K : Value → Prop} {types : Option Introspector} {current : Option Value}
  {world world' : World} {v operand : Value} {items operands : List Value} {failure : Failure}

/-- What declared defaults compile to. -/
def compileDeclared (types : Option Introspector) (v : Value) : Run Value :=
  match types with
  | some knowledge => compileUpTo knowledge knowledge.depth v
  | none => Run.fail .circularDefaults

lemma compileOperand_eq (types : Option Introspector) (v : Value) :
    compileOperand types v = compileValue types (compileDeclared types) v := by
  cases types <;> rfl

lemma compileValue_definition (d : Definition) :
    compileValue types (compileDeclared types) (.definition d) =
      compileNested types d >>= fun plan => pure (.nested d.className plan) := by
  rw [compileValue]
  rcases types with _ | knowledge
  · obtain ⟨name, className, isLazy, constructor, fields, methods⟩ := d
    rw [compileDefinition]
    rfl
  · rfl

mutual

theorem Compiles.run : ∀ {world world' : World} {v operand : Value},
    Compiles K types current world v operand world' →
      compileValue types (compileDeclared types) v current world = (.ok operand, world')
  | _, _, _, _, .literal h => by
    rw [compileValue_literal h]
    rfl
  | _, _, _, _, .reference entry => by
    rw [compileValue]
    rfl
  | _, _, _, _, .definition h => by
    rw [compileValue_definition, bind_of_ok h]
    rfl
  | _, _, _, _, .list h => by
    rw [compileValue, bind_of_ok h.run]
    rfl
  | _, _, _, _, .tuple h => by
    rw [compileValue, bind_of_ok h.run]
    rfl
  | _, _, _, _, .dict _ h => by
    rw [compileValue, compileEntries_eq, bind_assoc, bind_of_ok h.run]
    rfl

theorem CompilesAll.run : ∀ {world world' : World} {items operands : List Value},
    CompilesAll K types current world items operands world' →
      compileItems types (compileDeclared types) items current world = (.ok operands, world')
  | _, _, _, _, .nil => by
    rw [compileItems]
    rfl
  | _, _, _, _, .cons h hrest => by
    rw [compileItems_cons, bind_of_ok h.run, bind_of_ok hrest.run]
    rfl

end

lemma Culprit.run (h : Culprit types current world v failure world') :
    compileValue types (compileDeclared types) v current world = (.error failure, world') := by
  cases h with
  | useDefault =>
    rw [compileValue]
    rfl
  | unsupported h hwritten =>
    rw [compileValue_unsupported h, Value.refusal, if_pos hwritten]
    rfl
  | unwritten h hwritten =>
    rw [compileValue_unsupported h, Value.refusal, hwritten]
    rfl
  | definition h => rw [compileValue_definition, bind_of_error h]

/-- Items cannot be compiled if one of them cannot, once those before it are. -/
lemma compileItems_of_refused {world₁ : World} {before after : List Value}
    (hbefore : CompilesAll K types current world before operands world₁)
    (hv : compileValue types (compileDeclared types) v current world₁ = (.error failure, world')) :
    compileItems types (compileDeclared types) (before ++ v :: after) current world =
      (.error failure, world') := by
  rw [compileItems_append, bind_of_ok hbefore.run, compileItems_cons]
  exact bind_of_error (bind_of_error hv)

lemma Refuses.run (h : Refuses types current world v failure world') :
    compileValue types (compileDeclared types) v current world = (.error failure, world') := by
  induction h with
  | culprit h => exact h.run
  | list hbefore _ ih =>
    rw [compileValue]
    exact bind_of_error (compileItems_of_refused hbefore ih)
  | tuple hbefore _ ih =>
    rw [compileValue]
    exact bind_of_error (compileItems_of_refused hbefore ih)
  | dict hentries hbefore _ ih =>
    rw [compileValue, compileEntries_eq, hentries]
    exact bind_of_error (bind_of_error (compileItems_of_refused hbefore ih))

/-! ## Every value is in the language or refused -/

variable (types current)

/-- The value is in the language, or refused. -/
def Decided (v : Value) : Prop :=
  ∀ world,
    (∃ operand world', Compiles (fun _ => True) types current world v operand world') ∨
      ∃ failure world', Refuses types current world v failure world'

/-- Items are all in the language, or there is a first one that is refused. -/
lemma compilesAll_or_refuses (h : ∀ v ∈ items, Decided types current v) (world : World) :
    (∃ operands world', CompilesAll (fun _ => True) types current world items operands world') ∨
      ∃ before v after operands world₁ failure world', items = before ++ v :: after ∧
        CompilesAll (fun _ => True) types current world before operands world₁ ∧
          Refuses types current world₁ v failure world' := by
  induction items generalizing world with
  | nil => exact .inl ⟨[], world, .nil⟩
  | cons item rest ih =>
    obtain ⟨hitem, hrest⟩ := List.forall_mem_cons.1 h
    -- the first item is refused, or the first of the rest that is refused comes later
    rcases hitem world with ⟨operand, world₁, hfirst⟩ | ⟨failure, world', hfirst⟩
    · rcases ih hrest world₁ with ⟨operands, world', hall⟩ |
        ⟨before, v, after, operands, world₂, failure, world', rfl, hbefore, hv⟩
      · exact .inl ⟨operand :: operands, world', .cons hfirst hall⟩
      · exact .inr ⟨item :: before, v, after, operand :: operands, world₂, failure, world', rfl,
          .cons hfirst hbefore, hv⟩
    · exact .inr ⟨[], item, rest, [], world, failure, world', rfl, .nil, hfirst⟩

/-- What is no operand is refused, with or without a text. -/
lemma Decided.of_unsupported (h : v.isUnsupported = true) : Decided types current v := by
  intro world
  rcases hwritten : v.isWritten with _ | _
  · exact .inr ⟨_, world, .culprit (.unwritten h hwritten)⟩
  · exact .inr ⟨_, world, .culprit (.unsupported h hwritten)⟩

mutual

theorem compiles_or_refuses : ∀ v : Value, Decided types current v
  | .null | .bool _ | .int _ | .float _ | .str _ | .bytes _ | .derived .. =>
    fun world => .inl ⟨_, world, .literal rfl⟩
  | .reference entry => fun world => .inl ⟨_, world, .reference entry⟩
  | .useDefault => fun world => .inr ⟨_, world, .culprit .useDefault⟩
  | .nested .. | .set _ | .foreign _ | .enumMember .. => .of_unsupported types current rfl
  | .definition d => fun world => by
    rcases h : compileNested types d current world with ⟨failure | plan, world'⟩
    · exact .inr ⟨failure, world', .culprit (.definition h)⟩
    · exact .inl ⟨_, world', .definition h⟩
  | .list items => fun world => by
    rcases compilesAll_or_refuses types current (compiles_or_refuses_items items) world with
      ⟨operands, world', h⟩ | ⟨before, v, after, operands, world₁, failure, world', rfl, hbefore, h⟩
    · exact .inl ⟨_, world', .list h⟩
    · exact .inr ⟨failure, world', .list hbefore h⟩
  | .tuple items => fun world => by
    rcases compilesAll_or_refuses types current (compiles_or_refuses_items items) world with
      ⟨operands, world', h⟩ | ⟨before, v, after, operands, world₁, failure, world', rfl, hbefore, h⟩
    · exact .inl ⟨_, world', .tuple h⟩
    · exact .inr ⟨failure, world', .tuple hbefore h⟩
  | .dict entries => fun world => by
    rcases compilesAll_or_refuses types current (compiles_or_refuses_entries entries) world with
      ⟨operands, world', h⟩ |
        ⟨before, v, after, operands, world₁, failure, world', hentries, hbefore, h⟩
    · exact .inl ⟨_, world', .dict (fun _ _ => trivial) h⟩
    · exact .inr ⟨failure, world', .dict hentries hbefore h⟩

theorem compiles_or_refuses_items : ∀ items : List Value, ∀ v ∈ items, Decided types current v
  | [] => List.forall_mem_nil _
  | item :: rest =>
    List.forall_mem_cons.2 ⟨compiles_or_refuses item, compiles_or_refuses_items rest⟩

theorem compiles_or_refuses_entries :
    ∀ entries : List (Value × Value), ∀ v ∈ entries.map Prod.snd, Decided types current v
  | [] => List.forall_mem_nil _
  | (_, item) :: rest =>
    List.forall_mem_cons.2 ⟨compiles_or_refuses item, compiles_or_refuses_entries rest⟩

end

variable {types current}

/-! ## Keys -/

lemma Value.HasKeysIn.of_mem {K : Value → Prop} {container : Value}
    (hpart : ∀ {part : Value}, v.HasPart part → container.HasPart part)
    (h : container.HasKeysIn K) : v.HasKeysIn K :=
  fun entries hentries => h entries (hpart hentries)

mutual

/-- What compiles with keys from a set compiles, and has its keys from there. -/
theorem Compiles.hasKeysIn : ∀ {world world' : World} {v operand : Value},
    Compiles K types current world v operand world' →
      Compiles (fun _ => True) types current world v operand world' ∧ v.HasKeysIn K
  | _, _, _, _, .literal h => by
    refine ⟨.literal h, fun entries hpart => ?_⟩
    cases hpart with
    | self => exact absurd h Bool.false_ne_true
    | _ => exact absurd h Bool.false_ne_true
  | _, _, _, _, .reference entry => by
    refine ⟨.reference entry, fun entries hpart => ?_⟩
    cases hpart
  | _, _, _, _, .definition h => by
    refine ⟨.definition h, fun entries hpart => ?_⟩
    cases hpart
  | _, _, _, _, .list h => by
    obtain ⟨hall, hkeys⟩ := h.hasKeysIn
    refine ⟨.list hall, fun entries hpart => ?_⟩
    cases hpart with
    | list hv hpart => exact hkeys _ hv entries hpart
  | _, _, _, _, .tuple h => by
    obtain ⟨hall, hkeys⟩ := h.hasKeysIn
    refine ⟨.tuple hall, fun entries hpart => ?_⟩
    cases hpart with
    | tuple hv hpart => exact hkeys _ hv entries hpart
  | _, _, _, _, .dict hown h => by
    obtain ⟨hall, hkeys⟩ := h.hasKeysIn
    refine ⟨.dict (fun _ _ => trivial) hall, fun entries hpart => ?_⟩
    cases hpart with
    | self => exact hown
    | dict hv hpart => exact hkeys _ hv entries hpart

theorem CompilesAll.hasKeysIn : ∀ {world world' : World} {items operands : List Value},
    CompilesAll K types current world items operands world' →
      CompilesAll (fun _ => True) types current world items operands world' ∧
        ∀ v ∈ items, v.HasKeysIn K
  | _, _, _, _, .nil => ⟨.nil, List.forall_mem_nil _⟩
  | _, _, _, _, .cons h hrest =>
    ⟨.cons h.hasKeysIn.1 hrest.hasKeysIn.1,
      List.forall_mem_cons.2 ⟨h.hasKeysIn.2, hrest.hasKeysIn.2⟩⟩

end

mutual

/-- What compiles and has its keys from a set compiles with keys from there. -/
theorem Compiles.of_hasKeysIn : ∀ {world world' : World} {v operand : Value},
    Compiles (fun _ => True) types current world v operand world' → v.HasKeysIn K →
      Compiles K types current world v operand world'
  | _, _, _, _, .literal h, _ => .literal h
  | _, _, _, _, .reference entry, _ => .reference entry
  | _, _, _, _, .definition h, _ => .definition h
  | _, _, _, _, .list h, hkeys => .list (h.of_hasKeysIn fun _ hv => hkeys.of_mem (.list hv))
  | _, _, _, _, .tuple h, hkeys => .tuple (h.of_hasKeysIn fun _ hv => hkeys.of_mem (.tuple hv))
  | _, _, _, _, .dict _ h, hkeys =>
    .dict (hkeys _ (.self _)) (h.of_hasKeysIn fun _ hv => hkeys.of_mem (.dict hv))

theorem CompilesAll.of_hasKeysIn : ∀ {world world' : World} {items operands : List Value},
    CompilesAll (fun _ => True) types current world items operands world' →
      (∀ v ∈ items, v.HasKeysIn K) → CompilesAll K types current world items operands world'
  | _, _, _, _, .nil, _ => .nil
  | _, _, _, _, .cons h hrest, hkeys =>
    .cons (h.of_hasKeysIn (hkeys _ List.mem_cons_self))
      (hrest.of_hasKeysIn fun v hv => hkeys v (List.mem_cons_of_mem _ hv))

end

/-! ## The law -/

/-- A part of the value is no operand, and cannot be written. -/
def Value.HasUnwritten (v : Value) : Prop :=
  ∃ part, v.HasPart part ∧ part.isUnsupported = true ∧ part.isWritten = false

lemma Value.HasUnwritten.of_mem {container : Value}
    (hpart : ∀ {part : Value}, v.HasPart part → container.HasPart part) (h : v.HasUnwritten) :
    container.HasUnwritten :=
  h.imp fun _ ⟨h, hno⟩ => ⟨hpart h, hno⟩

/-- The failure is that of a compilation, or that of writing a part of the value that is no operand,
or that of a definition that stands in the value. -/
def Reported (types : Option Introspector) (current : Option Value) (v : Value)
    (failure : Failure) (world' : World) : Prop :=
  failure.isCompilation = true ∨ (failure = .longNumber none ∧ v.HasUnwritten) ∨
    ∃ d world₁, v.HasPart (.definition d) ∧
      compileNested types d current world₁ = (.error failure, world')

lemma Reported.of_mem {container : Value}
    (hpart : ∀ {part : Value}, v.HasPart part → container.HasPart part)
    (h : Reported types current v failure world') :
    Reported types current container failure world' :=
  h.imp_right <| Or.imp (And.imp_right fun h => h.of_mem hpart)
    fun ⟨d, world₁, h, hd⟩ => ⟨d, world₁, hpart h, hd⟩

lemma Refuses.reported (h : Refuses types current world v failure world') :
    Reported types current v failure world' := by
  -- only the culprit itself is reported; around it, it stays part of what is compiled
  induction h with
  | culprit h =>
    cases h with
    | useDefault => exact .inl rfl
    | unsupported => exact .inl rfl
    | unwritten h hwritten => exact .inr (.inl ⟨rfl, _, .self _, h, hwritten⟩)
    | definition h => exact .inr (.inr ⟨_, _, .self _, h⟩)
  | list _ _ ih =>
    exact ih.of_mem (.list (List.mem_append_right _ List.mem_cons_self))
  | tuple _ _ ih =>
    exact ih.of_mem (.tuple (List.mem_append_right _ List.mem_cons_self))
  | dict hentries _ _ ih =>
    refine ih.of_mem (.dict ?_)
    rw [hentries]
    exact List.mem_append_right _ List.mem_cons_self

/-- What compiling a value comes to, by the rules of the language. -/
structure FollowsLanguage (types : Option Introspector) (current : Option Value) (world : World)
    (v : Value) : Prop where
  /-- It returns what the rules say, for just the values that are in the language. -/
  returned_iff : ∀ operand world',
    compileOperand types v current world = (.ok operand, world') ↔
      Compiles (fun _ => True) types current world v operand world'
  /-- It fails as the rules say, for just the values that are refused. -/
  refused_iff : ∀ failure world',
    compileOperand types v current world = (.error failure, world') ↔
      Refuses types current world v failure world'
  /-- The failure is that of a compilation, with the two exceptions. -/
  reported : ∀ failure world', compileOperand types v current world = (.error failure, world') →
    Reported types current v failure world'
  /-- The values that are in the language with keys from a set are those that are returned and have
  their keys from there. -/
  keys_iff : ∀ (K : Value → Prop) operand world',
    Compiles K types current world v operand world' ↔
      compileOperand types v current world = (.ok operand, world') ∧ v.HasKeysIn K

/-- A value compiles if and only if it is in the language, whatever the keys of its dictionaries
are, and is refused for the first part of it that is not. -/
theorem compileOperand_language (types : Option Introspector) (current : Option Value)
    (world : World) (v : Value) : FollowsLanguage types current world v := by
  have hreturned : ∀ operand world',
      compileOperand types v current world = (.ok operand, world') ↔
        Compiles (fun _ => True) types current world v operand world' := by
    intro operand world'
    rw [compileOperand_eq]
    refine ⟨fun h => ?_, Compiles.run⟩
    rcases compiles_or_refuses types current v world with ⟨operand₁, world₁, h₁⟩ |
      ⟨failure, world₁, h₁⟩
    · rw [h₁.run] at h
      obtain ⟨hok, rfl⟩ := Prod.mk.inj h
      exact Except.ok.inj hok ▸ h₁
    · rw [h₁.run] at h
      exact absurd (congrArg Prod.fst h) nofun
  have hrefused : ∀ failure world',
      compileOperand types v current world = (.error failure, world') ↔
        Refuses types current world v failure world' := by
    intro failure world'
    rw [compileOperand_eq]
    refine ⟨fun h => ?_, Refuses.run⟩
    rcases compiles_or_refuses types current v world with ⟨operand₁, world₁, h₁⟩ |
      ⟨failure₁, world₁, h₁⟩
    · rw [h₁.run] at h
      exact absurd (congrArg Prod.fst h) nofun
    · rw [h₁.run] at h
      obtain ⟨hfail, rfl⟩ := Prod.mk.inj h
      exact Except.error.inj hfail ▸ h₁
  refine ⟨hreturned, hrefused, fun failure world' h => ((hrefused _ _).1 h).reported, ?_⟩
  intro K operand world'
  rw [hreturned]
  exact ⟨Compiles.hasKeysIn, fun h => h.1.of_hasKeysIn h.2⟩

/-- A dictionary with a key that holds the mark for declared defaults. -/
def defaultInKey : Value :=
  .dict [(.tuple [.useDefault], .int 1)]

/-- The dictionary is returned as it is, though its key is refused on its own, so that it is not in
the language with keys of the language. -/
theorem defaultInKey_returned :
    compileOperand none defaultInKey none {} = (.ok defaultInKey, {}) ∧
      compileOperand none (.tuple [.useDefault]) none {} =
        (.error (.mismatch .misplacedDefault), {}) ∧
      ¬ Compiles (fun key => ∃ w operand w', Compiles (fun _ => True) none none w key operand w')
        none none {} defaultInKey defaultInKey {} := by
  have hkey : ∀ w, compileOperand none (.tuple [.useDefault]) none w =
      (.error (.mismatch .misplacedDefault), w) := by
    intro w
    refine ((compileOperand_language none none w _).refused_iff _ _).2 ?_
    show Refuses none none w (.tuple ([] ++ .useDefault :: [])) _ _
    exact .tuple .nil (.culprit .useDefault)
  refine ⟨?_, hkey {}, fun h => ?_⟩
  · refine ((compileOperand_language none none {} _).returned_iff _ _).2 ?_
    have hitems : CompilesAll (fun _ => True) none none {}
        ([(Value.tuple [.useDefault], Value.int 1)].map Prod.snd) [.int 1] {} :=
      .cons (.literal rfl) .nil
    exact .dict (fun _ _ => trivial) hitems
  · obtain ⟨-, hkeys⟩ := ((compileOperand_language none none {} _).keys_iff _ _ _).1 h
    obtain ⟨w, operand, w', hin⟩ := hkeys _ (.self _) _ (List.mem_singleton_self _)
    have hreturned := ((compileOperand_language none none w _).returned_iff _ _).2 hin
    rw [hkey w] at hreturned
    exact absurd (congrArg Prod.fst hreturned) nofun

end Language

end Blueprint
