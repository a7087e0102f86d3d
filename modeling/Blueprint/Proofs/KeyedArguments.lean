/-
# Arguments that are given by position

A payload gives the arguments of a call by position in an object, and the steps of a builder give
them by name.  Both come to rows of a key and a value that are put into a table by the positions
that the keys stand for, the builder's over the values that are given in order.  `KeyedBy` says what
such a table holds: for each position the value of the last row whose key stands for it
(`LastRow`), or else what was given in order.

So no value is lost as long as no two keys stand for one position (`KeyedBy.kept`); and as keys are
compared as texts, two keys of one position can stand in the same object, and the earlier of the two
values is nowhere.
-/
import Blueprint.Proofs.ClearOperands
import Blueprint.Proofs.LoadedValues
import Mathlib.Data.List.Induction

namespace Blueprint

/-! ## What a table has for a key -/

namespace Entries

variable {κ ι : Type} [BEq κ] [LawfulBEq κ]

/-- A table has for a key what the last of its pairs had. -/
lemma get?_ofList (key : κ) (pairs : List (κ × ι)) :
    get? key (ofList pairs) = get? key pairs.reverse := by
  induction pairs using List.reverseRecOn with
  | nil => rfl
  | append_singleton before pair ih =>
    have hput : ofList (before ++ [pair]) = put pair.1 pair.2 (ofList before) :=
      List.foldl_append
    rw [hput, List.reverse_append, List.reverse_singleton, List.singleton_append, get?, ← ih]
    -- the last pair with the key decides
    by_cases h : pair.1 = key
    · rw [if_pos (beq_iff_eq.2 h), ← h, get?_put_self]
    · rw [if_neg (by rwa [beq_iff_eq]), get?_put_of_ne (Ne.symm h)]

lemma get?_ofList_append (key : κ) (before after : List (κ × ι)) :
    get? key (ofList (before ++ after)) =
      (get? key (ofList after)).or (get? key (ofList before)) := by
  simp only [get?_ofList, List.reverse_append, get?_append]

lemma get?_ofList_cons (key : κ) (pair : κ × ι) (rest : List (κ × ι)) :
    get? key (ofList (pair :: rest)) =
      (get? key (ofList rest)).or (if pair.1 == key then some pair.2 else none) := by
  rw [← List.singleton_append, get?_ofList_append]
  rfl

end Entries

lemma Binding.keys_enumerate (vs : List Value) (first : Nat) :
    Entries.keys (Binding.enumerate vs first) = List.range' first vs.length := by
  induction vs generalizing first with
  | nil => rfl
  | cons v rest ih =>
    rw [Binding.enumerate, List.length_cons, List.range'_succ, ← ih]
    rfl

/-- Values that are enumerated have their places as positions. -/
lemma Binding.get?_ofList_enumerate (vs : List Value) (first i : Nat) :
    Entries.get? i (Entries.ofList (Binding.enumerate vs first)) =
      if first ≤ i then vs[i - first]? else none := by
  induction vs generalizing first with
  | nil => simp [Binding.enumerate, Entries.ofList]
  | cons v rest ih =>
    rw [Binding.enumerate, Entries.get?_ofList_cons, ih]
    -- before the first position, at it, or after it
    rcases Nat.lt_trichotomy i first with hlt | rfl | hlt
    · rw [if_neg (by omega), if_neg (by rw [beq_iff_eq]; omega), if_neg (by omega)]
      rfl
    · rw [if_neg (by omega), if_pos (beq_self_eq_true i), if_pos (Nat.le_refl i), Nat.sub_self]
      rfl
    · rw [if_pos (by omega), if_neg (by rw [beq_iff_eq]; omega), if_pos (by omega),
        show i - first = i - (first + 1) + 1 by omega, List.getElem?_cons_succ, Option.or_none]

/-! ## Rows of keys and values -/

section Rows

variable {β : Type} {stands : Text → Nat → Prop} {n : Nat}

/-- The last of the rows whose key stands for the position. -/
inductive LastRow (stands : Text → Nat → Prop) (n : Nat) (e : Text × β) :
    List (Text × β) → Prop where
  /-- It is the first row, and no later key stands for the position. -/
  | here {rest : List (Text × β)} (h : stands e.1 n) (hrest : ∀ e' ∈ rest, ¬ stands e'.1 n) :
      LastRow stands n e (e :: rest)
  /-- It is one of the later rows. -/
  | later {e' : Text × β} {rest : List (Text × β)} (h : LastRow stands n e rest) :
      LastRow stands n e (e' :: rest)

/-- The table holds what rows give, over what is given in order. -/
structure KeyedBy (stands : Text → Nat → Prop) (means : β → Value → Prop) (rows : List (Text × β))
    (inOrder : List Value) (bound : List (Nat × Value)) : Prop where
  /-- Every key stands for a position, and every value is one. -/
  accepted : ∀ e ∈ rows, (∃ n, stands e.1 n) ∧ ∃ v, means e.2 v
  /-- Each position is bound once. -/
  nodup : (bound.map Prod.fst).Nodup
  /-- A position has the value of the last row that is for it, or else the value in its order. -/
  get?_iff : ∀ n v, Entries.get? n bound = some v ↔
    (∃ e, LastRow stands n e rows ∧ means e.2 v) ∨
      (∀ e ∈ rows, ¬ stands e.1 n) ∧ inOrder[n]? = some v

/-- What comes of rows that are put over what is given in order: a table that holds them, or the
failure of the first row that is not accepted. -/
inductive KeyedOutcome (stands : Text → Nat → Prop) (means : β → Value → Prop)
    (refuses : Text × β → Failure → Prop) (rows : List (Text × β)) (inOrder : List Value) :
    Except Failure (List (Nat × Value)) → Prop where
  /-- Every row is accepted. -/
  | bound {bound : List (Nat × Value)} (h : KeyedBy stands means rows inOrder bound) :
      KeyedOutcome stands means refuses rows inOrder (.ok bound)
  /-- The first row that is not accepted is refused. -/
  | refused {before after : List (Text × β)} {e : Text × β} {failure : Failure}
      (hrows : rows = before ++ e :: after)
      (hbefore : ∀ e' ∈ before, (∃ n, stands e'.1 n) ∧ ∃ v, means e'.2 v)
      (he : ¬ ((∃ n, stands e.1 n) ∧ ∃ v, means e.2 v)) (h : refuses e failure) :
      KeyedOutcome stands means refuses rows inOrder (.error failure)

lemma lastRow_cons_iff {e first : Text × β} {rest : List (Text × β)} :
    LastRow stands n e (first :: rest) ↔
      LastRow stands n e rest ∨ (e = first ∧ stands first.1 n ∧ ∀ e' ∈ rest, ¬ stands e'.1 n) := by
  constructor
  · intro h
    cases h with
    | here h hrest => exact .inr ⟨rfl, h, hrest⟩
    | later h => exact .inl h
  · rintro (h | ⟨rfl, h, hrest⟩)
    · exact .later h
    · exact .here h hrest

/-- Where no two keys stand for one position, every row is the last for its own. -/
lemma lastRow_of_pairwise {rows : List (Text × β)}
    (h : rows.Pairwise fun a b => ∀ n, stands a.1 n → ¬ stands b.1 n) {e : Text × β}
    (he : e ∈ rows) (hn : stands e.1 n) : LastRow stands n e rows := by
  induction rows with
  | nil => exact absurd he List.not_mem_nil
  | cons first rest ih =>
    obtain ⟨hfirst, hrest⟩ := List.pairwise_cons.1 h
    rcases List.mem_cons.1 he with rfl | he
    · exact .here hn fun e' he' => hfirst e' he' n hn
    · exact .later (ih hrest he)

variable {means : β → Value → Prop} {rows : List (Text × β)} {inOrder : List Value}
  {bound : List (Nat × Value)}

/-- No value is lost where no two keys stand for one position. -/
lemma KeyedBy.kept (h : KeyedBy stands means rows inOrder bound)
    (hrows : rows.Pairwise fun a b => ∀ n, stands a.1 n → ¬ stands b.1 n) {e : Text × β}
    (he : e ∈ rows) : ∃ n v, stands e.1 n ∧ means e.2 v ∧ Entries.get? n bound = some v := by
  obtain ⟨⟨n, hn⟩, v, hv⟩ := h.accepted e he
  exact ⟨n, v, hn, hv, (h.get?_iff n v).2 (.inl ⟨e, lastRow_of_pairwise hrows he hn, hv⟩)⟩

section Tables

variable (hstands : ∀ key n n', stands key n → stands key n' → n = n')
  (hmeans : ∀ b v v', means b v → means b v' → v = v')
  {pairs : List (Nat × Value)}
  (hpairs : List.Forall₂ (fun e pair => stands e.1 pair.1 ∧ means e.2 pair.2) rows pairs)

include hstands hpairs

lemma get?_ofList_eq_none_iff :
    Entries.get? n (Entries.ofList pairs) = none ↔ ∀ e ∈ rows, ¬ stands e.1 n := by
  induction hpairs with
  | nil => simp [Entries.ofList]
  | @cons e pair rest pairs he _ ih =>
    rw [Entries.get?_ofList_cons, Option.or_eq_none_iff, ih, List.forall_mem_cons, and_comm]
    -- the first row stands for no other position than that of its pair
    refine and_congr_left fun _ => ?_
    constructor
    · intro h hn
      rw [hstands e.1 n pair.1 hn he.1, if_pos (beq_self_eq_true _)] at h
      exact absurd h (by simp)
    · intro h
      rw [if_neg]
      rw [beq_iff_eq]
      rintro rfl
      exact h he.1

include hmeans

lemma get?_ofList_eq_some_iff {v : Value} :
    Entries.get? n (Entries.ofList pairs) = some v ↔
      ∃ e, LastRow stands n e rows ∧ means e.2 v := by
  induction hpairs with
  | nil =>
    constructor
    · exact fun h => absurd h (by simp [Entries.ofList])
    · rintro ⟨e, h, -⟩
      cases h
  | @cons first pair rest pairs hfirst hrest ih =>
    -- the first row has the position if its key stands for it and no later row has the position
    have hnone : Entries.get? n (Entries.ofList pairs) = none ↔ ∀ e ∈ rest, ¬ stands e.1 n :=
      get?_ofList_eq_none_iff hstands hrest
    have hself : (pair.1 == n) = true ↔ stands first.1 n := by
      rw [beq_iff_eq]
      constructor
      · rintro rfl
        exact hfirst.1
      · exact fun hn => hstands first.1 pair.1 n hfirst.1 hn
    rw [Entries.get?_ofList_cons, Option.or_eq_some_iff, ih, hnone]
    simp only [lastRow_cons_iff, or_and_right, exists_or, and_assoc, exists_eq_left]
    refine or_congr_right ?_
    constructor
    · rintro ⟨hlast, h⟩
      split at h
      · rename_i hpair
        obtain rfl := Option.some.inj h
        exact ⟨hself.1 hpair, hlast, hfirst.2⟩
      · exact absurd h (by simp)
    · rintro ⟨hn, hlast, hv⟩
      rw [if_pos (hself.2 hn), hmeans first.2 pair.2 v hfirst.2 hv]
      exact ⟨hlast, rfl⟩

/-- Rows that are put over what is given in order are held by the table. -/
lemma keyedBy_ofList (inOrder : List Value) :
    KeyedBy stands means rows inOrder
      (Entries.ofList (Binding.enumerate inOrder 0 ++ pairs)) where
  accepted := by
    intro e he
    obtain ⟨pair, -, hpair⟩ := exists_of_forall₂ hpairs.flip he
    exact ⟨⟨_, hpair.1⟩, _, hpair.2⟩
  nodup := Entries.nodup_keys_ofList _
  get?_iff := by
    intro n v
    rw [Entries.get?_ofList_append, Option.or_eq_some_iff,
      get?_ofList_eq_some_iff hstands hmeans hpairs, get?_ofList_eq_none_iff hstands hpairs,
      Binding.get?_ofList_enumerate]
    simp only [Nat.zero_le, if_true, Nat.sub_zero]

end Tables

end Rows

/-! ## Arguments of a payload -/

namespace Definition

open Run

/-- What is wrong with an argument that is given by position. -/
inductive RefusedArgument (label : Text) (entry : Option Value) (world : World) (e : Text × Json) :
    Failure → Prop where
  /-- Its key has a point that is no digit, or none. -/
  | key (h : Position.isKey e.1 = false) :
      RefusedArgument label entry world e (.mistake ⟨.argumentKey label e.1, entry⟩)
  /-- Its value is not read. -/
  | value {failure : Failure} (hkey : Position.isKey e.1 = true)
      (h : (loadValue e.2 entry world).1 = .error failure) :
      RefusedArgument label entry world e failure
  /-- Its key passes for a position and stands for none. -/
  | numeral {failure : Failure} (hvalue : ∃ v, Loads e.2 v) (h : KeyUnreported e.1 failure) :
      RefusedArgument label entry world e failure

lemma Loads.unique {json : Json} {v v' : Value} (h : Loads json v) (h' : Loads json v') : v = v' :=
  (loads_iff_returns.1 h).unique (loads_iff_returns.1 h')

variable {label : Text} {members : List (Text × Json)} {entry : Option Value} {world : World}

/-- The arguments of an object are the table that its keys and values make. -/
lemma keyedBy_of_loadArguments {arguments : List (Nat × Value)}
    (h : (loadArguments label (.object members) entry world).1 = .ok arguments) :
    KeyedBy Position.Denotes Loads members [] arguments := by
  have hsettled : (loadArguments label (.object members)).Settled :=
    loadArguments_settled label fun part _ => loadValue_settled part
  obtain ⟨rows, hrows, rfl⟩ :=
    loadArguments_object_returns_iff.1 (hsettled entry world arguments h)
  have hdenotes : ∀ key n n', Position.Denotes key n → Position.Denotes key n' → n = n' :=
    fun _ _ _ => Position.Denotes.unique
  have hloads : ∀ json v v', Loads json v → Loads json v' → v = v' := fun _ _ _ => Loads.unique
  exact keyedBy_ofList hdenotes hloads hrows []

lemma refusedArgument_of_loadKeyedOne {e : Text × Json} {failure : Failure}
    (h : (loadKeyedOne label e entry world).1 = .error failure) :
    RefusedArgument label entry world e failure := by
  rcases hkey : Position.isKey e.1 with _ | _
  · rw [loadKeyedOne_of_not_isKey hkey] at h
    obtain rfl := Except.error.inj h
    exact .key hkey
  · rw [loadKeyedOne_of_isKey hkey] at h
    rcases hv : loadValue e.2 entry world with ⟨failure' | v, w⟩
    · rw [bind_of_error hv] at h
      obtain rfl := Except.error.inj h
      exact .value hkey (by rw [hv])
    · have hloads : Loads e.2 v := ⟨entry, world, by rw [hv]⟩
      rw [bind_of_ok hv, loadKey] at h
      rcases hn : Position.ofDigits e.1 with failure' | n <;> rw [hn] at h
      · obtain rfl := Except.error.inj h
        exact .numeral ⟨v, hloads⟩ ((Position.ofDigits_eq_error_iff hkey).1 hn)
      · exact absurd h (by simp [Run.ofExcept])

lemma RefusedArgument.not_accepted {e : Text × Json} {failure : Failure}
    (h : RefusedArgument label entry world e failure) :
    ¬ ((∃ n, Position.Denotes e.1 n) ∧ ∃ v, Loads e.2 v) := by
  rintro ⟨⟨n, hn⟩, v, hv⟩
  cases h with
  | key h => exact absurd (h.symm.trans hn.isKey) (by simp)
  | value _ h =>
    rw [loads_iff_returns.1 hv entry world] at h
    exact absurd h (by simp)
  | numeral _ h =>
    have hok := (Position.ofDigits_eq_ok_iff hn.isKey).2 hn
    have herror := (Position.ofDigits_eq_error_iff hn.isKey).2 h
    exact absurd (hok.symm.trans herror) (by simp)

/-- Arguments that are refused are so for the first of them that is not accepted. -/
lemma exists_refusedArgument {failure : Failure}
    (h : (loadArguments label (.object members) entry world).1 = .error failure) :
    ∃ before e after, members = before ++ e :: after ∧
      (∀ e' ∈ before, (∃ n, Position.Denotes e'.1 n) ∧ ∃ v, Loads e'.2 v) ∧
      RefusedArgument label entry world e failure := by
  -- it is reading the rows that fails: making a table of them does not
  have hkeyed : (loadKeyed label members entry world).1 = .error failure := by
    rw [loadArguments, bind_apply] at h
    rcases hr : loadKeyed label members entry world with ⟨failure' | rows, w⟩ <;> rw [hr] at h
    · exact congrArg Except.error (Except.error.inj h)
    · exact absurd h (by simp)
  obtain ⟨before, e, after, rfl, hbefore, he⟩ :=
    exists_of_traverse_error (loadKeyed_traverses label)
      (fun e _ => loadKeyedOne_settled (loadValue_settled e.2)) hkeyed
  refine ⟨before, e, after, rfl, fun e' he' => ?_, refusedArgument_of_loadKeyedOne he⟩
  obtain ⟨row, hrow⟩ := hbefore e' he'
  obtain ⟨hn, hv⟩ := loadKeyedOne_returns_iff.1 hrow
  exact ⟨⟨_, hn⟩, _, hv⟩

lemma loadArguments_object_outcome (label : Text) (members : List (Text × Json))
    (entry : Option Value) (world : World) :
    KeyedOutcome Position.Denotes Loads (RefusedArgument label entry world) members []
      (loadArguments label (.object members) entry world).1 := by
  rcases h : (loadArguments label (.object members) entry world).1 with failure | arguments
  · obtain ⟨before, e, after, hmembers, hbefore, he⟩ := exists_refusedArgument h
    exact .refused hmembers hbefore he.not_accepted he
  · exact .bound (keyedBy_of_loadArguments h)

end Definition

/-! ## Arguments of a builder -/

/-- What is wrong with the name of an argument. -/
inductive RefusedName (name : Text) : Failure → Prop where
  /-- It has not the form of one that stands for a position. -/
  | name (h : ¬ Position.IsName name) : RefusedName name (.positionName name)
  /-- Its key passes for a position and stands for none. -/
  | numeral {key : Text} {failure : Failure} (hname : name = "p" ++ key)
      (h : Definition.KeyUnreported key failure) : RefusedName name failure

lemma refusedName_iff {name : Text} {failure : Failure} :
    Position.ofName name = .error failure ↔ RefusedName name failure := by
  rw [Position.ofName_eq_error_iff]
  constructor
  · rintro (⟨h, rfl⟩ | ⟨key, hname, h⟩)
    · exact .name h
    · exact .numeral hname h
  · rintro (h | ⟨hname, h⟩)
    · exact .inl ⟨h, rfl⟩
    · exact .inr ⟨_, hname, h⟩

lemma RefusedName.not_names {name : Text} {failure : Failure} (h : RefusedName name failure)
    (n : Nat) : ¬ Position.Names name n := by
  intro hn
  have hok := Position.ofName_eq_ok_iff.2 hn
  exact absurd (hok.symm.trans (refusedName_iff.2 h)) (by simp)

lemma Position.Names.unique {name : Text} {n n' : Nat} (h : Position.Names name n)
    (h' : Position.Names name n') : n = n' :=
  Except.ok.inj ((ofName_eq_ok_iff.2 h).symm.trans (ofName_eq_ok_iff.2 h'))

/-- Every name stands for a position, or the first that does not is reported. -/
lemma namedArguments_cases (named : List (Text × Value)) :
    (∃ pairs, namedArguments named = .ok pairs ∧
      List.Forall₂ (fun e pair => Position.Names e.1 pair.1 ∧ e.2 = pair.2) named pairs) ∨
    ∃ before e after failure, named = before ++ e :: after ∧
      (∀ e' ∈ before, ∃ n, Position.Names e'.1 n) ∧ RefusedName e.1 failure ∧
        namedArguments named = .error failure := by
  induction named with
  | nil => exact .inl ⟨[], rfl, .nil⟩
  | cons e rest ih =>
    obtain ⟨name, value⟩ := e
    rw [namedArguments]
    rcases hn : Position.ofName name with failure | n
    · have hrefused := refusedName_iff.1 hn
      exact .inr ⟨[], (name, value), rest, failure, rfl, List.forall_mem_nil _, hrefused, rfl⟩
    · have hname : Position.Names name n := Position.ofName_eq_ok_iff.1 hn
      rcases ih with ⟨pairs, hok, hpairs⟩ | ⟨before, e, after, failure, rfl, hbefore, he, hfails⟩
      · exact .inl ⟨(n, value) :: pairs, by rw [hok]; rfl, .cons ⟨hname, rfl⟩ hpairs⟩
      · exact .inr ⟨(name, value) :: before, e, after, failure, rfl,
          List.forall_mem_cons.2 ⟨⟨n, hname⟩, hbefore⟩, he, by rw [hfails]; rfl⟩

lemma ofCall_outcome (method : Text) (arguments : List Value) (named : List (Text × Value)) :
    ∃ outcome, KeyedOutcome Position.Names Eq (fun e => RefusedName e.1) named arguments outcome ∧
      Binding.ofCall method arguments named = outcome.map (⟨method, ·⟩) := by
  have hmeans : ∀ v v' v'' : Value, v = v' → v = v'' → v' = v'' := fun _ _ _ h h' => h.symm.trans h'
  have hnames : ∀ name n n', Position.Names name n → Position.Names name n' → n = n' :=
    fun _ _ _ => Position.Names.unique
  rw [Binding.ofCall]
  rcases namedArguments_cases named with
    ⟨pairs, hok, hpairs⟩ | ⟨before, e, after, failure, hnamed, hbefore, he, hfails⟩
  · exact ⟨.ok _, .bound (keyedBy_ofList hnames hmeans hpairs arguments), by rw [hok]; rfl⟩
  · refine ⟨.error failure, .refused hnamed ?_ ?_ he, by rw [hfails]; rfl⟩
    · exact fun e' he' => ⟨hbefore e' he', e'.2, rfl⟩
    · rintro ⟨⟨n, hn⟩, -⟩
      exact he.not_names n hn

/-- A step is refused for the name of one of its own arguments, or else as its names are. -/
lemma checkNames_cases (step : Text) (own : List Text) (named : List (Text × Value)) :
    (∃ e ∈ named, e.1 ∈ own ∧
      checkNames step own named =
        .error (.repeatedArgument ("ObjectDefinitionBuilder." ++ step) e.1)) ∨
      checkNames step own named = .ok () := by
  unfold checkNames
  split
  · next name value hfind =>
    have hmem := List.mem_of_find?_eq_some hfind
    exact .inl ⟨(name, value), hmem, by simpa using List.find?_some hfind, rfl⟩
  · exact .inr rfl

/-- A step is refused for the name of one of its own arguments, or else its outcome is that of the
call it adds. -/
lemma step_outcome (step : Text) (own : List Text) (method : Text) (arguments : List Value)
    (named : List (Text × Value)) (add : Binding → Definition) :
    (∃ e ∈ named, e.1 ∈ own ∧
      (checkNames step own named >>= fun _ => add <$> Binding.ofCall method arguments named) =
        .error (.repeatedArgument ("ObjectDefinitionBuilder." ++ step) e.1)) ∨
    ∃ outcome,
      KeyedOutcome Position.Names Eq (fun e => RefusedName e.1) named arguments outcome ∧
        (checkNames step own named >>= fun _ => add <$> Binding.ofCall method arguments named) =
          outcome.map fun bound => add ⟨method, bound⟩ := by
  rcases checkNames_cases step own named with ⟨e, he, hown, hfails⟩ | hok
  · exact .inl ⟨e, he, hown, by rw [hfails]; rfl⟩
  · obtain ⟨outcome, houtcome, hcall⟩ := ofCall_outcome method arguments named
    refine .inr ⟨outcome, houtcome, ?_⟩
    rw [hok, hcall]
    cases outcome <;> rfl

/-- Two rows have keys whose digits differ, even without the zeros in front. -/
def DigitsDiffer {β : Type} (a b : Text × β) : Prop :=
  Position.significant a.1 ≠ Position.significant b.1

/-- Two arguments have names that stand for different positions. -/
def NamesDiffer {β : Type} (a b : Text × β) : Prop :=
  ∀ key key' : Text, a.1 = "p" ++ key → b.1 = "p" ++ key' →
    Position.significant key ≠ Position.significant key'

lemma DigitsDiffer.not_denotes {β : Type} {a b : Text × β} (h : DigitsDiffer a b) (n : Nat)
    (ha : Position.Denotes a.1 n) : ¬ Position.Denotes b.1 n :=
  fun hb => h ((ha.eq_iff hb).1 rfl)

lemma NamesDiffer.not_names {β : Type} {a b : Text × β} (h : NamesDiffer a b) (n : Nat)
    (ha : Position.Names a.1 n) : ¬ Position.Names b.1 n := by
  rintro ⟨key', hname', hkey'⟩
  obtain ⟨key, hname, hkey⟩ := ha
  exact h key key' hname hname' ((hkey.eq_iff hkey').1 rfl)

/-- Among names that stand for different positions no argument is lost. -/
lemma ofCall_kept {method : Text} {arguments : List Value} {named : List (Text × Value)}
    {b : Binding} (h : Binding.ofCall method arguments named = .ok b)
    (hapart : named.Pairwise NamesDiffer) {e : Text × Value} (he : e ∈ named) :
    ∃ n, Position.Names e.1 n ∧ Entries.get? n b.arguments = some e.2 := by
  obtain ⟨outcome, houtcome, hcall⟩ := ofCall_outcome method arguments named
  rw [hcall] at h
  cases houtcome with
  | bound hbound =>
    obtain rfl := Except.ok.inj h
    obtain ⟨n, v, hn, rfl, hget⟩ := hbound.kept (hapart.imp NamesDiffer.not_names) he
    exact ⟨n, hn, hget⟩
  | refused => exact absurd h (by simp [Except.map])

/-- Arguments that are given by position are bound where their keys say, in payloads and in the
steps of a builder, or refused for the first that cannot be.  Of keys that stand for one position
the last counts: no value is lost as long as the keys differ by more than zeros in front and the
script of their digits. -/
theorem arguments_bound_by_position (label : Text) (members : List (Text × Json))
    (entry : Option Value) (world : World) (d : Definition) (method : Text)
    (inOrder : List Value) (named : List (Text × Value)) :
    -- the arguments of an object
    KeyedOutcome Position.Denotes Definition.Loads
      (Definition.RefusedArgument label entry world) members []
      (Definition.loadArguments label (.object members) entry world).1 ∧
    (∀ arguments,
      (Definition.loadArguments label (.object members) entry world).1 = .ok arguments →
        members.Pairwise DigitsDiffer → ∀ e ∈ members, ∃ n v, Position.Denotes e.1 n ∧
          Definition.Loads e.2 v ∧ Entries.get? n arguments = some v) ∧
    -- the arguments of the steps of a builder
    ((∃ e ∈ named, e.1 = ("self" : Text) ∧ d.withConstructor inOrder named =
        .error (.repeatedArgument "ObjectDefinitionBuilder.constructor" e.1)) ∨
      ∃ outcome,
        KeyedOutcome Position.Names Eq (fun e => RefusedName e.1) named inOrder outcome ∧
          d.withConstructor inOrder named =
            outcome.map fun bound => { d with constructor := some ⟨"__init__", bound⟩ }) ∧
    ((∃ e ∈ named, (e.1 = ("self" : Text) ∨ e.1 = ("method_name" : Text)) ∧
        d.withMethod method inOrder named =
          .error (.repeatedArgument "ObjectDefinitionBuilder.method" e.1)) ∨
      ∃ outcome,
        KeyedOutcome Position.Names Eq (fun e => RefusedName e.1) named inOrder outcome ∧
          d.withMethod method inOrder named =
            outcome.map fun bound => { d with methods := d.methods ++ [⟨method, bound⟩] }) ∧
    (∀ b, Binding.ofCall method inOrder named = .ok b →
      named.Pairwise NamesDiffer → ∀ e ∈ named, ∃ n, Position.Names e.1 n ∧
        Entries.get? n b.arguments = some e.2) ∧
    -- keys of one position
    ∀ key key' n n', Position.Denotes key n → Position.Denotes key' n' →
      (n = n' ↔ Position.significant key = Position.significant key') := by
  refine ⟨Definition.loadArguments_object_outcome label members entry world, ?_, ?_, ?_,
    fun b h hapart e he => ofCall_kept h hapart he,
    fun key key' n n' => Position.Denotes.eq_iff⟩
  · intro arguments h hapart e he
    exact (Definition.keyedBy_of_loadArguments h).kept (hapart.imp DigitsDiffer.not_denotes) he
  · rcases step_outcome "constructor" ["self"] "__init__" inOrder named
      fun b => { d with constructor := some b } with ⟨e, he, hown, hfails⟩ | hstep
    · exact .inl ⟨e, he, List.mem_singleton.1 hown, hfails⟩
    · exact .inr hstep
  · rcases step_outcome "method" ["self", "method_name"] method inOrder named
      fun b => { d with methods := d.methods ++ [b] } with ⟨e, he, hown, hfails⟩ | hstep
    · exact .inl ⟨e, he, by simpa using hown, hfails⟩
    · exact .inr hstep

/-- Two arguments are given for one position, under names that differ by a zero: the value of the
earlier one is lost.  Under names of two positions, both values are bound. -/
theorem paddedName_overwrites :
    Binding.ofCall "put" [] [("p1", .str "a"), ("p01", .str "b")] =
        .ok ⟨"put", [(1, .str "b")]⟩ ∧
      Position.significant "1" = Position.significant "01" ∧
      Binding.ofCall "put" [] [("p1", .str "a"), ("p2", .str "b")] =
        .ok ⟨"put", [(1, .str "a"), (2, .str "b")]⟩ ∧
      Position.significant "1" ≠ Position.significant "2" := by
  have hone : Position.Denotes "1" 1 := ⟨[1], by rfl, by simp, by decide, by rfl⟩
  have hpadded : Position.Denotes "01" 1 := ⟨[0, 1], by rfl, by simp, by decide, by rfl⟩
  have htwo : Position.Denotes "2" 2 := ⟨[2], by rfl, by simp, by decide, by rfl⟩
  obtain ⟨-, -, -, -, -, hpositions⟩ := arguments_bound_by_position "put" [] none {}
    (Definition.create "app.X" .null) "put" [] [("p1", .str "a"), ("p01", .str "b")]
  refine ⟨by rfl, (hpositions _ _ 1 1 hone hpadded).1 rfl, by rfl, fun h => ?_⟩
  exact absurd ((hpositions _ _ 1 2 hone htwo).2 h) (by decide)

end Blueprint
