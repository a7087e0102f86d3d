/-
# The order of keys

Keys that can be the names of members are texts, numbers or null.  Texts are ordered by the codes of
their points (`Text.codes`) and numbers by their place on the line of numbers (`numberPlace`), and
two texts or two numbers that share a place are equal.  For numbers that is so because a double has
one form only.  The number that is no number has no place, so no more is said of a dictionary that
has it among its keys.

Values of different kinds have no order, and null has none to anything, so keys that can be sorted
and are all different are a single one, or texts, or numbers.  In each of these cases the sorted
entries do not depend on where they stood.
-/
import Blueprint.Plan.Payload
import Blueprint.Proofs.Sorting
import Mathlib.Data.List.Lex
import Mathlib.Data.Prod.Lex
import Mathlib.Tactic.Positivity

namespace Blueprint

/-! ## Texts -/

lemma Point.code_inj {p p' : Point} (h : p.code = p'.code) : p = p' := by
  have hhalf : ∀ (c : Char) (unit : Fin 0x800), c.toNat ≠ 0xd800 + unit := by
    intro c unit
    have hvalid : c.toNat < 0xd800 ∨ 0xdfff < c.toNat ∧ c.toNat < 0x110000 := c.valid
    omega
  cases p <;> cases p' <;> simp only [code] at h
  · exact congrArg Point.char (Char.toNat_inj.1 h)
  · exact absurd h (hhalf _ _)
  · exact absurd h.symm (hhalf _ _)
  · exact congrArg Point.half (Fin.ext (by omega))

/-- The codes of the points of a text. -/
def Text.codes (t : Text) : List Nat :=
  t.points.map Point.code

lemma Text.codes_inj {s t : Text} (h : s.codes = t.codes) : s = t := by
  obtain ⟨ps⟩ := s
  obtain ⟨qs⟩ := t
  exact congrArg Text.mk (List.map_injective_iff.2 (fun _ _ => Point.code_inj) h)

lemma Text.not_le_iff {s t : Text} : (!t.le s) = true ↔ s.codes < t.codes := by
  obtain ⟨ps⟩ := s
  obtain ⟨qs⟩ := t
  simp only [le, codes]
  induction qs generalizing ps with
  | nil => simp [Point.orderedBefore]
  | cons q qs ih =>
    rcases ps with _ | ⟨p, ps⟩
    · simp [Point.orderedBefore]
    · rw [List.map_cons, List.map_cons, List.cons_lt_cons_iff, ← ih]
      rcases hrest : Point.orderedBefore qs ps <;> simp [Point.orderedBefore, hrest] <;> omega

lemma Value.before_of_str {a b : Value} {s t : Text} (ha : a.scalar? = some (.str s))
    (hb : b.scalar? = some (.str t)) : a.before b = .ok (decide (s.codes < t.codes)) := by
  have hle : (!t.le s) = decide (s.codes < t.codes) := by
    rw [Bool.eq_iff_iff, Text.not_le_iff, decide_eq_true_eq]
  rw [before]
  · simp only [ha, hb, hle]
  · rintro xs _ rfl
    simp [scalar?] at ha
  · rintro xs _ rfl
    simp [scalar?] at ha

lemma Value.equal_of_str {a b : Value} {s : Text} (ha : a.scalar? = some (.str s))
    (hb : b.scalar? = some (.str s)) : a.equal false b = true := by
  have hnumber : b.number? = none := by
    cases b <;> simp_all [scalar?, number?, Scalar.number?]
  cases a <;> simp_all [scalar?, equal, Scalar.number?]

/-! ## Numbers -/

/-- The form with the larger exponent is full, so that a step up of the exponent is more than the
other significand can make up for. -/
lemma Double.Canonical.ne_of_lt {m n : Nat} {q r : Int} (hm : Canonical m q) (hn : Canonical n r)
    (hlt : q < r) : m * 2 ^ (q + 1074).toNat ≠ n * 2 ^ (r + 1074).toNat := by
  obtain ⟨hm, hq, -, -⟩ := hm
  obtain ⟨-, -, -, hn⟩ := hn
  intro heq
  have hfull : 2 ^ 52 ≤ n := hn.resolve_right (by omega)
  obtain ⟨k, hk⟩ : ∃ k, (r + 1074).toNat = k + 1 + (q + 1074).toNat :=
    ⟨(r - q - 1).toNat, by omega⟩
  have hsame : m = n * 2 ^ (k + 1) := by
    rw [hk, pow_add, ← mul_assoc] at heq
    exact Nat.eq_of_mul_eq_mul_right (by positivity) heq
  have hgrows : n * 2 ≤ n * 2 ^ (k + 1) :=
    Nat.mul_le_mul_left n (by rw [pow_succ]; exact Nat.le_mul_of_pos_left 2 (by positivity))
  have hbound : m < 2 ^ 53 := hm
  omega

/-- A double has one form: of two canonical forms with the same value, the exponents are the same
too. -/
lemma Double.Canonical.unique {m n : Nat} {q r : Int} (hm : Canonical m q) (hn : Canonical n r)
    (h : m * 2 ^ (q + 1074).toNat = n * 2 ^ (r + 1074).toNat) : m = n ∧ q = r := by
  obtain rfl : q = r := by
    rcases lt_trichotomy q r with hlt | heq | hlt
    · exact absurd h (hm.ne_of_lt hn hlt)
    · exact heq
    · exact absurd h.symm (hn.ne_of_lt hm hlt)
  exact ⟨Nat.eq_of_mul_eq_mul_right (by positivity) h, rfl⟩

/-- A finite double equals the whole number of the same value. -/
lemma Double.eqInt_of_units {i : Int} {negative : Bool} {m : Nat} {q : Int} (hm : Canonical m q)
    (h : numberUnits (.inl i) = numberUnits (.inr (.finite negative m q hm))) :
    (finite negative m q hm).eqInt i = true := by
  have hsigned : i * 2 ^ 1074 = (if negative then -(m : Int) else m) * 2 ^ (q + 1074).toNat := by
    cases negative
    · exact h
    · exact h.trans (Int.neg_mul _ _).symm
  rw [eqInt]
  generalize (if negative then -(m : Int) else m) = signed at hsigned ⊢
  split
  · have hscale : (2 : Int) ^ (q + 1074).toNat = 2 ^ q.toNat * 2 ^ 1074 := by
      rw [← pow_add]
      congr 1
      omega
    rw [hscale, ← mul_assoc] at hsigned
    exact beq_iff_eq.2 (Int.eq_of_mul_eq_mul_right (by positivity) hsigned).symm
  · have hscale : (2 : Int) ^ 1074 = 2 ^ (-q).toNat * 2 ^ (q + 1074).toNat := by
      rw [← pow_add]
      congr 1
      have := hm.2.1
      omega
    rw [hscale, ← mul_assoc] at hsigned
    exact beq_iff_eq.2 (Int.eq_of_mul_eq_mul_right (by positivity) hsigned).symm

/-- Finite doubles of the same value are equal. -/
lemma Double.numEq_of_units {a b : Bool} {m n : Nat} {q r : Int} (hm : Canonical m q)
    (hn : Canonical n r)
    (h : numberUnits (.inr (.finite a m q hm)) = numberUnits (.inr (.finite b n r hn))) :
    (finite a m q hm).numEq (finite b n r hn) = true := by
  have hunits : ∀ (negative : Bool) (m : Nat) (q : Int) (hm : Canonical m q),
      numberUnits (.inr (.finite negative m q hm)) =
        if negative then -((m * 2 ^ (q + 1074).toNat : Nat) : Int)
        else ((m * 2 ^ (q + 1074).toNat : Nat) : Int) := by
    intro negative m q hm
    rw [Nat.cast_mul, Nat.cast_pow]
    rfl
  rw [hunits, hunits] at h
  have hmagnitude : m * 2 ^ (q + 1074).toNat = n * 2 ^ (r + 1074).toNat := by
    cases a <;> cases b <;> simp only [if_true, Bool.false_eq_true, if_false] at h <;> omega
  obtain ⟨rfl, rfl⟩ := hm.unique hn hmagnitude
  by_cases hzero : m = 0
  · simp [numEq, hzero]
  have hpositive : 0 < m * 2 ^ (q + 1074).toNat := by positivity
  have hsign : a = b := by
    cases a <;> cases b <;>
      simp only [if_true, Bool.true_eq_false, Bool.false_eq_true, if_false] at h ⊢ <;> omega
  simp [numEq, hsign]

/-- Where a number stands on the line of numbers: an infinity at its end, another one at its value
in between. -/
def numberPlace : Int ⊕ Double → ℤ ×ₗ ℤ
  | .inr (.infinity negative) => toLex (if negative then -1 else 1, 0)
  | n => toLex (0, numberUnits n)

/-- Numbers are ordered as their places are. -/
lemma numberBefore_eq : ∀ {m n : Int ⊕ Double}, m ≠ .inr .nan → n ≠ .inr .nan →
    numberBefore m n = decide (numberPlace m < numberPlace n)
  | .inr .nan, _, hm, _ => absurd rfl hm
  | .inl _, .inr .nan, _, hn | .inr (.infinity _), .inr .nan, _, hn
  | .inr (.finite ..), .inr .nan, _, hn => absurd rfl hn
  | .inr (.infinity a), .inr (.infinity b), _, _ => by
    cases a <;> cases b <;> simp [numberBefore, numberPlace, Prod.Lex.toLex_lt_toLex]
  | .inr (.infinity a), .inl _, _, _ | .inr (.infinity a), .inr (.finite ..), _, _ => by
    cases a <;> simp [numberBefore, numberPlace, Prod.Lex.toLex_lt_toLex]
  | .inl _, .inr (.infinity b), _, _ | .inr (.finite ..), .inr (.infinity b), _, _ => by
    cases b <;> simp [numberBefore, numberPlace, Prod.Lex.toLex_lt_toLex]
  | .inl _, .inl _, _, _ | .inl _, .inr (.finite ..), _, _ | .inr (.finite ..), .inl _, _, _
  | .inr (.finite ..), .inr (.finite ..), _, _ => by
    simp [numberBefore, numberPlace, Prod.Lex.toLex_lt_toLex]

/-- Numbers in one place are equal. -/
lemma numbersEqual_of_place : ∀ {m n : Int ⊕ Double}, m ≠ .inr .nan → n ≠ .inr .nan →
    numberPlace m = numberPlace n → numbersEqual false m n = true
  | .inr .nan, _, hm, _, _ => absurd rfl hm
  | .inl _, .inr .nan, _, hn, _ | .inr (.infinity _), .inr .nan, _, hn, _
  | .inr (.finite ..), .inr .nan, _, hn, _ => absurd rfl hn
  | .inr (.infinity a), .inr (.infinity b), _, _, h => by
    cases a <;> cases b <;> simp [numberPlace, numbersEqual, Double.numEq] at h ⊢
  | .inr (.infinity a), .inl _, _, _, h | .inr (.infinity a), .inr (.finite ..), _, _, h => by
    cases a <;> simp [numberPlace] at h
  | .inl _, .inr (.infinity b), _, _, h | .inr (.finite ..), .inr (.infinity b), _, _, h => by
    cases b <;> simp [numberPlace] at h
  | .inl i, .inl j, _, _, h => by
    have hunits : i * 2 ^ 1074 = j * 2 ^ 1074 := congrArg (fun place => (ofLex place).2) h
    exact beq_iff_eq.2 (Int.eq_of_mul_eq_mul_right (by positivity) hunits)
  | .inl _, .inr (.finite _ _ _ hm), _, _, h =>
    Double.eqInt_of_units hm (congrArg (fun place => (ofLex place).2) h)
  | .inr (.finite _ _ _ hm), .inl _, _, _, h =>
    Double.eqInt_of_units hm (congrArg (fun place => (ofLex place).2) h.symm)
  | .inr (.finite _ _ _ hm), .inr (.finite _ _ _ hn), _, _, h => by
    rw [numbersEqual, Bool.or_eq_true]
    exact .inl (Double.numEq_of_units hm hn (congrArg (fun place => (ofLex place).2) h))

/-! ## Values -/

namespace Value

variable {a b v : Value} {m n : Int ⊕ Double}

/-- Two values are not equal, whichever of them is compared with the other. -/
def Differs (a b : Value) : Prop :=
  (a == b) = false ∧ (b == a) = false

lemma Differs.symm (h : a.Differs b) : b.Differs a :=
  And.symm h

lemma equal_of_number? (ha : a.number? = some m) (hb : b.number? = some n) :
    a.equal false b = numbersEqual false m n := by
  cases a <;> simp only [number?, Option.some.injEq, reduceCtorEq] at ha <;>
    simp only [equal, hb, ha]

/-- A number is neither a text nor a sequence of bytes. -/
lemma scalar?_of_number? (h : v.number? = some n) :
    (∀ s, v.scalar? ≠ some (.str s)) ∧ ∀ b, v.scalar? ≠ some (.bytes b) := by
  cases v <;> simp_all [number?, scalar?]
  next literal => cases literal <;> simp_all [Scalar.number?]

lemma before_of_number? (ha : a.number? = some m) (hb : b.number? = some n) :
    a.before b = .ok (numberBefore m n) := by
  obtain ⟨hstr, hbytes⟩ := scalar?_of_number? ha
  rw [before]
  · split
    · next s _ hs _ => exact absurd hs (hstr s)
    · next s _ hs _ => exact absurd hs (hbytes s)
    · simp only [ha, hb]
  · rintro xs _ rfl
    simp [number?] at ha
  · rintro xs _ rfl
    simp [number?] at ha

/-- The kinds of values that have an order among themselves. -/
inductive Kind where
  /-- Texts. -/
  | text
  /-- Sequences of bytes. -/
  | bytes
  /-- Tuples. -/
  | tuple
  /-- Lists. -/
  | list
  /-- Truth values, whole numbers and doubles. -/
  | number

/-- The kind of a literal. -/
def literalKind : Scalar → Kind
  | .str _ => .text
  | .bytes _ => .bytes
  | .int _ | .float _ => .number

/-- The kind of a value, if it is of one. -/
def kind? : Value → Option Kind
  | .tuple _ => some .tuple
  | .list _ => some .list
  | .bool _ => some .number
  | v => v.scalar?.map literalKind

lemma kind?_of_number? (h : v.number? = some n) : v.kind? = some .number := by
  cases v <;> simp_all [kind?, number?, scalar?, literalKind]
  next literal => cases literal <;> simp_all [Scalar.number?]

lemma kind?_of_scalar? {literal : Scalar} (h : v.scalar? = some literal) :
    v.kind? = some (literalKind literal) := by
  cases v <;> simp_all [kind?, scalar?]

/-- Only values of one kind have an order. -/
lemma kind?_of_before {r : Bool} (h : a.before b = .ok r) :
    ∃ k, a.kind? = some k ∧ b.kind? = some k := by
  unfold before at h
  -- the cases of the comparison, in order; whatever is left has no order
  split at h
  · exact ⟨.tuple, rfl, rfl⟩
  · exact ⟨.list, rfl, rfl⟩
  · split at h
    · next ha hb => exact ⟨.text, kind?_of_scalar? ha, kind?_of_scalar? hb⟩
    · next ha hb => exact ⟨.bytes, kind?_of_scalar? ha, kind?_of_scalar? hb⟩
    · split at h
      · next ha hb => exact ⟨.number, kind?_of_number? ha, kind?_of_number? hb⟩
      · cases h

lemma exists_of_kind?_text (h : v.kind? = some .text) : ∃ s, v.scalar? = some (.str s) := by
  cases v <;> simp_all [kind?, scalar?, literalKind]
  next literal => cases literal <;> simp_all

lemma exists_of_kind?_number (h : v.kind? = some .number) : ∃ n, v.number? = some n := by
  cases v <;> simp_all [kind?, number?, scalar?, literalKind]
  next literal => cases literal <;> simp_all [Scalar.number?]

/-- What can be the name of a member and has an order is a text or a number. -/
lemma kind?_of_memberName {k : Kind} {name : Text} (h : memberName v = .ok name)
    (hk : v.kind? = some k) : k = .text ∨ k = .number := by
  cases v <;> simp_all [memberName, kind?, scalar?, literalKind]
  next literal => cases literal <;> simp_all

end Value

/-! ## Sorting by keys -/

section Entries

variable {β : Type} {entries entries' sorted : List (Value × β)}

/-- Where more than one entry was sorted, all keys are of one kind. -/
lemma sortEntries_kind (hsorted : sortEntries entries = .ok sorted)
    (hmany : 2 ≤ entries.length) : ∃ k, ∀ e ∈ entries, e.1.kind? = some k := by
  have hagrees : Sorting.Agrees (fun a b => a.1.before b.1)
      (fun a b => ∃ k, a.1.kind? = some k ∧ b.1.kind? = some k) entries := by
    refine ⟨?_, fun _ _ hr => Value.kind?_of_before hr, fun _ _ hr => ?_⟩
    · rintro a b c ⟨k, ha, hb⟩ ⟨k', hb', hc⟩
      obtain rfl := Option.some.inj (hb.symm.trans hb')
      exact ⟨k, ha, hc⟩
    · obtain ⟨k, ha, hb⟩ := Value.kind?_of_before hr
      exact ⟨k, hb, ha⟩
  obtain ⟨hrow, hsame⟩ := sortEntries_pairwise hagrees hsorted
  obtain ⟨first, second, rest, rfl⟩ : ∃ first second rest, sorted = first :: second :: rest := by
    rcases sorted with _ | ⟨first, _ | ⟨second, rest⟩⟩
    · exact absurd hsame.length_eq (by simp; omega)
    · exact absurd hsame.length_eq (by simp; omega)
    · exact ⟨first, second, rest, rfl⟩
  obtain ⟨hfirst, -⟩ := List.pairwise_cons.1 hrow
  obtain ⟨k, hk, -⟩ := hfirst second List.mem_cons_self
  refine ⟨k, fun e he => ?_⟩
  rcases List.mem_cons.1 (hsame.mem_iff.2 he) with rfl | he
  · exact hk
  · obtain ⟨k', hk', hke⟩ := hfirst e he
    obtain rfl := Option.some.inj (hk.symm.trans hk')
    exact hke

/-- Keys that differ from all others make out their entries. -/
lemma eq_of_equal_keys (hapart : entries.Pairwise fun a b => a.1.Differs b.1) {a b : Value × β}
    (ha : a ∈ entries) (hb : b ∈ entries) (h : a.1.equal false b.1 = true) : a = b := by
  have : Std.Symm fun a b : Value × β => a.1.Differs b.1 := ⟨fun _ _ => Value.Differs.symm⟩
  by_contra hne
  exact Bool.false_ne_true ((hapart.forall ha hb hne).1.symm.trans h)

/-- The codes of the points of a value that is a text. -/
def Value.textCodes (v : Value) : List Nat :=
  match v.scalar? with
  | some (.str s) => s.codes
  | _ => []

lemma Value.textCodes_of_str {v : Value} {s : Text} (h : v.scalar? = some (.str s)) :
    v.textCodes = s.codes := by
  rw [textCodes, h]

/-- Texts are sorted by the codes of their points. -/
lemma sortEntries_of_texts (htext : ∀ e ∈ entries, e.1.kind? = some .text)
    (hapart : entries.Pairwise fun a b => a.1.Differs b.1) (hperm : entries.Perm entries')
    (hsorted : sortEntries entries = .ok sorted) : sortEntries entries' = .ok sorted := by
  refine sortEntries_of_rank Value.textCodes (fun a ha b hb => ?_) (fun a ha b hb hrank => ?_)
    hperm hsorted
  all_goals
    obtain ⟨s, hs⟩ := Value.exists_of_kind?_text (htext a ha)
    obtain ⟨t, ht⟩ := Value.exists_of_kind?_text (htext b hb)
  · rw [Value.before_of_str hs ht, Value.textCodes_of_str hs, Value.textCodes_of_str ht]
    exact congrArg Except.ok (decide_eq_decide.2 Iff.rfl)
  · rw [Value.textCodes_of_str hs, Value.textCodes_of_str ht] at hrank
    obtain rfl : s = t := Text.codes_inj hrank
    exact eq_of_equal_keys hapart ha hb (Value.equal_of_str hs ht)

/-- Numbers are sorted by their places. -/
lemma sortEntries_of_numbers (hnumber : ∀ e ∈ entries, e.1.kind? = some .number)
    (hnan : ∀ e ∈ entries, e.1.number? ≠ some (.inr .nan))
    (hapart : entries.Pairwise fun a b => a.1.Differs b.1) (hperm : entries.Perm entries')
    (hsorted : sortEntries entries = .ok sorted) : sortEntries entries' = .ok sorted := by
  let rank (v : Value) : ℤ ×ₗ ℤ := (v.number?.map numberPlace).getD (toLex (0, 0))
  have hplace : ∀ e ∈ entries, ∃ n, e.1.number? = some n ∧ n ≠ .inr .nan ∧
      rank e.1 = numberPlace n := by
    intro e he
    obtain ⟨n, hn⟩ := Value.exists_of_kind?_number (hnumber e he)
    refine ⟨n, hn, ?_, by simp [rank, hn]⟩
    rintro rfl
    exact hnan e he hn
  refine sortEntries_of_rank rank (fun a ha b hb => ?_) (fun a ha b hb hrank => ?_) hperm hsorted
  all_goals
    obtain ⟨m, hm, hmn, hma⟩ := hplace a ha
    obtain ⟨n, hn, hnn, hnb⟩ := hplace b hb
  · rw [Value.before_of_number? hm hn, numberBefore_eq hmn hnn, hma, hnb]
  · rw [hma, hnb] at hrank
    refine eq_of_equal_keys hapart ha hb ?_
    rw [Value.equal_of_number? hm hn]
    exact numbersEqual_of_place hmn hnn hrank

/-- Entries with the names of members, no two of them under one key and none under the number that
is no number, are sorted into one order, wherever they stood. -/
theorem sortEntries_of_perm (hnamed : ∀ e ∈ entries, ∃ name, memberName e.1 = .ok name)
    (hnan : ∀ e ∈ entries, e.1.number? ≠ some (.inr .nan))
    (hapart : entries.Pairwise fun a b => a.1.Differs b.1) (hperm : entries.Perm entries')
    (hsorted : sortEntries entries = .ok sorted) : sortEntries entries' = .ok sorted := by
  by_cases hmany : 2 ≤ entries.length
  · obtain ⟨k, hk⟩ := sortEntries_kind hsorted hmany
    obtain ⟨e, he⟩ : ∃ e, e ∈ entries :=
      List.exists_mem_of_ne_nil _ fun h => by simp [h] at hmany
    obtain ⟨name, hname⟩ := hnamed e he
    rcases Value.kind?_of_memberName hname (hk e he) with rfl | rfl
    · exact sortEntries_of_texts hk hapart hperm hsorted
    · exact sortEntries_of_numbers hk hnan hapart hperm hsorted
  · obtain rfl : entries' = entries := by
      rcases entries with _ | ⟨e, _ | ⟨e', rest⟩⟩
      · exact hperm.nil_eq.symm
      · exact (List.singleton_perm.1 hperm).symm
      · exact absurd hmany (by simp)
    exact hsorted

/-- The number that is no number comes neither before nor after another one, so it stays where it
stands. -/
example : sortEntries [(.float .nan, 1), (.int 0, 2)] = .ok [(.float .nan, 1), (.int 0, 2)] ∧
    sortEntries [(.int 0, 2), (.float .nan, 1)] = .ok [(.int 0, 2), (.float .nan, 1)] :=
  ⟨rfl, rfl⟩

end Entries

end Blueprint
