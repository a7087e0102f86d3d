/-
# Keys and the positions they stand for

A key of an argument stands for a position if it is a decimal numeral, in the digits of any script,
of no more digits than can be read (`Position.Denotes`).  The guard before the reader lets more
texts through (`Definition.KeyUnreported`); for each of the others reading fails.

Keys are compared as texts and positions as numbers.  Two keys stand for one position exactly if
their digits are the same once the zeros in front are left out (`Position.Denotes.eq_iff`): `01` and
`1` are two keys of one position, and so are the numerals for one in two scripts.
-/
import Blueprint.Definition.Builder
import Blueprint.Proofs.Loading
import Mathlib.Data.List.Basic
import Mathlib.Data.List.TakeWhile
import Mathlib.Data.Nat.Digits.Defs

namespace Blueprint

/-! ## Numerals -/

lemma Text.decimalFrom?_eq_some_iff {value n : Nat} {points : List Point} :
    Text.decimalFrom? value points = some n ↔ ∃ digits : List Nat,
      points.map Text.decimalPoint? = digits.map some ∧
        Nat.ofDigits 10 digits.reverse + 10 ^ digits.length * value = n := by
  induction points generalizing value with
  | nil =>
    rw [Text.decimalFrom?, List.map_nil]
    constructor
    · intro h
      exact ⟨[], rfl, by simpa using h⟩
    · rintro ⟨digits, h, rfl⟩
      obtain rfl := List.map_eq_nil_iff.1 h.symm
      simp
  | cons p rest ih =>
    rcases hp : Text.decimalPoint? p with _ | d
    · simp only [Text.decimalFrom?, hp, List.map_cons]
      constructor
      · intro h
        exact absurd h (by simp)
      · rintro ⟨_ | ⟨d, digits⟩, h, -⟩
        · exact absurd h (by simp)
        · exact absurd (List.cons.inj h).1 (by simp)
    · rw [Text.decimalFrom?, hp, ih, List.map_cons, hp]
      constructor
      · rintro ⟨digits, h, rfl⟩
        refine ⟨d :: digits, by rw [h, List.map_cons], ?_⟩
        -- what is read so far moves one place on
        rw [Nat.ofDigits_reverse_cons, List.length_cons]
        ring
      · rintro ⟨_ | ⟨d', digits⟩, h, rfl⟩
        · exact absurd h (by simp)
        · obtain ⟨hd, hrest⟩ := List.cons.inj h
          obtain rfl := Option.some.inj hd
          refine ⟨digits, hrest, ?_⟩
          rw [Nat.ofDigits_reverse_cons, List.length_cons]
          ring

lemma Text.digitRanges_increasing : Text.digitRanges.Increasing := by
  simp [Text.digitRanges, Text.CodeRanges.Increasing]

/-- The ten digits of a script are in one range. -/
lemma Text.exists_digitRange_of_zero :
    ∀ first ∈ Text.decimalZeros, ∃ r ∈ Text.digitRanges, r.1 ≤ first ∧ first + 9 ≤ r.2 := by
  decide +kernel

/-- Each decimal digit is a digit in the wider sense. -/
lemma Text.isDigit_of_decimalDigit? {c : Char} {d : Nat} (h : Text.decimalDigit? c = some d) :
    Text.isDigit c = true := by
  simp only [Text.decimalDigit?, Option.map_eq_some_iff] at h
  obtain ⟨first, hfind, rfl⟩ := h
  have hmem := List.mem_of_find?_eq_some hfind
  have hbounds := List.find?_some hfind
  simp only [Bool.and_eq_true, decide_eq_true_eq] at hbounds
  obtain ⟨r, hr, hlow, hhigh⟩ := Text.exists_digitRange_of_zero first hmem
  exact Text.digitRanges_increasing.contains hr (by omega) (by omega)

lemma Text.decimalPoint?_lt {p : Point} {d : Nat} (h : Text.decimalPoint? p = some d) :
    d < 10 := by
  obtain ⟨c, -, hc⟩ := Option.bind_eq_some_iff.1 h
  exact Text.decimalDigit?_lt hc

namespace Position

/-! ## Keys -/

/-- The key is a decimal numeral for the number, and short enough to be read. -/
def Denotes (key : Text) (n : Nat) : Prop :=
  ∃ digits : List Nat, key.points.map Text.decimalPoint? = digits.map some ∧ digits ≠ [] ∧
    digits.length ≤ Json.Reader.digitLimit ∧ Nat.ofDigits 10 digits.reverse = n

/-- The digits of a key, without the zeros in front. -/
def significant (key : Text) : List (Option Nat) :=
  (key.points.map Text.decimalPoint?).dropWhile (· == some 0)

variable {key key' : Text} {n n' : Nat}

lemma Denotes.isKey (h : Denotes key n) : isKey key = true := by
  obtain ⟨digits, hdigits, hne, -, -⟩ := h
  have hpoints : key.points ≠ [] := by
    intro hnil
    rw [hnil, List.map_nil, eq_comm, List.map_eq_nil_iff] at hdigits
    exact hne hdigits
  have hall : ∀ p ∈ key.points, Point.isIn Text.isDigit p = true := by
    intro p hp
    have hmem : Text.decimalPoint? p ∈ digits.map some := by
      rw [← hdigits]
      exact List.mem_map_of_mem hp
    obtain ⟨d, -, hd⟩ := List.mem_map.1 hmem
    obtain ⟨c, hc, hcd⟩ := Option.bind_eq_some_iff.1 hd.symm
    cases p with
    | char c' =>
      obtain rfl := Option.some.inj hc
      exact Text.isDigit_of_decimalDigit? hcd
    | half => exact absurd hc (by simp [Point.char?])
  rw [Position.isKey, Bool.and_eq_true, List.all_eq_true]
  refine ⟨?_, hall⟩
  rw [Bool.not_eq_true', Text.isEmpty, ← Bool.not_eq_true, List.isEmpty_iff]
  exact hpoints

lemma Denotes.unique (h : Denotes key n) (h' : Denotes key n') : n = n' := by
  obtain ⟨digits, hdigits, -, -, rfl⟩ := h
  obtain ⟨digits', hdigits', -, -, rfl⟩ := h'
  have heq : digits = digits' :=
    List.map_injective_iff.2 (Option.some_injective Nat) (hdigits.symm.trans hdigits')
  rw [heq]

lemma isSome_decimalPoint? {digits : List Nat}
    (h : key.points.map Text.decimalPoint? = digits.map some) :
    ∀ p ∈ key.points, (Text.decimalPoint? p).isSome = true := by
  intro p hp
  have hmem : Text.decimalPoint? p ∈ digits.map some := by
    rw [← h]
    exact List.mem_map_of_mem hp
  obtain ⟨d, -, hd⟩ := List.mem_map.1 hmem
  rw [← hd]
  rfl

/-- Where all points of a key are decimal digits, they are its leading digits. -/
lemma length_leadingDigits {digits : List Nat}
    (h : key.points.map Text.decimalPoint? = digits.map some) :
    (leadingDigits key).length = digits.length := by
  have hall := isSome_decimalPoint? h
  rw [leadingDigits, List.takeWhile_eq_self_iff.2 hall, ← List.length_map Text.decimalPoint?, h,
    List.length_map]

lemma Denotes.decimal?_eq (h : Denotes key n) : Text.decimal? key = some n := by
  obtain ⟨digits, hdigits, -, -, hvalue⟩ := h
  exact Text.decimalFrom?_eq_some_iff.2 ⟨digits, hdigits, by simpa using hvalue⟩

lemma ofDigits_eq (key : Text) :
    ofDigits key =
      if Json.Reader.digitLimit < (leadingDigits key).length then
        .error (.longNumber (leadingDigits key).length)
      else
        match Text.decimal? key with
        | some n => .ok n
        | none => .error (.notDecimal key) :=
  rfl

/-- What is read from the digits of a key is what the key stands for. -/
lemma ofDigits_eq_ok_iff (hkey : isKey key = true) : ofDigits key = .ok n ↔ Denotes key n := by
  rw [ofDigits_eq]
  constructor
  · intro h
    split at h
    · exact absurd h (by simp)
    · rename_i hlong
      rcases hn : Text.decimal? key with _ | m <;> rw [hn] at h
      · exact absurd h (by simp)
      · obtain rfl := Except.ok.inj h
        obtain ⟨digits, hdigits, hvalue⟩ := Text.decimalFrom?_eq_some_iff.1 hn
        refine ⟨digits, hdigits, ?_, ?_, by simpa using hvalue⟩
        · -- a key is not empty
          rintro rfl
          have hpoints : key.points = [] := List.map_eq_nil_iff.1 hdigits
          rw [isKey, Text.isEmpty, hpoints] at hkey
          exact absurd hkey (by simp)
        · rw [length_leadingDigits hdigits] at hlong
          omega
  · intro h
    have hdecimal := h.decimal?_eq
    obtain ⟨digits, hdigits, -, hlimit, -⟩ := h
    rw [length_leadingDigits hdigits, if_neg (by omega), hdecimal]

/-- A key that passes for a position and stands for none is refused with a fault of its own. -/
lemma ofDigits_eq_error_iff (hkey : isKey key = true) {failure : Failure} :
    ofDigits key = .error failure ↔ Definition.KeyUnreported key failure := by
  rw [ofDigits_eq]
  constructor
  · intro h
    split at h
    · rename_i hlong
      obtain rfl := Except.error.inj h
      exact .long hkey hlong
    · rename_i hlong
      rcases hn : Text.decimal? key with _ | n <;> rw [hn] at h
      · obtain rfl := Except.error.inj h
        obtain ⟨p, hp, hdigit⟩ := Text.decimalFrom?_eq_none_iff.1 hn
        exact .notDecimal hkey hlong hp hdigit
      · exact absurd h (by simp)
  · rintro (⟨-, hlong⟩ | ⟨-, hlong, hp, hdigit⟩)
    · rw [if_pos hlong]
    · have hnone : Text.decimal? key = none := Text.decimalFrom?_eq_none_iff.2 ⟨_, hp, hdigit⟩
      rw [if_neg hlong, hnone]

/-- Zeros in front do not count. -/
lemma ofDigits_dropWhile_zero (digits : List Nat) :
    Nat.ofDigits 10 (digits.dropWhile (· == 0)).reverse = Nat.ofDigits 10 digits.reverse := by
  induction digits with
  | nil => rfl
  | cons d rest ih =>
    rcases d with _ | d
    · rw [Nat.ofDigits_reverse_zero_cons, ← ih]
      rfl
    · rfl

lemma dropWhile_map_some (digits : List Nat) :
    (digits.map some).dropWhile (· == some 0) = (digits.dropWhile (· == 0)).map some := by
  induction digits with
  | nil => rfl
  | cons d rest ih =>
    rcases d with _ | d
    · exact ih
    · rfl

/-- The digits of the number that a key stands for are those of the key, without the zeros in
front. -/
lemma Denotes.digits (h : Denotes key n) :
    ((Nat.digits 10 n).map some).reverse = significant key := by
  obtain ⟨digits, hdigits, -, -, rfl⟩ := h
  have hlt : ∀ d ∈ digits, d < 10 := by
    intro d hd
    have hmem : some d ∈ key.points.map Text.decimalPoint? := by
      rw [hdigits]
      exact List.mem_map_of_mem hd
    obtain ⟨p, -, hp⟩ := List.mem_map.1 hmem
    exact Text.decimalPoint?_lt hp
  -- neither the number nor the digits that count change if the zeros in front go
  have hvalue := (ofDigits_dropWhile_zero digits).symm
  have hmap : significant key = (digits.dropWhile (· == 0)).map some := by
    rw [significant, hdigits]
    exact dropWhile_map_some digits
  rw [hvalue, hmap, Nat.digits_ofDigits 10 (by omega), ← List.map_reverse, List.reverse_reverse]
  · intro d hd
    exact hlt d ((List.dropWhile_suffix _).subset (List.mem_reverse.1 hd))
  · intro hne
    have := List.head_dropWhile_not (· == 0) (l := digits) (by simpa using hne)
    rw [List.getLast_reverse]
    simpa using this

/-- Two keys stand for the same position exactly if they have the same significant digits. -/
lemma Denotes.eq_iff (h : Denotes key n) (h' : Denotes key' n') :
    n = n' ↔ significant key = significant key' := by
  rw [← h.digits, ← h'.digits]
  constructor
  · rintro rfl
    rfl
  · intro heq
    have hdigits : Nat.digits 10 n = Nat.digits 10 n' :=
      List.map_injective_iff.2 (Option.some_injective Nat) (List.reverse_inj.1 heq)
    exact Nat.digits_inj_iff.1 hdigits

/-! ## Names of arguments -/

/-- A name stands for a position after its first letter. -/
def Names (name : Text) (n : Nat) : Prop :=
  ∃ key : Text, name = "p" ++ key ∧ Denotes key n

/-- The name has the form of one that stands for a position: a letter, and digits in the wider
sense. -/
def IsName (name : Text) : Prop :=
  ∃ key : Text, name = "p" ++ key ∧ isKey key = true

lemma prefixed_injective (h : ("p" : Text) ++ key = "p" ++ key') : key = key' := by
  obtain ⟨points⟩ := key
  obtain ⟨points'⟩ := key'
  have hpoints := congrArg Text.points h
  rw [Text.points_append, Text.points_append] at hpoints
  exact congrArg Text.mk (List.append_cancel_left hpoints)

lemma ofName_prefixed (key : Text) :
    ofName ("p" ++ key) =
      if isKey key then ofDigits key else .error (.positionName ("p" ++ key)) :=
  rfl

lemma ofName_of_not_isName {name : Text} (h : ¬ IsName name) :
    ofName name = .error (.positionName name) := by
  obtain ⟨points⟩ := name
  unfold ofName
  split
  · rename_i digits hpoints
    obtain rfl : points = .char 'p' :: digits := hpoints
    split
    · rename_i hkey
      exact absurd ⟨⟨digits⟩, rfl, hkey⟩ h
    · rfl
  · rfl

/-- Only what names a position is read as one. -/
lemma ofName_eq_ok_iff {name : Text} : ofName name = .ok n ↔ Names name n := by
  constructor
  · intro h
    by_cases hname : IsName name
    · obtain ⟨key, rfl, hkey⟩ := hname
      rw [ofName_prefixed, if_pos hkey, ofDigits_eq_ok_iff hkey] at h
      exact ⟨key, rfl, h⟩
    · rw [ofName_of_not_isName hname] at h
      exact absurd h (by simp)
  · rintro ⟨key, rfl, hkey⟩
    rw [ofName_prefixed, if_pos hkey.isKey, ofDigits_eq_ok_iff hkey.isKey]
    exact hkey

/-- A name that is read as no position has not the form of one, or a key that is refused. -/
lemma ofName_eq_error_iff {name : Text} {failure : Failure} :
    ofName name = .error failure ↔
      (¬ IsName name ∧ failure = .positionName name) ∨
        ∃ key : Text, name = "p" ++ key ∧ Definition.KeyUnreported key failure := by
  by_cases hname : IsName name
  · obtain ⟨key, rfl, hkey⟩ := hname
    rw [ofName_prefixed, if_pos hkey, ofDigits_eq_error_iff hkey]
    constructor
    · exact fun h => .inr ⟨key, rfl, h⟩
    · rintro (⟨h, -⟩ | ⟨key', heq, h⟩)
      · exact absurd ⟨key, rfl, hkey⟩ h
      · rwa [prefixed_injective heq]
  · rw [ofName_of_not_isName hname]
    constructor
    · intro h
      exact .inl ⟨hname, (Except.error.inj h).symm⟩
    · rintro (⟨-, rfl⟩ | ⟨key, rfl, h⟩)
      · rfl
      · refine absurd ⟨key, rfl, ?_⟩ hname
        cases h <;> assumption

end Position

/-! ## The usual keys -/

/-- The usual key of a position: its number in basic digits. -/
def Position.key (n : Nat) : Text :=
  toString n

/-- Basic digits are read as the number that they make. -/
lemma Text.decimalFrom?_basic {cs : List Char} (h : ∀ c ∈ cs, c.isDigit = true) (value : Nat) :
    Text.decimalFrom? value (cs.map .char) = some (Nat.ofDigitChars 10 cs value) := by
  induction cs generalizing value with
  | nil => rfl
  | cons c rest ih =>
    obtain ⟨hc, hrest⟩ := List.forall_mem_cons.1 h
    have hrange : 0x30 ≤ c.toNat ∧ c.toNat < 0x30 + 10 := by
      simp only [Char.isDigit, Bool.and_eq_true, decide_eq_true_eq] at hc
      obtain ⟨hlow, hhigh⟩ := hc
      rw [ge_iff_le, UInt32.le_iff_toNat_le] at hlow
      rw [UInt32.le_iff_toNat_le] at hhigh
      exact ⟨hlow, Nat.lt_succ_of_le hhigh⟩
    have hdigit : Text.decimalPoint? (.char c) = some (c.toNat - 0x30) := by
      simp [Text.decimalPoint?, Point.char?, Text.decimalDigit?, Text.decimalZeros, hrange]
    rw [List.map_cons, Text.decimalFrom?, hdigit, Nat.ofDigitChars_cons]
    exact ih hrest _

/-- The usual key of a position stands for no other one. -/
lemma Position.Denotes.eq_of_key {n m : Nat} (h : Denotes (key n) m) : m = n := by
  have hdigits : ∀ c ∈ Nat.toDigits 10 n, c.isDigit = true := fun c hc =>
    Nat.isDigit_of_mem_toDigits (by decide) (by decide) hc
  have hpoints : (key n).points = (Nat.toDigits 10 n).map .char := by
    rw [key, Text.ofString, Nat.toString_eq_repr, Nat.toList_repr]
    rfl
  have hdecimal := h.decimal?_eq
  rw [Text.decimal?, hpoints, Text.decimalFrom?_basic hdigits, Nat.ofDigitChars_ten_toDigits]
    at hdecimal
  exact (Option.some.inj hdecimal).symm

end Blueprint
