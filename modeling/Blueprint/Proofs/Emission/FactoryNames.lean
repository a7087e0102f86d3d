/-
# Names of factories

The factories of entries are named one after the other.  A name that is taken gives way to one with
a number, and this search always ends: the names with numbers are all different, so that one more of
them than there are names taken cannot all be taken (`searches_freshName`).  So the function that
chooses names is the fold of these searches (`namesInTurn_iff`), no two entries get the same name,
and entries that come later do not change the names of those before.

A name keeps the letters and digits of its entry and nothing else of it.  So the name is made of
some characters, such as those of identifiers, if and only if those letters and digits are among
them (`Admits.allIn_name_iff`).  Not all of them may stand in an identifier: a raised two counts as
a digit of an entry, and as no part of an identifier.
-/
import Blueprint.Proofs.Emission.ImportLines
import Blueprint.Proofs.Emission.Legality
import Mathlib.Data.List.Nodup
import Mathlib.Data.List.Perm.Subperm

namespace Blueprint

namespace Factory

/-! ## Searching for a name -/

/-- The search for a name that is not taken: a candidate that is taken gives way to the base with
the next number. -/
inductive Searches (used : List Text) (base : Text) : Text → Nat → Text → Prop where
  | free {candidate : Text} {number : Nat} (h : candidate ∉ used) :
      Searches used base candidate number candidate
  | taken {candidate name : Text} {number : Nat} (h : candidate ∈ used)
      (hnext : Searches used base (numbered base number) (number + 1) name) :
      Searches used base candidate number name

section Search

variable {used : List Text} {base candidate name name' : Text} {number : Nat}

lemma Searches.not_mem (h : Searches used base candidate number name) : name ∉ used := by
  induction h with
  | free h => exact h
  | taken _ _ ih => exact ih

/-- The search does not end with two names. -/
lemma Searches.unique (h : Searches used base candidate number name)
    (h' : Searches used base candidate number name') : name = name' := by
  induction h with
  | free hfree =>
    cases h' with
    | free => rfl
    | taken htaken => exact absurd htaken hfree
  | taken htaken _ ih =>
    cases h' with
    | free hfree => exact absurd htaken hfree
    | taken _ hnext => exact ih hnext

/-- The search ends with its candidate, or with a number. -/
lemma Searches.eq_or_numbered (h : Searches used base candidate number name) :
    name = candidate ∨ ∃ k, number ≤ k ∧ name = numbered base k := by
  induction h with
  | free => exact .inl rfl
  | taken _ _ ih =>
    rcases ih with rfl | ⟨k, hk, rfl⟩
    · exact .inr ⟨_, Nat.le_refl _, rfl⟩
    · exact .inr ⟨k, by omega, rfl⟩

lemma points_numbered (base : Text) (number : Nat) :
    (numbered base number).points =
      base.points ++ ('_' :: Nat.toDigits 10 number).map Point.char := by
  have hdigits : Text.ofString (toString number) = Text.ofChars (Nat.toDigits 10 number) := by
    rw [Text.ofString, Nat.toString_eq_repr, Nat.toList_repr]
  rw [numbered, hdigits, Text.points_append, Text.points_append, List.append_assoc]
  rfl

lemma numbered_injective (base : Text) : Function.Injective (numbered base) := by
  intro m n h
  have hpoints := congrArg Text.points h
  rw [points_numbered, points_numbered] at hpoints
  have hchars := List.map_injective_iff.2 (fun _ _ => Point.char.inj)
    (List.append_cancel_left hpoints)
  have hnumber := congrArg (Nat.ofDigitChars 10 · 0) (List.cons.inj hchars).2
  simpa only [Nat.ofDigitChars_ten_toDigits] using hnumber

/-- Of one numbered name more than names are taken, one is free. -/
lemma exists_numbered_not_mem (used : List Text) (base : Text) (number : Nat) :
    ∃ k, k ≤ used.length ∧ numbered base (number + k) ∉ used := by
  by_contra h
  push Not at h
  have hsubset : (List.range (used.length + 1)).map (fun k => numbered base (number + k)) ⊆
      used := by
    intro name hname
    obtain ⟨k, hk, rfl⟩ := List.mem_map.1 hname
    exact h k (Nat.le_of_lt_succ (List.mem_range.1 hk))
  have hnodup : ((List.range (used.length + 1)).map fun k => numbered base (number + k)).Nodup :=
    List.nodup_range.map fun m n heq => Nat.add_left_cancel (numbered_injective base heq)
  have hlength := (List.subperm_of_subset hnodup hsubset).length_le
  rw [List.length_map, List.length_range] at hlength
  omega

/-- Trying numbers in turn is the search, as long as one of those that are tried is free. -/
lemma searches_firstFree (used : List Text) (base : Text) :
    ∀ (tries number : Nat), (∃ k, k ≤ tries ∧ numbered base (number + k) ∉ used) →
      Searches used base (numbered base number) (number + 1) (firstFree used base tries number)
  | 0, number, h => by
    obtain ⟨k, hk, hfree⟩ := h
    obtain rfl := Nat.le_zero.1 hk
    exact .free hfree
  | tries + 1, number, h => by
    rw [firstFree]
    by_cases hused : numbered base number ∈ used
    · rw [if_pos (List.contains_iff_mem.2 hused)]
      refine .taken hused (searches_firstFree used base tries (number + 1) ?_)
      obtain ⟨k, hk, hfree⟩ := h
      rcases k with _ | k
      · exact absurd hused hfree
      · exact ⟨k, by omega, by rwa [Nat.add_assoc, Nat.add_comm 1 k]⟩
    · rw [if_neg (by simpa using hused)]
      exact .free hused

/-- The search for a name ends. -/
theorem searches_freshName (used : List Text) (base : Text) :
    Searches used base base 2 (freshName used base) := by
  rw [freshName]
  by_cases hused : base ∈ used
  · rw [if_pos (List.contains_iff_mem.2 hused)]
    exact .taken hused (searches_firstFree used base _ 2 (exists_numbered_not_mem used base 2))
  · rw [if_neg (by simpa using hused)]
    exact .free hused

end Search


/-! ## Names in turn -/

/-- Labels are given names one after the other: each that which the search for it ends with, which
is taken from then on. -/
inductive NamesInTurn : List Text → List Text → List Text → Prop where
  | nil {used : List Text} : NamesInTurn used [] []
  | cons {used labels names : List Text} {label name : Text}
      (hname : Searches used (namePrefix ++ label) (namePrefix ++ label) 2 name)
      (hrest : NamesInTurn (name :: used) labels names) :
      NamesInTurn used (label :: labels) (name :: names)

section InTurn

variable {used labels names : List Text}

theorem namesInTurn_iff : NamesInTurn used labels names ↔ names = uniqueNames used labels := by
  constructor
  · intro h
    induction h with
    | nil => rfl
    | @cons used _ _ label name hname _ ih =>
      obtain rfl := hname.unique (searches_freshName used (namePrefix ++ label))
      rw [uniqueNames, ← ih]
  · rintro rfl
    induction labels generalizing used with
    | nil => exact .nil
    | cons label rest ih => exact .cons (searches_freshName _ _) ih

lemma length_uniqueNames (used labels : List Text) :
    (uniqueNames used labels).length = labels.length := by
  induction labels generalizing used with
  | nil => rfl
  | cons label rest ih => rw [uniqueNames, List.length_cons, List.length_cons, ih]

/-- No name is one of those that were taken. -/
lemma not_mem_of_mem_uniqueNames {name : Text} (h : name ∈ uniqueNames used labels) :
    name ∉ used := by
  induction labels generalizing used with
  | nil => exact absurd h List.not_mem_nil
  | cons label rest ih =>
    rw [uniqueNames, List.mem_cons] at h
    rcases h with rfl | h
    · exact (searches_freshName _ _).not_mem
    · exact fun hused => ih h (List.mem_cons_of_mem _ hused)

/-- No name is given twice. -/
lemma nodup_uniqueNames (used labels : List Text) : (uniqueNames used labels).Nodup := by
  induction labels generalizing used with
  | nil => exact List.nodup_nil
  | cons label rest ih =>
    refine List.nodup_cons.2 ⟨fun hmem => ?_, ih _⟩
    exact not_mem_of_mem_uniqueNames hmem List.mem_cons_self

/-- Further labels come after those that have names. -/
lemma uniqueNames_append (used labels more : List Text) :
    uniqueNames used (labels ++ more) =
      uniqueNames used labels ++ uniqueNames ((uniqueNames used labels).reverse ++ used) more := by
  induction labels generalizing used with
  | nil => rfl
  | cons label rest ih =>
    rw [List.cons_append, uniqueNames, uniqueNames, ih, List.reverse_cons, List.append_assoc]
    rfl

end InTurn

/-! ## Names of entries -/

section Entries

variable (entries : List Text)

/-- The entries with the names that they are given, before an entry takes the place of an earlier
one of the same name. -/
lemma keys_zip_uniqueNames :
    Entries.keys (entries.zip (uniqueNames [] (entries.map sanitize))) = entries := by
  refine List.map_fst_zip (Nat.le_of_eq ?_)
  rw [length_uniqueNames, List.length_map]

/-- The entries that have names, in the order of their first occurrence. -/
lemma keys_names : Entries.keys (names entries) = entries.eraseDups := by
  rw [names, Entries.keys_ofList, keys_zip_uniqueNames]

/-- Different entries have different names. -/
lemma nodup_names : ((names entries).map Prod.snd).Nodup := by
  have hnodup : (names entries).Nodup := (Entries.nodup_keys_ofList _).of_map
  refine hnodup.map_on fun e he e' he' heq => ?_
  have hsnd : ((entries.zip (uniqueNames [] (entries.map sanitize))).map Prod.snd).Nodup := by
    rw [List.map_snd_zip (Nat.le_of_eq (by rw [length_uniqueNames, List.length_map]))]
    exact nodup_uniqueNames _ _
  exact List.inj_on_of_nodup_map hsnd (Entries.mem_of_mem_ofList he)
    (Entries.mem_of_mem_ofList he') heq

variable {entries} in
/-- Entries that come later leave the names of those before as they are. -/
lemma names_append {more : List Text} (h : ∀ e ∈ more, e ∉ entries) :
    names entries <+: names (entries ++ more) := by
  rw [names, names, List.map_append, uniqueNames_append,
    List.zip_append (by rw [length_uniqueNames, List.length_map])]
  rw [Entries.ofList_append]
  · exact List.prefix_append _ _
  · intro e he hkey
    have hmem : e.1 ∈ entries.eraseDups := keys_names entries ▸ hkey
    exact h e.1 (List.of_mem_zip he).1 (List.mem_eraseDups.1 hmem)

lemma searches_of_mem_zip {e name : Text} (used : List Text)
    (h : (e, name) ∈ entries.zip (uniqueNames used (entries.map sanitize))) :
    ∃ used, Searches used (namePrefix ++ sanitize e) (namePrefix ++ sanitize e) 2 name := by
  induction entries generalizing used with
  | nil => exact absurd h List.not_mem_nil
  | cons entry rest ih =>
    rw [List.map_cons, uniqueNames, List.zip_cons_cons, List.mem_cons] at h
    rcases h with heq | h
    · obtain ⟨rfl, rfl⟩ := Prod.mk.inj heq
      exact ⟨used, searches_freshName used _⟩
    · exact ih _ h

/-- The name of an entry is what a search for it ended with. -/
lemma searches_of_mem_names {e name : Text} (h : (e, name) ∈ names entries) :
    ∃ used, Searches used (namePrefix ++ sanitize e) (namePrefix ++ sanitize e) 2 name :=
  searches_of_mem_zip entries [] (Entries.mem_of_mem_ofList h)

/-- Entries that are all different have their names in turn. -/
lemma names_of_nodup (h : entries.Nodup) :
    names entries = entries.zip (uniqueNames [] (entries.map sanitize)) := by
  refine Entries.ofList_append_of_nodup ?_
  rw [List.nil_append]
  rw [show (entries.zip _).map Prod.fst = entries from keys_zip_uniqueNames entries]
  exact h

end Entries

/-! ## What names are made of -/

/-- The letters and digits of an entry, which stay in the name of its factory, are all such
characters. -/
def LettersIn (characters : Char → Bool) (entry : Text) : Prop :=
  ∀ p ∈ entry.points, p.isIn Text.isAlphanumeric = true → p.isIn characters = true

instance (characters : Char → Bool) : DecidablePred (LettersIn characters) :=
  fun entry => inferInstanceAs (Decidable (∀ p ∈ entry.points, _))

/-- The characters that names have of their own accord are among these. -/
structure Admits (characters : Char → Bool) : Prop where
  /-- Those of the prefix, which include the underscore. -/
  ofPrefix : ∀ p ∈ namePrefix.points, p.isIn characters = true
  /-- Those that stand for an entry without characters. -/
  ofEmpty : ∀ p ∈ (sanitize "").points, p.isIn characters = true
  /-- Those of numbers. -/
  digit : ∀ c : Char, c.isDigit = true → characters c = true

lemma admits_isIdentifierContinue : Admits Text.isIdentifierContinue where
  ofPrefix := by decide
  ofEmpty := by decide
  digit _ := isIdentifierContinue_of_isDigit

lemma admits_isBasic : Admits Text.isBasic where
  ofPrefix := by decide
  ofEmpty := by decide
  digit _ := Text.isBasic_of_isDigit

section Characters

variable {characters : Char → Bool}

/-- The points of a text are all such characters. -/
def AllIn (characters : Char → Bool) (t : Text) : Prop :=
  ∀ p ∈ t.points, p.isIn characters = true

lemma allIn_append {a b : Text} :
    AllIn characters (a ++ b) ↔ AllIn characters a ∧ AllIn characters b :=
  List.forall_mem_append

variable (h : Admits characters)

include h

lemma Admits.underscore : characters '_' = true :=
  h.ofPrefix (.char '_') (by decide)

lemma Admits.allIn_sanitize_iff {entry : Text} :
    AllIn characters (sanitize entry) ↔ LettersIn characters entry := by
  rw [sanitize]
  split
  · -- the empty name gets one of its own, and has no points to speak of
    rename_i hempty
    have hpoints : entry.points = [] := List.isEmpty_iff.1 hempty
    refine iff_of_true h.ofEmpty ?_
    rw [LettersIn, hpoints]
    exact List.forall_mem_nil _
  · rw [AllIn, List.forall_mem_map, LettersIn]
    refine forall₂_congr fun p _ => ?_
    rw [sanitizePoint]
    -- a point that is kept has to be admitted; any other becomes an underscore, which always is
    split
    · rename_i hletter
      exact ⟨fun hp _ => hp, fun hp => hp hletter⟩
    · rename_i hletter
      exact iff_of_true h.underscore fun hp => absurd hp hletter

/-- A number makes no difference. -/
lemma Admits.allIn_numbered_iff {base : Text} {number : Nat} :
    AllIn characters (numbered base number) ↔ AllIn characters base := by
  rw [AllIn, points_numbered, List.forall_mem_append]
  refine and_iff_left ?_
  rw [List.forall_mem_map, List.forall_mem_cons]
  exact ⟨h.underscore, fun c hc => h.digit c
    (Nat.isDigit_of_mem_toDigits (by decide) (by decide) hc)⟩

/-- A name is made of such characters if the letters and digits of the entry are. -/
theorem Admits.allIn_name_iff {entries : List Text} {e name : Text}
    (hname : (e, name) ∈ names entries) : AllIn characters name ↔ LettersIn characters e := by
  have hbase : AllIn characters (namePrefix ++ sanitize e) ↔ LettersIn characters e :=
    allIn_append.trans ((and_iff_right h.ofPrefix).trans h.allIn_sanitize_iff)
  obtain ⟨used, hsearch⟩ := searches_of_mem_names entries hname
  rcases hsearch.eq_or_numbered with rfl | ⟨k, -, rfl⟩
  · exact hbase
  · exact h.allIn_numbered_iff.trans hbase

end Characters

/-- A name is an identifier if the letters and digits of its entry may stand in one. -/
theorem isIdentifier_name_iff {entries : List Text} {e name : Text}
    (hname : (e, name) ∈ names entries) :
    Text.isIdentifier name = true ↔ LettersIn Text.isIdentifierContinue e := by
  have hstart : ∃ t, name = namePrefix ++ t := by
    obtain ⟨used, hsearch⟩ := searches_of_mem_names entries hname
    rcases hsearch.eq_or_numbered with rfl | ⟨k, -, rfl⟩
    · exact ⟨_, rfl⟩
    · exact ⟨_, (Text.append_assoc ..).trans (Text.append_assoc ..)⟩
  obtain ⟨t, rfl⟩ := hstart
  rw [← admits_isIdentifierContinue.allIn_name_iff hname]
  have hpoints : (namePrefix ++ t).points = .char 'b' :: ("uild_" ++ t : Text).points := rfl
  rw [Text.isIdentifier, AllIn, hpoints, List.forall_mem_cons, Bool.and_eq_true,
    List.all_eq_true]
  exact and_congr_left' (iff_of_true (by decide) (by decide))

/-- Points that are all basic are those of characters. -/
lemma exists_chars_of_isBasic {points : List Point}
    (h : ∀ p ∈ points, p.isIn Text.isBasic = true) :
    ∃ cs : List Char, points = cs.map .char ∧ ∀ c ∈ cs, Text.isBasic c = true := by
  induction points with
  | nil => exact ⟨[], rfl, List.forall_mem_nil _⟩
  | cons p rest ih =>
    obtain ⟨hp, hrest⟩ := List.forall_mem_cons.1 h
    obtain ⟨cs, rfl, hcs⟩ := ih hrest
    cases p with
    | char c => exact ⟨c :: cs, rfl, List.forall_mem_cons.2 ⟨hp, hcs⟩⟩
    | half unit => exact absurd hp Bool.false_ne_true

lemma normal_of_allIn_isBasic {t : Text} (h : AllIn Text.isBasic t) : t.normal = t := by
  obtain ⟨points⟩ := t
  obtain ⟨cs, rfl, hcs⟩ := exists_chars_of_isBasic h
  exact Text.normal_ofChars hcs

/-- Names of entries whose letters and digits are basic differ in their normal forms, too. -/
theorem nodup_normal_names {entries : List Text} (h : ∀ e ∈ entries, LettersIn Text.isBasic e) :
    ((names entries).map fun row => row.2.normal).Nodup := by
  have hnormal : ∀ row ∈ names entries, row.2.normal = row.2 := by
    rintro ⟨e, name⟩ hrow
    refine normal_of_allIn_isBasic ((admits_isBasic.allIn_name_iff hrow).2 (h e ?_))
    rw [← List.mem_eraseDups, ← keys_names]
    exact List.mem_map_of_mem hrow
  rw [List.map_congr_left hnormal]
  exact nodup_names entries

end Factory

end Blueprint
