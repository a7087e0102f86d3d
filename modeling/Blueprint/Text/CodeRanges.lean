/-
# Sets of characters as ranges of code points

The classes of characters that names, numerals and quotations are made of are long lists
of code points.  Each is written once, as an increasing list of disjoint closed ranges,
and this file says what it is for a code point to be in such a list.
-/

namespace Blueprint.Text

/-- A set of code points: closed ranges, increasing and disjoint. -/
abbrev CodeRanges := List (Nat × Nat)

namespace CodeRanges

/-- Membership: the search ends at the first range that starts above the code point. -/
def contains : CodeRanges → Nat → Bool
  | [], _ => false
  | (low, high) :: rest, n => decide (low ≤ n) && (decide (n ≤ high) || contains rest n)

/-- The ranges are in order, each ends no earlier than it starts, and no two of them meet. -/
def Increasing : CodeRanges → Prop
  | [] => True
  | [(low, high)] => low ≤ high
  | (low, high) :: (low', high') :: rest =>
    low ≤ high ∧ high < low' ∧ Increasing ((low', high') :: rest)

theorem Increasing.rest {first : Nat × Nat} {rest : CodeRanges} (h : Increasing (first :: rest)) :
    Increasing rest := by
  cases rest with
  | nil => trivial
  | cons next more => exact h.2.2

/-- The first range starts no later than the others. -/
theorem Increasing.low_le {first r : Nat × Nat} {rest : CodeRanges}
    (h : Increasing (first :: rest)) (hr : r ∈ rest) : first.1 ≤ r.1 := by
  induction rest generalizing first with
  | nil => nomatch hr
  | cons next more ih =>
    have hnext : first.1 ≤ next.1 := Nat.le_of_lt (Nat.lt_of_le_of_lt h.1 h.2.1)
    rcases List.mem_cons.1 hr with rfl | hr
    · exact hnext
    · exact Nat.le_trans hnext (ih h.rest hr)

/-- Where the ranges are in order, stopping early misses none of them. -/
theorem Increasing.contains {ranges : CodeRanges} {r : Nat × Nat} {n : Nat}
    (h : Increasing ranges) (hr : r ∈ ranges) (hlow : r.1 ≤ n) (hhigh : n ≤ r.2) :
    ranges.contains n = true := by
  induction ranges with
  | nil => nomatch hr
  | cons first rest ih =>
    rw [CodeRanges.contains, Bool.and_eq_true, Bool.or_eq_true, decide_eq_true_eq,
      decide_eq_true_eq]
    rcases List.mem_cons.1 hr with rfl | hr
    · exact ⟨hlow, .inl hhigh⟩
    · exact ⟨Nat.le_trans (h.low_le hr) hlow, .inr (ih h.rest hr)⟩

end CodeRanges

end Blueprint.Text
