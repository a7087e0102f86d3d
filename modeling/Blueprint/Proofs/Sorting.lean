/-
# What sorting comes to

Sorting compares items, two at a time, and a comparison may fail.  All that sorting finds out about
the items are the outcomes of comparisons: a transitive relation that every outcome agrees with
(`Sorting.Agrees`) holds along the run at the start, is kept where an item is put into its place,
and so holds along the whole sorted list.  There are two such relations of use.  One is the order
itself: where no two items share a place in it, there is only one sorted list.  The other is to be
of the same kind: only values of one kind have an order, so where sorting succeeds, all keys are of
one kind.
-/
import Blueprint.Value.Order
import Mathlib.Order.Lattice
import Mathlib.Tactic.Lemma

namespace Blueprint

namespace Sorting

variable {α β γ : Type} {before : α → α → Except Failure Bool} {items sorted : List α}
  {R S : α → α → Prop}

/-- The result satisfies `P`.  A failure is one to compare two of the items. -/
def Settles (before : α → α → Except Failure Bool) (items : List α) (P : β → Prop) :
    Except Failure β → Prop
  | .ok b => P b
  | .error failure => ∃ a ∈ items, ∃ b ∈ items, before a b = .error failure

namespace Settles

protected lemma bind {P : β → Prop} {Q : γ → Prop} {x : Except Failure β}
    {f : β → Except Failure γ} (hx : Settles before items P x)
    (hf : ∀ b, P b → Settles before items Q (f b)) : Settles before items Q (x >>= f) := by
  rcases x with failure | b
  · exact hx
  · exact hf b hx

lemma compare {a b : α} (ha : a ∈ items) (hb : b ∈ items) :
    Settles before items (fun r => before a b = .ok r) (before a b) := by
  rcases h : before a b with failure | r
  · exact ⟨a, ha, b, hb, h⟩
  · rfl

end Settles

/-- Every comparison of two of the items agrees with a transitive relation: that of those that come
first to those that do not. -/
structure Agrees (before : α → α → Except Failure Bool) (R : α → α → Prop) (items : List α) :
    Prop where
  trans : ∀ {a b c}, R a b → R b c → R a c
  of_true : ∀ {a b}, a ∈ items → b ∈ items → before a b = .ok true → R a b
  of_false : ∀ {a b}, a ∈ items → b ∈ items → before a b = .ok false → R b a

/-- What was taken stands in a row, if what may follow an item stands to it as the row asks for. -/
lemma takeRun_settles (goesOn : α → α → Except Failure Bool)
    (htrans : ∀ {a b c}, S a b → S b c → S a c)
    (hgoes : ∀ {a b}, a ∈ items → b ∈ items →
      Settles before items (fun goes => goes = true → S a b) (goesOn a b))
    {last : α} {tail rest : List α} (hrow : (last :: tail).Pairwise S)
    (hperm : (last :: tail ++ rest).Perm items) :
    Settles before items (fun out => out.1.Pairwise S ∧ (out.1 ++ out.2).Perm items)
      (takeRun goesOn last (last :: tail) rest) := by
  induction rest generalizing last tail with
  | nil => exact ⟨hrow, hperm⟩
  | cons a rest ih =>
    have ha : a ∈ items := hperm.mem_iff.1 (by simp)
    have hlast : last ∈ items := hperm.mem_iff.1 (by simp)
    refine (hgoes ha hlast).bind fun goes hS => ?_
    cases goes with
    | false => exact ⟨hrow, hperm⟩
    | true =>
      refine ih (List.pairwise_cons.2 ⟨fun x hx => ?_, hrow⟩) (List.perm_middle.symm.trans hperm)
      rcases List.mem_cons.1 hx with rfl | hx
      · exact hS rfl
      · exact htrans (hS rfl) ((List.pairwise_cons.1 hrow).1 x hx)

/-- The run at the start stands in a row, and no item is lost. -/
lemma firstRun_settles (h : Agrees before R items) :
    Settles before items (fun out => out.1.Pairwise R ∧ (out.1 ++ out.2).Perm items)
      (firstRun before items) := by
  rcases items with _ | ⟨a, _ | ⟨b, rest⟩⟩
  · exact ⟨.nil, .refl _⟩
  · exact ⟨List.pairwise_singleton R a, .refl _⟩
  have ha : a ∈ a :: b :: rest := by simp
  have hb : b ∈ a :: b :: rest := by simp
  have hswap : (b :: [a] ++ rest).Perm (a :: b :: rest) := .swap a b rest
  refine (Settles.compare hb ha).bind fun descends hcompare => ?_
  cases descends with
  | true =>
    have hpair : [b, a].Pairwise R := List.pairwise_pair.2 (h.of_true hb ha hcompare)
    refine takeRun_settles (S := R) before h.trans (fun {x y} hx hy => ?_) hpair hswap
    rcases hxy : before x y with failure | r
    · exact ⟨x, hx, y, hy, hxy⟩
    · rintro rfl
      exact h.of_true hx hy hxy
  | false =>
    -- the items are taken in front of each other, and turned around at the end
    have hpair : [b, a].Pairwise fun x y => R y x :=
      List.pairwise_pair.2 (h.of_false hb ha hcompare)
    have hgoes : ∀ {x y}, x ∈ a :: b :: rest → y ∈ a :: b :: rest →
        Settles before (a :: b :: rest) (fun goes => goes = true → R y x)
          (do return !(← before x y)) :=
      fun hx hy => (Settles.compare hx hy).bind fun r hxy hgoes =>
        h.of_false hx hy (hxy.trans (by simpa using hgoes))
    have hrun := takeRun_settles (S := fun x y => R y x) _ (fun hxy hyz => h.trans hyz hxy) hgoes
      hpair hswap
    refine hrun.bind fun out hout => ⟨?_, ?_⟩
    · exact List.pairwise_reverse.2 hout.1
    · exact ((List.reverse_perm out.1).append_right out.2).trans hout.2

/-- A search finds a place with the items on the one side before its item, and those on the other
side after it, if that is so of the items outside of where it searches. -/
lemma search_settles (h : Agrees before R items) {item : α} (hitem : item ∈ items)
    (hsub : ∀ x ∈ sorted, x ∈ items) (hrow : sorted.Pairwise R) (fuel : Nat) {low high : Nat}
    (hfuel : high < low + fuel) (hle : low ≤ high) (hlength : high ≤ sorted.length)
    (hlow : ∀ x ∈ sorted.take low, R x item) (hhigh : ∀ x ∈ sorted.drop high, R item x) :
    Settles before items
      (fun place => (∀ x ∈ sorted.take place, R x item) ∧ ∀ x ∈ sorted.drop place, R item x)
      (search before sorted item fuel low high) := by
  induction fuel generalizing low high with
  | zero => omega
  | succ fuel ih =>
    rw [search]
    by_cases hlt : low < high
    · have hmiddle : (low + high) / 2 < sorted.length := by omega
      obtain ⟨other, hother⟩ : ∃ other, sorted[(low + high) / 2] = other := ⟨_, rfl⟩
      simp only [if_pos hlt, List.getElem?_eq_getElem hmiddle, hother]
      have hmem : other ∈ items := hsub other (hother ▸ List.getElem_mem hmiddle)
      have hdrop : sorted.drop ((low + high) / 2) = other :: sorted.drop ((low + high) / 2 + 1) :=
        hother ▸ List.drop_eq_getElem_cons hmiddle
      have htake : sorted.take ((low + high) / 2 + 1) =
          sorted.take ((low + high) / 2) ++ [other] :=
        hother ▸ List.take_succ_eq_append_getElem hmiddle
      obtain ⟨-, hafter, hcross⟩ := List.pairwise_append.1 <|
        (List.take_append_drop ((low + high) / 2) sorted).symm ▸ hrow
      rw [hdrop] at hafter hcross
      refine (Settles.compare hitem hmem).bind fun first hcompare => ?_
      -- the item goes before the middle one, or after it: the other half is settled by the order
      cases first with
      | true =>
        refine ih (by omega) (by omega) (by omega) hlow fun x hx => ?_
        rw [hdrop] at hx
        rcases List.mem_cons.1 hx with rfl | hx
        · exact h.of_true hitem hmem hcompare
        · exact h.trans (h.of_true hitem hmem hcompare) ((List.pairwise_cons.1 hafter).1 x hx)
      | false =>
        refine ih (by omega) (by omega) hlength (fun x hx => ?_) hhigh
        rw [htake] at hx
        rcases List.mem_append.1 hx with hx | hx
        · exact h.trans (hcross x hx other List.mem_cons_self) (h.of_false hitem hmem hcompare)
        · rw [List.mem_singleton.1 hx]
          exact h.of_false hitem hmem hcompare
    · obtain rfl : low = high := by omega
      rw [if_neg hlt]
      exact ⟨hlow, hhigh⟩

/-- Putting items where they belong keeps the row, and no item is lost. -/
lemma insertAll_settles (h : Agrees before R items) {rest : List α} (hrow : sorted.Pairwise R)
    (hperm : (sorted ++ rest).Perm items) :
    Settles before items (fun out => out.Pairwise R ∧ out.Perm items)
      (insertAll before sorted rest) := by
  induction rest generalizing sorted with
  | nil =>
    rw [List.append_nil] at hperm
    exact ⟨hrow, hperm⟩
  | cons item rest ih =>
    have hitem : item ∈ items := hperm.mem_iff.1 (by simp)
    have hsub : ∀ x ∈ sorted, x ∈ items := fun x hx => hperm.mem_iff.1 (by simp [hx])
    refine (search_settles h hitem hsub hrow (sorted.length + 1) (by omega) (Nat.zero_le _)
      (Nat.le_refl _) (by simp) (by simp)).bind fun place hplace => ih ?_ ?_
    · obtain ⟨htake, hdrop, hcross⟩ := List.pairwise_append.1 <|
        (List.take_append_drop place sorted).symm ▸ hrow
      refine List.pairwise_append.2 ⟨htake, List.pairwise_cons.2 ⟨hplace.2, hdrop⟩, ?_⟩
      intro x hx y hy
      rcases List.mem_cons.1 hy with rfl | hy
      · exact hplace.1 x hx
      · exact hcross x hx y hy
    · refine .trans ?_ hperm
      refine (List.perm_middle.append_right rest).trans ?_
      rw [List.take_append_drop]
      exact List.perm_middle.symm

end Sorting

/-! ## Sorted entries -/

section Entries

variable {β : Type} {entries entries' sorted : List (Value × β)}
  {R : Value × β → Value × β → Prop}

lemma sortEntries_settles (h : Sorting.Agrees (fun a b => a.1.before b.1) R entries) :
    Sorting.Settles (fun a b => a.1.before b.1) entries
      (fun sorted => sorted.Pairwise R ∧ sorted.Perm entries) (sortEntries entries) :=
  (Sorting.firstRun_settles h).bind fun _ hrun => Sorting.insertAll_settles h hrun.1 hrun.2

/-- Entries that were sorted stand in a row, and are the same as before. -/
lemma sortEntries_pairwise (h : Sorting.Agrees (fun a b => a.1.before b.1) R entries)
    (hsorted : sortEntries entries = .ok sorted) : sorted.Pairwise R ∧ sorted.Perm entries := by
  have hsettles := sortEntries_settles h
  rw [hsorted] at hsettles
  exact hsettles

lemma sortEntries_perm (hsorted : sortEntries entries = .ok sorted) : sorted.Perm entries :=
  (sortEntries_pairwise (R := fun _ _ => True)
    ⟨fun _ _ => trivial, fun _ _ _ => trivial, fun _ _ _ => trivial⟩ hsorted).2

/-- Entries whose keys are ordered by a rank, which no two of them share, are sorted into one order,
wherever they stood. -/
theorem sortEntries_of_rank {κ : Type} [LinearOrder κ] (rank : Value → κ)
    (hbefore : ∀ a ∈ entries, ∀ b ∈ entries,
      a.1.before b.1 = .ok (decide (rank a.1 < rank b.1)))
    (hrank : ∀ a ∈ entries, ∀ b ∈ entries, rank a.1 = rank b.1 → a = b)
    (hperm : entries.Perm entries') (hsorted : sortEntries entries = .ok sorted) :
    sortEntries entries' = .ok sorted := by
  have hagrees : ∀ {es : List (Value × β)}, es.Perm entries →
      Sorting.Agrees (fun a b => a.1.before b.1) (fun a b => rank a.1 ≤ rank b.1) es := by
    intro es hes
    refine ⟨le_trans, fun {a b} ha hb hr => ?_, fun {a b} ha hb hr => ?_⟩
    all_goals
      rw [hbefore a (hes.mem_iff.1 ha) b (hes.mem_iff.1 hb)] at hr
      simp only [Except.ok.injEq, decide_eq_true_eq, decide_eq_false_iff_not, not_lt] at hr
    · exact le_of_lt hr
    · exact hr
  obtain ⟨hrow, hsame⟩ := sortEntries_pairwise (hagrees (.refl _)) hsorted
  have hsettles := sortEntries_settles (hagrees hperm.symm)
  rcases hsorted' : sortEntries entries' with failure | sorted' <;> rw [hsorted'] at hsettles
  · obtain ⟨a, ha, b, hb, hfails⟩ := hsettles
    have hranked := hbefore a (hperm.mem_iff.2 ha) b (hperm.mem_iff.2 hb)
    exact absurd (hfails.symm.trans hranked) (by simp)
  · obtain ⟨hrow', hsame'⟩ := hsettles
    have hsorteds : sorted'.Perm sorted := hsame'.trans (hperm.symm.trans hsame.symm)
    refine congrArg Except.ok (hsorteds.eq_of_pairwise (fun a b ha hb hab hba => ?_) hrow' hrow)
    exact hrank a (hperm.mem_iff.2 (hsame'.mem_iff.1 ha)) b (hsame.mem_iff.1 hb)
      (le_antisymm hab hba)

end Entries

end Blueprint
