/-
# Cutting class paths

To name a class in a text, its path is cut into the path of a module and a name within it, at a
place that depends on what can be imported.  This file shows that, wherever the cut is made, the
parts on its two sides are those of the class path: only the mark between them may be another.
-/
import Blueprint.Factory.Draft
import Blueprint.Proofs.Emission.Execution
import Blueprint.Proofs.Lookup

namespace Blueprint

namespace Text

/-! ## Parts and marks -/

variable {α : Type} [BEq α] {mark : α}

lemma partsAt_ne_nil (l : List α) : partsAt mark l ≠ [] := by
  cases l with
  | nil => simp [partsAt]
  | cons a rest =>
    rw [partsAt]
    split
    · simp
    · split <;> simp

/-- The parts of two sequences with the mark between them are those of the one and of the other. -/
lemma partsAt_append [LawfulBEq α] (l l' : List α) :
    partsAt mark (l ++ mark :: l') = partsAt mark l ++ partsAt mark l' := by
  induction l with
  | nil => simp [partsAt]
  | cons a rest ih =>
    simp only [List.cons_append, partsAt, ih]
    -- a mark ends a part; anything else belongs to the first part of the rest
    split
    · rfl
    · rcases h : partsAt mark rest with _ | ⟨first, more⟩
      · exact absurd h (partsAt_ne_nil rest)
      · rfl

/-- Without a mark there is one part. -/
lemma partsAt_of_not_mem [LawfulBEq α] {l : List α} (h : mark ∉ l) : partsAt mark l = [l] := by
  induction l with
  | nil => rfl
  | cons a rest ih =>
    rw [List.mem_cons, not_or] at h
    rw [partsAt, if_neg (by simpa using Ne.symm h.1), ih h.2]

/-- No part has the mark. -/
lemma not_mem_of_mem_partsAt [LawfulBEq α] {l part : List α} (h : part ∈ partsAt mark l) :
    mark ∉ part := by
  induction l generalizing part with
  | nil =>
    obtain rfl := List.mem_singleton.1 h
    exact List.not_mem_nil
  | cons a rest ih =>
    rw [partsAt] at h
    split at h
    · rcases List.mem_cons.1 h with rfl | h
      · exact List.not_mem_nil
      · exact ih h
    · rename_i hmark
      have hne : mark ≠ a := fun heq => hmark (beq_iff_eq.2 heq.symm)
      split at h
      · obtain rfl := List.mem_singleton.1 h
        exact fun hmem => hne (List.mem_singleton.1 hmem)
      · -- the first part of the rest has one more item, which is not the mark
        rename_i first more heq
        rcases List.mem_cons.1 h with rfl | h
        · have hfirst := ih (heq ▸ List.mem_cons_self)
          exact fun hmem => (List.mem_cons.1 hmem).elim hne hfirst
        · exact ih (heq ▸ List.mem_cons_of_mem first h)

lemma intercalate_cons (separator t : Text) {more : List Text} (h : more ≠ []) :
    intercalate separator (t :: more) = t ++ separator ++ intercalate separator more := by
  cases more with
  | nil => exact absurd rfl h
  | cons t' rest =>
    rw [intercalate]
    exact List.cons_ne_nil t' rest

lemma intercalate_append (separator : Text) {ts ts' : List Text} (h : ts ≠ []) (h' : ts' ≠ []) :
    intercalate separator (ts ++ ts') =
      intercalate separator ts ++ separator ++ intercalate separator ts' := by
  induction ts with
  | nil => exact absurd rfl h
  | cons t rest ih =>
    by_cases hr : rest = []
    · subst hr
      exact intercalate_cons separator t h'
    · rw [List.cons_append, intercalate_cons separator t (by simp [hr]), ih hr,
        intercalate_cons separator t hr]
      simp only [append_assoc]

/-- The text does not have the mark. -/
def Lacks (t : Text) (mark : Char) : Prop :=
  Point.char mark ∉ t.points

instance (mark : Char) : DecidablePred fun t : Text => t.Lacks mark :=
  fun t => inferInstanceAs (Decidable (Point.char mark ∉ t.points))

/-- A literal is told by its characters. -/
lemma lacks_literal {cs : List Char} {mark : Char} (h : mark ∉ cs) :
    (ofString (String.ofList cs)).Lacks mark := by
  rw [ofString, String.toList_ofList]
  intro hmem
  obtain ⟨c, hc, heq⟩ := List.mem_map.1 hmem
  exact h (Point.char.inj heq ▸ hc)

lemma lacks_append {mark : Char} {a b : Text} :
    (a ++ b).Lacks mark ↔ a.Lacks mark ∧ b.Lacks mark := by
  rw [Lacks, points_append, List.mem_append, not_or]
  rfl

lemma Lacks.append {mark : Char} {a b : Text} (h : a.Lacks mark) (h' : b.Lacks mark) :
    (a ++ b).Lacks mark :=
  lacks_append.2 ⟨h, h'⟩

lemma Lacks.intercalate {mark : Char} {separator : Text} {ts : List Text}
    (hs : separator.Lacks mark) (h : ∀ t ∈ ts, t.Lacks mark) :
    (intercalate separator ts).Lacks mark := by
  induction ts with
  | nil => exact List.not_mem_nil
  | cons t rest ih =>
    obtain ⟨ht, hrest⟩ := List.forall_mem_cons.1 h
    by_cases hnil : rest = []
    · subst hnil
      exact ht
    · rw [intercalate_cons separator t hnil]
      exact (ht.append hs).append (ih hrest)

/-- The parts of texts in a row, with a mark between any two that none of them has, are these
texts. -/
lemma splitAt_intercalate {mark : Char} {ts : List Text}
    (h : ∀ t ∈ ts, t.Lacks mark) (hne : ts ≠ []) :
    splitAt mark (intercalate (ofChars [mark]) ts) = ts := by
  induction ts with
  | nil => exact absurd rfl hne
  | cons t rest ih =>
    obtain ⟨ht, hrest⟩ := List.forall_mem_cons.1 h
    by_cases hnil : rest = []
    · subst hnil
      rw [intercalate, splitAt, partsAt_of_not_mem ht]
      rfl
    · have hparts : partsAt (Point.char mark)
          (t.points ++ Point.char mark :: (intercalate (ofChars [mark]) rest).points) =
            t.points :: partsAt (Point.char mark) (intercalate (ofChars [mark]) rest).points := by
        rw [partsAt_append, partsAt_of_not_mem ht, List.singleton_append]
      rw [intercalate_cons _ t hnil, append_assoc, splitAt]
      exact (congrArg (List.map Text.mk) hparts).trans (congrArg (t :: ·) (ih hrest hnil))

end Text

namespace Catalog

/-! ## Paths -/

lemma pathParts_ne_nil (path : Text) : pathParts path ≠ [] := by
  rw [pathParts, Text.splitAt, ne_eq, List.map_eq_nil_iff]
  exact Text.partsAt_ne_nil _

lemma pathParts_append (a b : Text) : pathParts (a ++ "." ++ b) = pathParts a ++ pathParts b := by
  simp only [pathParts, Text.splitAt, Text.points_append, List.append_assoc]
  rw [← List.map_append, ← Text.partsAt_append]
  rfl

/-- A path is its parts with dots between them. -/
lemma intercalate_pathParts (path : Text) : Text.intercalate "." (pathParts path) = path := by
  obtain ⟨points⟩ := path
  simp only [pathParts, Text.splitAt]
  induction points with
  | nil => rfl
  | cons p rest ih =>
    rw [Text.partsAt]
    split
    · -- a dot: an empty part, and the dot before the parts of the rest
      rename_i hp
      rw [List.map_cons, Text.intercalate_cons _ _ (by simp [Text.partsAt_ne_nil]), ih]
      rw [eq_of_beq hp]
      rfl
    · -- any other point goes in front of the first part
      rcases h : Text.partsAt (.char '.') rest with _ | ⟨first, more⟩
      · exact absurd h (Text.partsAt_ne_nil rest)
      · simp only [h] at ih ⊢
        cases more with
        | nil =>
          have hfirst : first = rest := congrArg Text.points ih
          rw [hfirst]
          rfl
        | cons second more =>
          rw [List.map_cons, Text.intercalate_cons _ _ (by simp)] at ih ⊢
          exact congrArg (fun t : Text => (⟨p :: t.points⟩ : Text)) ih

/-- The two sides of a cut are not empty and make up what is cut. -/
lemma mem_cuts {parts a b : List Text} (h : (a, b) ∈ cuts parts) :
    a ≠ [] ∧ b ≠ [] ∧ a ++ b = parts := by
  obtain ⟨n, hn, he⟩ := List.mem_map.1 h
  obtain ⟨rfl, rfl⟩ := Prod.mk.inj he
  have hlt := List.mem_range.1 hn
  refine ⟨?_, ?_, List.take_append_drop _ _⟩
  · rw [ne_eq, List.take_eq_nil_iff]
    rintro (h0 | rfl)
    · omega
    · simp at hlt
  · rw [ne_eq, List.drop_eq_nil_iff]
    omega

/-- The path of the module and the name within it have the parts of the class path. -/
def Cuts (path : Text) (cut : Text × Text) : Prop :=
  pathParts cut.1 ++ pathParts cut.2 = classPath path

lemma cuts_intercalate {path : Text} (hcolon : splitAtColon? path = none) {a b : List Text}
    (ha : a ≠ []) (hb : b ≠ []) (h : a ++ b = pathParts path) :
    Cuts path (Text.intercalate "." a, Text.intercalate "." b) := by
  have hpath : Text.intercalate "." a ++ "." ++ Text.intercalate "." b = path := by
    rw [← Text.intercalate_append "." ha hb, h, intercalate_pathParts]
  rw [Cuts, classPath, hcolon, ← pathParts_append, hpath]

lemma cuts_of_colon {path : Text} {cut : Text × Text} (h : splitAtColon? path = some cut) :
    Cuts path cut := by
  rw [Cuts, classPath, h]

lemma cuts_of_mem_candidates {path : Text} {cut : Text × Text} (h : cut ∈ candidates path) :
    Cuts path cut := by
  unfold candidates at h
  split at h
  · rename_i hcolon
    obtain rfl := List.mem_singleton.1 h
    exact cuts_of_colon hcolon
  · rename_i hcolon
    obtain ⟨⟨a, b⟩, hab, rfl⟩ := List.mem_map.1 h
    obtain ⟨ha, hb, hparts⟩ := mem_cuts hab
    exact cuts_intercalate hcolon ha hb hparts

/-- Without a module before the last dot, a path is taken to need none. -/
lemma cuts_splitAtLastDot {path : Text} (hcolon : splitAtColon? path = none) :
    (splitAtLastDot path).1.isEmpty = true ∨ Cuts path (splitAtLastDot path) := by
  -- without a dot the module is empty; with one, the last dot is among the places of a cut
  by_cases h : (pathParts path).dropLast = []
  · refine .inl ?_
    rw [splitAtLastDot, h]
    rfl
  · refine .inr ?_
    have hlast : Text.intercalate "." [(pathParts path).getLast (pathParts_ne_nil path)] =
        (pathParts path).getLast?.getD "" := by
      rw [List.getLast?_eq_some_getLast (pathParts_ne_nil path)]
      rfl
    rw [splitAtLastDot, ← hlast]
    exact cuts_intercalate hcolon h (by simp) (List.dropLast_concat_getLast (pathParts_ne_nil path))

end Catalog

/-- A splitter finds no module, or cuts the path. -/
def Factory.Splitter.IsCutting (split : Factory.Splitter) : Prop :=
  ∀ path, (split path).Ensures
    (fun cut => cut.1.isEmpty = true ∨ Catalog.Cuts path cut) (fun _ => True)

theorem Catalog.split_isCutting (catalog : Catalog) :
    Factory.Splitter.IsCutting catalog.split := by
  intro path
  unfold Catalog.split
  refine Run.Ensures.bind (catalog.firstClass_ensures (candidates path)) fun found hfound => ?_
  split
  · exact Run.Ensures.pure (.inr (cuts_of_mem_candidates (hfound _ rfl).1))
  · refine Run.Ensures.pure ?_
    rcases hcolon : splitAtColon? path with _ | cut
    · exact cuts_splitAtLastDot hcolon
    · exact .inr (cuts_of_colon hcolon)

end Blueprint
