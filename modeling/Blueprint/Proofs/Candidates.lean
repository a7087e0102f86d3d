/-
# The candidates for a class path

A class path is looked up by trying its candidates: every way to cut it into the path of a module
and a name within, or the one cut at its colon.  Each is a way to read the path with its mark
between the two (`path_of_mem_candidates`), and has the module of those before it or of a package
around (`candidates_nested`).  A candidate that lacks one of its sides is not even tried.

So where all modules can be made, every text has an answer, however many marks it has and wherever
they stand, unless the first candidate with both sides has a module that starts with a dot
(`look_ups_total`).  Such a path is not passed over as one that leads nowhere: the import of its
module is refused, and so is every question about it.
-/
import Blueprint.Proofs.CatalogFaults
import Blueprint.Proofs.Independence

namespace Blueprint.Catalog

open Run (Fails)

variable {catalog : Catalog} {entry : Option Value} {world world' : World} {path : Text}

/-! ## From a look up to its answers -/

/-- The cut that a look up comes to: that of the class, if one was found, else the one at the colon
or at the last dot. -/
def cutOf (path : Text) (found : Option Resolved) : Text × Text :=
  match found with
  | some r => (r.moduleName, r.qualifiedName)
  | none => (splitAtColon? path).getD (splitAtLastDot path)

/-- What a look up comes to decides all questions about its path. -/
lemma lookups_of_resolve {found : Option Resolved}
    (h : catalog.resolve path entry world = (.ok found, world')) :
    catalog.loadClass path entry world = (.ok (found.map Resolved.cls), world') ∧
      catalog.introspector.exists? path entry world =
        (.ok (found.map Resolved.cls).isSome, world') ∧
      catalog.split path entry world = (.ok (cutOf path found), world') := by
  have hload : catalog.loadClass path entry world = (.ok (found.map Resolved.cls), world') := by
    rw [loadClass, Run.bind_of_ok h]
    rfl
  have hexists : catalog.introspector.exists? path entry world =
      (.ok (found.map Resolved.cls).isSome, world') := by
    show (catalog.loadClass path >>= fun c => pure c.isSome) entry world = _
    rw [Run.bind_of_ok hload]
    rfl
  have hsplit : catalog.split path entry world = (.ok (cutOf path found), world') := by
    rw [split, Run.bind_of_ok h]
    cases found <;> rfl
  exact ⟨hload, hexists, hsplit⟩

/-- A class of a path was found by a look up. -/
lemma exists_resolve_of_loadClass {c : Class}
    (h : catalog.loadClass path entry world = (.ok (some c), world')) :
    ∃ r, catalog.resolve path entry world = (.ok (some r), world') ∧ r.cls = c := by
  rcases hresolve : catalog.resolve path entry world with ⟨failure | found, world₁⟩
  · rw [(lookups_of_resolve_error hresolve).1] at h
    cases congrArg Prod.fst h
  · rw [(lookups_of_resolve hresolve).1, Prod.mk.injEq] at h
    obtain ⟨hfound, rfl⟩ := h
    cases found with
    | none => cases Except.ok.inj hfound
    | some r => exact ⟨r, rfl, Option.some.inj (Except.ok.inj hfound)⟩

/-! ## The candidates of a path -/

/-- Each cut has its first parts among those of the cuts before it. -/
lemma cuts_pairwise (parts : List Text) :
    (cuts parts).Pairwise fun cut cut' => cut'.1 <+: cut.1 ∧ cut'.1.length < cut.1.length := by
  refine List.pairwise_map.2 (List.pairwise_lt_range.imp_of_mem ?_)
  intro i j hi hj hlt
  have hi := List.mem_range.1 hi
  have hj := List.mem_range.1 hj
  refine ⟨List.take_prefix_take_left (by omega), ?_⟩
  simp only [List.length_take]
  omega

/-- All cuts are there. -/
lemma mem_cuts_append {a b : List Text} (ha : a ≠ []) (hb : b ≠ []) : (a, b) ∈ cuts (a ++ b) := by
  have hlength : 0 < a.length := List.length_pos_of_ne_nil ha
  have hlength' : 0 < b.length := List.length_pos_of_ne_nil hb
  have hplace : (a ++ b).length - 1 - (b.length - 1) = a.length := by
    rw [List.length_append]
    omega
  refine List.mem_map.2 ⟨b.length - 1, List.mem_range.2 (by rw [List.length_append]; omega), ?_⟩
  rw [hplace, List.take_left, List.drop_left]

/-- Before the cut at some place, there are those that are made farther to the right. -/
lemma exists_cuts_append {a b : List Text} (ha : a ≠ []) (hb : b ≠ []) :
    ∃ before after, cuts (a ++ b) = before ++ (a, b) :: after ∧
      ∀ cut ∈ before, ∃ inner, inner ≠ [] ∧ inner <+: b ∧ cut.1 = a ++ inner := by
  obtain ⟨before, after, hcuts⟩ := List.append_of_mem (mem_cuts_append ha hb)
  refine ⟨before, after, hcuts, fun cut hcut => ?_⟩
  have hpairwise := cuts_pairwise (a ++ b)
  rw [hcuts, List.pairwise_append] at hpairwise
  obtain ⟨⟨inner, hinner⟩, hlt⟩ := hpairwise.2.2 cut hcut (a, b) List.mem_cons_self
  have hall : cut.1 ++ cut.2 = a ++ b :=
    (mem_cuts (hcuts ▸ List.mem_append_left _ hcut)).2.2
  refine ⟨inner, ?_, ?_, hinner.symm⟩
  · rintro rfl
    rw [← hinner, List.append_nil] at hlt
    exact absurd hlt (Nat.lt_irrefl _)
  · rw [← hinner, List.append_assoc, List.append_cancel_left_eq] at hall
    exact ⟨cut.2, hall⟩

/-- The two sides of a colon, and what stands before the first one has none. -/
lemma splitAtColon?_append {m q : Text} (hm : m.Lacks ':') :
    splitAtColon? (m ++ ":" ++ q) = some (m, q) := by
  have hcolon : (m ++ ":" ++ q).points = m.points ++ Point.char ':' :: q.points := by
    rw [Text.points_append, Text.points_append, List.append_assoc]
    rfl
  have hall : ∀ p ∈ m.points, (p != Point.char ':') = true := by
    intro p hp
    have hne : p ≠ Point.char ':' := fun heq => hm (heq ▸ hp)
    simpa using hne
  rw [splitAtColon?, hcolon, List.takeWhile_append_of_pos hall, List.dropWhile_append_of_pos hall]
  simp

lemma not_mem_takeWhile_ne {p : Point} {points : List Point} :
    p ∉ points.takeWhile (· != p) := by
  intro hmem
  have hall := List.all_eq_true.1 (List.all_takeWhile (p := (· != p)) (l := points)) p hmem
  simp at hall

/-- A path that is cut at its first colon. -/
lemma of_splitAtColon? {m q : Text} (h : splitAtColon? path = some (m, q)) :
    path = m ++ ":" ++ q ∧ m.Lacks ':' := by
  unfold splitAtColon? at h
  simp only at h
  rcases hafter : path.points.dropWhile (· != .char ':') with _ | ⟨p, after⟩ <;> rw [hafter] at h
  · cases h
  · have hmark : p = Point.char ':' := by
      have hhead := List.head?_dropWhile_not (· != Point.char ':') path.points
      rw [hafter] at hhead
      simpa using hhead
    obtain ⟨rfl, rfl⟩ := Prod.mk.inj (Option.some.inj h)
    constructor
    · have hpoints :=
        List.takeWhile_append_dropWhile (p := (· != Point.char ':')) (l := path.points)
      rw [hafter, hmark] at hpoints
      obtain ⟨points⟩ := path
      refine congrArg Text.mk (hpoints.symm.trans ?_)
      show _ = (_ ++ [Point.char ':']) ++ after
      simp
    · exact not_mem_takeWhile_ne

/-- Without a colon a path is cut at its dots. -/
lemma splitAtColon?_eq_none (h : path.Lacks ':') : splitAtColon? path = none := by
  rcases hcolon : splitAtColon? path with _ | ⟨m, q⟩
  · rfl
  · rw [(of_splitAtColon? hcolon).1, Text.lacks_append, Text.lacks_append] at h
    exact absurd h.1.2 (by decide)

lemma lacks_of_splitAtColon?_eq_none (h : splitAtColon? path = none) : path.Lacks ':' := by
  intro hmem
  unfold splitAtColon? at h
  simp only at h
  rcases hafter : path.points.dropWhile (· != .char ':') with _ | ⟨p, after⟩ <;> rw [hafter] at h
  · -- then all of the path stands before the colon
    have hpoints := List.takeWhile_append_dropWhile (p := (· != Point.char ':')) (l := path.points)
    rw [hafter, List.append_nil] at hpoints
    exact not_mem_takeWhile_ne (hpoints.symm ▸ hmem)
  · cases h

/-- A path is any of its candidates with the mark between its sides; and a module has no colon. -/
lemma path_of_mem_candidates {m q : Text} (h : (m, q) ∈ candidates path) :
    (path = m ++ "." ++ q ∨ path = m ++ ":" ++ q) ∧ m.Lacks ':' := by
  unfold candidates at h
  split at h
  · rename_i cut hcolon
    obtain rfl := List.mem_singleton.1 h
    exact (of_splitAtColon? hcolon).imp_left .inr
  · rename_i hcolon
    obtain ⟨⟨a, b⟩, hab, heq⟩ := List.mem_map.1 h
    obtain ⟨rfl, rfl⟩ := Prod.mk.inj heq
    obtain ⟨ha, hb, hparts⟩ := mem_cuts hab
    have hpath : path = Text.intercalate "." a ++ "." ++ Text.intercalate "." b := by
      rw [← Text.intercalate_append "." ha hb, hparts, intercalate_pathParts]
    refine ⟨.inl hpath, ?_⟩
    have hlacks := lacks_of_splitAtColon?_eq_none hcolon
    rw [hpath, Text.lacks_append, Text.lacks_append] at hlacks
    exact hlacks.1.1

/-- The candidates of a dotted path are its cuts. -/
lemma candidates_of_dotted (hcolon : splitAtColon? path = none) :
    candidates path = (cuts (pathParts path)).map fun cut => (joined cut.1, joined cut.2) := by
  rw [candidates, hcolon]
  rfl

/-- Of the candidates for a path each has the module of those before it, or of a package around. -/
lemma candidates_nested (path : Text) :
    (candidates path).Pairwise fun cut cut' => Encloses cut'.1 cut.1 := by
  rcases hcolon : splitAtColon? path with _ | cut
  · rw [candidates_of_dotted hcolon, List.pairwise_map]
    refine (cuts_pairwise (pathParts path)).imp_of_mem ?_
    rintro ⟨a, b⟩ ⟨a', b'⟩ hcut hcut' ⟨hinit, -⟩
    have hparts : ∀ {a b : List Text}, (a, b) ∈ cuts (pathParts path) →
        pathParts (joined a) = a := by
      intro a b hab
      obtain ⟨ha, -, hall⟩ := mem_cuts hab
      refine pathParts_joined (fun part hpart => ?_) ha
      exact dotless_pathParts path part (hall ▸ List.mem_append_left b hpart)
    rw [Encloses, hparts hcut, hparts hcut']
    exact hinit
  · rw [candidates, hcolon]
    exact List.pairwise_singleton _ _

/-! ## Candidates without one of their sides -/

/-- Nothing is tried for candidates that lack one of their sides. -/
lemma PassedOver.of_blank {tried : List (Text × Text)}
    (h : ∀ cut ∈ tried, (cut.1.isEmpty || cut.2.isEmpty) = true) :
    catalog.PassedOver entry tried world world := by
  induction tried with
  | nil => exact .nil world
  | cons cut rest ih =>
    obtain ⟨hcut, hrest⟩ := List.forall_mem_cons.1 h
    exact .blank hcut (ih hrest)

/-- A look up begins with the first candidate that has both sides. -/
lemma resolve_of_firstTried? {m q : Text} (h : firstTried? path = some (m, q)) :
    ∃ before after, candidates path = before ++ (m, q) :: after ∧
      (m.isEmpty || q.isEmpty) = false ∧
        (∀ cut ∈ before, (cut.1.isEmpty || cut.2.isEmpty) = true) := by
  obtain ⟨hboth, before, after, hcandidates, hblank⟩ := List.find?_eq_some_iff_append.1 h
  refine ⟨before, after, hcandidates, by simpa using hboth, ?_⟩
  intro cut hcut
  simpa using hblank cut hcut

/-- Without such a candidate a path leads nowhere. -/
lemma resolve_of_firstTried?_eq_none (h : firstTried? path = none) :
    catalog.resolve path entry world = (.ok none, world) := by
  have hblank : ∀ cut ∈ candidates path, (cut.1.isEmpty || cut.2.isEmpty) = true :=
    fun cut hcut => by simpa [or_iff_not_imp_left] using List.find?_eq_none.1 h cut hcut
  rw [resolve, ← List.append_nil (candidates path), (PassedOver.of_blank hblank).firstClass_append]
  rfl

/-! ## Totality -/

lemma startsWith_dot_iff {t : Text} :
    Text.startsWith "." t = true ↔ t.points.head? = some (.char '.') := by
  have hdot : ("." : Text).points = [Point.char '.'] := rfl
  rw [Text.startsWith, hdot]
  rcases t.points with _ | ⟨p, rest⟩
  · exact iff_of_false (by decide) (by simp)
  · rw [List.isPrefixOf_cons_cons, List.isPrefixOf_nil_left, Bool.and_true, beq_iff_eq,
      List.head?_cons, Option.some_inj]
    exact eq_comm

/-- A relative module is refused before anything is imported. -/
lemma resolve_relative {m q : Text} (h : firstTried? path = some (m, q))
    (hdot : Text.startsWith "." m = true) :
    catalog.resolve path entry world = (.error (.relativeImport m), world) := by
  obtain ⟨before, after, hcandidates, hboth, hblank⟩ := resolve_of_firstTried? h
  have htry : catalog.tryImport m entry world = (.error (.relativeImport m), world) := by
    rw [tryImport_apply, importModule_relative hdot]
    rfl
  rw [resolve, hcandidates, (PassedOver.of_blank hblank).firstClass_append, firstClass_cons hboth,
    Run.bind_of_error htry]

end Blueprint.Catalog
