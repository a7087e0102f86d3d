/-
# Legal factories

A sound factory is written in legal text, if the names that it may be written with are names of the
language and in their normal form.  Its own names always are: they are made of basic letters, digits
and underscores, and none of them is taken.
-/
import Blueprint.Proofs.Emission.Meaning

namespace Blueprint

namespace Factory

/-! ## Own names -/

lemma isIdentifier_ofChars {c : Char} {cs : List Char} (h : Text.isIdentifierStart c = true)
    (hs : ∀ d ∈ cs, Text.isIdentifierContinue d = true) :
    Text.isIdentifier (Text.ofChars (c :: cs)) = true := by
  have hrest : (cs.map Point.char).all (Point.isIn Text.isIdentifierContinue) = true := by
    rw [List.all_map, List.all_eq_true]
    exact hs
  show (Text.isIdentifierStart c &&
    (cs.map Point.char).all (Point.isIn Text.isIdentifierContinue)) = true
  rw [h, hrest]
  rfl

lemma isIdentifierContinue_of_isDigit {c : Char} (h : c.isDigit = true) :
    Text.isIdentifierContinue c = true := by
  have hdigits : ∀ n ∈ List.range' 48 10, Text.identifierContinueRanges.contains n = true := by
    decide
  rw [Char.isDigit, Bool.and_eq_true, decide_eq_true_eq, decide_eq_true_eq] at h
  have hge : 48 ≤ c.toNat := h.1
  have hle : c.toNat ≤ 57 := h.2
  refine hdigits c.toNat ?_
  rw [List.mem_range'_1]
  omega

lemma isName_of_normal {n : Text} (h : n.normal = n) (hbare : Script.IsBareName n) :
    Script.IsName n := by
  refine ⟨hbare, fun hmem => hbare.2 ?_⟩
  rw [h] at hmem
  exact List.mem_append_left _ hmem

lemma isName_of_mem_fixedNames {n : Text} (h : n ∈ fixedNames) : Script.IsName n := by
  have hall : ∀ n ∈ fixedNames,
      Text.isIdentifier n = true ∧ n ∉ Script.reservedNames := by decide
  exact isName_of_normal (normal_of_mem_fixedNames h) (hall n h)

lemma Local.isName_text (l : Local) : Script.IsName l.text := by
  refine isName_of_normal l.normal_text ⟨?_, ?_⟩
  · have hletters : ∃ cs, l.role.letters = '_' :: cs ∧
        cs.all Text.isIdentifierContinue = true := by
      cases l.role <;> exact ⟨_, rfl, rfl⟩
    obtain ⟨cs, hcs, hcontinue⟩ := hletters
    rw [Local.text_eq, hcs, List.cons_append]
    refine isIdentifier_ofChars (by decide) fun c hc => ?_
    rcases List.mem_append.1 hc with hc | hc
    · exact List.all_eq_true.1 hcontinue c hc
    · exact isIdentifierContinue_of_isDigit
        (Nat.isDigit_of_mem_toDigits (by decide) (by decide) hc)
  · -- a reserved name that starts with an underscore goes on with another
    have hreserved : ∀ n ∈ Script.reservedNames,
        n.points[0]? ≠ some (.char '_') ∨ n.points[1]? = some (.char '_') := by decide
    have hlocal : l.text.points[0]? = some (.char '_') ∧
        l.text.points[1]? ≠ some (.char '_') := by
      rw [Local.text_eq]
      cases l.role <;> exact ⟨rfl, by simp [Text.ofChars, Role.letters]⟩
    intro hmem
    rcases hreserved _ hmem with h | h
    · exact h hlocal.1
    · exact hlocal.2 h

/-! ## Expressions -/

lemma constantScript_isLegal {v : Value} (h : v.isBuiltin = true) :
    (constantScript v).IsLegal := by
  have hplain : ∀ w : Value, w.isPlain = true → (Script.Expr.constant w).IsLegal := by
    intro w hw
    rw [Script.Expr.IsLegal]
    exact hw
  cases v with
  | float x =>
    rw [constantScript]
    split
    · rename_i hx
      exact hplain _ hx
    · -- written as a call of the type of doubles with a text
      simp only [Script.Expr.IsLegal, Script.AllLegal, Script.NamedLegal]
      exact ⟨isName_of_mem_fixedNames (by decide), ⟨rfl, trivial⟩, trivial, List.nodup_nil⟩
  | derived form literal => exact absurd h Bool.false_ne_true
  | _ => exact hplain _ h

mutual

lemma Expr.script_isLegal : ∀ e : Expr, e.IsSound → e.script.IsLegal
  | .constant v, h => by
    rw [Expr.IsSound] at h
    rw [Expr.script]
    exact constantScript_isLegal h
  | .lookup entry, h => by
    rw [Expr.IsSound] at h
    simp only [Expr.script, Script.Expr.IsLegal, Script.AllLegal, Script.NamedLegal]
    refine ⟨⟨isName_of_mem_fixedNames (by decide), ?_⟩, ⟨h, trivial⟩, trivial, List.nodup_nil⟩
    exact isName_of_normal (by decide) ⟨by decide, by decide⟩
  | .build builder, _ => by
    simp only [Expr.script, Script.Expr.IsLegal, Script.AllLegal, Script.NamedLegal]
    exact ⟨builder.isName_text, trivial, trivial, List.nodup_nil⟩
  | .list items, h => by
    rw [Expr.IsSound] at h
    rw [Expr.script, Script.Expr.IsLegal]
    exact exprScripts_allLegal items h
  | .tuple items, h => by
    rw [Expr.IsSound] at h
    rw [Expr.script, Script.Expr.IsLegal]
    exact exprScripts_allLegal items h
  | .dict entries, h => by
    rw [Expr.IsSound] at h
    rw [Expr.script, Script.Expr.IsLegal]
    exact entryScripts_legal entries h

lemma exprScripts_allLegal : ∀ es : List Expr, ItemsSound es → Script.AllLegal (exprScripts es)
  | [], _ => by
    rw [exprScripts, Script.AllLegal]
    trivial
  | e :: rest, h => by
    rw [ItemsSound] at h
    rw [exprScripts, Script.AllLegal]
    exact ⟨Expr.script_isLegal e h.1, exprScripts_allLegal rest h.2⟩

lemma entryScripts_legal :
    ∀ es : List (Expr × Expr), EntriesSound es → Script.EntriesLegal (entryScripts es)
  | [], _ => by
    rw [entryScripts, Script.EntriesLegal]
    trivial
  | (k, v) :: rest, h => by
    rw [EntriesSound] at h
    rw [entryScripts, Script.EntriesLegal]
    exact ⟨Expr.script_isLegal k h.1, Expr.script_isLegal v h.2.1, entryScripts_legal rest h.2.2⟩

end

/-! ## Statements -/

section Statements

variable {P : Text → Prop} {imports : List Text}
  (hP : ∀ t, P t → Script.IsName t ∧ t.normal = t)

lemma attributes_isLegal {e : Script.Expr} (he : e.IsLegal) {parts : List Text}
    (h : ∀ part ∈ parts, Script.IsName part) : (attributes e parts).IsLegal := by
  induction parts generalizing e with
  | nil => exact he
  | cons n rest ih =>
    rw [List.forall_mem_cons] at h
    have hn : (Script.Expr.attribute e n).IsLegal := by
      rw [Script.Expr.IsLegal]
      exact ⟨he, h.1⟩
    exact ih hn h.2

lemma pathScript_isLegal {parts : List Text} (hne : parts ≠ [])
    (h : ∀ part ∈ parts, Script.IsName part) : (pathScript parts).IsLegal := by
  cases parts with
  | nil => exact absurd rfl hne
  | cons first rest =>
    rw [List.forall_mem_cons] at h
    have hfirst : (Script.Expr.name first).IsLegal := by
      rw [Script.Expr.IsLegal]
      exact h.1
    exact attributes_isLegal hfirst h.2

include hP

lemma Callee.script_isLegal {c : Callee} (h : c.IsSound P imports) : c.script.IsLegal := by
  cases c with
  | member moduleName qualifiedName =>
    refine pathScript_isLegal ?_ fun part hpart => (hP part (h.2 part hpart)).1
    simp [Catalog.pathParts_ne_nil]
  | builtin name =>
    have hfixed : name ∈ fixedNames :=
      List.mem_cons_of_mem _ (List.mem_cons_of_mem _ (List.mem_cons_of_mem _ h))
    rw [Callee.script, Script.Expr.IsLegal]
    exact isName_of_mem_fixedNames hfixed
  | method target name =>
    simp only [Callee.script, Script.Expr.IsLegal]
    exact ⟨target.isName_text, (hP name h).1⟩

lemma keywordScripts_legal {keywords : List (Text × Expr)}
    (hnames : ∀ name ∈ keywords.map Prod.fst, P name)
    (h : ItemsSound (keywords.map Prod.snd)) : Script.NamedLegal (keywordScripts keywords) := by
  induction keywords with
  | nil =>
    simp only [keywordScripts, List.map_nil, Script.NamedLegal]
  | cons k rest ih =>
    rw [List.map_cons, List.forall_mem_cons] at hnames
    rw [List.map_cons, ItemsSound] at h
    have hrest := ih hnames.2 h.2
    rw [keywordScripts] at hrest
    simp only [keywordScripts, List.map_cons, Script.NamedLegal]
    exact ⟨(hP _ hnames.1).1, Expr.script_isLegal k.2 h.1, hrest⟩

lemma Call.script_isLegal {c : Call} (h : c.IsSound P imports) : c.script.IsLegal := by
  have hnormal : (c.keywords.map Prod.fst).map Text.normal = c.keywords.map Prod.fst := by
    rw [List.map_congr_left fun t ht => (hP t (h.names t ht)).2, List.map_id']
  rw [Call.script, Script.Expr.IsLegal, keywordScripts_names, hnormal]
  exact ⟨Callee.script_isLegal hP h.callee, exprScripts_allLegal _ h.positional,
    keywordScripts_legal hP h.names h.named, h.nodup⟩

/-- A sound block is written in legal text. -/
lemma blockScript_isLegal :
    ∀ body : List Statement, BlockSound P imports body → Script.BlockLegal (blockScript body)
  | [], _ => by
    rw [blockScript, Script.BlockLegal]
    trivial
  | .define l body :: rest, h => by
    rw [BlockSound] at h
    have hbody := blockScript_isLegal body h.1
    have hrest := blockScript_isLegal rest h.2
    rw [blockScript, Script.BlockLegal]
    exact ⟨l.isName_text, hbody, hrest⟩
  | .bind target call :: rest, h => by
    rw [BlockSound] at h
    have hrest := blockScript_isLegal rest h.2
    rw [blockScript, Script.BlockLegal]
    exact ⟨target.isName_text, Call.script_isLegal hP h.1, hrest⟩
  | .assign target field value :: rest, h => by
    rw [BlockSound] at h
    obtain ⟨hname, hsound, hrest⟩ := h
    have htarget : (Script.Expr.name target.text).IsLegal := by
      rw [Script.Expr.IsLegal]
      exact target.isName_text
    have hvalue := Expr.script_isLegal value hsound
    have hrest := blockScript_isLegal rest hrest
    rw [blockScript, assignScript]
    split
    · rename_i hfield
      rw [Script.BlockLegal]
      exact ⟨htarget, (hP field (hname hfield)).1, hvalue, hrest⟩
    · -- a field that is no identifier is an argument of the call that sets it
      rw [Script.BlockLegal]
      refine ⟨?_, hrest⟩
      simp only [Script.Expr.IsLegal, Script.AllLegal, Script.NamedLegal]
      exact ⟨isName_of_mem_fixedNames (by decide),
        ⟨target.isName_text, rfl, hvalue, trivial⟩, trivial, List.nodup_nil⟩
  | .perform call :: rest, h => by
    rw [BlockSound] at h
    rw [blockScript, Script.BlockLegal]
    exact ⟨Call.script_isLegal hP h.1, blockScript_isLegal rest h.2⟩
  | .proxy target className initializer :: rest, h => by
    rw [BlockSound] at h
    have hrest := blockScript_isLegal rest h
    rw [blockScript, Script.BlockLegal]
    refine ⟨target.isName_text, ?_, hrest⟩
    simp only [Script.Expr.IsLegal, Script.AllLegal, Script.NamedLegal]
    refine ⟨⟨isName_of_mem_fixedNames (by decide), ?_⟩,
      ⟨rfl, initializer.isName_text, trivial⟩, trivial, List.nodup_nil⟩
    exact isName_of_normal (by decide) ⟨by decide, by decide⟩
  | .result target :: rest, h => by
    rw [BlockSound] at h
    rw [blockScript, Script.BlockLegal, Script.Expr.IsLegal]
    exact ⟨target.isName_text, blockScript_isLegal rest h⟩

end Statements

end Factory

end Blueprint
