/-
# Texts of one line

The lines of a factory are put together with line feeds between them.  They can be told apart again
as long as there is none within them.  A literal has none, as what it quotes is escaped, and local
names have none; names of classes, methods and arguments stand in a line as they are, and so do
entries that are no texts, and what a class displays its objects as.  Here it is shown that these
are all: if they have no line feed, nothing that is drafted has one.
-/
import Blueprint.Factory.Render
import Blueprint.Proofs.Emission.Uses

namespace Blueprint

namespace Text

/-- The text has no line feed. -/
abbrev IsOneLine (t : Text) : Prop :=
  t.Lacks '\n'

lemma isOneLine_ofChars {cs : List Char} (h : '\n' ∉ cs) : (ofChars cs).IsOneLine := by
  intro hmem
  obtain ⟨c, hc, heq⟩ := List.mem_map.1 hmem
  exact h (Point.char.inj heq ▸ hc)

/-- A name has only such points as may stand in it. -/
lemma isOneLine_of_isIdentifier {t : Text} (h : isIdentifier t = true) : t.IsOneLine := by
  obtain ⟨points⟩ := t
  cases points with
  | nil => exact List.not_mem_nil
  | cons p rest =>
    obtain ⟨hp, hrest⟩ := Bool.and_eq_true_iff.1 h
    refine List.not_mem_cons_of_ne_of_not_mem ?_ fun hmem => ?_
    · rintro rfl
      exact absurd hp (by decide)
    · exact absurd (List.all_eq_true.1 hrest _ hmem) (by decide)

/-! ## Numerals -/

lemma not_mem_toDigits (n : Nat) : '\n' ∉ Nat.toDigits 10 n := by
  intro hmem
  exact absurd (Nat.isDigit_of_mem_toDigits (by decide) (by decide) hmem) (by decide)

lemma isOneLine_toString (n : Nat) : (ofString (toString n)).IsOneLine :=
  isOneLine_ofChars (by simpa using not_mem_toDigits n)

lemma isOneLine_int (i : Int) : (ofString (toString i)).IsOneLine := by
  cases i with
  | ofNat n => exact isOneLine_toString n
  | negSucc n =>
    refine isOneLine_ofChars ?_
    show '\n' ∉ ("-" ++ toString (n + 1)).toList
    rw [String.toList_append, List.mem_append, not_or]
    exact ⟨by decide, by simpa using not_mem_toDigits (n + 1)⟩

open Double

lemma not_mem_trimZeros {digits : List Char} (h : '\n' ∉ digits) : '\n' ∉ trimZeros digits := by
  unfold trimZeros
  split
  · decide
  · intro hmem
    have hkept := List.mem_reverse.1 hmem
    exact h (List.mem_reverse.1 ((List.dropWhile_sublist _).mem hkept))

lemma not_mem_positional {digits : List Char} (h : '\n' ∉ digits) (exponent : Int) :
    '\n' ∉ positional layout digits exponent := by
  have hzeros : ∀ n : Nat, '\n' ∉ List.replicate n '0' := fun n hmem =>
    absurd (List.eq_of_mem_replicate hmem) (by decide)
  unfold positional
  simp only
  split
  · simp [h]
  · split
    · have hsuffix : '\n' ∉ layout.wholeSuffix.toList := by decide
      simp only [List.mem_append, not_or]
      exact ⟨⟨h, hzeros _⟩, hsuffix⟩
    · simp only [List.mem_append, List.mem_cons, not_or]
      exact ⟨fun hmem => h (List.mem_of_mem_take hmem), by decide,
        fun hmem => h (List.mem_of_mem_drop hmem)⟩

lemma not_mem_scientific {digits : List Char} (h : '\n' ∉ digits) (exponent : Int) :
    '\n' ∉ scientific layout digits exponent := by
  have hmark : '\n' ∉ layout.exponentMark.toList := by decide
  have hsign : '\n' ≠ if exponent < 0 then '-' else '+' := by split <;> decide
  unfold scientific
  simp only [List.mem_append, List.mem_cons, List.mem_replicate, not_or]
  refine ⟨⟨?mantissa, hmark⟩, hsign, ?zeros, not_mem_toDigits _⟩
  case mantissa =>
    split
    · exact h
    · exact h
    · simpa using h
  case zeros =>
    rintro ⟨-, heq⟩
    exact absurd heq (by decide)

lemma isOneLine_double (x : Double) : (ofString x.toText).IsOneLine := by
  cases x with
  | nan => decide
  | infinity negative => cases negative <;> decide
  | finite negative significand exponent =>
    refine isOneLine_ofChars ?_
    rw [toText, String.toList_ofList, List.mem_append, not_or]
    refine ⟨by split <;> decide, ?_⟩
    have hdigits := fun n => not_mem_trimZeros (not_mem_toDigits n)
    unfold magnitudeText
    simp only
    -- zero, and numbers with and without an exponent, have forms of their own
    split
    · decide
    · split
      · exact not_mem_positional (hdigits _) _
      · exact not_mem_scientific (hdigits _) _

/-! ## Quotations -/

lemma not_mem_hexDigits (width n : Nat) : '\n' ∉ hexDigits width n := by
  have hdigits : ∀ k < 16, Nat.digitChar k ≠ '\n' := by decide
  induction width generalizing n with
  | zero => exact List.not_mem_nil
  | succ width ih =>
    rw [hexDigits, List.mem_append, List.mem_singleton, not_or]
    exact ⟨ih (n / 16), (hdigits _ (Nat.mod_lt n (by decide))).symm⟩

lemma not_mem_codeEscape (n : Nat) : '\n' ∉ codeEscape n := by
  unfold codeEscape
  split
  · simpa using not_mem_hexDigits 2 n
  · split <;> simpa using not_mem_hexDigits _ n

/-- A line feed has an escape of its own, whatever else is done with other characters. -/
lemma not_mem_escape {mark c : Char} {other : List Char} (hmark : mark ≠ '\n')
    (hother : c ≠ '\n' → '\n' ∉ other) :
    '\n' ∉ (if c == mark || c == '\\' then ['\\', c]
      else if c == '\t' then ['\\', 't']
      else if c == '\n' then ['\\', 'n']
      else if c == '\r' then ['\\', 'r']
      else other) := by
  by_cases hc : c = '\n'
  · subst hc
    have hne : ('\n' == mark || '\n' == '\\') = false := by simp [Ne.symm hmark]
    rw [hne]
    show '\n' ∉ ['\\', 'n']
    decide
  · have hself : '\n' ∉ ['\\', c] := by simp [Ne.symm hc]
    split
    · exact hself
    · split
      · decide
      · rw [if_neg (by simpa using hc)]
        split
        · decide
        · exact hother hc

lemma not_mem_escapePoint {mark : Char} (hmark : mark ≠ '\n') (p : Point) :
    '\n' ∉ escapePoint mark p := by
  cases p with
  | char c =>
    refine not_mem_escape hmark fun hc => ?_
    split
    · simp [Ne.symm hc]
    · exact not_mem_codeEscape _
  | half unit => exact not_mem_codeEscape _

lemma not_mem_escapeByte {mark : Char} (hmark : mark ≠ '\n') (b : UInt8) :
    '\n' ∉ escapeByte mark b := by
  refine not_mem_escape hmark fun hc => ?_
  split
  · simp [Ne.symm hc]
  · simpa using not_mem_hexDigits 2 b.toNat

lemma quoteMark_ne (points : List Point) : quoteMark points ≠ '\n' := by
  unfold quoteMark
  split <;> decide

lemma not_mem_quoted {α : Type} {mark : Char} (hmark : mark ≠ '\n') {escape : α → List Char}
    (h : ∀ a, '\n' ∉ escape a) (items : List α) :
    '\n' ∉ mark :: (items.flatMap escape ++ [mark]) := by
  simp only [List.mem_cons, List.mem_append, List.mem_flatMap, List.not_mem_nil, or_false, not_or]
  exact ⟨hmark.symm, fun ⟨a, _, hmem⟩ => h a hmem, hmark.symm⟩

lemma isOneLine_quote (t : Text) : t.quote.IsOneLine :=
  isOneLine_ofChars (not_mem_quoted (quoteMark_ne _) (not_mem_escapePoint (quoteMark_ne _)) _)

lemma isOneLine_quoteBytes (bytes : List UInt8) : (quoteBytes bytes).IsOneLine := by
  refine isOneLine_ofChars (List.not_mem_cons_of_ne_of_not_mem (by decide) ?_)
  exact not_mem_quoted (quoteMark_ne _) (not_mem_escapeByte (quoteMark_ne _)) _

end Text

open Text

/-! ## What plans mention -/

/-- What is mentioned stands in one line: the display form of an entry or an object, and names that
are written as they are. -/
def Mention.IsOneLine : Mention → Prop
  | .entry name => name.display.IsOneLine
  | .object display => display.IsOneLine
  | u => ∀ t ∈ u.bareNames, t.IsOneLine

instance : DecidablePred Mention.IsOneLine
  | .entry name => inferInstanceAs (Decidable name.display.IsOneLine)
  | .object display => inferInstanceAs (Decidable display.IsOneLine)
  | .block starts => inferInstanceAs (Decidable (∀ t ∈ (Mention.block starts).bareNames, _))
  | .path parts => inferInstanceAs (Decidable (∀ t ∈ (Mention.path parts).bareNames, _))
  | .method name => inferInstanceAs (Decidable (∀ t ∈ (Mention.method name).bareNames, _))
  | .field name => inferInstanceAs (Decidable (∀ t ∈ (Mention.field name).bareNames, _))
  | .keywords names k => inferInstanceAs (Decidable (∀ t ∈ (Mention.keywords names k).bareNames, _))

/-- What the plan mentions stands in one line. -/
def Plan.IsOneLine (plan : Plan) : Prop :=
  ∀ u ∈ plan.mentions, u.IsOneLine

instance : DecidablePred Plan.IsOneLine :=
  fun plan => inferInstanceAs (Decidable (∀ u ∈ plan.mentions, u.IsOneLine))

lemma isOneLine_listText {ts : List Text} (h : ∀ t ∈ ts, t.IsOneLine) : (listText ts).IsOneLine :=
  (Lacks.append (by decide) (.intercalate (by decide) h)).append (by decide)

lemma isOneLine_braceText {ts : List Text} (h : ∀ t ∈ ts, t.IsOneLine) :
    (braceText ts).IsOneLine :=
  (Lacks.append (by decide) (.intercalate (by decide) h)).append (by decide)

lemma isOneLine_tupleText {ts : List Text} (h : ∀ t ∈ ts, t.IsOneLine) :
    (tupleText ts).IsOneLine := by
  unfold tupleText
  split
  · rename_i t
    exact (Lacks.append (by decide) (h t List.mem_cons_self)).append (by decide)
  · exact (Lacks.append (by decide) (.intercalate (by decide) h)).append (by decide)

namespace Factory

/-! ## Expressions and lines -/

lemma Local.isOneLine_text (l : Local) : l.text.IsOneLine := by
  rw [Local.text_eq]
  refine isOneLine_ofChars ?_
  rw [List.mem_append, not_or]
  exact ⟨by cases l.role <;> decide, not_mem_toDigits _⟩

lemma isOneLine_constantText {v : Value} (h : v.isLiteral = true)
    (hmentions : ∀ u ∈ v.mentions, u.IsOneLine) : (constantText v).IsOneLine := by
  cases v with
  | derived form literal =>
    have hdisplay : (Value.derived form literal).display.IsOneLine :=
      hmentions (.object _) (by simp [Value.mentions])
    cases literal with
    | float x =>
      rw [constantText]
      split
      · exact hdisplay
      · exact (Lacks.append (by decide) (isOneLine_quote _)).append (by decide)
    | int | str | bytes => exact hdisplay
  | float x =>
    rw [constantText]
    split
    · exact isOneLine_double x
    · exact (Lacks.append (by decide) (isOneLine_quote _)).append (by decide)
  | null => decide
  | bool b => cases b <;> decide
  | int i => exact isOneLine_int i
  | str s => exact isOneLine_quote s
  | bytes b => exact isOneLine_quoteBytes b
  | _ => exact absurd h Bool.false_ne_true

lemma entryTexts_eq_map (es : List (Expr × Expr)) :
    entryTexts es = es.map fun e => (e.1.text ++ ": " ++ e.2.text : Text) := by
  induction es with
  | nil => rw [entryTexts, List.map_nil]
  | cons e rest ih => rw [entryTexts, ih, List.map_cons]

lemma blockLines_append (level : Nat) (body body' : List Statement) :
    blockLines level (body ++ body') = blockLines level body ++ blockLines level body' := by
  induction body with
  | nil => rw [blockLines, List.nil_append, List.nil_append]
  | cons s rest ih => rw [List.cons_append, blockLines, blockLines, ih, List.append_assoc]

lemma isOneLine_indent (level : Nat) : (indent level).IsOneLine :=
  isOneLine_ofChars fun hmem => absurd (List.eq_of_mem_replicate hmem) (by decide)

/-- The lines of the block have no line feed within them, at any level. -/
def BlockIsOneLine (body : List Statement) : Prop :=
  ∀ level, ∀ t ∈ blockLines level body, t.IsOneLine

lemma BlockIsOneLine.append {body body' : List Statement} (h : BlockIsOneLine body)
    (h' : BlockIsOneLine body') : BlockIsOneLine (body ++ body') := by
  intro level
  rw [blockLines_append, List.forall_mem_append]
  exact ⟨h level, h' level⟩

lemma BlockIsOneLine.cons {s : Statement} {rest : List Statement}
    (hs : ∀ level, ∀ t ∈ s.lines level, t.IsOneLine) (h : BlockIsOneLine rest) :
    BlockIsOneLine (s :: rest) := by
  intro level
  rw [blockLines, List.forall_mem_append]
  exact ⟨hs level, h level⟩

lemma blockIsOneLine_nil : BlockIsOneLine [] := by
  intro level
  rw [blockLines]
  exact List.forall_mem_nil _

/-! ## Drafting -/

/-- What the step drafts has `Q`, and modules stand in one line if those before it do. -/
def Yields {α : Type} (x : Drafting α) (Q : α → Prop) : Prop :=
  ∀ d a d', Drafts x d a d' → (∀ n ∈ d.modules, n.IsOneLine) → Q a ∧ ∀ n ∈ d'.modules, n.IsOneLine

namespace Yields

variable {α β : Type} {x : Drafting α} {f : α → Drafting β} {Q : α → Prop} {R : β → Prop}

protected lemma pure {a : α} (h : Q a) : Yields (pure a) Q := by
  intro d b d' hd hmodules
  obtain ⟨rfl, rfl⟩ := hd.pure_inv
  exact ⟨h, hmodules⟩

protected lemma bind (hx : Yields x Q) (hf : ∀ a, Q a → Yields (f a) R) :
    Yields (x >>= f) R := by
  intro d b d' hd hmodules
  obtain ⟨a, d₁, ha, hd⟩ := hd.bind_inv
  obtain ⟨hQ, hmodules₁⟩ := hx d a d₁ ha hmodules
  exact hf a hQ d₁ b d' hd hmodules₁

lemma refuse (cause : Mismatch) : Yields (refuse cause) Q :=
  fun _ _ _ hd _ => hd.refuse_inv.elim

lemma ifWritten (v : Value) (h : Yields x Q) : Yields (ifWritten v x) Q :=
  fun d a d' hd hmodules => h d a d' hd.ifWritten_inv.2 hmodules

lemma lift {run : Run α} (h : run.Ensures Q fun _ => True) : Yields (StateT.lift run) Q := by
  rintro d a d' ⟨entry, world, world', hd⟩ hmodules
  obtain ⟨rfl, ha⟩ := LeadsTo.lift_inv hd
  have hQ := h entry world
  rw [ha] at hQ
  exact ⟨hQ, hmodules⟩

lemma fresh (role : Role) : Yields (fresh role) fun _ => True := by
  intro d l d' hd hmodules
  obtain ⟨-, rfl⟩ := hd.fresh_inv
  exact ⟨trivial, hmodules⟩

lemma useModule {name : Text} (h : name.IsOneLine) : Yields (useModule name) fun _ => True := by
  rintro d u d' ⟨entry, world, world', hd⟩ hmodules
  obtain ⟨rfl, -⟩ := LeadsTo.useModule_inv hd
  refine ⟨trivial, fun n hn => ?_⟩
  rcases mem_withModule.1 hn with hn | rfl
  · exact hmodules n hn
  · exact h

end Yields

/-- What is drafted for an expression stands in one line each. -/
def DraftedIsOneLine (drafted : Drafted) : Prop :=
  BlockIsOneLine drafted.1 ∧ drafted.2.text.IsOneLine

lemma draftAll_yields {xs : List (Drafting Drafted)} (h : ∀ x ∈ xs, Yields x DraftedIsOneLine) :
    Yields (draftAll xs) fun drafted =>
      BlockIsOneLine drafted.1 ∧ ∀ e ∈ drafted.2, e.text.IsOneLine := by
  induction xs with
  | nil => exact .pure ⟨blockIsOneLine_nil, List.forall_mem_nil _⟩
  | cons x rest ih =>
    obtain ⟨hx, hrest⟩ := List.forall_mem_cons.1 h
    refine hx.bind fun head ⟨hbefore, he⟩ => (ih hrest).bind fun tail ⟨hmore, hes⟩ => .pure ?_
    exact ⟨hbefore.append hmore, List.forall_mem_cons.2 ⟨he, hes⟩⟩

lemma draftNamed_yields {xs : List (Text × Drafting Drafted)}
    (h : ∀ x ∈ xs, x.1.IsOneLine ∧ Yields x.2 DraftedIsOneLine) :
    Yields (draftNamed xs) fun drafted =>
      BlockIsOneLine drafted.1 ∧ ∀ e ∈ drafted.2, e.1.IsOneLine ∧ e.2.text.IsOneLine := by
  rw [draftNamed_eq]
  refine (draftAll_yields (List.forall_mem_map.2 fun x hx => (h x hx).2)).bind
    fun drafted ⟨hbefore, hes⟩ => .pure ⟨hbefore, fun e he => ?_⟩
  obtain ⟨hname, hexpr⟩ := List.of_mem_zip he
  obtain ⟨x, hx, hfst⟩ := List.mem_map.1 hname
  exact ⟨hfst ▸ (h x hx).1, hes e.2 hexpr⟩

/-- What is passed by name has one of the names. -/
lemma fst_mem_of_mem_splitArguments {α : Type} {arguments : List α} {keywords : List Text}
    {e : Text × α} (h : e ∈ (splitArguments arguments keywords).2) : e.1 ∈ keywords := by
  unfold splitArguments at h
  split at h
  · exact absurd h List.not_mem_nil
  · obtain ⟨pair, hpair, heq⟩ := List.mem_map.1 (Entries.mem_ofList h).1
    rw [← heq]
    exact (List.of_mem_zip hpair).1

lemma draftCall_yields {callee : Callee} {arguments : List (Drafting Drafted)}
    {keywords : List Text} (hcallee : callee.text.IsOneLine)
    (harguments : ∀ x ∈ arguments, Yields x DraftedIsOneLine)
    (hkeywords : ∀ name ∈ keywords, name.IsOneLine) :
    Yields (draftCall callee arguments keywords) fun drafted =>
      BlockIsOneLine drafted.1 ∧ drafted.2.text.IsOneLine := by
  have hgiven : ∀ x ∈ (splitArguments arguments keywords).1, x ∈ arguments := fun x hx =>
    mem_of_mem_splitArguments (.inl hx)
  have hpositional := draftAll_yields fun x hx => harguments x (hgiven x hx)
  have hnamed := draftNamed_yields fun e he =>
    ⟨hkeywords e.1 (fst_mem_of_mem_splitArguments he),
      harguments e.2 (mem_of_mem_splitArguments (.inr ⟨e, he, rfl⟩))⟩
  refine hpositional.bind fun before ⟨hbefore, hes⟩ => ?_
  refine hnamed.bind fun more ⟨hmore, hks⟩ => .pure ⟨hbefore.append hmore, ?_⟩
  have hall : ∀ t ∈ before.2.map Expr.text ++
      more.2.map fun e => (e.1 ++ "=" ++ e.2.text : Text), t.IsOneLine := by
    rw [List.forall_mem_append, List.forall_mem_map, List.forall_mem_map]
    refine ⟨hes, fun e he => ?_⟩
    exact ((hks e he).1.append (by decide)).append (hks e he).2
  exact ((hcallee.append (by decide)).append (.intercalate (by decide) hall)).append (by decide)

/-- A path stands in one line if its parts do. -/
lemma isOneLine_of_pathParts {path : Text} (h : ∀ part ∈ Catalog.pathParts path, part.IsOneLine) :
    path.IsOneLine := by
  rw [← Catalog.intercalate_pathParts path]
  exact .intercalate (by decide) h

section Plans

variable {split : Splitter}

lemma draftClass_yields (hsplit : Splitter.IsCutting split) {className : Text}
    (h : (Mention.path (classPath className)).IsOneLine) :
    Yields (draftClass split className) fun callee => callee.text.IsOneLine := by
  refine (Yields.lift (hsplit className)).bind fun ⟨moduleName, qualifiedName⟩ hcut => ?_
  by_cases hempty : moduleName.isEmpty = true
  · simp only [hempty, if_true]
    split
    · rename_i hmem
      have hbuiltin : ∀ name ∈ builtinNames, name.IsOneLine := by decide
      exact .pure (hbuiltin className (List.contains_iff_mem.1 hmem))
    · exact .refuse _
  · simp only [hempty]
    have hpath : Catalog.pathParts moduleName ++ Catalog.pathParts qualifiedName =
        classPath className := hcut.resolve_left hempty
    -- a path with a module has at least two parts, and all of them are written
    have hlength : (classPath className).length ≠ 1 := by
      have hm := List.length_pos_iff.2 (Catalog.pathParts_ne_nil moduleName)
      have hq := List.length_pos_iff.2 (Catalog.pathParts_ne_nil qualifiedName)
      rw [← hpath, List.length_append]
      omega
    have hparts : ∀ part ∈ classPath className, part.IsOneLine := by
      intro part hpart
      refine h part ?_
      rw [Mention.bareNames, if_neg hlength]
      exact hpart
    rw [← hpath, List.forall_mem_append] at hparts
    have hmodule := isOneLine_of_pathParts hparts.1
    refine (Yields.useModule hmodule).bind fun _ _ => .pure ?_
    exact (hmodule.append (by decide)).append (isOneLine_of_pathParts hparts.2)

lemma inBlock_yields {steps : Local → Drafting (List Statement)}
    (h : ∀ target, Yields (steps target) BlockIsOneLine) :
    Yields (inBlock steps) BlockIsOneLine := by
  refine (Yields.fresh _).bind fun target _ => (h target).bind fun statements hs => .pure ?_
  refine hs.append (.cons (fun level => ?_) blockIsOneLine_nil)
  rw [Statement.lines, List.forall_mem_singleton]
  exact ((isOneLine_indent level).append (by decide)).append target.isOneLine_text

lemma lines_define {builder : Local} {body : List Statement} (h : BlockIsOneLine body)
    (level : Nat) : ∀ t ∈ (Statement.define builder body).lines level, t.IsOneLine := by
  rw [Statement.lines, List.forall_mem_cons]
  refine ⟨?_, h (level + 1)⟩
  exact (((isOneLine_indent level).append (by decide)).append builder.isOneLine_text).append
    (by decide)

lemma isOneLine_assignText {target : Local} {field : Text} {value : Expr}
    (h : value.text.IsOneLine) : (assignText target field value).IsOneLine := by
  unfold assignText
  -- a field that is an identifier is assigned to, any other is set by its quoted name
  split
  · have hfield := isOneLine_of_isIdentifier ‹_›
    exact (((target.isOneLine_text.append (by decide)).append hfield).append (by decide)).append h
  · refine Lacks.append (.append (.append (.append (.append (.append ?_ ?_) ?_) ?_) ?_) h) ?_
    · decide
    · exact target.isOneLine_text
    · decide
    · exact isOneLine_quote field
    · decide
    · decide

lemma lines_proxy (target builder : Local) (className : Text) (level : Nat) :
    ∀ t ∈ (Statement.proxy target className builder).lines level, t.IsOneLine := by
  rw [Statement.lines, List.forall_mem_singleton]
  refine Lacks.append (.append (.append (.append (.append (.append ?_ ?_) ?_) ?_) ?_) ?_) ?_
  · exact isOneLine_indent level
  · exact target.isOneLine_text
  · decide
  · exact isOneLine_quote className
  · decide
  · exact builder.isOneLine_text
  · decide

lemma yields_literal {v : Value} (h : v.isLiteral = true)
    (hmentions : ∀ u ∈ v.mentions, u.IsOneLine) :
    Yields (draftValue split v) DraftedIsOneLine := by
  rw [draftValue_literal h]
  refine .ifWritten v (.pure ⟨blockIsOneLine_nil, ?_⟩)
  rw [Expr.text]
  exact isOneLine_constantText h hmentions

lemma yields_refused {v : Value} (h : draftValue split v = refuseConstant v) :
    Yields (draftValue split v) DraftedIsOneLine := by
  rw [h]
  exact .ifWritten v (.refuse _)

lemma yields_items {xs : List (Drafting Drafted)} {collect : List Expr → Expr}
    (h : ∀ x ∈ xs, Yields x DraftedIsOneLine)
    (hcollect : ∀ es : List Expr, (∀ e ∈ es, e.text.IsOneLine) → (collect es).text.IsOneLine) :
    Yields (draftAll xs >>= fun drafted => pure (drafted.1, collect drafted.2))
      DraftedIsOneLine :=
  (draftAll_yields h).bind fun _ ⟨hbefore, hes⟩ => .pure ⟨hbefore, hcollect _ hes⟩

mutual

/-- What is drafted for a value stands in one line each, if what it mentions does. -/
lemma draftValue_yields (hsplit : Splitter.IsCutting split) :
    ∀ v : Value, (∀ u ∈ v.mentions, u.IsOneLine) → Yields (draftValue split v) DraftedIsOneLine
  | .null, h | .bool _, h | .int _, h | .float _, h | .str _, h | .bytes _, h | .derived .., h =>
    yields_literal rfl h
  | .reference entry, h => by
    rw [draftValue]
    have hentry : entry.display.IsOneLine := h (.entry entry) (by simp [Value.mentions])
    refine .ifWritten entry (.pure ⟨blockIsOneLine_nil, ?_⟩)
    rw [Expr.text]
    exact (Lacks.append (by decide) hentry).append (by decide)
  | .nested _ plan, h => by
    rw [Value.mentions, List.forall_mem_cons] at h
    rw [draftValue]
    refine (Yields.fresh _).bind fun builder _ => ?_
    refine (inBlock_yields fun target => draftSteps_yields hsplit plan target h.2).bind
      fun body hbody => .pure ⟨.cons (lines_define hbody) blockIsOneLine_nil, ?_⟩
    rw [Expr.text]
    exact builder.isOneLine_text.append (by decide)
  | .list items, h => by
    rw [Value.mentions] at h
    rw [draftValue]
    refine yields_items (draftItems_yields hsplit items h) fun es hes => ?_
    rw [Expr.text, exprTexts_eq_map]
    exact isOneLine_listText (List.forall_mem_map.2 hes)
  | .tuple items, h => by
    rw [Value.mentions] at h
    rw [draftValue]
    refine yields_items (draftItems_yields hsplit items h) fun es hes => ?_
    rw [Expr.text, exprTexts_eq_map]
    exact isOneLine_tupleText (List.forall_mem_map.2 hes)
  | .dict entries, h => by
    rw [Value.mentions] at h
    rw [draftValue]
    refine (draftEntries_yields hsplit entries h).bind fun drafted ⟨hbefore, hes⟩ =>
      .pure ⟨hbefore, ?_⟩
    rw [Expr.text, entryTexts_eq_map]
    refine isOneLine_braceText (List.forall_mem_map.2 fun e he => ?_)
    exact ((hes e he).1.append (by decide)).append (hes e he).2
  | .useDefault, _ | .definition _, _ | .set _, _ | .foreign _, _ | .enumMember .., _ =>
    yields_refused (by rw [draftValue])

lemma draftItems_yields (hsplit : Splitter.IsCutting split) :
    ∀ items : List Value, (∀ u ∈ itemMentions items, u.IsOneLine) →
      ∀ x ∈ draftItems split items, Yields x DraftedIsOneLine
  | [], _ => by
    rw [draftItems]
    exact List.forall_mem_nil _
  | item :: rest, h => by
    rw [itemMentions, List.forall_mem_append] at h
    rw [draftItems, List.forall_mem_cons]
    exact ⟨draftValue_yields hsplit item h.1, draftItems_yields hsplit rest h.2⟩

lemma draftEntries_yields (hsplit : Splitter.IsCutting split) :
    ∀ entries : List (Value × Value), (∀ u ∈ entryMentions entries, u.IsOneLine) →
      Yields (draftEntries split entries) fun drafted =>
        BlockIsOneLine drafted.1 ∧ ∀ e ∈ drafted.2, e.1.text.IsOneLine ∧ e.2.text.IsOneLine
  | [], _ => by
    rw [draftEntries]
    exact .pure ⟨blockIsOneLine_nil, List.forall_mem_nil _⟩
  | (key, item) :: rest, h => by
    rw [entryMentions, List.forall_mem_append, List.forall_mem_append] at h
    rw [draftEntries]
    refine (draftValue_yields hsplit key h.1.1).bind fun first ⟨hbefore, hk⟩ => ?_
    refine (draftValue_yields hsplit item h.1.2).bind fun second ⟨hmiddle, hv⟩ => ?_
    refine (draftEntries_yields hsplit rest h.2).bind fun tail ⟨hmore, hes⟩ => .pure ?_
    exact ⟨(hbefore.append hmiddle).append hmore, List.forall_mem_cons.2 ⟨⟨hk, hv⟩, hes⟩⟩

/-- What is drafted for instructions stands in one line each, if what they mention does. -/
lemma draftSteps_yields (hsplit : Splitter.IsCutting split) :
    ∀ (plan : List Instruction) (target : Local), (∀ u ∈ stepMentions plan, u.IsOneLine) →
      Yields (draftSteps split target plan) BlockIsOneLine
  | [], _, _ => by
    rw [draftSteps]
    exact .pure blockIsOneLine_nil
  | .construct className arguments keywords :: rest, target, h => by
    rw [stepMentions, List.forall_mem_append, List.forall_mem_cons, List.forall_mem_cons] at h
    obtain ⟨harguments, hpath, hkeywords, hrest⟩ := h
    have hitems := draftItems_yields hsplit arguments harguments
    rw [draftSteps]
    refine (draftClass_yields hsplit hpath).bind fun callee hcallee => ?_
    refine (draftCall_yields hcallee hitems hkeywords).bind fun drafted ⟨hbefore, hcall⟩ => ?_
    refine (draftSteps_yields hsplit rest target hrest).bind fun more hmore => .pure ?_
    refine hbefore.append (.cons (fun level => ?_) hmore)
    rw [Statement.lines, List.forall_mem_singleton]
    have htarget := (isOneLine_indent level).append target.isOneLine_text
    exact (htarget.append (by decide)).append hcall
  | .assign field value :: rest, target, h => by
    rw [stepMentions, List.forall_mem_append, List.forall_mem_cons] at h
    obtain ⟨hvalue, -, hrest⟩ := h
    rw [draftSteps]
    refine (draftValue_yields hsplit value hvalue).bind fun drafted ⟨hbefore, he⟩ => ?_
    refine (draftSteps_yields hsplit rest target hrest).bind fun more hmore => .pure ?_
    refine hbefore.append (.cons (fun level => ?_) hmore)
    rw [Statement.lines, List.forall_mem_singleton]
    exact (isOneLine_indent level).append (isOneLine_assignText he)
  | .invoke method arguments keywords :: rest, target, h => by
    rw [stepMentions, List.forall_mem_append, List.forall_mem_cons, List.forall_mem_cons] at h
    obtain ⟨harguments, hmethod, hkeywords, hrest⟩ := h
    have hcallee : (Callee.method target method).text.IsOneLine :=
      (target.isOneLine_text.append (by decide)).append (hmethod method List.mem_cons_self)
    have hitems := draftItems_yields hsplit arguments harguments
    rw [draftSteps]
    refine (draftCall_yields hcallee hitems hkeywords).bind fun drafted ⟨hbefore, hcall⟩ => ?_
    refine (draftSteps_yields hsplit rest target hrest).bind fun more hmore => .pure ?_
    refine hbefore.append (.cons (fun level => ?_) hmore)
    rw [Statement.lines, List.forall_mem_singleton]
    exact (isOneLine_indent level).append hcall
  | .placeholder className initializer :: rest, target, h => by
    rw [stepMentions, List.forall_mem_cons, List.forall_mem_append] at h
    obtain ⟨-, hinitializer, hrest⟩ := h
    have hinner := inBlock_yields fun inner =>
      draftSteps_yields hsplit initializer inner hinitializer
    rw [draftSteps]
    -- the builder of the object is a function of its own, and the placeholder only names it
    refine (Yields.fresh _).bind fun builder _ => ?_
    refine hinner.bind fun body hbody => ?_
    refine (draftSteps_yields hsplit rest target hrest).bind fun more hmore => .pure ?_
    exact .cons (lines_define hbody) (.cons (lines_proxy target builder className) hmore)
  | .stray value :: _, _, _ => by
    rw [draftSteps]
    exact .ifWritten value (.refuse _)

end

end Plans

/-! ## Factories -/

section Factories

variable {split : Splitter} {name : Text} {plan : Plan} {entry : Option Value} {world : World}
  {f : Factory}

/-- Only under an identifier is a factory made. -/
lemma isIdentifier_of_ofPlan (h : (ofPlan split name plan entry world).1 = .ok f) :
    Text.isIdentifier name = true := by
  by_contra hid
  rw [ofPlan, if_pos (by simp [hid])] at h
  have hfail : Except.error (Failure.mismatch (.factoryName name)) = Except.ok f := h
  exact absurd hfail (by simp)

/-- The lines of a factory have no line feed within them, if what the plan mentions has none. -/
theorem ofPlan_isOneLine (hsplit : Splitter.IsCutting split)
    (h : (ofPlan split name plan entry world).1 = .ok f) (hplan : plan.IsOneLine) :
    ∀ t ∈ f.lines, t.IsOneLine := by
  obtain ⟨hname, draft, hd, himports⟩ := ofPlan_inv h
  have hsteps := (List.forall_mem_cons.1 hplan).2
  obtain ⟨hbody, hmodules⟩ := inBlock_yields
    (fun target => draftSteps_yields hsplit plan target hsteps) _ _ _ hd (List.forall_mem_nil _)
  have hid := isIdentifier_of_ofPlan h
  rw [lines, List.forall_mem_append, List.forall_mem_cons, List.forall_mem_map, himports]
  refine ⟨⟨?_, fun n hn => ?_⟩, hbody 1⟩
  · have hf : f.name.IsOneLine := hname ▸ isOneLine_of_isIdentifier hid
    exact (Lacks.append (by decide) hf).append (by decide)
  · exact ((isOneLine_indent 1).append (by decide)).append (hmodules n hn)

end Factories

end Factory

end Blueprint
