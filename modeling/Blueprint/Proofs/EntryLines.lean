/-
# Which entry a mistake is reported for

A mistake belongs to the entry that is worked on when it is found.  Some messages start with that
entry, and to the others a line is added that names it.  The line is left out where the message has
the name between double quotes already, in whatever role; there the report does not tell the entry
(`EntryMistake.identifies_iff`).  Which names these are can be told from the cause: if it repeats
nothing that has double quotes or line feeds, it is at most one word, such as the key of a payload
or the parameter of a callable (`Mistake.masks_iff`).

Every mistake of reading or compiling is reported for one of the entries that were worked on
(`mistakes_reported`).  Its name is a text, but for a nested entry whose class is none; then the
message starts with the entry.
-/
import Blueprint.Definition.Builder
import Blueprint.Proofs.CatalogFaults
import Blueprint.Proofs.Knowledge
import Blueprint.Proofs.ReadingFaults

namespace Blueprint

open Run

/-! ## Words between quotes -/

namespace Text

/-- A text between double quotes. -/
def inQuotes (t : Text) : Text :=
  "\"" ++ t ++ "\""

lemma literal_append (a b : List Char) :
    ofString (String.ofList a) ++ ofString (String.ofList b) =
      ofString (String.ofList (a ++ b)) := by
  simp only [ofString, String.toList_ofList, ofChars, List.map_append]
  rfl

/-- A literal with a word between double quotes, taken apart. -/
lemma literal_inQuotes (a w b : List Char) :
    ofString (String.ofList a) ++ (ofString (String.ofList w)).inQuotes ++
        ofString (String.ofList b) = ofString (String.ofList (a ++ '"' :: (w ++ '"' :: b))) := by
  have hmark : ("\"" : Text) = ofString (String.ofList ['"']) := rfl
  rw [inQuotes, hmark]
  simp only [literal_append, List.append_assoc]
  rfl

lemma eq_of_partsAt_eq_singleton {mark : Point} {l part : List Point}
    (h : partsAt mark l = [part]) : l = part := by
  induction l generalizing part with
  | nil => exact List.head_eq_of_cons_eq h
  | cons p rest ih =>
    rw [partsAt] at h
    -- a mark at the front would make a second part
    split at h
    · exact absurd (List.cons.inj h).2 (partsAt_ne_nil rest)
    · split at h
      · rename_i hrest
        exact absurd hrest (partsAt_ne_nil rest)
      · rename_i first more hrest
        obtain ⟨rfl, rfl⟩ := List.cons.inj h
        rw [ih hrest]

lemma not_occursIn_of_lacks {t e : Text} (h : t.Lacks '"') : ¬ occursIn e.inQuotes t = true := by
  rw [occursIn_iff]
  intro hpart
  exact h (hpart.subset (List.mem_cons_self (a := Point.char '"')))

/-- Points before the first mark are told by it. -/
lemma eq_of_append_mark {mark : Char} {a b : Text} {x y : List Point} (ha : a.Lacks mark)
    (hb : b.Lacks mark) (h : a.points ++ .char mark :: x = b.points ++ .char mark :: y) :
    a = b := by
  have hparts := congrArg (partsAt (Point.char mark)) h
  rw [partsAt_append, partsAt_append, partsAt_of_not_mem ha, partsAt_of_not_mem hb] at hparts
  exact congrArg Text.mk (List.cons.inj hparts).1

lemma points_inQuotes (a w b : Text) : (a ++ w.inQuotes ++ b).points =
    a.points ++ .char '"' :: (w.points ++ .char '"' :: b.points) := by
  simp [inQuotes, ofString, ofChars]

lemma inQuotes_lacks {w : Text} (h : w.Lacks '\n') : w.inQuotes.Lacks '\n' :=
  ((lacks_literal (by decide)).append h).append (lacks_literal (by decide))

/-- Where one word is between double quotes, and there are no others, no other word is. -/
lemma occursIn_inQuotes_iff {a w b e : Text} (ha : a.Lacks '"') (hw : w.Lacks '"')
    (hb : b.Lacks '"') : occursIn e.inQuotes (a ++ w.inQuotes ++ b) = true ↔ w = e := by
  rw [occursIn_iff]
  constructor
  · rintro ⟨front, back, h⟩
    have hparts := congrArg (partsAt (Point.char '"'))
      ((points_inQuotes ⟨front⟩ e ⟨back⟩).symm.trans (h.trans (points_inQuotes a w b)))
    simp only [partsAt_append, partsAt_of_not_mem ha, partsAt_of_not_mem hw,
      partsAt_of_not_mem hb] at hparts
    -- three parts on the one side, so no part on the other is cut again
    have hpos : ∀ l, 0 < (partsAt (Point.char '"') l).length :=
      fun l => List.length_pos_iff.2 (partsAt_ne_nil l)
    have hlength := congrArg List.length hparts
    have hfront := hpos front
    have hback := hpos back
    have he := hpos e.points
    simp only [List.length_append, List.length_singleton] at hlength
    obtain ⟨-, hrest⟩ := List.append_inj hparts (by rw [List.length_singleton]; omega)
    obtain ⟨hword, -⟩ := List.append_inj hrest (by rw [List.length_singleton]; omega)
    exact congrArg Text.mk (eq_of_partsAt_eq_singleton hword).symm
  · rintro rfl
    exact ⟨a.points, b.points, rfl⟩

end Text

/-! ## Messages that say their entry -/

/-- The text starts with the entry, or ends with a line that names it. -/
def Text.Identifies (t e : Text) : Prop :=
  (∃ rest, t = entryText (.str e) ++ rest) ∨ ∃ front : Text, t = front ++ "\nEntry: " ++ e

lemma entryText_str (e : Text) : entryText (.str e) = "Entry " ++ e.inQuotes := by
  have hopen : ("Entry " : Text) ++ "\"" = "Entry \"" := Text.literal_append _ _
  simp only [entryText, Text.inQuotes, ← hopen, Text.append_assoc]
  rfl

/-- The message has the name of the entry between double quotes, and does not say that it is the
entry. -/
def Mistake.Masks (cause : Mistake) (e : Text) : Prop :=
  Text.occursIn e.inQuotes cause.message = true ∧ ¬ cause.message.Identifies e

/-- The report of a mistake tells the entry, unless the message masks it. -/
theorem EntryMistake.identifies_iff {m : EntryMistake} {e : Text} (h : m.entry = some (.str e)) :
    m.message.Identifies e ↔ ¬ m.cause.Masks e := by
  have hmessage : m.message = if Text.occursIn e.inQuotes m.cause.message then m.cause.message
      else m.cause.message ++ "\nEntry: " ++ e := by
    rw [message, h]
    rfl
  rw [hmessage, Mistake.Masks]
  split
  · rename_i hoccurs
    simp [hoccurs]
  · rename_i hoccurs
    exact iff_of_true (.inr ⟨_, rfl⟩) fun hmasks => hoccurs hmasks.1

namespace Mistake

/-- The entry that a message starts with. -/
def opening? : Mistake → Option Value
  | missingClass name | notInstantiable name | entryShape name | unknownKeys name _
  | classShape name | lazyShape name => some name
  | _ => none

/-- The word that a message has between double quotes, besides the entry. -/
def quotedWord? : Mistake → Option Text
  | unreadableDefault parameter _ | uncompilableDefault parameter _ _ => some parameter
  | fieldsShape => some "fields"
  | methodsShape => some "methods"
  | methodShape => some "name"
  | bytesType _ | bytesText _ => some "$bytes"
  | nestedShape => some "$create"
  | _ => none

/-- What a message repeats of a definition, a class or another message. -/
def repeated : Mistake → List Text
  | unboundParameter parameter callable | unreadableDefault parameter callable =>
    [parameter, callable]
  | uncompilableDefault parameter callable cause => [parameter, callable, cause.message]
  | unknownClass path => [path.text]
  | unreadableConstructor className detail => [className, detail]
  | unreadableSignature method className detail => [method, className, detail]
  | argumentKey label key => [label, key]
  | argumentsShape label => [label]
  | bytesType typeName => [typeName]
  | bytesText fault => [fault.message]
  | fileShape path => [path]
  | stated text => [text]
  | _ => []

/-- What the message repeats has neither double quotes nor line feeds. -/
def IsPlain (cause : Mistake) : Prop :=
  ∀ t ∈ cause.repeated, t.Lacks '"' ∧ t.Lacks '\n'

variable {cause : Mistake} {e : Text}

lemma message_of_opening {name : Value} (h : cause.opening? = some name) :
    ∃ rest, cause.message = entryText name ++ rest := by
  cases cause <;> cases h
  case missingClass | notInstantiable | classShape | lazyShape | entryShape => exact ⟨_, rfl⟩
  case unknownKeys keys =>
    exact ⟨" has unknown key(s): " ++ Text.intercalate ", " keys ++ ".", by
      simp only [message, Text.append_assoc]⟩

/-- A message that starts with the entry does not mask it. -/
lemma not_masks_of_opening (h : cause.opening? = some (.str e)) : ¬ cause.Masks e :=
  fun hmasks => hmasks.2 (.inl (message_of_opening h))

section Wording

variable {mark : Char} (hmark : mark = '"' ∨ mark = '\n')

include hmark

lemma lacks_wording {cs : List Char} (hquote : '"' ∉ cs) (hfeed : '\n' ∉ cs) :
    (Text.ofString (String.ofList cs)).Lacks mark := by
  rcases hmark with rfl | rfl
  · exact Text.lacks_literal hquote
  · exact Text.lacks_literal hfeed

/-- A message without entry and word has a mark only if it repeats it. -/
lemma message_lacks (hopening : cause.opening? = none) (hword : cause.quotedWord? = none)
    (hplain : ∀ t ∈ cause.repeated, t.Lacks mark) : cause.message.Lacks mark := by
  -- the messages that open with an entry or quote a word are ruled out by the hypotheses
  cases cause with
  | unboundParameter | unknownClass | unreadableConstructor | unreadableSignature | argumentKey
  | argumentsShape | fileShape | stated =>
    simp only [message, callableText, Text.lacks_append]
    and_intros
    all_goals first
      | exact lacks_wording hmark (by decide) (by decide)
      | exact hplain _ (by simp [repeated])
  | missingClass | notInstantiable | entryShape | unknownKeys | classShape | lazyShape =>
    exact absurd hopening (by simp [opening?])
  | _ => exact absurd hword (by simp [quotedWord?])

end Wording

/-- The message is of three parts, of which the second is the word between double quotes; a mark
that is repeated nowhere is in none of them. -/
def Quotes (cause : Mistake) (a w b : Text) : Prop :=
  cause.message = a ++ w.inQuotes ++ b ∧
    ∀ mark, mark = '"' ∨ mark = '\n' → (∀ t ∈ cause.repeated, t.Lacks mark) →
      a.Lacks mark ∧ w.Lacks mark ∧ b.Lacks mark

/-- A message of fixed wording. -/
lemma quotes_literal {a w b : List Char}
    (hmessage : cause.message = Text.ofString (String.ofList (a ++ '"' :: (w ++ '"' :: b))))
    (hquote : '"' ∉ a ++ (w ++ b)) (hfeed : '\n' ∉ a ++ (w ++ b)) :
    cause.Quotes (Text.ofString (String.ofList a)) (Text.ofString (String.ofList w))
      (Text.ofString (String.ofList b)) := by
  simp only [List.mem_append, not_or] at hquote hfeed
  refine ⟨by rw [hmessage, Text.literal_inQuotes], fun mark hmark _ => ⟨?_, ?_, ?_⟩⟩
  · exact lacks_wording hmark hquote.1 hfeed.1
  · exact lacks_wording hmark hquote.2.1 hfeed.2.1
  · exact lacks_wording hmark hquote.2.2 hfeed.2.2

/-- Every message with a word is of three parts. -/
lemma exists_quotes {w : Text} (hword : cause.quotedWord? = some w) :
    ∃ a b : Text, a ≠ "Entry " ∧ cause.Quotes a w b := by
  have hclose : ("\"" : Text) ++ " of " = "\" of " := Text.literal_append _ _
  cases cause with
  | fieldsShape =>
    obtain rfl := Option.some.inj hword
    exact ⟨"", " must be an object.", by decide, quotes_literal rfl (by decide) (by decide)⟩
  | methodsShape =>
    obtain rfl := Option.some.inj hword
    exact ⟨"", " must be a list.", by decide, quotes_literal rfl (by decide) (by decide)⟩
  | methodShape =>
    obtain rfl := Option.some.inj hword
    exact ⟨"Each method binding needs a ", " string.", by decide,
      quotes_literal rfl (by decide) (by decide)⟩
  | nestedShape =>
    obtain rfl := Option.some.inj hword
    exact ⟨"", " must wrap an entry object.", by decide,
      quotes_literal rfl (by decide) (by decide)⟩
  | unreadableDefault parameter callable =>
    obtain rfl := Option.some.inj hword
    have hopen : ("The parameter " : Text) ++ "\"" = "The parameter \"" :=
      Text.literal_append _ _
    refine ⟨"The parameter ", " of " ++ callableText callable ++
      " has no value defined or guessable. It has a default value, but the default value can't" ++
      " be read through introspection because it belongs to a builtin routine or is" ++
      " produced by a default factory.", by decide, ?_, fun mark hmark hplain => ?_⟩
    · simp only [message, Text.inQuotes, ← hopen, ← hclose, Text.append_assoc]
    · have hcallable := hplain callable (by simp [repeated])
      simp only [callableText, Text.lacks_append]
      refine ⟨lacks_wording hmark (by decide) (by decide), hplain _ (by simp [repeated]), ?_⟩
      refine ⟨⟨⟨⟨?_, hcallable, ?_⟩, ?_⟩, ?_⟩, ?_⟩ <;>
        exact lacks_wording hmark (by decide) (by decide)
  | uncompilableDefault parameter callable cause =>
    obtain rfl := Option.some.inj hword
    have hopen : ("The default value of parameter " : Text) ++ "\"" =
      "The default value of parameter \"" := Text.literal_append _ _
    refine ⟨"The default value of parameter ", " of " ++ callableText callable ++
      " cannot be compiled: " ++ cause.message, by decide, ?_, fun mark hmark hplain => ?_⟩
    · simp only [message, Text.inQuotes, ← hopen, ← hclose, Text.append_assoc]
    · have hcallable := hplain callable (by simp [repeated])
      have hcause := hplain cause.message (by simp [repeated])
      simp only [callableText, Text.lacks_append]
      refine ⟨lacks_wording hmark (by decide) (by decide), hplain _ (by simp [repeated]), ?_⟩
      refine ⟨⟨⟨?_, hcallable, ?_⟩, ?_⟩, hcause⟩ <;>
        exact lacks_wording hmark (by decide) (by decide)
  | bytesType typeName =>
    obtain rfl := Option.some.inj hword
    refine ⟨"",
      " must hold base64 text: argument should be a bytes-like object or ASCII string, " ++
        ("not '" ++ typeName ++ "'"), by decide, ?_, fun mark hmark hplain => ?_⟩
    · simp only [message, ← Text.append_assoc]
      rw [Text.literal_inQuotes]
      rfl
    · have htype := hplain typeName (by simp [repeated])
      simp only [Text.lacks_append]
      refine ⟨?_, ?_, ?_, ⟨?_, htype⟩, ?_⟩ <;> exact lacks_wording hmark (by decide) (by decide)
  | bytesText fault =>
    obtain rfl := Option.some.inj hword
    refine ⟨"", " must hold base64 text: " ++ fault.message, by decide, ?_,
      fun mark hmark hplain => ?_⟩
    · rw [message, ← Text.append_assoc, Text.literal_inQuotes]
      rfl
    · have hfault := hplain fault.message (by simp [repeated])
      simp only [Text.lacks_append]
      refine ⟨?_, ?_, ?_, hfault⟩ <;> exact lacks_wording hmark (by decide) (by decide)
  -- the other messages have no word
  | _ => exact absurd hword (by simp [quotedWord?])

/-- A message with a word starts with no entry, and ends with no line that names one. -/
lemma not_identifies_of_quotes {a w b : Text} (h : cause.Quotes a w b) (ha : a ≠ "Entry ")
    (hplain : cause.IsPlain) : ¬ cause.message.Identifies e := by
  obtain ⟨hmessage, hlacks⟩ := h
  obtain ⟨haquote, -, -⟩ := hlacks '"' (.inl rfl) fun t ht => (hplain t ht).1
  obtain ⟨hafeed, hwfeed, hbfeed⟩ := hlacks '\n' (.inr rfl) fun t ht => (hplain t ht).2
  rintro (⟨rest, hstart⟩ | ⟨front, hend⟩)
  · have hpoints := congrArg Text.points (hmessage.symm.trans hstart)
    rw [entryText_str, Text.points_inQuotes, Text.points_inQuotes] at hpoints
    exact ha (Text.eq_of_append_mark haquote (Text.lacks_literal (by decide)) hpoints)
  · have hfeed : (front ++ "\nEntry: " ++ e).Lacks '\n' := by
      rw [← hend, hmessage]
      exact (hafeed.append (Text.inQuotes_lacks hwfeed)).append hbfeed
    exact absurd (Text.lacks_append.1 (Text.lacks_append.1 hfeed).1).2 (by decide)

/-- If what it repeats has no marks of its own, a message masks the word that it quotes. -/
lemma masks_iff (hopening : cause.opening? = none) (hplain : cause.IsPlain) :
    cause.Masks e ↔ cause.quotedWord? = some e := by
  rcases hword : cause.quotedWord? with _ | w
  · refine iff_of_false (fun hmasks => ?_) nofun
    have hlacks := message_lacks (.inl rfl) hopening hword fun t ht => (hplain t ht).1
    exact Text.not_occursIn_of_lacks hlacks hmasks.1
  · obtain ⟨a, b, ha, hquotes⟩ := exists_quotes hword
    obtain ⟨haquote, hwquote, hbquote⟩ := hquotes.2 '"' (.inl rfl) fun t ht => (hplain t ht).1
    rw [Masks, hquotes.1, Text.occursIn_inQuotes_iff haquote hwquote hbquote, ← hquotes.1,
      and_iff_left (not_identifies_of_quotes hquotes ha hplain), Option.some.injEq]

end Mistake

/-! ## Reports -/

/-- What the report of a mistake says about the entry of a name. -/
structure EntryMistake.IsReportFor (m : EntryMistake) (name : Value) : Prop where
  /-- It bears the name, if there is one. -/
  entry : m.entry = name.entry?
  /-- If the message starts with an entry, it is this one. -/
  opening : ∀ v, m.cause.opening? = some v → v = name
  /-- A name that is a text is told, unless the message masks it. -/
  identifies : ∀ e, name = .str e → (m.message.Identifies e ↔ ¬ m.cause.Masks e)
  /-- A message that starts with no entry, and repeats no marks, masks the word it quotes only. -/
  plain : ∀ e, name = .str e → m.cause.opening? = none → m.cause.IsPlain →
    (m.message.Identifies e ↔ m.cause.quotedWord? ≠ some e)

lemma EntryMistake.isReportFor {name : Value} {cause : Mistake}
    (hopening : ∀ v, cause.opening? = some v → v = name) :
    IsReportFor ⟨cause, name.entry?⟩ name where
  entry := rfl
  opening := hopening
  identifies e he := by
    subst he
    exact identifies_iff rfl
  plain e he hnone hplain := by
    subst he
    rw [identifies_iff rfl, not_iff_not]
    exact Mistake.masks_iff hnone hplain

lemma HeadMistake.opening {name : Value} {cause : Mistake} (h : HeadMistake name cause) :
    cause.opening? = some name := by
  cases h <;> rfl

lemma PartMistake.opening {cause : Mistake} (h : PartMistake cause) : cause.opening? = none := by
  cases h <;> rfl

lemma AnswerMistake.opening {cause : Mistake} (h : AnswerMistake cause) :
    cause.opening? = none := by
  cases h <;> rfl

lemma OwnMistake.opening {name v : Value} {cause : Mistake} (h : OwnMistake name cause)
    (hv : cause.opening? = some v) : v = name := by
  cases h with
  | missingClass => exact (Option.some.inj hv).symm
  | notInstantiable => exact (Option.some.inj hv).symm
  | _ => exact absurd hv nofun

namespace Definition

/-- A mistake of reading is reported for the entry that is read or one that is nested in it. -/
lemma EntryFault.reported {name : Text} {json : Json} {m : EntryMistake}
    (h : EntryFault (.str name) json (.mistake m)) :
    ∃ v, (v = .str name ∨ ∃ members, json.Nests members ∧ v = nestedName members) ∧
      m.IsReportFor v ∧ ((∀ e, v ≠ .str e) → m.cause.opening? = some v) := by
  have hhead : ∀ {v cause}, HeadMistake v cause →
      (⟨cause, v.entry?⟩ : EntryMistake).IsReportFor v := fun h =>
    EntryMistake.isReportFor fun v' hv => Option.some.inj (hv.symm.trans h.opening)
  have hpart : ∀ {text : Text} {cause}, PartMistake cause →
      (⟨cause, some (.str text)⟩ : EntryMistake).IsReportFor (.str text) := fun h =>
    @EntryMistake.isReportFor (.str _) _ fun v' hv => absurd (hv.symm.trans h.opening) nofun
  cases h with
  | head h => exact ⟨_, .inl rfl, hhead h, fun _ => h.opening⟩
  | reading h =>
    cases h with
    | misread h => exact absurd h nofun
    | part h => exact ⟨_, .inl rfl, hpart h, fun hv => absurd rfl (hv name)⟩
    | nestedHead hnests h => exact ⟨_, .inr ⟨_, hnests, rfl⟩, hhead h, fun _ => h.opening⟩
    | nestedPart hnests hclass h =>
      exact ⟨_, .inr ⟨_, hnests, hclass.symm⟩, hpart h, fun hv => absurd rfl (hv _)⟩

end Definition

/-- What is known about classes is declared, or can be imported. -/
inductive Introspector.IsKnown : Introspector → Prop where
  | registry (registry : Registry) : IsKnown registry.introspector
  | catalog (descriptions : List Catalog.ModuleDescription) :
      IsKnown (Catalog.ofDescriptions descriptions).introspector

section Compilation

variable {types : Introspector} {d : Definition}

/-- Where an answer fails as a compilation does, it is of a mistake of the definition. -/
lemma Introspector.IsKnown.refuses_fault {failure : Failure} (hknown : types.IsKnown)
    (h : types.Refuses d failure) (hcompilation : failure.isCompilation = true) :
    ∃ cause, AnswerMistake cause ∧ failure = .mistake ⟨cause, d.name.entry?⟩ := by
  cases hknown with
  | registry registry =>
    rcases Registry.refuses_fault h with hmistake | ⟨typeName, rfl⟩
    · exact hmistake
    · exact absurd hcompilation nofun
  | catalog descriptions =>
    -- of what a catalog may refuse with, only mistakes in its answers are failures of compiling
    cases Catalog.refuses_fault h with
    | answer _ hfault =>
      cases hfault with
      | lookUp h =>
        rcases Catalog.lookUpFault_ofDescriptions h with ⟨_, rfl⟩ | ⟨_, _, rfl⟩ | ⟨_, rfl⟩ <;>
          exact absurd hcompilation nofun
      | mistake hcause => exact ⟨_, hcause, rfl⟩
    | outOfReach _ => exact absurd hcompilation nofun
    | owner _ _ =>
      unfold Catalog.ownerFailure at hcompilation
      split at hcompilation <;> exact absurd hcompilation nofun

/-- A mistake of compiling is reported for a definition that the compilation comes to. -/
lemma Introspector.IsKnown.faults_reported {m : EntryMistake} (hknown : types.IsKnown)
    (h : types.CompileFaults d (.mistake m)) :
    ∃ e, types.Reaches (fun _ => True) (.definition d) e ∧ m.IsReportFor e.name := by
  cases h with
  | own he h => exact ⟨_, he, EntryMistake.isReportFor fun v hv => h.opening hv⟩
  | answer he h =>
    obtain ⟨cause, hcause, hm⟩ := hknown.refuses_fault h rfl
    obtain rfl := Failure.mistake.inj hm
    exact ⟨_, he, EntryMistake.isReportFor fun v hv => absurd (hv.symm.trans hcause.opening) nofun⟩

lemma Introspector.IsKnown.not_faults_mistakes {ms : List EntryMistake} (hknown : types.IsKnown) :
    ¬ types.CompileFaults d (.mistakes ms) := by
  intro h
  cases h with
  | answer he h =>
    obtain ⟨cause, -, hm⟩ := hknown.refuses_fault h rfl
    exact absurd hm nofun

end Compilation

section Reports

variable (name : Text) (json : Json) {types : Introspector} (hknown : types.IsKnown)
  (d : Definition) (ds : List Definition) (current : Option Value) (m : EntryMistake)

include hknown in
/-- A mistake of reading is reported for the entry that is read, or for one that is nested in it;
where the name of that is no text, the message starts with the entry.  A mistake of compiling, alone
or in a pass, is reported for a definition that the compilation comes to. -/
theorem mistakes_reported :
    (Fails current (.mistake m) (Definition.loadEntry (.str name) json) →
      ∃ v, (v = .str name ∨ ∃ members, json.Nests members ∧ v = Definition.nestedName members) ∧
        m.IsReportFor v ∧ ((∀ e, v ≠ .str e) → m.cause.opening? = some v)) ∧
    (Fails current (.mistake m) (compile types d) →
      ∃ e, types.Reaches (fun _ => True) (.definition d) e ∧ m.IsReportFor e.name) ∧
    ∀ ms, Fails current (.mistakes ms) (compileAll types ds) → m ∈ ms →
      ∃ d ∈ ds, ∃ e, types.Reaches (fun _ => True) (.definition d) e ∧ m.IsReportFor e.name := by
  refine ⟨fun h => (Definition.loadEntry_fault h).reported,
    fun h => hknown.faults_reported (compile_faults h), ?_⟩
  intro ms h hm
  generalize hfailure : Failure.mistakes ms = failure at h
  cases compileAll_faults h with
  | mistakes hms =>
    obtain rfl := Failure.mistakes.inj hfailure
    obtain ⟨d, hd, hfaults⟩ := hms m hm
    exact ⟨d, hd, hknown.faults_reported hfaults⟩
  | duplicate name => exact absurd hfailure nofun
  | unhashable hd hname => exact absurd hfailure nofun
  | definition hd hfaults hmistake =>
    subst hfailure
    exact absurd hfaults hknown.not_faults_mistakes

end Reports

/-- An entry that is named like one of its keys, with a number in place of its fields. -/
def numberForFields : Json :=
  .object [("class", .str "app.A"), ("fields", .int 1)]

/-- The message quotes the key, so that no line is added that names the entry, and its report does
not tell it.  That the class of the entry does not exist is told, alone and in a pass. -/
theorem numberForFields_report :
    (Fails none (.mistake ⟨.fieldsShape, some (.str "fields")⟩)
        (Definition.loadEntry (.str "fields") numberForFields) ∧
      ¬ (EntryMistake.message ⟨.fieldsShape, some (.str "fields")⟩).Identifies "fields") ∧
    (Fails none (.mistake ⟨.missingClass (.str "fields"), some (.str "fields")⟩)
        (compile (Registry.mk []).introspector (.create "app.A" (.str "fields"))) ∧
      Fails none (.mistakes [⟨.missingClass (.str "fields"), some (.str "fields")⟩])
        (compileAll (Registry.mk []).introspector [.create "app.A" (.str "fields")])) ∧
    (EntryMistake.message ⟨.missingClass (.str "fields"), some (.str "fields")⟩).Identifies
      "fields" := by
  have hload : Fails none (.mistake ⟨.fieldsShape, some (.str "fields")⟩)
      (Definition.loadEntry (.str "fields") numberForFields) := by
    have hknown : Definition.unknownKeys [("class", .str "app.A"), ("fields", .int 1)] = [] :=
      List.mergeSort_nil
    refine ⟨{}, ?_⟩
    rw [numberForFields, Definition.loadEntry, Definition.loadHead, hknown,
      Definition.loadConstructor_eq, Definition.loadFields_eq]
    rfl
  have hcompile : Fails none (.mistake ⟨.missingClass (.str "fields"), some (.str "fields")⟩)
      (compile (Registry.mk []).introspector (.create "app.A" (.str "fields"))) := ⟨{}, by rfl⟩
  have hpass : Fails none (.mistakes [⟨.missingClass (.str "fields"), some (.str "fields")⟩])
      (compileAll (Registry.mk []).introspector [.create "app.A" (.str "fields")]) := ⟨{}, by rfl⟩
  have hname : ∀ {v : Value}, some (.str "fields") = v.entry? → v = .str "fields" := by
    intro v h
    cases v with
    | null => exact absurd h (Option.some_ne_none _)
    | _ => exact (Option.some.inj h).symm
  refine ⟨⟨hload, ?_⟩, ⟨hcompile, hpass⟩, ?_⟩
  · obtain ⟨hloaded, -⟩ := mistakes_reported "fields" numberForFields (.registry ⟨[]⟩)
      (.create "app.A" (.str "fields")) [] none ⟨.fieldsShape, some (.str "fields")⟩
    obtain ⟨v, -, hreport, -⟩ := hloaded hload
    rw [hreport.plain _ (hname hreport.entry) rfl fun t ht => absurd ht List.not_mem_nil]
    exact fun h => h rfl
  · obtain ⟨-, -, hmany⟩ := mistakes_reported "fields" numberForFields (.registry ⟨[]⟩)
      (.create "app.A" (.str "fields")) [.create "app.A" (.str "fields")] none
      ⟨.missingClass (.str "fields"), some (.str "fields")⟩
    obtain ⟨d, -, e, -, hreport⟩ := hmany _ hpass (List.mem_singleton_self _)
    rw [hreport.identifies _ (hname hreport.entry)]
    exact Mistake.not_masks_of_opening rfl

end Blueprint
