/-
# Reading a literal

The tokens of a literal are read from left to right, with the brackets that are open as a stack of
frames.  A frame holds what has been read within its brackets: the items of a tuple or a list, or
the entries of a dictionary, perhaps with the key of one more.  A value in round brackets stands for
itself, unless there is a comma.  The entries of a dictionary are put one after the other, and keys
have to be such as can be.

What a text denotes does not depend on what is around it: `Denotes t v` says that, wherever a value
may stand, the tokens of the text are read as the value.  There is one lemma for each form of a
literal, so nothing has to be known of the texts of the parts but what they denote.
-/
import Blueprint.Proofs.Literals.Quotations
import Blueprint.Proofs.Rendering
import Blueprint.Value.Display
import Blueprint.Value.Equal

namespace Blueprint

namespace Literal

/-! ## The reader -/

/-- Brackets that are open, with what has been read within them. -/
inductive Frame where
  /-- Round brackets. -/
  | tuple (items : List Value)
  /-- Square brackets. -/
  | list (items : List Value)
  /-- Curly brackets. -/
  | dict (entries : List (Value × Value))
  /-- Curly brackets, with the key of an entry that is not complete. -/
  | entry (entries : List (Value × Value)) (key : Value)

namespace Frame

/-- The frame of brackets that have just been opened. -/
def opened : Bracket → Frame
  | .round => tuple []
  | .square => list []
  | .curly => dict []

/-- The frame with one more value. -/
def take? : Frame → Value → Option Frame
  | tuple items, v => some (tuple (items ++ [v]))
  | list items, v => some (list (items ++ [v]))
  | entry entries key, v => some (dict (entries ++ [(key, v)]))
  | dict _, _ => none

/-- The value of a frame whose brackets are closed. -/
def close? : Frame → Bracket → Option Value
  | tuple items, .round => some (.tuple items)
  | list items, .square => some (.list items)
  | dict entries, .curly => some (Value.dictOf entries)
  | _, _ => none

/-- The value of a frame whose brackets are closed after a value.  A value on its own in round
brackets stands for itself. -/
def enclose? (frame : Frame) (v : Value) (b : Bracket) : Option Value :=
  match frame, b with
  | tuple [], .round => some v
  | frame, b => (frame.take? v).bind fun frame => frame.close? b

end Frame

/-- The state of the reader. -/
inductive Parse where
  /-- A value may start. -/
  | awaiting (frames : List Frame)
  /-- There was a minus sign, so a numeral has to follow. -/
  | negating (frames : List Frame)
  /-- A value has just ended. -/
  | holding (frames : List Frame) (v : Value)

namespace Parse

/-- Reads one token. -/
def step : Parse → Token → Option Parse
  | awaiting frames, .atom v => some (holding frames v)
  | awaiting frames, .numeral n => some (holding frames (.int n))
  | awaiting frames, .minus => some (negating frames)
  | awaiting frames, .opening b => some (awaiting (.opened b :: frames))
  | awaiting (frame :: frames), .closing b => (frame.close? b).map (holding frames)
  | negating frames, .numeral n => some (holding frames (.int (-n)))
  | holding (frame :: frames) v, .comma =>
    (frame.take? v).map fun frame => awaiting (frame :: frames)
  | holding (.dict entries :: frames) v, .colon =>
    if v.unhashable?.isNone then some (awaiting (.entry entries v :: frames)) else none
  | holding (frame :: frames) v, .closing b => (frame.enclose? v b).map (holding frames)
  | _, _ => none

/-- Reads tokens. -/
def run (p : Parse) (ts : List Token) : Option Parse :=
  ts.foldlM step p

/-- What has been read, if the literal is complete. -/
def result? : Parse → Option Value
  | holding [] v => some v
  | _ => none

lemma run_cons {p p' : Parse} {token : Token} (h : p.step token = some p') (ts : List Token) :
    p.run (token :: ts) = p'.run ts := by
  rw [run, List.foldlM_cons, h]
  rfl

lemma run_append {p p' : Parse} {ts : List Token} (h : p.run ts = some p') (ts' : List Token) :
    p.run (ts ++ ts') = p'.run ts' := by
  rw [run] at h
  rw [run, List.foldlM_append, h]
  rfl

end Parse

/-- Reads a literal: the value that a text denotes. -/
def read (t : Text) : Option Value := do
  let p ← Parse.run (.awaiting []) (← tokens? t)
  p.result?

/-! ## What texts denote -/

/-- Wherever a value may stand, the text is read as the value. -/
def Denotes (t : Text) (v : Value) : Prop :=
  ∃ ts, Scanned t ts ∧ ∀ frames, Parse.run (.awaiting frames) ts = some (.holding frames v)

/-- Within brackets whose frame has the shape, the text is read as what comes next in it, up to a
value that completes it. -/
def Lists {α : Type} (shape : List α → Frame) (t : Text) (xs : List α) : Prop :=
  ∃ ts, Scanned t ts ∧ ∀ frames before, ∃ frame v,
    Parse.run (.awaiting (shape before :: frames)) ts = some (.holding (frame :: frames) v) ∧
      frame.take? v = some (shape (before ++ xs))

variable {t t' : Text} {v : Value}

/-- What a text denotes is what is read. -/
theorem Denotes.read_eq (h : Denotes t v) : read t = some v := by
  obtain ⟨ts, hscan, hrun⟩ := h
  rw [read, hscan.tokens?_eq, Option.bind_eq_bind, Option.bind_some, hrun]
  rfl

example : read "[(-1,), (True), 'it\\'s', ]" =
    some (.list [.tuple [.int (-1)], .bool true, .str "it's"]) := by
  rfl

lemma denotes_atom (h : Scanned t [.atom v]) : Denotes t v :=
  ⟨_, h, fun _ => rfl⟩

lemma denotes_null : Denotes (Value.display .null) .null :=
  denotes_atom scanned_null

lemma denotes_bool (b : Bool) : Denotes (Value.bool b).display (.bool b) := by
  cases b with
  | true => exact denotes_atom scanned_true
  | false => exact denotes_atom scanned_false

lemma denotes_str (s : Text) : Denotes (Value.str s).display (.str s) :=
  denotes_atom (flushed_quote s).scanned

lemma denotes_bytes (b : List UInt8) : Denotes (Value.bytes b).display (.bytes b) :=
  denotes_atom (flushed_quoteBytes b).scanned

/-- A whole number is its digits, after a minus sign if it is negative. -/
lemma denotes_int {i : Int} (h : (Value.int i).IsShort) :
    Denotes (Value.int i).display (.int i) := by
  have hdigits : ∀ n : Nat, Text.ofString (toString n) = Text.ofChars (Nat.toDigits 10 n) := by
    intro n
    rw [Nat.toString_eq_ofList_toDigits, Text.ofString, String.toList_ofList]
  rw [Value.display]
  cases i with
  | ofNat n =>
    have hscan : Scanned (Text.ofChars (Nat.toDigits 10 n)) [.numeral n] := scanned_toDigits h
    exact ⟨_, hdigits n ▸ hscan, fun _ => rfl⟩
  | negSucc n =>
    have hminus : Delimits '-' .minus := delimits_of_mark rfl
    have hscan := hminus.flushed.append_scanned (scanned_toDigits h)
    have htext : Text.ofString (toString (Int.negSucc n)) =
        Text.ofChars ['-'] ++ Text.ofChars (Nat.toDigits 10 (n + 1)) := by
      rw [← hdigits]
      show Text.ofChars ("-" ++ toString (n + 1)).toList = _
      rw [String.toList_append]
      exact congrArg Text.mk List.map_append
    exact ⟨_, htext ▸ hscan, fun _ => rfl⟩

/-! ## Brackets -/

section Brackets

variable {α : Type} {shape : List α → Frame} {xs ys : List α} {b : Bracket} {left right : Char}

lemma Denotes.lists_tuple (h : Denotes t v) : Lists Frame.tuple t [v] := by
  obtain ⟨ts, hscan, hrun⟩ := h
  exact ⟨ts, hscan, fun frames before => ⟨_, _, hrun _, rfl⟩⟩

lemma Denotes.lists_list (h : Denotes t v) : Lists Frame.list t [v] := by
  obtain ⟨ts, hscan, hrun⟩ := h
  exact ⟨ts, hscan, fun frames before => ⟨_, _, hrun _, rfl⟩⟩

/-- A key, a colon and a value are one entry. -/
lemma Denotes.lists_dict {key : Value} (hkey : Denotes t key) (hvalue : Denotes t' v)
    (hhashable : key.unhashable? = none) : Lists Frame.dict (t ++ ": " ++ t') [(key, v)] := by
  obtain ⟨ts, hscan, hrun⟩ := hkey
  obtain ⟨ts', hscan', hrun'⟩ := hvalue
  refine ⟨_, hscan.separated hscan' (c := ':') rfl, fun frames before => ?_⟩
  have hcolon : Parse.step (.holding (.dict before :: frames) key) .colon =
      some (.awaiting (.entry before key :: frames)) := by
    rw [Parse.step, hhashable]
    rfl
  refine ⟨.entry before key, v, ?_, rfl⟩
  rw [Parse.run_append (hrun _), Parse.run_cons hcolon, hrun']

/-- With a comma between them, the parts are listed one after the other. -/
lemma Lists.comma (h : Lists shape t xs) (h' : Lists shape t' ys) :
    Lists shape (t ++ ", " ++ t') (xs ++ ys) := by
  obtain ⟨ts, hscan, hrun⟩ := h
  obtain ⟨ts', hscan', hrun'⟩ := h'
  refine ⟨_, hscan.separated hscan' (c := ',') rfl, fun frames before => ?_⟩
  -- the second part starts in the frame that the first one has completed
  obtain ⟨frame, v, hfirst, htake⟩ := hrun frames before
  obtain ⟨frame', v', hrest, htake'⟩ := hrun' frames (before ++ xs)
  have hcomma : Parse.step (.holding (frame :: frames) v) .comma =
      some (.awaiting (shape (before ++ xs) :: frames)) := by
    rw [Parse.step, htake]
    rfl
  refine ⟨frame', v', ?_, by rw [htake', List.append_assoc]⟩
  rw [Parse.run_append hfirst, Parse.run_cons hcomma, hrest]

lemma Lists.intercalate {x : α} {texts : List Text}
    (h : List.Forall₂ (fun t x => Lists shape t [x]) (t :: texts) (x :: xs)) :
    Lists shape (Text.intercalate ", " (t :: texts)) (x :: xs) := by
  induction texts generalizing t x xs with
  | nil =>
    obtain ⟨hx, hnil⟩ := List.forall₂_cons.1 h
    cases hnil
    exact hx
  | cons t' texts ih =>
    obtain ⟨hx, hrest⟩ := List.forall₂_cons.1 h
    cases xs with
    | nil => exact nomatch hrest
    | cons y ys => exact hx.comma (ih hrest)

/-- What is listed between brackets denotes what the frame is closed to. -/
lemma Lists.denotes (h : Lists shape t xs) (hopen : Frame.opened b = shape [])
    (hleft : markToken? left = some (.opening b)) (hright : markToken? right = some (.closing b))
    (hclose : ∀ frame : Frame, ∀ w, frame.take? w = some (shape xs) →
      frame.enclose? w b = some v) :
    Denotes (Text.ofChars [left] ++ t ++ Text.ofChars [right]) v := by
  obtain ⟨ts, hscan, hrun⟩ := h
  refine ⟨[.opening b] ++ ts ++ [.closing b], ?_, fun frames => ?_⟩
  · have hinner := (delimits_of_mark hleft).flushed.append_scanned hscan
    exact (hinner.delimited (delimits_of_mark hright)).scanned
  · obtain ⟨frame, w, hrun, htake⟩ := hrun frames []
    have hclosed : Parse.step (.holding (frame :: frames) w) (.closing b) =
        some (.holding frames v) := by
      rw [Parse.step, hclose frame w htake]
      rfl
    rw [List.singleton_append, List.cons_append, Parse.run_cons rfl, hopen,
      Parse.run_append hrun, Parse.run_cons hclosed]
    rfl

/-- Brackets with nothing between them. -/
lemma denotes_empty (hleft : markToken? left = some (.opening b))
    (hright : markToken? right = some (.closing b))
    (hclose : (Frame.opened b).close? b = some v) :
    Denotes (Text.ofChars [left] ++ Text.ofChars [right]) v := by
  refine ⟨[.opening b] ++ [.closing b], ?_, fun frames => ?_⟩
  · exact ((delimits_of_mark hleft).flushed.append (delimits_of_mark hright).flushed).scanned
  · have hclosed : Parse.step (.awaiting (.opened b :: frames)) (.closing b) =
        some (.holding frames v) := by
      rw [Parse.step, hclose]
      rfl
    rw [List.singleton_append, Parse.run_cons rfl, Parse.run_cons hclosed]
    rfl

end Brackets

/-! ## Lists, tuples and dictionaries -/

variable {texts : List Text}

lemma Denotes.list {items : List Value} (h : List.Forall₂ Denotes texts items) :
    Denotes (listText texts) (.list items) := by
  cases h with
  | nil => exact denotes_empty (b := .square) rfl rfl rfl
  | cons hfirst hrest =>
    have hitems := List.Forall₂.cons hfirst hrest
    have hlists := Lists.intercalate (hitems.imp fun _ _ h => h.lists_list)
    refine hlists.denotes (b := .square) rfl rfl rfl fun frame w htake => ?_
    rw [Frame.enclose?, htake]
    · rfl
    · simp

/-- A comma after the only item of a tuple tells it from a value in brackets. -/
lemma Denotes.singleton (h : Denotes t v) :
    Denotes (Text.ofChars ['('] ++ t ++ Text.ofChars [',', ')']) (.tuple [v]) := by
  obtain ⟨ts, hscan, hrun⟩ := h
  have hright : Text.ofChars [',', ')'] = Text.ofChars [','] ++ Text.ofChars [')'] := rfl
  refine ⟨[.opening .round] ++ ts ++ [.comma] ++ [.closing .round], ?_, fun frames => ?_⟩
  · have hleft : Delimits '(' (.opening .round) := delimits_of_mark rfl
    have hcomma : Delimits ',' .comma := delimits_of_mark rfl
    have hclosing : Delimits ')' (.closing .round) := delimits_of_mark rfl
    rw [hright, ← Text.append_assoc]
    exact (((hleft.flushed.append_scanned hscan).delimited hcomma).append hclosing.flushed).scanned
  · rw [List.append_assoc _ ts, List.append_assoc, List.singleton_append, Parse.run_cons rfl,
      List.append_assoc, Parse.run_append (hrun _)]
    rfl

lemma Denotes.tuple {items : List Value} (h : List.Forall₂ Denotes texts items) :
    Denotes (tupleText texts) (.tuple items) := by
  match h with
  | .nil => exact denotes_empty (b := .round) rfl rfl rfl
  | .cons hfirst .nil => exact hfirst.singleton
  | .cons hfirst (.cons hsecond hrest) =>
    have hitems := List.Forall₂.cons hfirst (.cons hsecond hrest)
    have hlists := Lists.intercalate (hitems.imp fun _ _ h => h.lists_tuple)
    refine hlists.denotes (b := .round) rfl rfl rfl fun frame w htake => ?_
    -- a frame without items would have only one now, and there are two
    have hne : frame ≠ .tuple [] := by
      rintro rfl
      simp [Frame.take?] at htake
    rw [Frame.enclose?, htake]
    · rfl
    · simpa using hne

/-- The keys of the entries have to be told apart: the reader puts them one after the other. -/
lemma Denotes.dict {entries : List (Value × Value)}
    (h : List.Forall₂ (fun t e => Lists Frame.dict t [e]) texts entries)
    (hapart : entries.Pairwise fun e e' => e.1.equal false e'.1 = false) :
    Denotes (braceText texts) (.dict entries) := by
  have hentries : Value.dictOf entries = .dict entries :=
    congrArg Value.dict (Entries.ofList_of_apart hapart)
  cases h with
  | nil => exact denotes_empty (b := .curly) rfl rfl rfl
  | cons hfirst hrest =>
    have hlists := Lists.intercalate (.cons hfirst hrest)
    refine hlists.denotes (b := .curly) rfl rfl rfl fun frame w htake => ?_
    rw [Frame.enclose?, htake]
    · exact congrArg some hentries
    · simp

end Literal

end Blueprint
