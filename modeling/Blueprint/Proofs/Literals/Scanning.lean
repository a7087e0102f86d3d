/-
# The tokens of a literal

A literal of the generated language is scanned into tokens from left to right, character by
character: a token is as long as it can be, so a word or a numeral ends only with the character
that cannot be part of it.  Spaces and tabs may stand between tokens.

The forms that are scanned are the words for null and the truth values, decimal numerals without
leading zeros, texts and bytes between apostrophes or double quotes, and marks.  What else the
language knows, such as other bases, other prefixes, triple marks and comments, is no token here: a
text with it is not read at all, so whatever is read is read as the language has it.

A text that ends with a complete token is `Flushed` into its tokens.  One that ends with a word or
a numeral, which more characters could continue, is only `Scanned` into them: the mark that comes
next makes it complete (`Scanned.delimited`).
-/
import Blueprint.Json.Reader
import Blueprint.Value.Basic
import Mathlib.Tactic.Lemma

namespace Blueprint

namespace Literal

/-! ## Tokens -/

/-- A kind of brackets. -/
inductive Bracket where
  | round
  | square
  | curly
deriving DecidableEq, Repr

/-- A token of a literal. -/
inductive Token where
  /-- A word or a quotation: the value that it is of. -/
  | atom (v : Value)
  /-- A numeral. -/
  | numeral (n : Nat)
  /-- A minus sign. -/
  | minus
  /-- A comma. -/
  | comma
  /-- A colon. -/
  | colon
  /-- A bracket that opens. -/
  | opening (b : Bracket)
  /-- A bracket that closes. -/
  | closing (b : Bracket)

/-- The characters that quotations are opened and closed by. -/
def isMark (c : Char) : Bool :=
  c == '\'' || c == '"'

/-- What is known of a quotation that is not closed yet. -/
structure Quotation where
  /-- The mark that it was opened by, and that closes it. -/
  mark : Char
  /-- Whether it is of bytes. -/
  ofBytes : Bool
  /-- The codes of what it holds so far. -/
  codes : List Nat

/-- How much of an escape has been scanned. -/
inductive Escape where
  /-- There is none. -/
  | plain
  /-- Its backslash. -/
  | begun
  /-- Hexadecimal digits of this value, of which so many are to come after the next. -/
  | code (more value : Nat)
deriving DecidableEq

/-- What is being scanned. -/
inductive Mode where
  /-- Nothing: the last token is complete. -/
  | between
  /-- A word, with its letters so far. -/
  | word (letters : List Char)
  /-- A numeral, with its digits so far. -/
  | digits (digits : List Char)
  /-- The inside of a quotation. -/
  | quoted (q : Quotation) (escape : Escape)

/-- The tokens that are complete, and what is being scanned. -/
structure Scan where
  /-- The tokens, in order. -/
  done : List Token
  /-- What is being scanned. -/
  mode : Mode

namespace Quotation

/-- The token of a quotation that is closed. -/
def token (q : Quotation) : Token :=
  .atom (if q.ofBytes then .bytes (q.codes.map UInt8.ofNat) else .str ⟨q.codes.map Point.ofUnit⟩)

/-- The quotation with one more code. -/
def put (q : Quotation) (code : Nat) : Quotation :=
  { q with codes := q.codes ++ [code] }

/-- The characters that may stand for themselves: a quotation is of one line, and one of bytes has
only basic characters. -/
def admits (q : Quotation) (c : Char) : Bool :=
  c != '\n' && c != '\r' && c != '\x00' && (!q.ofBytes || decide (c.toNat < 0x80))

/-- The code that an escape by one letter is of. -/
def letterCode? : Char → Option Nat
  | '\\' => some 0x5c
  | '\'' => some 0x27
  | '"' => some 0x22
  | 'a' => some 0x07
  | 'b' => some 0x08
  | 't' => some 0x09
  | 'n' => some 0x0a
  | 'v' => some 0x0b
  | 'f' => some 0x0c
  | 'r' => some 0x0d
  | _ => none

/-- The escape by hexadecimal digits that a letter opens.  Bytes know only the one of two digits. -/
def codeEscape? (q : Quotation) : Char → Option Escape
  | 'x' => some (.code 1 0)
  | 'u' => if q.ofBytes then none else some (.code 3 0)
  | 'U' => if q.ofBytes then none else some (.code 7 0)
  | _ => none

/-- One character within a quotation. -/
def step (q : Quotation) : Escape → Char → Option (Quotation × Escape)
  | .plain, c =>
    if c == '\\' then some (q, .begun)
    else if q.admits c then some (q.put c.toNat, .plain)
    else none
  | .begun, c =>
    match letterCode? c with
    | some code => some (q.put code, .plain)
    | none => (q.codeEscape? c).map fun escape => (q, escape)
  | .code more value, c => do
    let digit ← Json.Reader.hexDigit? c
    let value := value * 16 + digit
    match more with
    | more + 1 => return (q, .code more value)
    | 0 => if value < 0x110000 then return (q.put value, .plain) else none

end Quotation

/-- The token of a word. -/
def wordToken? (letters : List Char) : Option Token :=
  if letters = ['N', 'o', 'n', 'e'] then some (.atom .null)
  else if letters = ['T', 'r', 'u', 'e'] then some (.atom (.bool true))
  else if letters = ['F', 'a', 'l', 's', 'e'] then some (.atom (.bool false))
  else none

/-- The token of a numeral.  It starts with a zero only if all of its digits are zeros, and it is
not too long. -/
def numeralToken? (digits : List Char) : Option Token :=
  if digits.head? = some '0' ∧ digits.any (· != '0') then none
  else if digits.length ≤ Json.Reader.digitLimit then some (.numeral (Nat.ofDigitChars 10 digits 0))
  else none

namespace Mode

/-- The tokens that are complete if nothing more comes. -/
def close? : Mode → Option (List Token)
  | between => some []
  | word letters => (wordToken? letters).map fun token => [token]
  | digits ds => (numeralToken? ds).map fun token => [token]
  | quoted _ _ => none

/-- Outside of quotations: the mode after a character that continues what is being scanned. -/
def extend? : Mode → Char → Option Mode
  | word letters, c =>
    if c.isAlphanum || c == '_' then some (word (letters ++ [c]))
    else if isMark c && (letters == ['b'] || letters == ['B']) then
      some (quoted ⟨c, true, []⟩ .plain)
    else none
  | digits ds, c => if c.isDigit then some (digits (ds ++ [c])) else none
  | _, _ => none

end Mode

/-- The token of a mark. -/
def markToken? : Char → Option Token
  | '-' => some .minus
  | ',' => some .comma
  | ':' => some .colon
  | '(' => some (.opening .round)
  | ')' => some (.closing .round)
  | '[' => some (.opening .square)
  | ']' => some (.closing .square)
  | '\x7b' => some (.opening .curly)
  | '\x7d' => some (.closing .curly)
  | _ => none

/-- What a character between two tokens is, or starts. -/
def start? (c : Char) : Option (List Token × Mode) :=
  -- a prefix of bytes starts like a word, and the mark after it tells
  if c.isDigit then some ([], .digits [c])
  else if c.isAlpha || c == '_' then some ([], .word [c])
  else if isMark c then some ([], .quoted ⟨c, false, []⟩ .plain)
  else if c == ' ' || c == '\t' then some ([], .between)
  else (markToken? c).map fun token => ([token], .between)

namespace Scan

/-- Scans one character. -/
def step (s : Scan) (c : Char) : Option Scan :=
  match s.mode with
  | .quoted q escape =>
    if escape = .plain ∧ c = q.mark then some ⟨s.done ++ [q.token], .between⟩
    else (q.step escape c).map fun (q, escape) => ⟨s.done, .quoted q escape⟩
  | mode =>
    match mode.extend? c with
    | some mode => some ⟨s.done, mode⟩
    | none => do
      let closed ← mode.close?
      let (opened, mode) ← start? c
      return ⟨s.done ++ closed ++ opened, mode⟩

/-- Scans characters. -/
def runChars (s : Scan) (cs : List Char) : Option Scan :=
  cs.foldlM step s

/-- Scans a text.  A point that is no character is in no literal. -/
def run (s : Scan) (t : Text) : Option Scan :=
  t.points.foldlM (fun s p => p.char?.bind s.step) s

lemma runChars_cons {s s' : Scan} {c : Char} (h : s.step c = some s') (cs : List Char) :
    s.runChars (c :: cs) = s'.runChars cs := by
  rw [runChars, List.foldlM_cons, h]
  rfl

lemma runChars_append {s s' : Scan} {cs : List Char} (h : s.runChars cs = some s')
    (cs' : List Char) : s.runChars (cs ++ cs') = s'.runChars cs' := by
  rw [runChars] at h
  rw [runChars, List.foldlM_append, h]
  rfl

lemma runChars_singleton (s : Scan) (c : Char) : s.runChars [c] = s.step c :=
  bind_pure (s.step c)

lemma run_append {s s' : Scan} {t : Text} (h : s.run t = some s') (t' : Text) :
    s.run (t ++ t') = s'.run t' := by
  rw [run] at h
  rw [run, Text.points_append, List.foldlM_append, h]
  rfl

lemma run_ofChars (s : Scan) (cs : List Char) : s.run (Text.ofChars cs) = s.runChars cs := by
  rw [run, Text.ofChars, List.foldlM_map]
  rfl

end Scan

/-- The tokens of a text. -/
def tokens? (t : Text) : Option (List Token) := do
  let s ← Scan.run ⟨[], .between⟩ t
  let closed ← s.mode.close?
  return s.done ++ closed

/-! ## Scanning part by part -/

/-- From between two tokens on, the text is scanned into the tokens, all of them complete. -/
def Flushed (t : Text) (ts : List Token) : Prop :=
  ∀ done, Scan.run ⟨done, .between⟩ t = some ⟨done ++ ts, .between⟩

/-- From between two tokens on, the text is scanned into the tokens, if nothing continues the last
of them. -/
def Scanned (t : Text) (ts : List Token) : Prop :=
  ∀ done, ∃ s closed, Scan.run ⟨done, .between⟩ t = some s ∧ s.mode.close? = some closed ∧
    s.done ++ closed = done ++ ts

/-- Whatever the character follows, it is a token of its own. -/
def Delimits (c : Char) (token : Token) : Prop :=
  (∀ mode : Mode, mode.extend? c = none) ∧ start? c = some ([token], .between)

variable {t t' : Text} {ts ts' : List Token}

lemma Flushed.append (h : Flushed t ts) (h' : Flushed t' ts') :
    Flushed (t ++ t') (ts ++ ts') := by
  intro done
  rw [Scan.run_append (h done), h', List.append_assoc]

lemma Flushed.scanned (h : Flushed t ts) : Scanned t ts :=
  fun done => ⟨_, [], h done, rfl, List.append_nil _⟩

lemma Flushed.append_scanned (h : Flushed t ts) (h' : Scanned t' ts') :
    Scanned (t ++ t') (ts ++ ts') := by
  intro done
  obtain ⟨s, closed, hrun, hclose, hdone⟩ := h' (done ++ ts)
  refine ⟨s, closed, ?_, hclose, by rw [hdone, List.append_assoc]⟩
  rw [Scan.run_append (h done), hrun]

/-- A delimiter makes the last token complete. -/
lemma Scanned.delimited (h : Scanned t ts) {c : Char} {token : Token} (hc : Delimits c token) :
    Flushed (t ++ Text.ofChars [c]) (ts ++ [token]) := by
  intro done
  obtain ⟨⟨d, mode⟩, closed, hrun, hclose, hdone⟩ := h done
  have hstep : Scan.step ⟨d, mode⟩ c = some ⟨d ++ closed ++ [token], .between⟩ := by
    cases mode with
    -- a quotation that is still open is no complete token
    | quoted q escape => exact absurd hclose (by simp [Mode.close?])
    | _ => simp only [Scan.step, hc.1, hc.2, hclose]; rfl
  rw [Scan.run_append hrun, Scan.run_ofChars, Scan.runChars_singleton, hstep, hdone,
    List.append_assoc]

/-- What is scanned is what the text as a whole is scanned into. -/
lemma Scanned.tokens?_eq (h : Scanned t ts) : tokens? t = some ts := by
  obtain ⟨s, closed, hrun, hclose, hdone⟩ := h []
  rw [tokens?, hrun, Option.bind_eq_bind, Option.bind_some, hclose]
  exact congrArg some hdone

/-- No mark is part of a longer token. -/
lemma delimits_of_mark {c : Char} {token : Token} (h : markToken? c = some token) :
    Delimits c token := by
  unfold markToken? at h
  split at h <;> simp only [Option.some.injEq, reduceCtorEq] at h
  all_goals
    subst h
    exact ⟨fun mode => by cases mode <;> rfl, rfl⟩

/-- Between two tokens a character is, or starts, what it is on its own. -/
lemma step_between {c : Char} {opened : List Token} {mode : Mode}
    (h : start? c = some (opened, mode)) (done : List Token) :
    Scan.step ⟨done, .between⟩ c = some ⟨done ++ opened, mode⟩ := by
  simp [Scan.step, Mode.extend?, Mode.close?, h]

lemma Delimits.flushed {c : Char} {token : Token} (h : Delimits c token) :
    Flushed (Text.ofChars [c]) [token] := by
  intro done
  rw [Scan.run_ofChars, Scan.runChars_singleton, step_between h.2]

lemma flushed_blank : Flushed (Text.ofChars [' ']) [] := by
  intro done
  rw [Scan.run_ofChars, Scan.runChars_singleton, step_between rfl]

/-- With a mark and a space between them, the parts are scanned one after the other. -/
lemma Scanned.separated (h : Scanned t ts) (h' : Scanned t' ts') {c : Char} {token : Token}
    (hc : markToken? c = some token) :
    Scanned (t ++ Text.ofChars [c, ' '] ++ t') (ts ++ token :: ts') := by
  have hseparator : Text.ofChars [c, ' '] = Text.ofChars [c] ++ Text.ofChars [' '] := rfl
  have hflushed := (h.delimited (delimits_of_mark hc)).append flushed_blank
  rw [hseparator, ← Text.append_assoc t, List.append_cons]
  rw [List.append_nil] at hflushed
  exact hflushed.append_scanned h'

/-! ## Words and numerals -/

lemma step_extend {mode mode' : Mode} {c : Char} (h : mode.extend? c = some mode')
    (done : List Token) : Scan.step ⟨done, mode⟩ c = some ⟨done, mode'⟩ := by
  cases mode with
  | quoted => exact nomatch h
  | _ => simp only [Scan.step, h]

/-- Characters that continue what is being scanned, one after the other. -/
lemma runChars_extend {shape : List Char → Mode} {cs : List Char}
    (h : ∀ c ∈ cs, ∀ before, (shape before).extend? c = some (shape (before ++ [c])))
    (done : List Token) (before : List Char) :
    Scan.runChars ⟨done, shape before⟩ cs = some ⟨done, shape (before ++ cs)⟩ := by
  induction cs generalizing before with
  | nil => rw [List.append_nil]; rfl
  | cons c cs ih =>
    rw [List.forall_mem_cons] at h
    rw [Scan.runChars_cons (step_extend (h.1 before) done), ih h.2, List.append_assoc,
      List.singleton_append]

/-- A word or a numeral is scanned into its token. -/
lemma scanned_of_extend (shape : List Char → Mode) {c : Char} {cs : List Char} {token : Token}
    (hstart : start? c = some ([], shape [c]))
    (hextend : ∀ c ∈ cs, ∀ before, (shape before).extend? c = some (shape (before ++ [c])))
    (hclose : (shape (c :: cs)).close? = some [token]) :
    Scanned (Text.ofChars (c :: cs)) [token] := by
  intro done
  refine ⟨⟨done, shape (c :: cs)⟩, [token], ?_, hclose, rfl⟩
  rw [Scan.run_ofChars, Scan.runChars_cons (step_between hstart done), List.append_nil,
    runChars_extend hextend, List.singleton_append]

lemma scanned_word {c : Char} {cs : List Char} {token : Token}
    (hstart : start? c = some ([], .word [c])) (hletters : cs.all Char.isAlphanum = true)
    (hword : wordToken? (c :: cs) = some token) : Scanned (Text.ofChars (c :: cs)) [token] := by
  refine scanned_of_extend .word hstart (fun c hc before => ?_) (by rw [Mode.close?, hword]; rfl)
  rw [Mode.extend?, List.all_eq_true.1 hletters c hc, Bool.true_or, if_pos rfl]

lemma scanned_null : Scanned (Text.ofChars ['N', 'o', 'n', 'e']) [.atom .null] :=
  scanned_word rfl rfl rfl

lemma scanned_true : Scanned (Text.ofChars ['T', 'r', 'u', 'e']) [.atom (.bool true)] :=
  scanned_word rfl rfl rfl

lemma scanned_false : Scanned (Text.ofChars ['F', 'a', 'l', 's', 'e']) [.atom (.bool false)] :=
  scanned_word rfl rfl rfl

/-- Only the digits of zero start with a zero. -/
lemma eq_zero_of_head?_toDigits {n : Nat} (h : (Nat.toDigits 10 n).head? = some '0') : n = 0 := by
  induction n using Nat.strongRecOn with
  | ind n ih =>
    rcases Nat.lt_or_ge n 10 with hlt | hge
    · rw [Nat.toDigits_of_lt_base hlt, List.head?_singleton, Option.some_inj] at h
      exact Nat.digitChar_eq_zero.1 h
    · -- the first digit is that of the tenth part, which is not zero
      rw [Nat.toDigits_of_base_le (by decide) hge, List.head?_append,
        List.head?_eq_some_head Nat.toDigits_ne_nil, Option.some_or] at h
      have hquotient := ih (n / 10) (by omega) (h ▸ List.head?_eq_some_head Nat.toDigits_ne_nil)
      omega

lemma numeralToken?_toDigits {n : Nat}
    (h : (Nat.toDigits 10 n).length ≤ Json.Reader.digitLimit) :
    numeralToken? (Nat.toDigits 10 n) = some (.numeral n) := by
  have hzero : ¬ ((Nat.toDigits 10 n).head? = some '0' ∧
      (Nat.toDigits 10 n).any (· != '0') = true) := by
    rintro ⟨hhead, hany⟩
    rw [eq_zero_of_head?_toDigits hhead] at hany
    exact absurd hany (by decide)
  rw [numeralToken?, if_neg hzero, if_pos h, Nat.ofDigitChars_ten_toDigits]

lemma scanned_toDigits {n : Nat} (h : (Nat.toDigits 10 n).length ≤ Json.Reader.digitLimit) :
    Scanned (Text.ofChars (Nat.toDigits 10 n)) [.numeral n] := by
  have htoken := numeralToken?_toDigits h
  have hdigits : ∀ c ∈ Nat.toDigits 10 n, c.isDigit = true :=
    fun c => Nat.isDigit_of_mem_toDigits (by decide) (by decide)
  obtain ⟨c, cs, heq⟩ := List.exists_cons_of_ne_nil (Nat.toDigits_ne_nil (n := n) (b := 10))
  rw [heq] at htoken hdigits ⊢
  rw [List.forall_mem_cons] at hdigits
  refine scanned_of_extend .digits ?_ (fun c hc before => ?_) ?_
  · rw [start?, if_pos hdigits.1]
  · rw [Mode.extend?, if_pos (hdigits.2 c hc)]
  · rw [Mode.close?, htoken]
    rfl

end Literal

end Blueprint
