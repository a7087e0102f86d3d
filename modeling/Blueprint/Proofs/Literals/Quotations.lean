/-
# Quotations are scanned into what they quote

Every point of a text, and every byte, stands in its quotation as characters that the scanner turns
into its code again (`Puts`): an escape by a letter, an escape by hexadecimal digits, or the
character itself, which is then neither the mark nor a backslash.  So a quotation is scanned into
one token, that of the text or the bytes (`flushed_quote`, `flushed_quoteBytes`), whatever marks,
backslashes and brackets it holds.
-/
import Blueprint.Proofs.Literals.Scanning
import Blueprint.Text.Quoted
import Mathlib.Algebra.Ring.Nat

namespace Blueprint

namespace Literal

open Text

/-- Scanned within a quotation, the characters put one more code into it. -/
def Puts (mark : Char) (ofBytes : Bool) (cs : List Char) (code : Nat) : Prop :=
  ∀ done codes, Scan.runChars ⟨done, .quoted ⟨mark, ofBytes, codes⟩ .plain⟩ cs =
    some ⟨done, .quoted ⟨mark, ofBytes, codes ++ [code]⟩ .plain⟩

variable {mark : Char} {ofBytes : Bool}

lemma eq_of_isMark (h : isMark mark = true) : mark = '\'' ∨ mark = '"' := by
  simpa [isMark] using h

lemma step_quoted {q q' : Quotation} {escape escape' : Escape} {c : Char}
    (hopen : ¬ (escape = .plain ∧ c = q.mark)) (h : q.step escape c = some (q', escape'))
    (done : List Token) :
    Scan.step ⟨done, .quoted q escape⟩ c = some ⟨done, .quoted q' escape'⟩ := by
  simp only [Scan.step, if_neg hopen, h]
  rfl

/-! ## Escapes -/

lemma step_backslash (hmark : isMark mark = true) (done : List Token) (codes : List Nat) :
    Scan.step ⟨done, .quoted ⟨mark, ofBytes, codes⟩ .plain⟩ '\\' =
      some ⟨done, .quoted ⟨mark, ofBytes, codes⟩ .begun⟩ := by
  have hne : '\\' ≠ mark := by rcases eq_of_isMark hmark with rfl | rfl <;> decide
  exact step_quoted (fun h => hne h.2) rfl done

lemma puts_letter (hmark : isMark mark = true) {letter : Char} {code : Nat}
    (h : Quotation.letterCode? letter = some code) : Puts mark ofBytes ['\\', letter] code := by
  intro done codes
  have hletter : Quotation.step ⟨mark, ofBytes, codes⟩ .begun letter =
      some (⟨mark, ofBytes, codes ++ [code]⟩, .plain) := by
    simp only [Quotation.step, h]
    rfl
  rw [Scan.runChars_cons (step_backslash hmark done codes), Scan.runChars_singleton,
    step_quoted (by simp) hletter]

lemma hexDigit?_digitChar {d : Nat} (h : d < 16) :
    Json.Reader.hexDigit? (Nat.digitChar d) = some d := by
  have hall : ∀ d < 16, Json.Reader.hexDigit? (Nat.digitChar d) = some d := by decide
  exact hall d h

/-- One digit of an escape that is not the last. -/
lemma step_digit {q : Quotation} {d : Nat} (h : d < 16) (more value : Nat) (done : List Token) :
    Scan.step ⟨done, .quoted q (.code (more + 1) value)⟩ (Nat.digitChar d) =
      some ⟨done, .quoted q (.code more (value * 16 + d))⟩ := by
  refine step_quoted (by simp) ?_ done
  rw [Quotation.step, hexDigit?_digitChar h]
  rfl

/-- The digits of an escape, but for the last, one after the other. -/
lemma runChars_hexDigits {q : Quotation} (width more value n : Nat) (done : List Token) :
    Scan.runChars ⟨done, .quoted q (.code (width + more) value)⟩ (hexDigits width n) =
      some ⟨done, .quoted q (.code more (value * 16 ^ width + n % 16 ^ width))⟩ := by
  -- the last digit is that of the remainder, so the induction is on the digits before it
  induction width generalizing n more with
  | zero => simp [hexDigits, Scan.runChars, Nat.mod_one]
  | succ width ih =>
    have hvalue : (value * 16 ^ width + n / 16 % 16 ^ width) * 16 + n % 16 =
        value * 16 ^ (width + 1) + n % 16 ^ (width + 1) := by
      rw [Nat.pow_succ', Nat.mod_mul, Nat.add_mul, Nat.mul_assoc, Nat.mul_comm _ 16]
      omega
    have hmore : width + 1 + more = width + (more + 1) := by omega
    rw [hexDigits, hmore, Scan.runChars_append (ih (more + 1) (n / 16)), Scan.runChars_singleton,
      step_digit (Nat.mod_lt n (by decide)), hvalue]

lemma puts_hexDigits (hmark : isMark mark = true) {letter : Char} {width n : Nat}
    (hletter : Quotation.letterCode? letter = none)
    (h : Quotation.codeEscape? ⟨mark, ofBytes, []⟩ letter = some (.code width 0))
    (hwidth : n < 16 ^ (width + 1)) (hn : n < 0x110000) :
    Puts mark ofBytes ('\\' :: letter :: hexDigits (width + 1) n) n := by
  intro done codes
  have hbegun : Quotation.step ⟨mark, ofBytes, codes⟩ .begun letter =
      some (⟨mark, ofBytes, codes⟩, .code width 0) := by
    have h : Quotation.codeEscape? ⟨mark, ofBytes, codes⟩ letter = some (.code width 0) := h
    simp only [Quotation.step, hletter, h]
    rfl
  have hlast : Quotation.step ⟨mark, ofBytes, codes⟩ (.code 0 (n / 16)) (Nat.digitChar (n % 16)) =
      some (⟨mark, ofBytes, codes ++ [n]⟩, .plain) := by
    have hvalue : n / 16 * 16 + n % 16 = n := Nat.div_add_mod' n 16
    simp only [Quotation.step, hexDigit?_digitChar (Nat.mod_lt n (by decide : 0 < 16)),
      Option.bind_eq_bind, Option.bind_some, hvalue, if_pos hn]
    rfl
  have hquotient : n / 16 % 16 ^ width = n / 16 :=
    Nat.mod_eq_of_lt (Nat.div_lt_of_lt_mul (by rwa [← Nat.pow_succ']))
  have hdigits := runChars_hexDigits (q := ⟨mark, ofBytes, codes⟩) width 0 0 (n / 16) done
  rw [Nat.add_zero, Nat.zero_mul, Nat.zero_add, hquotient] at hdigits
  rw [Scan.runChars_cons (step_backslash hmark done codes),
    Scan.runChars_cons (step_quoted (by simp) hbegun done), hexDigits,
    Scan.runChars_append hdigits, Scan.runChars_singleton, step_quoted (by simp) hlast]

/-- An escape by code point, as short as the code allows. -/
lemma puts_codeEscape (hmark : isMark mark = true) {n : Nat} (hn : n < 0x110000) :
    Puts mark false (codeEscape n) n := by
  unfold codeEscape
  split
  · exact puts_hexDigits hmark rfl rfl (by omega) hn
  · split
    · exact puts_hexDigits hmark rfl rfl (by omega) hn
    · exact puts_hexDigits hmark rfl rfl (by omega) hn

/-- A character that stands for itself. -/
lemma puts_self {c : Char} (hc : c ≠ mark) (hbackslash : c ≠ '\\')
    (h : Quotation.admits ⟨mark, ofBytes, []⟩ c = true) : Puts mark ofBytes [c] c.toNat := by
  intro done codes
  have hstep : Quotation.step ⟨mark, ofBytes, codes⟩ .plain c =
      some (⟨mark, ofBytes, codes ++ [c.toNat]⟩, .plain) := by
    have h : Quotation.admits ⟨mark, ofBytes, codes⟩ c = true := h
    simp only [Quotation.step, beq_eq_false_iff_ne.2 hbackslash, h]
    rfl
  rw [Scan.runChars_singleton, step_quoted (fun h => hc h.2) hstep]

/-- The mark, the backslash, tab, line feed and carriage return have escapes of their own, whatever
else is done with other characters. -/
lemma puts_escape (hmark : isMark mark = true) {c : Char} {other : List Char}
    (hother : c ≠ mark → c ≠ '\\' → c ≠ '\n' → c ≠ '\r' → Puts mark ofBytes other c.toNat) :
    Puts mark ofBytes
      (if c == mark || c == '\\' then ['\\', c]
        else if c == '\t' then ['\\', 't']
        else if c == '\n' then ['\\', 'n']
        else if c == '\r' then ['\\', 'r']
        else other) c.toNat := by
  split
  -- a mark or a backslash is written behind a backslash
  case isTrue h =>
    simp only [Bool.or_eq_true, beq_iff_eq] at h
    have hc : c = '\'' ∨ c = '"' ∨ c = '\\' := by
      rcases h with rfl | rfl
      · exact (eq_of_isMark hmark).imp_right .inl
      · exact .inr (.inr rfl)
    rcases hc with rfl | rfl | rfl <;> exact puts_letter hmark rfl
  case isFalse h =>
    simp only [Bool.or_eq_true, beq_iff_eq, not_or] at h
    -- a tab and the ends of lines have letters of their own
    split
    case isTrue htab =>
      rw [eq_of_beq htab]
      exact puts_letter hmark rfl
    case isFalse =>
      split
      case isTrue hfeed =>
        rw [eq_of_beq hfeed]
        exact puts_letter hmark rfl
      case isFalse hfeed =>
        split
        case isTrue hreturn =>
          rw [eq_of_beq hreturn]
          exact puts_letter hmark rfl
        case isFalse hreturn =>
          exact hother h.1 h.2 (by simpa using hfeed) (by simpa using hreturn)

/-! ## Points and bytes -/

lemma toNat_lt (c : Char) : c.toNat < 0x110000 := by
  have h := c.valid
  simp only [UInt32.isValidChar, Nat.isValidChar] at h
  have hc : c.toNat = c.val.toNat := rfl
  omega

lemma puts_escapePoint (hmark : isMark mark = true) (p : Point) :
    Puts mark false (escapePoint mark p) p.code := by
  cases p with
  | char c =>
    refine puts_escape hmark fun hc hbackslash hfeed hreturn => ?_
    split
    case isTrue hprintable =>
      -- a null character could not stand in a source, but it is not printable
      have hnull : c ≠ '\x00' := by
        rintro rfl
        exact absurd hprintable (by decide)
      exact puts_self hc hbackslash (by simp [Quotation.admits, hfeed, hreturn, hnull])
    case isFalse => exact puts_codeEscape hmark (toNat_lt c)
  | half unit => exact puts_codeEscape hmark (by simp only [Point.code]; omega)

lemma puts_escapeByte (hmark : isMark mark = true) (b : UInt8) :
    Puts mark true (escapeByte mark b) b.toNat := by
  have hb : b.toNat < 256 := b.toNat_lt
  have hcode : (Char.ofNat b.toNat).toNat = b.toNat := by
    have hvalid : b.toNat.isValidChar := .inl (by omega)
    rw [Char.ofNat, dif_pos hvalid]
    exact UInt32.toNat_ofNatLT
  -- a byte is escaped like the character of its code
  have hputs : Puts mark true (escapeByte mark b) (Char.ofNat b.toNat).toNat := by
    refine puts_escape hmark fun hc hbackslash hfeed hreturn => ?_
    split
    case isTrue hbasic =>
      have hnull : Char.ofNat b.toNat ≠ '\x00' := by
        intro h
        rw [h] at hcode
        exact absurd (hcode ▸ hbasic.1) (by decide)
      refine puts_self hc hbackslash ?_
      have hlt : b.toNat < 0x80 := by omega
      simp [Quotation.admits, hfeed, hreturn, hnull, hcode, hlt]
    case isFalse =>
      rw [hcode]
      exact puts_hexDigits hmark rfl rfl (by omega) (by omega)
  rwa [hcode] at hputs

/-- The point of its code. -/
lemma ofUnit_code (p : Point) : Point.ofUnit p.code = p := by
  cases p with
  | char c =>
    have h := c.valid
    simp only [UInt32.isValidChar, Nat.isValidChar] at h
    have hc : c.toNat = c.val.toNat := rfl
    rw [Point.ofUnit, dif_neg (by simp only [Point.code]; omega), Point.code, Char.ofNat_toNat]
  | half unit =>
    have hunit := unit.isLt
    rw [Point.ofUnit, dif_pos (by simp only [Point.code]; omega)]
    simp [Point.code]

/-! ## Whole quotations -/

lemma isMark_quoteMark (points : List Point) : isMark (quoteMark points) = true := by
  unfold quoteMark
  split <;> rfl

/-- The inside of a quotation, item by item, and its closing mark. -/
lemma runChars_quoted {α : Type} {escape : α → List Char} {code : α → Nat}
    (h : ∀ a, Puts mark ofBytes (escape a) (code a)) (items : List α) (done : List Token)
    (codes : List Nat) :
    Scan.runChars ⟨done, .quoted ⟨mark, ofBytes, codes⟩ .plain⟩
        (items.flatMap escape ++ [mark]) =
      some ⟨done ++ [Quotation.token ⟨mark, ofBytes, codes ++ items.map code⟩], .between⟩ := by
  induction items generalizing codes with
  | nil => simp [Scan.runChars_singleton, Scan.step]
  | cons a rest ih =>
    rw [List.flatMap_cons, List.append_assoc, Scan.runChars_append (h a done codes), ih,
      List.append_assoc, List.map_cons, List.singleton_append]

lemma start?_of_isMark (hmark : isMark mark = true) :
    start? mark = some ([], .quoted ⟨mark, false, []⟩ .plain) := by
  rcases eq_of_isMark hmark with rfl | rfl <;> rfl

lemma extend?_of_isMark (hmark : isMark mark = true) :
    (Mode.word ['b']).extend? mark = some (.quoted ⟨mark, true, []⟩ .plain) := by
  rcases eq_of_isMark hmark with rfl | rfl <;> rfl

/-- A text between quotation marks is scanned into the text. -/
theorem flushed_quote (t : Text) : Flushed (Text.quote t) [.atom (.str t)] := by
  intro done
  have hmark := isMark_quoteMark t.points
  have htoken : Quotation.token ⟨quoteMark t.points, false, [] ++ t.points.map Point.code⟩ =
      .atom (.str t) := by
    simp [Quotation.token, List.map_map, Function.comp_def, ofUnit_code]
  rw [Text.quote, Scan.run_ofChars, quotePoints,
    Scan.runChars_cons (step_between (start?_of_isMark hmark) done),
    runChars_quoted (puts_escapePoint hmark), htoken, List.append_nil]

/-- Bytes between quotation marks are scanned into the bytes. -/
theorem flushed_quoteBytes (bytes : List UInt8) :
    Flushed (quoteBytes bytes) [.atom (.bytes bytes)] := by
  intro done
  have hmark := isMark_quoteMark (bytes.map fun b => .char (Char.ofNat b.toNat))
  have htoken : ∀ mark, Quotation.token ⟨mark, true, [] ++ bytes.map UInt8.toNat⟩ =
      .atom (.bytes bytes) := by
    simp [Quotation.token, List.map_map, Function.comp_def]
  have hprefix : start? 'b' = some ([], .word ['b']) := rfl
  rw [quoteBytes, Scan.run_ofChars, Scan.runChars_cons (step_between hprefix done),
    Scan.runChars_cons (step_extend (extend?_of_isMark hmark) _),
    runChars_quoted (puts_escapeByte hmark), htoken, List.append_nil]

end Literal

end Blueprint
