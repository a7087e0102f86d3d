/-
# Base 64

Six bits a character.  The reader is strict: nothing but the alphabet and padding, padding
only where a group of four is still open and nothing after it.  Padding after complete
groups is let pass, and so are the bits that padding leaves over.
-/

namespace Blueprint.Text.Base64

/-- Why a text is not base 64. -/
inductive Fault where
  /-- The text starts with padding. -/
  | leadingPadding
  /-- Something follows the padding that closes the last group. -/
  | excessData
  /-- A character outside the alphabet. -/
  | foreignCharacter
  /-- Padding within the data. -/
  | discontinuousPadding
  /-- The last group holds a single character; the count is of all data characters. -/
  | looseCharacter (count : Nat)
  /-- The last group is not closed. -/
  | incorrectPadding
deriving DecidableEq, Repr

/-- What is wrong, in words. -/
def Fault.message : Fault → String
  | leadingPadding => "Leading padding not allowed"
  | excessData => "Excess data after padding"
  | foreignCharacter => "Only base64 data is allowed"
  | discontinuousPadding => "Discontinuous padding not allowed"
  | looseCharacter count =>
    "Invalid base64-encoded string: number of data characters (" ++ toString count ++
      ") cannot be 1 more than a multiple of 4"
  | incorrectPadding => "Incorrect padding"

/-- The character for six bits. -/
def encodeSextet (n : Nat) : Char :=
  if n < 26 then Char.ofNat ('A'.toNat + n)
  else if n < 52 then Char.ofNat ('a'.toNat + (n - 26))
  else if n < 62 then Char.ofNat ('0'.toNat + (n - 52))
  else if n = 62 then '+'
  else '/'

/-- The six bits a character of the alphabet stands for. -/
def decodeSextet? (c : Char) : Option Nat :=
  if 'A' ≤ c ∧ c ≤ 'Z' then some (c.toNat - 'A'.toNat)
  else if 'a' ≤ c ∧ c ≤ 'z' then some (c.toNat - 'a'.toNat + 26)
  else if '0' ≤ c ∧ c ≤ '9' then some (c.toNat - '0'.toNat + 52)
  else if c = '+' then some 62
  else if c = '/' then some 63
  else none

/-- Three bytes as four characters; one or two bytes left over are padded. -/
def encodeChars : List UInt8 → List Char
  | [] => []
  | [a] => [encodeSextet (a.toNat / 4), encodeSextet (a.toNat % 4 * 16), '=', '=']
  | [a, b] =>
    [encodeSextet (a.toNat / 4), encodeSextet (a.toNat % 4 * 16 + b.toNat / 16),
      encodeSextet (b.toNat % 16 * 4), '=']
  | a :: b :: c :: rest =>
    encodeSextet (a.toNat / 4) :: encodeSextet (a.toNat % 4 * 16 + b.toNat / 16) ::
      encodeSextet (b.toNat % 16 * 4 + c.toNat / 64) :: encodeSextet (c.toNat % 64) ::
        encodeChars rest

/-- The text of a sequence of bytes. -/
def encode (bytes : List UInt8) : String :=
  String.ofList (encodeChars bytes)

/-- The data characters of a text.  `place` is the place in the open group and `count` the number
of data characters so far; `pads` counts padding since the last of them, and `padded` tells
whether there was any. -/
def sextets (padded : Bool) (place pads count : Nat) : List Char → Except Fault (List Nat)
  | [] =>
    if place = 0 then .ok []
    else if place = 1 then .error (.looseCharacter count)
    else .error .incorrectPadding
  | c :: rest =>
    if c = '=' then
      if 2 ≤ place then
        if 4 ≤ place + (pads + 1) then
          if rest.isEmpty then .ok [] else .error .excessData
        else sextets true place (pads + 1) count rest
      else sextets true place pads count rest
    else
      match decodeSextet? c with
      | none => .error .foreignCharacter
      | some n =>
        if padded then .error .discontinuousPadding
        else (sextets padded ((place + 1) % 4) 0 (count + 1) rest).map (n :: ·)

/-- Four characters as three bytes; bits that do not fill a byte are dropped. -/
def bytesOf : List Nat → List UInt8
  | a :: b :: c :: d :: rest =>
    UInt8.ofNat (a * 4 + b / 16) :: UInt8.ofNat (b % 16 * 16 + c / 4) ::
      UInt8.ofNat (c % 4 * 64 + d) :: bytesOf rest
  | [a, b, c] => [UInt8.ofNat (a * 4 + b / 16), UInt8.ofNat (b % 16 * 16 + c / 4)]
  | [a, b] => [UInt8.ofNat (a * 4 + b / 16)]
  | _ => []

/-- Reads a text of the basic characters. -/
def decode (text : List Char) : Except Fault (List UInt8) :=
  if text.head? = some '=' then .error .leadingPadding
  else (sextets false 0 0 0 text).map bytesOf

/-- Every six bits are read back from their character. -/
theorem decodeSextet?_encodeSextet {n : Nat} (h : n < 64) :
    decodeSextet? (encodeSextet n) = some n := by
  have all : ∀ m ∈ List.range 64, decodeSextet? (encodeSextet m) = some m := by decide
  exact all n (List.mem_range.mpr h)

theorem encodeSextet_isBasic (n : Nat) : (encodeSextet n).toNat < 0x80 := by
  by_cases h : n < 64
  · have all : ∀ m ∈ List.range 64, (encodeSextet m).toNat < 0x80 := by decide
    exact all n (List.mem_range.mpr h)
  · have hlast : encodeSextet n = '/' := by
      rw [encodeSextet, if_neg (by omega), if_neg (by omega), if_neg (by omega), if_neg (by omega)]
    rw [hlast]
    decide

/-- The text of bytes consists of basic characters. -/
theorem isBasic_of_mem_encodeChars {bytes : List UInt8} {c : Char} (h : c ∈ encodeChars bytes) :
    c.toNat < 0x80 := by
  have hpadding : '='.toNat < 0x80 := by decide
  fun_induction encodeChars bytes with
  | case1 => exact absurd h List.not_mem_nil
  | case2 | case3 =>
    simp only [List.mem_cons, List.not_mem_nil, or_false] at h
    rcases h with rfl | rfl | rfl | rfl <;> first | exact encodeSextet_isBasic _ | exact hpadding
  | case4 a b c rest ih =>
    simp only [List.mem_cons] at h
    rcases h with rfl | rfl | rfl | rfl | h
    · exact encodeSextet_isBasic _
    · exact encodeSextet_isBasic _
    · exact encodeSextet_isBasic _
    · exact encodeSextet_isBasic _
    · exact ih h

/-- A character of the alphabet is no padding. -/
theorem encodeSextet_ne_padding {n : Nat} (h : n < 64) : encodeSextet n ≠ '=' := by
  intro he
  have hread := decodeSextet?_encodeSextet h
  rw [he, show decodeSextet? '=' = none by decide] at hread
  exact absurd hread (by simp)

/-- A character of the alphabet adds its six bits, as long as there was no padding. -/
theorem sextets_encodeSextet {n : Nat} (h : n < 64) (place pads count : Nat) (rest : List Char) :
    sextets false place pads count (encodeSextet n :: rest) =
      (sextets false ((place + 1) % 4) 0 (count + 1) rest).map (n :: ·) := by
  rw [sextets, if_neg (encodeSextet_ne_padding h), decodeSextet?_encodeSextet h]
  rfl

/-- The six bits that bytes are cut into; the last ones are filled up with zeros. -/
def sextetsOf : List UInt8 → List Nat
  | [] => []
  | [a] => [a.toNat / 4, a.toNat % 4 * 16]
  | [a, b] => [a.toNat / 4, a.toNat % 4 * 16 + b.toNat / 16, b.toNat % 16 * 4]
  | a :: b :: c :: rest =>
    a.toNat / 4 :: (a.toNat % 4 * 16 + b.toNat / 16) :: (b.toNat % 16 * 4 + c.toNat / 64) ::
      c.toNat % 64 :: sextetsOf rest

theorem sextets_encodeChars (pads count : Nat) (bytes : List UInt8) :
    sextets false 0 pads count (encodeChars bytes) = .ok (sextetsOf bytes) := by
  fun_induction encodeChars bytes generalizing pads count with
  | case1 => rfl
  | case2 a =>
    have ha := a.toNat_lt
    rw [sextets_encodeSextet (by omega), sextets_encodeSextet (by omega)]
    rfl
  | case3 a b =>
    have ha := a.toNat_lt
    have hb := b.toNat_lt
    rw [sextets_encodeSextet (by omega), sextets_encodeSextet (by omega),
      sextets_encodeSextet (by omega)]
    rfl
  | case4 a b c rest ih =>
    have ha := a.toNat_lt
    have hb := b.toNat_lt
    have hc := c.toNat_lt
    rw [sextets_encodeSextet (by omega), sextets_encodeSextet (by omega),
      sextets_encodeSextet (by omega), sextets_encodeSextet (by omega), ih]
    rfl

theorem bytesOf_sextetsOf (bytes : List UInt8) : bytesOf (sextetsOf bytes) = bytes := by
  have hbyte : ∀ (a : UInt8) (n : Nat), n = a.toNat → UInt8.ofNat n = a := by
    rintro a _ rfl
    exact UInt8.ofNat_toNat
  fun_induction sextetsOf bytes with
  | case1 => rfl
  | case2 a =>
    have ha := a.toNat_lt
    rw [bytesOf, hbyte a _ (by omega)]
  | case3 a b =>
    have ha := a.toNat_lt
    have hb := b.toNat_lt
    rw [bytesOf, hbyte a _ (by omega), hbyte b _ (by omega)]
  | case4 a b c rest ih =>
    have ha := a.toNat_lt
    have hb := b.toNat_lt
    have hc := c.toNat_lt
    rw [bytesOf, hbyte a _ (by omega), hbyte b _ (by omega), hbyte c _ (by omega), ih]

/-- Bytes are read back from their text, whatever their number. -/
theorem decode_encodeChars (bytes : List UInt8) : decode (encodeChars bytes) = .ok bytes := by
  have hhead : (encodeChars bytes).head? ≠ some '=' := by
    fun_cases encodeChars bytes with
    | case1 => simp
    | case2 a | case3 a | case4 a =>
      have ha := a.toNat_lt
      simpa using encodeSextet_ne_padding (n := a.toNat / 4) (by omega)
  rw [decode, if_neg hhead, sextets_encodeChars, Except.map, bytesOf_sextetsOf]

end Blueprint.Text.Base64
