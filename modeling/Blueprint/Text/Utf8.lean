/-
# UTF-8

A strict reader of UTF-8.  What it accepts is the standard's table of well formed sequences:
no overlong forms, no surrogates, nothing above the last code point.  What it refuses it
locates: the first byte that cannot start or continue a sequence, or a sequence that the end
of the data cuts off.  Every text without halves of surrogate pairs can be written.
-/
import Blueprint.Text.Quoted

namespace Blueprint.Text.Utf8

/-- Why bytes are not UTF-8: the bytes from `start` up to, but not including, `stop`. -/
inductive Fault where
  /-- A byte that starts no sequence. -/
  | startByte (start : Nat) (byte : UInt8)
  /-- A sequence, so far `length` bytes long, whose next byte does not continue it. -/
  | continuation (start length : Nat) (byte : UInt8)
  /-- A sequence that the end of the data cuts off after `length` bytes. -/
  | cutOff (start length : Nat) (byte : UInt8)
deriving DecidableEq, Repr

/-- Which bytes are at fault, in words. -/
def Fault.place (start length : Nat) (byte : UInt8) : String :=
  if length = 1 then
    "byte 0x" ++ String.ofList (hexDigits 2 byte.toNat) ++ " in position " ++ toString start
  else
    "bytes in position " ++ toString start ++ "-" ++ toString (start + length - 1)

/-- What is wrong, in words. -/
def Fault.message : Fault → String
  | startByte start byte =>
    "'utf-8' codec can't decode " ++ place start 1 byte ++ ": invalid start byte"
  | continuation start length byte =>
    "'utf-8' codec can't decode " ++ place start length byte ++ ": invalid continuation byte"
  | cutOff start length byte =>
    "'utf-8' codec can't decode " ++ place start length byte ++ ": unexpected end of data"

/-- How a sequence goes on after its first byte: how many bytes follow, the bits the first byte
contributes, and the range its second byte is in. -/
structure Lead where
  /-- The number of bytes that follow. -/
  following : Nat
  /-- The bits of the first byte. -/
  bits : Nat
  /-- The least second byte. -/
  low : Nat
  /-- The greatest second byte. -/
  high : Nat

/-- What a first byte announces. -/
def lead? (byte : UInt8) : Option Lead :=
  let n := byte.toNat
  if n < 0x80 then some ⟨0, n, 0x80, 0xbf⟩
  else if n < 0xc2 then none
  else if n < 0xe0 then some ⟨1, n - 0xc0, 0x80, 0xbf⟩
  else if n = 0xe0 then some ⟨2, 0, 0xa0, 0xbf⟩
  else if n = 0xed then some ⟨2, 0xd, 0x80, 0x9f⟩
  else if n < 0xf0 then some ⟨2, n - 0xe0, 0x80, 0xbf⟩
  else if n = 0xf0 then some ⟨3, 0, 0x90, 0xbf⟩
  else if n < 0xf4 then some ⟨3, n - 0xf0, 0x80, 0xbf⟩
  else if n = 0xf4 then some ⟨3, 4, 0x80, 0x8f⟩
  else none

/-- A sequence begun: what was read of it and how it may go on. -/
structure State where
  /-- The first byte of the sequence. -/
  first : UInt8
  /-- How many bytes of it were read. -/
  length : Nat
  /-- How many bytes it still needs. -/
  needed : Nat
  /-- Its bits so far. -/
  bits : Nat
  /-- The least byte that continues it. -/
  low : Nat
  /-- The greatest byte that continues it. -/
  high : Nat

/-- Reads bytes from a position on, with a sequence begun or none. -/
def decodeFrom (position : Nat) : Option State → List UInt8 → Except Fault (List Char)
  | none, [] => .ok []
  | some s, [] => .error (.cutOff (position - s.length) s.length s.first)
  | none, b :: rest =>
    match lead? b with
    | none => .error (.startByte position b)
    | some l =>
      if l.following = 0 then (decodeFrom (position + 1) none rest).map (Char.ofNat l.bits :: ·)
      else decodeFrom (position + 1) (some ⟨b, 1, l.following, l.bits, l.low, l.high⟩) rest
  | some s, b :: rest =>
    if s.low ≤ b.toNat ∧ b.toNat ≤ s.high then
      let bits := s.bits * 64 + (b.toNat - 0x80)
      if s.needed = 1 then (decodeFrom (position + 1) none rest).map (Char.ofNat bits :: ·)
      else
        let next : State := ⟨s.first, s.length + 1, s.needed - 1, bits, 0x80, 0xbf⟩
        decodeFrom (position + 1) (some next) rest
    else .error (.continuation (position - s.length) s.length s.first)

/-- The text that bytes encode. -/
def decode (bytes : List UInt8) : Except Fault String :=
  (decodeFrom 0 none bytes).map String.ofList

/-- The bytes of a string. -/
def encode (s : String) : List UInt8 :=
  s.toUTF8.toList

/-- Halves of surrogate pairs that cannot be encoded: the first run of them in a text. -/
structure Unencodable where
  /-- Where the run starts. -/
  start : Nat
  /-- The code of its first point. -/
  code : Nat
  /-- Its length. -/
  length : Nat
deriving DecidableEq, Repr

/-- What cannot be encoded, in words. -/
def Unencodable.message (u : Unencodable) : String :=
  let place :=
    if u.length = 1 then
      "character '\\u" ++ String.ofList (hexDigits 4 u.code) ++ "' in position " ++
        toString u.start
    else
      "characters in position " ++ toString u.start ++ "-" ++ toString (u.start + u.length - 1)
  "'utf-8' codec can't encode " ++ place ++ ": surrogates not allowed"

/-- Whether a point is half of a surrogate pair. -/
def isHalf (p : Point) : Bool := p.char?.isNone

/-- The bytes of a text. -/
def encodeText (t : Text) : Except Unencodable (List UInt8) :=
  match t.chars? with
  | some cs => .ok (encode (String.ofList cs))
  | none =>
    let before := t.points.takeWhile fun p => !isHalf p
    let run := (t.points.dropWhile fun p => !isHalf p).takeWhile isHalf
    .error ⟨before.length, (run.head?.map Point.code).getD 0, run.length⟩

end Blueprint.Text.Utf8
