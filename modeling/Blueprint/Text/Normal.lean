/-
# The normal form of identifiers

Two spellings of an identifier are the same name when they have one normal form: characters kept
for compatibility give way to others, composed characters are taken apart, marks on one base are
put in the order of their classes, and what can be composed is composed again.  Syllables are
composed of their parts by a rule of their own.
-/
import Blueprint.Text.Compatibility
import Blueprint.Text.Composition

namespace Blueprint.Text

/-! ## Syllables -/

/-- The first syllable. -/
def syllableBase : Nat := 0xac00

/-- The first of the leading consonants, of which there are nineteen. -/
def leadBase : Nat := 0x1100

/-- The first of the vowels, of which there are twenty-one. -/
def vowelBase : Nat := 0x1161

/-- The code point before the first of the trailing consonants, of which there are twenty-seven. -/
def trailBase : Nat := 0x11a7

/-- The parts of a syllable. -/
def syllableParts? (c : Char) : Option (List Char) :=
  let n := c.toNat - syllableBase
  if syllableBase ≤ c.toNat && n < 11172 then
    let pair := [Char.ofNat (leadBase + n / 588), Char.ofNat (vowelBase + n % 588 / 28)]
    some (if n % 28 == 0 then pair else pair ++ [Char.ofNat (trailBase + n % 28)])
  else none

/-- The syllable of two parts: a leading consonant and a vowel, or a syllable without trailing
consonant and one. -/
def syllable? (a b : Char) : Option Char :=
  let lead := a.toNat - leadBase
  let vowel := b.toNat - vowelBase
  let n := a.toNat - syllableBase
  let trail := b.toNat - trailBase
  if leadBase ≤ a.toNat && lead < 19 && vowelBase ≤ b.toNat && vowel < 21 then
    some (Char.ofNat (syllableBase + (lead * 21 + vowel) * 28))
  else if syllableBase ≤ a.toNat && n < 11172 && n % 28 == 0 && trailBase < b.toNat &&
      trail < 28 then
    some (Char.ofNat (a.toNat + trail))
  else none

/-! ## Taking apart -/

/-- What a composed character is composed of in the end; `depth` bounds how often a base is composed
itself. -/
def partsUpTo : Nat → Char → List Char
  | 0, c => [c]
  | depth + 1, c =>
    match tableParts? c with
    | some (base, mark) => partsUpTo depth base ++ [mark]
    | none => [c]

/-- The most parts of a composed character after its first. -/
def compositionDepth : Nat := 3

/-- What a character is taken apart to. -/
def decomposed (c : Char) : List Char :=
  (((replacement? c).getD [c]).flatMap fun d =>
    (syllableParts? d).getD (partsUpTo compositionDepth d))

/-! ## Ordering marks -/

/-- Puts a mark before others, behind those of lower classes. -/
def insertMark (c : Char) : List Char → List Char
  | [] => [c]
  | d :: rest =>
    if markClass d != 0 && decide (markClass d < markClass c) then d :: insertMark c rest
    else c :: d :: rest

/-- Puts the marks on each base in the order of their classes. -/
def orderMarks : List Char → List Char
  | [] => []
  | c :: rest => insertMark c (orderMarks rest)

/-! ## Composing -/

/-- The character composed of two. -/
def composite? (a b : Char) : Option Char :=
  (syllable? a b).or (tableComposite? a b)

/-- Composes characters with the base before them.  `marks` are those after the base that stay, the
last of the class `last`: a mark that stays keeps those of its class, and all that are no marks,
from the base. -/
def composeOnto (base : Char) (marks : List Char) (last : Nat) : List Char → List Char
  | [] => base :: marks
  | c :: rest =>
    let k := markClass c
    match if marks.isEmpty || decide (last < k) then composite? base c else none with
    | some d => composeOnto d marks last rest
    | none =>
      if k == 0 then base :: marks ++ composeOnto c [] 0 rest
      else composeOnto base (marks ++ [c]) k rest

/-- Composes what can be composed. -/
def compose : List Char → List Char
  | [] => []
  | c :: rest => if markClass c == 0 then composeOnto c [] 0 rest else c :: compose rest

/-! ## Normal form -/

/-- The normal form of characters. -/
def normalChars (cs : List Char) : List Char :=
  compose (orderMarks (cs.flatMap decomposed))

/-- Whether a character is one of the first half of a byte's values, which are all normal and stay
what they are next to one another. -/
def isBasic (c : Char) : Bool := decide (c.toNat < 0x80)

/-- The normal form of a text; one with halves of surrogate pairs is left as it is, and so is one
of basic characters. -/
def normal (t : Text) : Text :=
  match t.chars? with
  | none => t
  | some cs => if cs.all isBasic then t else ofChars (normalChars cs)

end Blueprint.Text
