/-
# The order of values

Numbers are ordered by their value across truth values, whole numbers and doubles, texts and bytes
by their points and bytes, tuples and lists by the first items that differ.  Nothing else has an
order: to ask for one is a failure, so sorting can fail, and which two values it names depends on
which are compared first.  That is fixed by the way of sorting: the longest run at the start is
taken as it is, or in reverse, and every further item is put where a search by halves finds its
place.
-/
import Blueprint.Failure
import Blueprint.Value.Equal

namespace Blueprint

/-- The value of a whole number or a finite double in units of the least positive double. -/
def numberUnits : Int ⊕ Double → Int
  | .inl i => i * Int.pow 2 1074
  | .inr (.finite negative m q _) =>
    let magnitude : Int := m * Int.pow 2 (q + 1074).toNat
    if negative then -magnitude else magnitude
  | .inr _ => 0

/-- Numerical order across whole numbers and doubles. -/
def numberBefore : Int ⊕ Double → Int ⊕ Double → Bool
  | .inr .nan, _ => false
  | _, .inr .nan => false
  | .inr (.infinity a), .inr (.infinity b) => a && !b
  | .inr (.infinity negative), _ => negative
  | _, .inr (.infinity negative) => !negative
  | a, b => decide (numberUnits a < numberUnits b)

/-- Order byte by byte. -/
def bytesBefore : List UInt8 → List UInt8 → Bool
  | _, [] => false
  | [], _ :: _ => true
  | a :: as, b :: bs => decide (a < b) || (a == b && bytesBefore as bs)

/-- The failure to order two values. -/
def incomparable {α : Type} (a b : Value) : Except Failure α :=
  .error (.incomparable a.typeName b.typeName)

mutual

/-- Whether a value comes before another. -/
def Value.before : Value → Value → Except Failure Bool
  | .tuple xs, .tuple ys => itemsBefore xs ys
  | .list xs, .list ys => itemsBefore xs ys
  | a, b =>
    match a.scalar?, b.scalar? with
    | some (.str s), some (.str t) => .ok (!t.le s)
    | some (.bytes s), some (.bytes t) => .ok (bytesBefore s t)
    | _, _ =>
      match a.number?, b.number? with
      | some m, some n => .ok (numberBefore m n)
      | _, _ => incomparable a b
termination_by structural v => v

/-- Whether items come before others: the first two that differ decide, or else the lengths. -/
def itemsBefore : List Value → List Value → Except Failure Bool
  | _, [] => .ok false
  | [], _ :: _ => .ok true
  | x :: xs, y :: ys => if x == y then itemsBefore xs ys else x.before y
termination_by structural v => v

end

namespace Sorting

variable {α : Type}

/-- Takes items as long as each stands to the one before it as `goesOn` asks for: those, in reverse
before the ones already taken, and the rest. -/
def takeRun (goesOn : α → α → Except Failure Bool) (last : α) (taken : List α) :
    List α → Except Failure (List α × List α)
  | [] => .ok (taken, [])
  | a :: rest => do
    if ← goesOn a last then takeRun goesOn a (a :: taken) rest else return (taken, a :: rest)

/-- The sorted run at the start, and the rest. -/
def firstRun (before : α → α → Except Failure Bool) :
    List α → Except Failure (List α × List α)
  | a :: b :: rest => do
    if ← before b a then takeRun before b [b, a] rest
    else
      let (run, rest) ← takeRun (fun next last => return !(← before next last)) b [b, a] rest
      return (run.reverse, rest)
  | items => .ok (items, [])

/-- The place between `low` and `high` where an item belongs, after its equals. -/
def search (before : α → α → Except Failure Bool) (sorted : List α) (item : α) :
    Nat → Nat → Nat → Except Failure Nat
  | 0, low, _ => .ok low
  | fuel + 1, low, high =>
    if low < high then
      let middle := (low + high) / 2
      match sorted[middle]? with
      | none => .ok low
      | some other => do
        if ← before item other then search before sorted item fuel low middle
        else search before sorted item fuel (middle + 1) high
    else .ok low

/-- Puts items one after the other where they belong. -/
def insertAll (before : α → α → Except Failure Bool) (sorted : List α) :
    List α → Except Failure (List α)
  | [] => .ok sorted
  | item :: rest => do
    let place ← search before sorted item (sorted.length + 1) 0 sorted.length
    insertAll before (sorted.take place ++ item :: sorted.drop place) rest

end Sorting

/-- The entries of a dictionary in the order of their keys. -/
def sortEntries {β : Type} (entries : List (Value × β)) : Except Failure (List (Value × β)) := do
  let before (a b : Value × β) := a.1.before b.1
  let (run, rest) ← Sorting.firstRun before entries
  Sorting.insertAll before run rest

end Blueprint
