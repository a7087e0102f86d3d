/-
# Bindings

A binding gives the arguments of one call by position.  A position that is not bound, and one
that is bound to the mark for a declared default, are the same to everyone who asks: there is
no value of their own.
-/
import Blueprint.Failure
import Blueprint.Value.Equal

namespace Blueprint

/-- The value a bound position has of its own: none where the declared default is asked for. -/
def Value.explicit? : Value → Option Value
  | .useDefault => none
  | v => some v

/-- The natural number that a value is as a position.  Truth values are no positions. -/
def Value.position? : Value → Option Nat
  | .int (.ofNat n) | .derived _ (.int (.ofNat n)) => some n
  | _ => none

namespace Binding

/-- The position of every key; the first key that is none is reported. -/
def positions : List (Value × Value) → Except Failure (List (Nat × Value))
  | [] => .ok []
  | (key, value) :: rest =>
    match key.position? with
    | some n => (positions rest).map ((n, value) :: ·)
    | none => .error (.positionInvalid key)

/-- The binding of values to keys, in the order of the keys.  What cannot be a key is reported
before what is no position; of keys that are equal the first counts, with the last value. -/
def ofEntries (method : Text) (entries : List (Value × Value)) : Except Failure Binding :=
  match entries.findSome? fun entry => entry.1.unhashable? with
  | some typeName => .error (.unhashable typeName)
  | none => (positions (Entries.ofList entries)).map (⟨method, ·⟩)

/-- The binding of values to the positions from a first one on. -/
def enumerate (values : List Value) (first : Nat) : List (Nat × Value) :=
  match values with
  | [] => []
  | v :: rest => (first, v) :: enumerate rest (first + 1)

/-- The binding of values to the positions from zero on. -/
def ofValues (method : Text) (values : List Value) : Binding :=
  ⟨method, enumerate values 0⟩

/-- The binding of what a value holds: keys with their values, or items from the first position
on. -/
def ofValue (method : Text) : Value → Except Failure Binding
  | .dict entries => ofEntries method entries
  | v => v.items.map (ofValues method)

/-- The value at a position. -/
def get (b : Binding) (position : Nat) : Value :=
  (Entries.get? position b.arguments).getD .useDefault

/-- Whether a position has a value of its own. -/
def has (b : Binding) (position : Nat) : Bool :=
  (b.get position).explicit?.isSome

/-- The value under a key.  Every key that equals a position stands for it, and what cannot be a key
is no question. -/
def lookup (b : Binding) (key : Value) : Except Failure Value :=
  match key.unhashable? with
  | some typeName => .error (.unhashable typeName)
  | none =>
    match b.arguments.find? fun (position, _) => Value.int position == key with
    | some (_, value) => .ok value
    | none => .ok .useDefault

/-- Changing an argument, which no binding allows. -/
def assign (_ : Binding) (_ : Nat) (_ : Value) : Except Failure Binding :=
  .error .fixedArguments

/-- The bound positions, whatever they are bound to. -/
def boundPositions (b : Binding) : List Nat :=
  b.arguments.map Prod.fst

/-- The same method and the same set of positions. -/
def sameShape (a b : Binding) : Bool :=
  a.method == b.method && a.arguments.length == b.arguments.length &&
    a.boundPositions.all b.boundPositions.contains

end Binding

end Blueprint
