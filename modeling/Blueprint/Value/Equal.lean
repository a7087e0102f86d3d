/-
# Equality of values

Values are compared as the host compares parts of collections, bindings and definitions: numbers by
their value across truth values, whole numbers and doubles, dictionaries without regard to order, a
list never with a tuple.  The host asks first whether two parts are one object.  That matters to
the number that is no number, which is equal to nothing else, and to objects of the host, which are
equal to themselves only.

Of identity a description holds nothing, so it is said along with the two values: whether they share
their objects, as what is read from payloads does, where that number is always the same object; or
are made apart, which is what `==` takes them for.  Values that share their objects are equal to
themselves; those that are made apart need not be, so `==` is no equivalence relation on all values.
-/
import Blueprint.Entries
import Blueprint.Value.Basic

namespace Blueprint

/-- A number as whole number or double, where the literal is one. -/
def Scalar.number? : Scalar → Option (Int ⊕ Double)
  | int i => some (.inl i)
  | float x => some (.inr x)
  | _ => none

/-- A number as whole number or double, where the value is one. -/
def Value.number? : Value → Option (Int ⊕ Double)
  | .bool b => some (.inl (if b then 1 else 0))
  | .int i => some (.inl i)
  | .float x => some (.inr x)
  | .derived _ literal => literal.number?
  | _ => none

/-- Numerical equality across whole numbers and doubles.  The number that is no number equals itself
where it is shared. -/
def numbersEqual (shared : Bool) : Int ⊕ Double → Int ⊕ Double → Bool
  | .inl i, .inl j => i == j
  | .inl i, .inr x => x.eqInt i
  | .inr x, .inl i => x.eqInt i
  | .inr x, .inr y => x.numEq y || (shared && x == .nan && y == .nan)

mutual

/-- Equality of two values, which may share their objects. -/
def Value.equal (shared : Bool) : Value → Value → Bool
  | .null, .null => true
  | .bool a, other =>
    match other.number? with
    | some n => numbersEqual shared (.inl (if a then 1 else 0)) n
    | none => false
  | .int i, other =>
    match other.number? with
    | some n => numbersEqual shared (.inl i) n
    | none => false
  | .float x, other =>
    match other.number? with
    | some n => numbersEqual shared (.inr x) n
    | none => false
  | .str s, other => some (.str s) == other.scalar?
  | .bytes b, other => some (.bytes b) == other.scalar?
  | .list xs, .list ys => equalAll shared xs ys
  | .tuple xs, .tuple ys => equalAll shared xs ys
  | .dict a, .dict b => a.length == b.length && equalEntries shared a b
  | .reference a, .reference b => a.equal shared b
  | .useDefault, .useDefault => true
  | .definition a, .definition b => equalDefinitions shared a b
  | .nested c p, .nested c' p' => c == c' && equalPlans shared p p'
  | .set xs, .set ys => xs.length == ys.length && equalAmong shared xs ys
  | .foreign tag, .foreign tag' => shared && tag == tag'
  | .enumMember e m v, .enumMember e' m' v' =>
    shared && e == e' && m == m' && v.equal shared v'
  | .derived _ literal, other =>
    match literal.number?, other.number? with
    | some m, some n => numbersEqual shared m n
    | none, none => some literal == other.scalar?
    | _, _ => false
  | _, _ => false
termination_by structural v => v

/-- Equality item by item. -/
def equalAll (shared : Bool) : List Value → List Value → Bool
  | [], [] => true
  | x :: xs, y :: ys => x.equal shared y && equalAll shared xs ys
  | _, _ => false
termination_by structural v => v

/-- Every item equals one of the others. -/
def equalAmong (shared : Bool) : List Value → List Value → Bool
  | [], _ => true
  | x :: xs, ys => (ys.any fun y => x.equal shared y) && equalAmong shared xs ys
termination_by structural v => v

/-- Every key with its value is among the others. -/
def equalEntries (shared : Bool) : List (Value × Value) → List (Value × Value) → Bool
  | [], _ => true
  | (key, value) :: rest, others =>
    (others.any fun (key', value') => key.equal shared key' && value.equal shared value') &&
      equalEntries shared rest others
termination_by structural v => v

/-- Every position with its value is among the others. -/
def equalArguments (shared : Bool) : List (Nat × Value) → List (Nat × Value) → Bool
  | [], _ => true
  | (position, value) :: rest, others =>
    (others.any fun (position', value') => position == position' && value.equal shared value') &&
      equalArguments shared rest others
termination_by structural v => v

/-- Equality of bindings: the same method, and the same values at the same positions. -/
def equalBindings (shared : Bool) : Binding → Binding → Bool
  | ⟨m, as⟩, ⟨m', bs⟩ => m == m' && as.length == bs.length && equalArguments shared as bs
termination_by structural v => v

/-- Equality of optional bindings. -/
def equalConstructors (shared : Bool) : Option Binding → Option Binding → Bool
  | none, none => true
  | some a, some b => equalBindings shared a b
  | _, _ => false
termination_by structural v => v

/-- Equality of field bindings one by one. -/
def equalFields (shared : Bool) : List FieldBinding → List FieldBinding → Bool
  | [], [] => true
  | ⟨f, v, o⟩ :: rest, ⟨f', v', o'⟩ :: rest' =>
    f == f' && v.equal shared v' && o.equal shared o' && equalFields shared rest rest'
  | _, _ => false
termination_by structural v => v

/-- Equality of method bindings one by one. -/
def equalMethods (shared : Bool) : List Binding → List Binding → Bool
  | [], [] => true
  | a :: rest, b :: rest' => equalBindings shared a b && equalMethods shared rest rest'
  | _, _ => false
termination_by structural v => v

/-- Equality of definitions part by part. -/
def equalDefinitions (shared : Bool) : Definition → Definition → Bool
  | ⟨n, c, l, k, fs, ms⟩, ⟨n', c', l', k', fs', ms'⟩ =>
    n.equal shared n' && c == c' && l == l' && equalConstructors shared k k' &&
      equalFields shared fs fs' && equalMethods shared ms ms'
termination_by structural v => v

/-- Equality of instructions part by part. -/
def equalInstructions (shared : Bool) : Instruction → Instruction → Bool
  | .construct c as ks, .construct c' as' ks' => c == c' && equalAll shared as as' && ks == ks'
  | .assign f v, .assign f' v' => f == f' && v.equal shared v'
  | .invoke m as ks, .invoke m' as' ks' => m == m' && equalAll shared as as' && ks == ks'
  | .placeholder c p, .placeholder c' p' => c == c' && equalPlans shared p p'
  | .stray v, .stray v' => v.equal shared v'
  | _, _ => false
termination_by structural v => v

/-- Equality of plans step by step. -/
def equalPlans (shared : Bool) : List Instruction → List Instruction → Bool
  | [], [] => true
  | a :: rest, b :: rest' => equalInstructions shared a b && equalPlans shared rest rest'
  | _, _ => false
termination_by structural v => v

end

instance : BEq Value := ⟨Value.equal false⟩

instance : BEq Binding := ⟨equalBindings false⟩

instance : BEq Definition := ⟨equalDefinitions false⟩

namespace Value

/-- A dictionary of keys with their values: a repeated key keeps its first place and takes its
last value. -/
def dictOf (pairs : List (Value × Value)) : Value :=
  .dict (Entries.ofList pairs)

end Value

end Blueprint
