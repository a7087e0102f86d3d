/-
# Compiling definitions

A definition compiles to a plan: the object is constructed, its fields are assigned in order,
its methods are called in order.  Before anything else its class has to be one that can be
named and instantiated.  A lazy definition compiles to a single placeholder that holds the plan
of the eager one.

Definitions nested in bound values are compiled in place, by recursion on the value.  Values
that a class declares as defaults are no part of the definition, so the recursion leaves what
to do with them to a parameter; `compileUpTo` ties that knot a bounded number of times.  Where
no knowledge of classes is given, values compile as long as no definition is nested in them.
-/
import Blueprint.Resolution

namespace Blueprint

/-- The marks of names that exist only where they were made. -/
def anonymousMarks : List Text :=
  ["<locals>", "<lambda>", "<genexpr>"]

/-- Whether a class path leads through something anonymous. -/
def isAnonymous (className : Text) : Bool :=
  anonymousMarks.any fun mark => Text.occursIn mark className

/-- The class of a definition has to be one that can be named, and instantiated. -/
def checkClass (types : Introspector) (name : Value) (className : Text) : Run Unit := do
  if isAnonymous className then Run.mismatched .anonymousClass
  if ← types.isInstantiable className then return
  if ← types.exists? className then Run.mistaken (.notInstantiable name)
  else Run.mistaken (.missingClass name)

/-- The class that a field is looked up on: the one named for the field, or else the target. -/
def fieldOwner (owner : Value) (className : Text) : Value :=
  if owner.isFalsy then .str className else owner

/-- The field has to exist, to be public and to be writable. -/
def checkField (types : Introspector) (owner : Value) (field : Text) : Run Unit := do
  match ← types.field owner field with
  | none => Run.mismatched (.fieldMissing owner field)
  | some f =>
    if !f.isPublic then Run.mismatched (.fieldNotPublic f.owner f.name)
    else if !f.isWritable then Run.mismatched (.fieldReadOnly f.owner f.name)

/-- A default that does not fit is a mistake of the definition that relies on it. -/
def blameDefault (parameter callable : Text) (x : Run Value) : Run Value :=
  x.recover fun
    | .mismatch cause => Run.mistaken (.uncompilableDefault parameter callable cause)
    | failure => Run.fail failure

/-- Compiles the arguments of a call, each from where it comes. -/
def compileSources (onDefault : Value → Run Value) (callable : Text) :
    List (Parameter × Source (Run Value)) → Run (List Value)
  | [] => pure []
  | (p, source) :: rest => do
    let v ←
      match source with
      | .bound compiled => compiled
      | .declared value => blameDefault p.name callable (onDefault value)
    let vs ← compileSources onDefault callable rest
    return v :: vs

/-- Compiles the arguments of a call from what is bound; a callable that is missing takes none. -/
def compileArguments (onDefault : Value → Run Value) (bound : List (Nat × Option (Run Value))) :
    Option Callable → Run (List Value)
  | none => pure []
  | some c => do
    let sources ← Resolution.resolve bound c
    compileSources onDefault c.name sources

/-- Why a value is no operand.  The value is quoted, which fails where it cannot be written. -/
def Value.refusal (v : Value) : Failure :=
  if v.isWritten then .mismatch (.unsupportedValue v) else .longNumber none

mutual

/-- Compiles a value to an operand. -/
def compileValue (types : Option Introspector) (onDefault : Value → Run Value) :
    Value → Run Value
  | .null => pure .null
  | .bool b => pure (.bool b)
  | .int i => pure (.int i)
  | .float x => pure (.float x)
  | .str s => pure (.str s)
  | .bytes b => pure (.bytes b)
  | .derived form literal => pure (.derived form literal)
  | .reference entry => pure (.reference entry)
  | .useDefault => Run.mismatched .misplacedDefault
  | .definition d => do return .nested d.className (← compileDefinition types onDefault d)
  | .list items => do return .list (← compileItems types onDefault items)
  | .tuple items => do return .tuple (← compileItems types onDefault items)
  | .dict entries => do return .dict (← compileEntries types onDefault entries)
  | .nested className plan => Run.fail (Value.refusal (.nested className plan))
  | .set items => Run.fail (Value.refusal (.set items))
  | .foreign tag => Run.fail (Value.refusal (.foreign tag))
  | .enumMember enumeration member value =>
    Run.fail (Value.refusal (.enumMember enumeration member value))

/-- Compiles the items of a collection. -/
def compileItems (types : Option Introspector) (onDefault : Value → Run Value) :
    List Value → Run (List Value)
  | [] => pure []
  | item :: rest => do
    let v ← compileValue types onDefault item
    let vs ← compileItems types onDefault rest
    return v :: vs

/-- Compiles the values of a dictionary; the keys stay as they are. -/
def compileEntries (types : Option Introspector) (onDefault : Value → Run Value) :
    List (Value × Value) → Run (List (Value × Value))
  | [] => pure []
  | (key, item) :: rest => do
    let v ← compileValue types onDefault item
    let vs ← compileEntries types onDefault rest
    return (key, v) :: vs

/-- Compiles a definition to a plan. -/
def compileDefinition (types : Option Introspector) (onDefault : Value → Run Value) :
    Definition → Run Plan
  | ⟨name, className, isLazy, constructor, fields, methods⟩ =>
    match types with
    | none => Run.mismatched (.noClasses className)
    | some knowledge => Run.within name.entry? do
      checkClass knowledge name className
      let eager : Run Plan := do
        Run.note (.compiling name className)
        let callable ← knowledge.constructor className
        let arguments ←
          compileArguments onDefault (boundOfConstructor types onDefault constructor) callable
        let assignments ← compileFields types knowledge onDefault className fields
        let calls ← compileMethods types knowledge onDefault className methods
        return .construct className arguments (keywordsOf callable) :: (assignments ++ calls)
      if isLazy then do
        Run.note (.compilingLazy name className)
        checkClass knowledge name className
        return [.placeholder className (← eager)]
      else eager

/-- What a constructor binding has for each position, still to be compiled. -/
def boundOfConstructor (types : Option Introspector) (onDefault : Value → Run Value) :
    Option Binding → List (Nat × Option (Run Value))
  | none => []
  | some ⟨_, arguments⟩ => boundArguments types onDefault arguments

/-- What bound positions have, still to be compiled. -/
def boundArguments (types : Option Introspector) (onDefault : Value → Run Value) :
    List (Nat × Value) → List (Nat × Option (Run Value))
  | [] => []
  | (position, value) :: rest =>
    (position, value.explicit?.map fun _ => compileValue types onDefault value) ::
      boundArguments types onDefault rest

/-- Compiles the assignments of fields. -/
def compileFields (types : Option Introspector) (knowledge : Introspector)
    (onDefault : Value → Run Value) (className : Text) : List FieldBinding → Run Plan
  | [] => pure []
  | ⟨field, value, owner⟩ :: rest => do
    checkField knowledge (fieldOwner owner className) field
    let v ← compileValue types onDefault value
    let steps ← compileFields types knowledge onDefault className rest
    return .assign field v :: steps

/-- Compiles the calls of methods. -/
def compileMethods (types : Option Introspector) (knowledge : Introspector)
    (onDefault : Value → Run Value) (className : Text) : List Binding → Run Plan
  | [] => pure []
  | ⟨method, arguments⟩ :: rest => do
    match ← knowledge.method className method with
    | none => Run.mismatched (.methodMissing className method)
    | some callable =>
      let vs ←
        compileArguments onDefault (boundArguments types onDefault arguments) (some callable)
      let steps ← compileMethods types knowledge onDefault className rest
      return .invoke method vs callable.keywords :: steps

end

/-- Compiles a declared default, which may rely on further defaults a bounded number of times. -/
def compileUpTo (types : Introspector) : Nat → Value → Run Value
  | 0, _ => Run.fail .circularDefaults
  | depth + 1, value => compileValue (some types) (compileUpTo types depth) value

/-- Compiles a definition against what is known about classes. -/
def compile (types : Introspector) (d : Definition) : Run Plan :=
  compileDefinition (some types) (compileUpTo types types.depth) d

/-- Compiles a value, with or without knowledge of classes. -/
def compileOperand (types : Option Introspector) (value : Value) : Run Value :=
  match types with
  | some knowledge =>
    compileValue types (compileUpTo knowledge knowledge.depth) value
  | none => compileValue none (fun _ => Run.fail .circularDefaults) value

end Blueprint
