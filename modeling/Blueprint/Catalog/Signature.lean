/-
# Signatures

The parameters of a function with the ways in which they take arguments, and what becomes of
them when the function is bound to an object or a class: the first one is taken by the object,
unless it takes all arguments in order anyway.
-/
import Blueprint.Callable
import Blueprint.Catalog.Description
import Blueprint.Catalog.Name

namespace Blueprint.Catalog

/-- The ways in which a parameter takes arguments. -/
inductive ParameterKind where
  /-- One argument in order. -/
  | positionalOnly
  /-- One argument, in order or by name. -/
  | positional
  /-- All surplus arguments in order. -/
  | variadic
  /-- One argument by name. -/
  | keywordOnly
  /-- All surplus arguments by name. -/
  | keywordVariadic
deriving DecidableEq, Repr

/-- A parameter of a function. -/
structure Formal where
  /-- Its name. -/
  name : Text
  /-- How it takes arguments. -/
  kind : ParameterKind
  /-- What it falls back to. -/
  default : Default

/-- The parameters of a function. -/
abbrev Signature := List Formal

/-- Why the parameters of a callable cannot be told. -/
inductive Unreadable where
  /-- There is no parameter for the object that the function is bound to. -/
  | noReceiver
  /-- It is no callable. -/
  | notCallable (display : Text)
  /-- It is of a sort of which nothing can be told. -/
  | unsupported (display : Text)
  /-- It is a built in class that says nothing about them. -/
  | builtinClass (display : Text)
  /-- It is a built in method that says nothing about them. -/
  | builtin (display : Text)
  /-- What a built in method says about them cannot be read. -/
  | garbled (display : Text)
  /-- Something else stands in the place of a declared signature. -/
  | noSignature (display : Text)
deriving DecidableEq, Repr

/-- Why the parameters of a callable cannot be told, in words. -/
def Unreadable.message : Unreadable → Text
  | noReceiver => "invalid method signature"
  | notCallable display => display ++ " is not a callable object"
  | unsupported display => "callable " ++ display ++ " is not supported by signature"
  | builtinClass display => "no signature found for builtin type " ++ display
  | builtin display => "no signature found for builtin " ++ display
  | garbled display => display ++ " builtin has invalid signature"
  | noSignature display => "unexpected object " ++ display ++ " in __signature__ attribute"

/-- An item of a parameter list in a body that may be that of a class. -/
def SignatureItem.within (className : Option Text) : SignatureItem → SignatureItem
  | parameter name default => parameter (bodyName className name) default
  | variadic name => variadic (bodyName className name)
  | keywordVariadic name => keywordVariadic (bodyName className name)
  | item => item

namespace Signature

/-- A declared default, where there is one. -/
def defaultOf : Option Value → Default
  | none => .required
  | some v => .declared v

/-- The parameters of a list as it is written.  After a mark or a variadic parameter, parameters
are passed by name only. -/
def ofItemsFrom (kind : ParameterKind) : List SignatureItem → Signature
  | [] => []
  | .parameter name default :: rest => ⟨name, kind, defaultOf default⟩ :: ofItemsFrom kind rest
  | .positionalEnd :: rest => ofItemsFrom kind rest
  | .keywordStart :: rest => ofItemsFrom .keywordOnly rest
  | .variadic name :: rest => ⟨name, .variadic, .required⟩ :: ofItemsFrom .keywordOnly rest
  | .keywordVariadic name :: rest => ⟨name, .keywordVariadic, .required⟩ :: ofItemsFrom kind rest

/-- Whether an item is the mark that closes the parameters without names. -/
def isPositionalEnd : SignatureItem → Bool
  | .positionalEnd => true
  | _ => false

/-- The parameters of a list as it is written.  Those before the closing mark have no names for
callers. -/
def ofItems (items : List SignatureItem) : Signature :=
  if items.any isPositionalEnd then
    ofItemsFrom .positionalOnly (items.takeWhile fun item => !isPositionalEnd item) ++
      ofItemsFrom .positional (items.dropWhile fun item => !isPositionalEnd item)
  else ofItemsFrom .positional items

/-- The parameters that are left when a function is bound. -/
def bind : Signature → Except Unreadable Signature
  | [] => .error .noReceiver
  | p :: rest =>
    match p.kind with
    | .positionalOnly | .positional => .ok rest
    | .variadic => .ok (p :: rest)
    | .keywordOnly | .keywordVariadic => .error .noReceiver

/-- Whether a parameter takes a single argument. -/
def isSingle (p : Formal) : Bool :=
  match p.kind with
  | .variadic | .keywordVariadic => false
  | _ => true

/-- The parameters that take a single argument each, as a call has to fill them.  Of a built in
function no default can be read. -/
def parameters (isBuiltin : Bool) (signature : Signature) : List Parameter :=
  (signature.filter isSingle).map fun p =>
    { name := p.name
      default :=
        match p.default with
        | .declared v => if isBuiltin then .unreadable else .declared v
        | other => other
      keywordOnly := p.kind == .keywordOnly }

/-! ## Calls with arguments in order -/

/-- Whether a parameter takes one argument in order. -/
def isInOrder (p : Formal) : Bool :=
  match p.kind with
  | .positionalOnly | .positional => true
  | _ => false

/-- Whether a parameter has no default. -/
def isRequired (p : Formal) : Bool :=
  match p.default with
  | .required => true
  | _ => false

/-- What is wrong with a call that gives a number of arguments in order and none by name. -/
def callFault? (signature : Signature) (given : Nat) : Option CallFault :=
  let inOrder := signature.filter isInOrder
  let names (formals : Signature) := (formals.filter isRequired).map Formal.name
  let missing := names (inOrder.drop given)
  let unnamed := names (signature.filter fun p => p.kind == .keywordOnly)
  if inOrder.length < given && !signature.any fun p => p.kind == .variadic then
    some (.surplus (inOrder.filter isRequired).length inOrder.length given)
  else if !missing.isEmpty then some (.missing false missing)
  else if !unnamed.isEmpty then some (.missing true unnamed)
  else none

end Signature

end Blueprint.Catalog
