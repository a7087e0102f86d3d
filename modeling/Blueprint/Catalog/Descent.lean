/-
# New descendants

When a class is made its ancestors are told of it: the first that declares a function for that
is asked, and the function may refuse the call.  Protocols use it to tell protocols from classes
that only provide what a protocol says.  Afterwards the names are collected that are still
abstract.
-/
import Blueprint.Catalog.Attribute

namespace Blueprint.Catalog

/-- What is wrong with a call of an object with a number of arguments in order. -/
def Object.callFault? (o : Object) (given : Nat) : Option Defect :=
  match o with
  | .function f => (f.signature.callFault? given).map (.call f.name)
  | .bound f => (f.signature.callFault? (given + 1)).map (.call f.name)
  | .native .. | .cls _ => none
  | o => some (.notCallable o.typeName)

namespace Class

/-- The same class with a name bound. -/
def put (c : Class) (name : Text) (o : Object) : Class :=
  { c with own := c.own.put name o }

/-- The same class with a name bound that is not bound yet. -/
def putMissing (c : Class) (name : Text) (o : Object) : Class :=
  { c with own := c.own.putMissing name o }

/-! ## Protocols -/

/-- The attribute that tells protocols. -/
def protocolKey : Text := "_is_protocol"

/-- Whether a class says that it is a protocol. -/
def isProtocol (c : Class) : Bool :=
  (c.get? protocolKey).any Object.isTruthy

/-- Whether a protocol may have a class as its base. -/
def suitsProtocol (c : Class) : Bool :=
  c.own.isRoot || c.own.id == Builtin.generic.own.id ||
    (c.hasAncestor Builtin.generic.own.id && c.isProtocol)

/-- The constructor that a protocol gets where it would have none. -/
def protocolConstructor : Function :=
  ⟨"_no_init_or_replace_init",
    [Builtin.parameter "self", Builtin.surplus "args", Builtin.keywords "kwargs"], false⟩

/-- The function by which a protocol tells its descendants. -/
def protocolHook : Function :=
  ⟨"Protocol.__init_subclass__.<locals>._proto_hook", [Builtin.parameter "other"], false⟩

/-- The descendant of a protocol: it is a protocol itself if the base of all protocols is one of its
own bases. -/
def joinProtocols (c : Class) (bases : List Class) : Except Defect Class :=
  let listed := bases.any fun b => b.own.id == Builtin.protocol.own.id
  let marked :=
    if (c.own.get? protocolKey).any Object.isTruthy then c
    else c.put protocolKey (.value (.bool listed))
  let hooked := marked.putMissing "__subclasshook__" (.function protocolHook)
  if !hooked.isProtocol then .ok hooked
  else
    match bases.find? fun b => !b.suitsProtocol with
    | some b => .error (.protocolBase b.display)
    | none =>
      .ok (if hooked.isDefault constructorName then
          hooked.put constructorName (.function protocolConstructor)
        else hooked)

/-! ## Telling ancestors -/

/-- The function that a class has to be told of each new descendant. -/
def descentKey : Text := "__init_subclass__"

/-- Tells ancestors of a new class.  The first that declares a function for that decides; those of
protocols and of generic classes pass the news on before they act. -/
def tellAncestors (c : Class) (bases : List Class) : List Layer → Except Defect Class
  | [] => .ok c
  | l :: rest =>
    match l.get? descentKey with
    | none => c.tellAncestors bases rest
    | some o =>
      if l.id == Builtin.protocol.own.id then do
        joinProtocols (← c.tellAncestors bases rest) bases
      else if l.id == Builtin.generic.own.id then
        (c.tellAncestors bases rest).map fun c => c.put "__parameters__" (.value (.tuple []))
      else do
        match (← o.ofOwner descentKey).callFault? 0 with
        | some defect => .error defect
        | none => .ok c

/-! ## Abstract names -/

/-- The names that are still abstract: own ones, and those of bases that are still so. -/
def openNames (c : Class) (bases : List Class) : List Text :=
  let own := (c.own.attributes.filter fun entry => entry.2.isAbstract).map Prod.fst
  let inherited := (bases.flatMap fun b => b.own.abstractNames.getD []).filter fun name =>
    (c.get? name).any Object.isAbstract
  own ++ inherited.filter fun name => !own.contains name

/-- Collects the names of a class that are still abstract. -/
def collectOpen (c : Class) (bases : List Class) : Class :=
  { c with own := { c.own with abstractNames := some (c.openNames bases) } }

/-- A class that keeps the names of what is still abstract, if it is of such a sort. -/
def trackOpen (c : Class) (bases : List Class) : Class :=
  if c.own.metaclass.extends .abstract then
    ((c.collectOpen bases).put abstractKey (.hidden "frozenset")).put "_abc_impl"
      (.hidden "_abc_data")
  else c

end Class

end Blueprint.Catalog
