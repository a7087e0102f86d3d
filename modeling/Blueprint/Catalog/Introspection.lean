/-
# What classes of a catalog tell

The questions about classes, answered from a catalog.  A constructor or a method is found where
attribute lookup finds it, and its parameters are those that are left for callers.  A field is
found at the first ancestor that annotates it, has a slot for it or has an attribute of its
name; a function there ends the search.
-/
import Blueprint.Catalog.Lookup
import Blueprint.Value.Equal

namespace Blueprint.Catalog

/-! ## Classes -/

namespace Class

/-- Whether objects of a class can be made directly: nothing of it is abstract, and it is neither
protocol nor enumeration. -/
def isInstantiable (c : Class) : Bool :=
  (c.own.abstractNames.getD []).isEmpty && !c.isProtocol &&
    !c.hasAncestor Builtin.enumeration.own.id

/-- Whether a name leads to a built in function. -/
def isBuiltinUnder (c : Class) (name : Text) : Bool :=
  (c.get? name).any Object.isBuiltin

/-- Whether nothing of the constructor is declared by a description. -/
def hasBuiltinConstructor (c : Class) : Bool :=
  c.isBuiltinUnder constructorName && c.isBuiltinUnder makerName

/-- A callable with a signature, which may be unreadable. -/
def callable (name : Text) (isBuiltin : Bool) (signature : Except Unreadable Signature) :
    Except Unreadable (Option Callable) :=
  signature.map fun formals => some ⟨name, formals.parameters isBuiltin⟩

/-- The constructor, unless all that is said of it is said by the root; else what keeps it from
being read. -/
def constructor (c : Class) : Except Unreadable (Option Callable) :=
  if c.isDefault constructorName && c.isDefault makerName then .ok none
  else callable constructorName c.hasBuiltinConstructor c.construction

/-- Whether a function of a class takes no parameter for an object. -/
def isDetached : Object → Bool
  | .free _ | .ofClass _ => true
  | _ => false

/-- The parameters of an object that is no class, if it can be called, as an object of the class
passes them. -/
def methodSignature? (found taken : Object) : Option (Except Unreadable Signature) :=
  taken.signature?.map fun signature =>
    if isDetached found then signature else signature.map fun formals => formals.drop 1

/-- The method of a name, where there is one; else what keeps it from being read.  The attribute
itself may be out of reach. -/
def method (c : Class) (name : Text) : Except Defect (Except Unreadable (Option Callable)) :=
  match c.static? name with
  | none => .ok (.ok none)
  | some found => do
    let taken ← c.get name
    match methodSignature? found taken with
    | none => return .ok none
    | some signature => return callable name taken.isBuiltin signature

end Class

/-! ## Fields -/

/-- The annotated names of a layer, unless something else stands in their place. -/
def Layer.annotated (l : Layer) : Except Defect (List Text) :=
  match l.get? annotationsKey with
  | none | some (.value .null) | some (.value (.dict _)) | some (.stored _) => .ok l.annotations
  | some _ => .error (.annotationsType l.display)

/-- Whether an object is a function as a class declares it. -/
def Object.isDeclaredFunction : Object → Bool
  | .function _ | .free _ | .ofClass _ => true
  | _ => false

/-- Whether the value under a name can be written, for what the name stands for. -/
def Object.isWritable : Object → Bool
  | .property writable => writable
  | _ => true

/-- What one layer says about a field: whether it can be written, if it is one; or nothing, so
that the next is asked.  `annotated` are the classes that were asked for their annotations. -/
def Layer.fieldAccess? (annotated : List ClassId) (l : Layer) (name : Text) :
    Except Defect (Option (Option Bool)) := do
  if l.isRoot then return none
  if (← l.annotated).contains name || l.slots.any (· == .str name) then
    return some (some true)
  match l.get? name with
  | none => return if name == annotationsKey && annotated.contains l.id then some true else none
  | some o => return some (if o.isDeclaredFunction then none else some o.isWritable)

/-- What the first layer that knows of a field says about it. -/
def fieldAccess? (annotated : List ClassId) (name : Text) :
    List Layer → Except Defect (Option Bool)
  | [] => .ok none
  | l :: rest => do
    match ← l.fieldAccess? annotated name with
    | some answer => return answer
    | none => fieldAccess? annotated name rest

/-- Whether a name is meant for others: it does not start with an underscore. -/
def isPublicName (name : Text) : Bool :=
  !Text.startsWith "_" name

/-- The field of a name, asked of a class under a path. -/
def Class.field? (c : Class) (annotated : List ClassId) (path name : Text) :
    Except Defect (Option Field) := do
  return (← Catalog.fieldAccess? annotated name c.layers).map fun writable =>
    ⟨name, path, isPublicName name, writable⟩

/-! ## Answers -/

/-- The class of a path, which has to exist. -/
def require (catalog : Catalog) (path : Text) : Run Class := do
  match ← catalog.loadClass path with
  | some c => return c
  | none => Run.mistaken (.unknownClass (.str path))

/-- Whether something that can be searched holds a colon. -/
def holdsColon : Value → Bool
  | .list items | .tuple items | .set items => items.any (· == .str ":")
  | .dict entries => entries.any fun e => e.1 == .str ":"
  | _ => false

/-- Why the owner of a field is no class path: it cannot be searched for a colon, or it cannot be
split. -/
def ownerFailure (owner : Value) : Failure :=
  match owner with
  | .list _ | .tuple _ | .set _ | .dict _ =>
    .noOperation owner.typeName (if holdsColon owner then "partition" else "split")
  | .bytes _ => .needsBytes
  | _ => .notSearchable owner.typeName

/-- What an attribute comes to that may be out of reach. -/
def reached {α : Type} : Except Defect α → Run α
  | .ok a => return a
  | .error defect => Run.fail (.defect defect)

/-- The field of a class of a catalog. -/
def field (catalog : Catalog) (owner : Value) (name : Text) : Run (Option Field) :=
  match owner with
  | .str path => do
    let c ← catalog.require path
    reached (c.field? (← Run.annotated) path name)
  | owner => Run.fail (ownerFailure owner)

/-- The constructor of a class of a catalog. -/
def constructor (catalog : Catalog) (path : Text) : Run (Option Callable) := do
  match (← catalog.require path).constructor with
  | .ok callable => return callable
  | .error cause => Run.mistaken (.unreadableConstructor path cause.message)

/-- A method of a class of a catalog.  A class that is asked for its annotations gets some. -/
def method (catalog : Catalog) (path name : Text) : Run (Option Callable) := do
  let c ← catalog.require path
  let found ← reached (c.method name)
  if name == Layer.annotationsKey then Run.markAnnotated c.own.id
  match found with
  | .ok callable => return callable
  | .error cause => Run.mistaken (.unreadableSignature name path cause.message)

mutual

/-- The number of parameters of an object and its parts whose defaults may be needed. -/
def Object.defaultCount : Object → Nat
  | .function f | .free f | .ofClass f | .bound f => f.signature.length
  | .cls ⟨own, ancestors, _, _⟩ => own.defaultCount + layersDefaultCount ancestors
  | _ => 0

/-- The number of defaults of a layer. -/
def Layer.defaultCount : Layer → Nat
  | ⟨_, _, _, _, attributes, _, _, _⟩ => namesDefaultCount attributes

/-- The number of defaults of layers. -/
def layersDefaultCount : List Layer → Nat
  | [] => 0
  | l :: rest => l.defaultCount + layersDefaultCount rest

/-- The number of defaults of names. -/
def namesDefaultCount : List (Text × Object) → Nat
  | [] => 0
  | (_, o) :: rest => o.defaultCount + namesDefaultCount rest

end

/-- The number of defaults of all modules. -/
def defaultCount (catalog : Catalog) : Nat :=
  catalog.modules.foldr (fun m count => namesDefaultCount m.names + count) 0

/-- The answers of a catalog.  A chain of defaults that need one another in turn and comes to an
end uses no default twice with the same modules imported, and each import adds a module. -/
def introspector (catalog : Catalog) : Introspector :=
  { exists? := fun path => do return (← catalog.loadClass path).isSome
    isInstantiable := fun path => do
      return (← catalog.loadClass path).any Class.isInstantiable
    constructor := catalog.constructor
    method := catalog.method
    field := catalog.field
    depth := (catalog.defaultCount + 1) * (catalog.modules.length + 1) }

end Blueprint.Catalog
