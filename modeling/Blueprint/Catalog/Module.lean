/-
# From descriptions to modules

The members of a module are made in their order, and so are those of its classes.  A name is bound
to what its member describes and may be bound again, in which case its annotation stays.  The
names in the body of a class are those of the class so far, then those of the module, then the
built in ones; a class around the class is not searched.  The first member that cannot be made
ends the import.
-/
import Blueprint.Catalog.Basis
import Blueprint.Failure

namespace Blueprint.Catalog

/-! ## Progress -/

/-- How far the making of a module has come. -/
structure Progress where
  /-- The number of classes and of declarations of fields so far. -/
  serial : Nat
  /-- The number of classes so far that were bound in the enumeration that they were made in. -/
  innerClasses : Nat

/-- A part of making a module. -/
abbrev Making (α : Type) : Type := ExceptT Defect (StateM Progress) α

namespace Making

/-- A number that was not given before. -/
def fresh : Making Nat :=
  modifyGet fun p => (p.serial, { p with serial := p.serial + 1 })

/-- A result that needs no progress. -/
def ofExcept {α : Type} (result : Except Defect α) : Making α :=
  ExceptT.mk (pure result)

/-- Counts a class that is bound in the enumeration that it was made in. -/
def noteInnerClass : Making Unit :=
  modify fun p => { p with innerClasses := p.innerClasses + 1 }

end Making

/-! ## Surroundings -/

/-- What surrounds the members of a body. -/
structure Surroundings where
  /-- The path of the module. -/
  moduleName : Text
  /-- What the names start with of what is made here. -/
  path : Text
  /-- The class, if the body is that of one. -/
  className : Option Text
  /-- Whether the body is that of an enumeration. -/
  isEnumeration : Bool
  /-- The names of the module, if the body is that of a class. -/
  globals : Names

/-- What a path stands for that starts at an object. -/
def follow : Object → List Text → Except Defect Object
  | o, [] => .ok o
  | o, name :: rest => do follow (← o.get name) rest

/-- The attribute that holds the path of a module. -/
def moduleNameKey : Text := "__name__"

namespace Surroundings

/-- A name as it is bound in the body. -/
def bound (s : Surroundings) (name : Text) : Text :=
  bodyName s.className name

/-- The path of something that is made in the body. -/
def pathOf (s : Surroundings) (name : Text) : Text :=
  s.path ++ name.normal

/-- What a name stands for in the body, given the names so far. -/
def lookup? (s : Surroundings) (names : Names) (name : Text) : Option Object :=
  (Entries.get? name names).or ((Entries.get? name s.globals).or (Entries.get? name Builtin.names))

/-- What a path stands for in the body. -/
def resolve (s : Surroundings) (names : Names) (path : Text) : Except Defect Object :=
  match (pathParts path).map s.bound with
  | [] => .error (.unknownName path)
  | name :: rest =>
    match s.lookup? names name with
    | some o => follow o rest
    | none => .error (.unknownName name)

/-- What the name of a base stands for. -/
def base (s : Surroundings) (names : Names) (name : Text) : Except Defect Object :=
  match Entries.get? name Builtin.bases with
  | some c => .ok (.cls c)
  | none => s.resolve names name

/-- Binds a name in the body. -/
def store (s : Surroundings) (body : Body) (name : Text) (o : Object) : Making Body :=
  match s.className, s.isEnumeration with
  | some className, true => do
    if Enumeration.isInnerClass className o then Making.noteInnerClass
    Making.ofExcept (Enumeration.bind className body name o)
  | _, _ => return { body with names := Entries.put name o body.names }

/-- The surroundings of the members of a class in the body. -/
def within (s : Surroundings) (names : Names) (name : Text) (basis : Basis) : Surroundings :=
  { moduleName := s.moduleName
    path := s.pathOf name ++ "."
    className := some name.normal
    isEnumeration := basis.isEnumeration
    globals := if s.className.isNone then names else s.globals }

end Surroundings

/-! ## Annotations -/

/-- Annotates a name in a body. -/
def annotate (body : Body) (name : Text) : Except Defect Body :=
  match Entries.get? Layer.annotationsKey body.names with
  | some (.value (.dict entries)) =>
    let annotations : Value := .dict (Entries.put (.str name) .null entries)
    .ok { body with names := Entries.put Layer.annotationsKey (.value annotations) body.names }
  | some (.value (.list _)) => .error .annotationsList
  | some o => .error (.annotationsFixed o.typeName)
  | none => .error (.unknownName Layer.annotationsKey)

/-- Whether a member is annotated. -/
def Member.isAnnotated : Member → Bool
  | plain _ annotated _ _ => annotated
  | _ => false

/-- The annotations that a body starts with, if there are to be any. -/
def initialAnnotations (members : List (Text × Member)) : Names :=
  if members.any fun member => member.2.isAnnotated then
    [(Layer.annotationsKey, .value (.dict []))]
  else []

/-! ## Members -/

/-- What a function of a kind stands for. -/
def FunctionKind.object (kind : FunctionKind) (name : Text) (signature : Signature) : Object :=
  match kind with
  | ofInstance => .function ⟨name, signature, false⟩
  | free => .free ⟨name, signature, false⟩
  | ofClass => .ofClass ⟨name, signature, false⟩
  | toOverride => .function ⟨name, signature, true⟩

/-- What a plain member stands for, if it is bound to anything. -/
def plainObject? (value : Option Value) (factory keywordOnly : Bool) : Making (Option Object) := do
  if factory then return some (.field (← Making.fresh) .unreadable keywordOnly)
  else if keywordOnly then
    return some (.field (← Making.fresh) (Signature.defaultOf value) true)
  else return value.map .value

/-- The names that the body of a class starts with. -/
def initialNames (s : Surroundings) (names : Names) (name : Text) (basis : Basis)
    (slots : Option (List Text)) (members : List (Text × Member)) : Except Defect Names := do
  let inherited ← basis.initialNames name.normal
  let moduleName ← (s.within names name basis).resolve inherited moduleNameKey
  let declared : Names :=
    match slots with
    | none => []
    | some slots => [(slotsKey, .value (.tuple (slots.map .str)))]
  return inherited ++ [(Layer.moduleKey, moduleName),
    (qualifiedKey, .value (.str (s.pathOf name)))] ++ initialAnnotations members ++ declared

mutual

/-- Makes the members of a body in their order. -/
def makeMembers (s : Surroundings) : Body → List (Text × Member) → Making Body
  | body, [] => return body
  | body, (name, member) :: rest => do makeMembers s (← makeMember s body name member) rest

/-- Makes one member of a body. -/
def makeMember (s : Surroundings) (body : Body) (name : Text) : Member → Making Body
  | .nested ⟨bases, slots, isDataclass, members⟩ => do
    let objects ← Making.ofExcept (bases.mapM (s.base body.names))
    let basis ← Making.ofExcept (Basis.ofObjects objects)
    let start ← Making.ofExcept (initialNames s body.names name basis slots members)
    let inner ← makeMembers (s.within body.names name basis) ⟨start, []⟩ members
    let id : ClassId := ⟨s.moduleName, ← Making.fresh⟩
    let made ← Making.ofExcept (basis.make id name.normal inner isDataclass)
    s.store body (s.bound name) made
  | .function items kind =>
    let signature := Signature.ofItems (items.map (SignatureItem.within s.className))
    s.store body (s.bound name) (kind.object (s.pathOf name) signature)
  | .property writable => s.store body (s.bound name) (.property writable)
  | .alias target => do
    s.store body (s.bound name) (← Making.ofExcept (s.resolve body.names target))
  | .plain value annotated factory keywordOnly => do
    let body ←
      match ← plainObject? value factory keywordOnly with
      | some o => s.store body (s.bound name) o
      | none => pure body
    if annotated then Making.ofExcept (annotate body (s.bound name)) else return body

end

/-! ## Modules -/

/-- A module that was made, or could not be made. -/
structure Module where
  /-- Its path. -/
  name : Text
  /-- Whether it can hold other modules. -/
  isPackage : Bool
  /-- Why it cannot be imported, where it cannot. -/
  fault : Option Failure
  /-- Its names. -/
  names : Names
  /-- The number of classes that are bound in the enumeration that they were made in. -/
  innerClasses : Nat

/-- A module that is not even started because of a fault. -/
def ImportFault.module (fault : ImportFault) (name : Text) (isPackage : Bool) : Module :=
  ⟨name, isPackage, some (.moduleMissing fault.name fault.text), [], 0⟩

/-- The surroundings of the members of a module. -/
def moduleSurroundings (name : Text) : Surroundings :=
  ⟨name, "", none, false, []⟩

/-- The names that a module starts with. -/
def moduleStart (d : ModuleDescription) : Body :=
  ⟨(moduleNameKey, .value (.str d.name)) :: initialAnnotations d.attributes, []⟩

/-- The module of a description. -/
def makeModule (d : ModuleDescription) : Module :=
  match d.fault with
  | some fault => fault.module d.name d.isPackage
  | none =>
    match makeMembers (moduleSurroundings d.name) (moduleStart d) d.attributes ⟨0, 0⟩ with
    | (.ok body, p) => ⟨d.name, d.isPackage, none, body.names, p.innerClasses⟩
    | (.error defect, p) => ⟨d.name, d.isPackage, some (.defect defect), [], p.innerClasses⟩

/-- The module of built in classes. -/
def builtins : Module :=
  ⟨builtinModule, false, none, Builtin.names, 0⟩

end Blueprint.Catalog

namespace Blueprint

/-- The modules that can be imported. -/
structure Catalog where
  /-- The modules. -/
  modules : List Catalog.Module

namespace Catalog

/-- The catalog of described modules, next to that of built in classes. -/
def ofDescriptions (descriptions : List ModuleDescription) : Catalog :=
  ⟨builtins :: descriptions.map makeModule⟩

/-- The module of a path. -/
def find? (catalog : Catalog) (name : Text) : Option Module :=
  catalog.modules.find? fun m => m.name == name

end Catalog

end Blueprint
