/-
# Fields of classes

A field is looked for where attributes are, in the layers of a class one after the other, but with
more to look at in each: a layer may also *announce* a name, by an annotation or as one of its
slots.  So the answer follows from the look up of the attribute, together with what the layers that
the look up goes through announce (`fieldAccess?_eq_announced?`).  The layer of the root, which is
not asked for fields, has no properties.

If the attribute is a property that cannot be written, the field can be written if and only if one
of these layers announces it: an annotation in the class or in a nearer one hides the property from
the search for the field, though not from an object whose field is assigned (`read_only_property`).
A definition compiles to an assignment of such a field in no other case.
-/
import Blueprint.Proofs.Lookup
import Blueprint.Proofs.Truncation

namespace Blueprint

open Run (bind_of_ok bind_of_error)

namespace Catalog

/-! ## Looking attributes up -/

/-- The layers of a class that are asked for fields. -/
def Class.asked (c : Class) : List Layer :=
  c.layers.filter fun l => !l.isRoot

/-- What a name stands for in a layer, if the classes in `annotated` were asked for their
annotations. -/
def Layer.taken? (annotated : List ClassId) (l : Layer) (name : Text) : Option Object :=
  (l.get? name).or
    (if name == annotationsKey && annotated.contains l.id then some (.hidden "dict") else none)

/-- What a name stands for in the first of the layers that has it. -/
def lookUp? (annotated : List ClassId) (name : Text) (layers : List Layer) : Option Object :=
  layers.findSome? fun l => l.taken? annotated name

/-- The layers that the look up of a name goes through, up to the first that has it. -/
def searched (annotated : List ClassId) (name : Text) : List Layer → List Layer
  | [] => []
  | l :: rest => if (l.taken? annotated name).isSome then [l] else l :: searched annotated name rest

/-- Whether a layer announces a name: by an annotation, if it can be told what it annotates, or as
one of its slots. -/
def Layer.announces (l : Layer) (name : Text) : Except Defect Bool := do
  return (← l.annotated).contains name || l.slots.any (· == .str name)

/-- Whether one of the layers announces a name. -/
def announced? (name : Text) : List Layer → Except Defect Bool
  | [] => .ok false
  | l :: rest => do if ← l.announces name then return true else announced? name rest

section Search

variable {annotated : List ClassId} {name : Text} {layers : List Layer} {l : Layer}

/-- No layer announces a name if each says so. -/
lemma announced?_eq_false_iff :
    announced? name layers = .ok false ↔ ∀ l ∈ layers, l.announces name = .ok false := by
  induction layers with
  | nil => exact iff_of_true rfl (List.forall_mem_nil _)
  | cons l rest ih =>
    rw [List.forall_mem_cons, ← ih, announced?]
    rcases l.announces name with defect | _ | _
    · exact iff_of_false nofun fun h => absurd h.1 nofun
    · exact (and_iff_right rfl).symm
    · exact iff_of_false nofun fun h => absurd h.1 nofun

/-- Some layer announces a name if one does, and those before it say that they do not. -/
lemma announced?_eq_true_iff :
    announced? name layers = .ok true ↔ ∃ nearer l farther, layers = nearer ++ l :: farther ∧
      l.announces name = .ok true ∧ ∀ k ∈ nearer, k.announces name = .ok false := by
  constructor
  · intro h
    induction layers with
    | nil => exact absurd h nofun
    | cons l rest ih =>
      rw [announced?] at h
      -- the nearest layer cannot be read, says nothing, or announces the field
      rcases hl : l.announces name with defect | _ | _ <;> rw [hl] at h
      · exact absurd h nofun
      · obtain ⟨nearer, k, farther, rfl, hk, hnearer⟩ := ih h
        exact ⟨l :: nearer, k, farther, rfl, hk, List.forall_mem_cons.2 ⟨hl, hnearer⟩⟩
      · exact ⟨[], l, rest, rfl, hl, List.forall_mem_nil _⟩
  · rintro ⟨nearer, l, farther, rfl, hl, hnearer⟩
    induction nearer with
    | nil =>
      rw [List.nil_append, announced?, hl]
      rfl
    | cons k nearer ih =>
      obtain ⟨hk, hnearer⟩ := List.forall_mem_cons.1 hnearer
      rw [List.cons_append, announced?, hk]
      exact ih hnearer

/-- How a field can be used that is not announced, for what its name stands for: a function is no
field. -/
def Object.access? (o : Object) : Option Bool :=
  if o.isDeclaredFunction then none else some o.isWritable

/-- A layer is asked for what it announces first, and for its attribute then. -/
lemma Layer.fieldAccess?_eq_announces (hroot : l.isRoot = false) :
    l.fieldAccess? annotated name = (l.announces name).map fun announced =>
      if announced then some (some true) else (l.taken? annotated name).map Object.access? := by
  rw [fieldAccess?, hroot, announces]
  rcases l.annotated with defect | names
  · rfl
  have hbind : ∀ {β : Type} (f : List Text → Except Defect β), (Except.ok names >>= f) = f names :=
    fun _ => rfl
  simp only [Bool.false_eq_true, if_false, hbind]
  rcases hannounced : names.contains name || l.slots.any (· == .str name)
  · -- a layer without the name may still have been given annotations
    rw [taken?]
    rcases l.get? name with _ | o
    · rcases name == annotationsKey && annotated.contains l.id <;> rfl
    · rfl
  · rfl

/-- What the layers say about a field follows from the look up of its name and from what is
announced on the way. -/
theorem fieldAccess?_eq_announced? (annotated : List ClassId) (name : Text) (layers : List Layer) :
    fieldAccess? annotated name layers =
      (announced? name (searched annotated name (layers.filter fun l => !l.isRoot))).map
        fun announced => if announced then some true
          else (lookUp? annotated name (layers.filter fun l => !l.isRoot)).bind Object.access? := by
  induction layers with
  | nil => rfl
  | cons l rest ih =>
    rw [fieldAccess?]
    -- the class of all objects is left out of the search
    rcases hroot : l.isRoot
    · rw [List.filter_cons_of_pos (by simp [hroot]), Layer.fieldAccess?_eq_announces hroot,
        searched, lookUp?, List.findSome?_cons]
      -- an object under the name ends the search, unless the layer announces the field itself
      rcases htaken : l.taken? annotated name with _ | o
      · rw [if_neg (by simp), announced?]
        rcases l.announces name with defect | _ | _
        · rfl
        · exact ih
        · rfl
      · rw [if_pos (by simp), announced?]
        rcases l.announces name with defect | _ | _ <;> rfl
    · rw [List.filter_cons_of_neg (by simp [hroot]), ← ih, Layer.fieldAccess?, if_pos hroot]
      rfl

end Search

/-- What the name of a field is the attribute for, in a class. -/
def Class.lookUp? (c : Class) (annotated : List ClassId) (name : Text) : Option Object :=
  Catalog.lookUp? annotated name c.asked

/-- Whether the name of a field is announced on the way to its attribute. -/
def Class.announced? (c : Class) (annotated : List ClassId) (name : Text) : Except Defect Bool :=
  Catalog.announced? name (searched annotated name c.asked)

/-! ## Properties that cannot be written -/

/-- What a class answers about a field that is a property which cannot be written. -/
def readOnlyAnswer (path name : Text) : Except Defect Bool → Except Failure (Option Field)
  | .error defect => .error (.defect defect)
  | .ok announced => .ok (some ⟨name, path, isPublicName name, announced⟩)

/-- What comes of the check before it is assigned. -/
def readOnlyVerdict (path name : Text) : Except Defect Bool → Except Failure Unit
  | .error defect => .error (.defect defect)
  | .ok announced =>
    if !isPublicName name then .error (.mismatch (.fieldNotPublic path name))
    else if announced then .ok () else .error (.mismatch (.fieldReadOnly path name))

/-- A field is assigned only if it is announced, and public. -/
lemma readOnlyVerdict_eq_ok_iff {path name : Text} {announced : Except Defect Bool} :
    readOnlyVerdict path name announced = .ok () ↔
      announced = .ok true ∧ isPublicName name = true := by
  rcases announced with defect | announced
  · exact iff_of_false nofun fun h => absurd h.1 nofun
  · rw [readOnlyVerdict]
    rcases isPublicName name
    · exact iff_of_false nofun fun h => absurd h.2 nofun
    · rcases announced
      · exact iff_of_false nofun fun h => absurd h.1 nofun
      · exact iff_of_true rfl ⟨rfl, rfl⟩

section ReadOnly

variable {catalog : Catalog} {path name : Text} {c : Class} {current : Option Value}
  {world world' : World}
  (hload : catalog.loadClass path current world = (.ok (some c), world'))
  (hfound : c.lookUp? world'.annotated name = some (.property false))

include hload hfound

lemma field_of_readOnly :
    catalog.field (.str path) name current world =
      (readOnlyAnswer path name (c.announced? world'.annotated name), world') := by
  have hrequire : catalog.require path current world = (.ok c, world') := by
    rw [require, bind_of_ok hload]
    rfl
  have haccess : c.field? world'.annotated path name =
      (c.announced? world'.annotated name).map fun announced =>
        some ⟨name, path, isPublicName name, announced⟩ := by
    have hlookUp : Catalog.lookUp? world'.annotated name (c.layers.filter fun l => !l.isRoot) =
        some (.property false) := hfound
    rw [Class.field?, fieldAccess?_eq_announced?, hlookUp, Class.announced?, Class.asked]
    rcases Catalog.announced? name _ with defect | _ | _ <;> rfl
  have hfield : catalog.field (.str path) name current world =
      reached (c.field? world'.annotated path name) current world' := by
    rw [field, bind_of_ok hrequire]
    rfl
  rw [hfield, haccess]
  rcases c.announced? world'.annotated name with defect | announced <;> rfl

lemma checkField_of_readOnly :
    checkField catalog.introspector (.str path) name current world =
      (readOnlyVerdict path name (c.announced? world'.annotated name), world') := by
  have hfield : catalog.introspector.field (.str path) name current world =
      (readOnlyAnswer path name (c.announced? world'.annotated name), world') :=
    field_of_readOnly hload hfound
  rcases hannounced : c.announced? world'.annotated name with defect | announced <;>
    rw [hannounced] at hfield
  · rw [checkField, bind_of_error hfield]
    rfl
  · rw [checkField, bind_of_ok hfield, readOnlyVerdict]
    dsimp only
    rcases isPublicName name
    · rfl
    · rcases announced <;> rfl

end ReadOnly

end Catalog

/-! ## Fields in definitions -/

section Definitions

variable {types : Introspector} {onDefault : Value → Run Value} {d : Definition}
  {caller : Option Value} {start world : World}

/-- Where a definition compiles, its eager plan is made from a world in which it fails for a
definition with other bindings only if that does not compile. -/
lemma exists_eagerPlan {fields : List FieldBinding} {methods : List Binding} {plan : Plan}
    (h : compileDefinition (some types) onDefault (d.withBindings fields methods) caller start =
      (.ok plan, world)) :
    ∃ steps w, eagerPlan types onDefault (d.withBindings fields methods) d.name.entry? w =
        (.ok steps, world) ∧
      ∀ fields' methods' failure w', eagerPlan types onDefault (d.withBindings fields' methods')
          d.name.entry? w = (.error failure, w') →
        compileDefinition (some types) onDefault (d.withBindings fields' methods') caller start =
          (.error failure, w') := by
  rw [compileDefinition_eq, Run.within_apply] at h
  obtain ⟨_, w₁, hcheck, hplan⟩ := Run.bind_eq_ok h
  rw [Definition.withBindings_name, Definition.withBindings_className] at hcheck hplan
  rw [Definition.withBindings_isLazy] at hplan
  by_cases hlazy : d.isLazy = true
  · -- the class is checked once more, and a placeholder put around the plan
    rw [if_pos hlazy] at hplan
    obtain ⟨_, w₂, hnote, hplan⟩ := Run.bind_eq_ok hplan
    obtain ⟨_, w₃, hagain, hplan⟩ := Run.bind_eq_ok hplan
    obtain ⟨steps, w₄, heager, hpure⟩ := Run.bind_eq_ok hplan
    obtain ⟨-, rfl⟩ := Prod.mk.inj hpure
    refine ⟨steps, w₃, heager, fun fields' methods' failure w' hfail => ?_⟩
    rw [compileDefinition_eq, Run.within_apply]
    simp only [Definition.withBindings_name, Definition.withBindings_className,
      Definition.withBindings_isLazy, hlazy, if_true]
    rw [bind_of_ok hcheck, bind_of_ok hnote, bind_of_ok hagain, bind_of_error hfail]
  · rw [if_neg hlazy] at hplan
    refine ⟨plan, w₁, hplan, fun fields' methods' failure w' hfail => ?_⟩
    rw [compileDefinition_eq, Run.within_apply]
    simp only [Definition.withBindings_name, Definition.withBindings_className,
      Definition.withBindings_isLazy, hlazy]
    rw [bind_of_ok hcheck]
    exact hfail

/-- Where the fields before a field are compiled, the definition fails as the check of the field
does. -/
lemma compileDefinition_of_checkField {before after : List FieldBinding} {b : FieldBinding}
    {plan : Plan} {failure : Failure} {w : World} (hfields : d.fields = before ++ b :: after)
    (hbefore : compileDefinition (some types) onDefault (d.withBindings before []) caller start =
      (.ok plan, world))
    (hcheck : checkField types (fieldOwner b.owner d.className) b.field d.name.entry? world =
      (.error failure, w)) :
    compileDefinition (some types) onDefault d caller start = (.error failure, w) := by
  obtain ⟨steps, w₁, heager, hfails⟩ := exists_eagerPlan hbefore
  have hd : d.withBindings (before ++ b :: after) d.methods = d := by
    rw [← hfields]
    cases d
    rfl
  rw [← hd]
  refine hfails _ _ failure w ?_
  rw [eagerPlan_append_fields, bind_of_ok heager, compileFields_cons]
  exact bind_of_error (bind_of_error hcheck)

/-- The compilation of a definition comes to a field, in the world that is left once the fields
before it are compiled. -/
structure ComesToField (types : Introspector) (onDefault : Value → Run Value) (d : Definition)
    (caller : Option Value) (start : World) (b : FieldBinding) (world : World) : Prop where
  exists_before : ∃ before after plan, d.fields = before ++ b :: after ∧
    compileDefinition (some types) onDefault (d.withBindings before []) caller start =
      (.ok plan, world)

end Definitions

namespace Catalog

/-- What comes of a field that is a property which cannot be written. -/
structure ReadOnlyField (catalog : Catalog) (path name : Text) (c : Class) (current : Option Value)
    (world world' : World) : Prop where
  /-- The class has the field, as one that can be written if it is announced. -/
  answered : catalog.field (.str path) name current world =
    (readOnlyAnswer path name (c.announced? world'.annotated name), world')
  /-- It is not said to be one that can be written just if it is not announced. -/
  unwritable_iff : (∀ f, (catalog.field (.str path) name current world).1 = .ok (some f) →
    f.isWritable = false) ↔ c.announced? world'.annotated name ≠ .ok true
  /-- It is not announced if none of the classes up to that of the property announces it. -/
  unannounced_iff : c.announced? world'.annotated name = .ok false ↔
    ∀ l ∈ searched world'.annotated name c.asked, l.announces name = .ok false
  /-- It is announced if one of these classes announces it, and those nearer do not. -/
  announced_iff : c.announced? world'.annotated name = .ok true ↔ ∃ nearer l farther,
    searched world'.annotated name c.asked = nearer ++ l :: farther ∧
      l.announces name = .ok true ∧ ∀ k ∈ nearer, k.announces name = .ok false
  /-- A definition that comes to the field is refused unless it is announced and public. -/
  refused : ∀ onDefault d caller start b failure,
    ComesToField catalog.introspector onDefault d caller start b world →
      fieldOwner b.owner d.className = .str path → b.field = name → d.name.entry? = current →
        readOnlyVerdict path name (c.announced? world'.annotated name) = .error failure →
          compileDefinition (some catalog.introspector) onDefault d caller start =
            (.error failure, world')
  /-- So a definition that compiles assigns the field only if it is announced, and public. -/
  assigned : ∀ onDefault d caller start b plan w,
    ComesToField catalog.introspector onDefault d caller start b world →
      fieldOwner b.owner d.className = .str path → b.field = name → d.name.entry? = current →
        compileDefinition (some catalog.introspector) onDefault d caller start = (.ok plan, w) →
          c.announced? world'.annotated name = .ok true ∧ isPublicName name = true

/-- A field whose attribute is a property that cannot be written is said to be one that can, and is
assigned, if and only if its name is announced by a class up to that of the property. -/
theorem read_only_property {catalog : Catalog} {path name : Text} {c : Class}
    {current : Option Value} {world world' : World}
    (hload : catalog.loadClass path current world = (.ok (some c), world'))
    (hfound : c.lookUp? world'.annotated name = some (.property false)) :
    ReadOnlyField catalog path name c current world world' := by
  have hanswered := field_of_readOnly hload hfound
  have hrefused : ∀ onDefault d caller start b failure,
      ComesToField catalog.introspector onDefault d caller start b world →
        fieldOwner b.owner d.className = .str path → b.field = name → d.name.entry? = current →
          readOnlyVerdict path name (c.announced? world'.annotated name) = .error failure →
            compileDefinition (some catalog.introspector) onDefault d caller start =
              (.error failure, world') := by
    rintro onDefault d caller start b failure ⟨before, after, plan, hfields, hbefore⟩ howner rfl rfl
      hverdict
    refine compileDefinition_of_checkField hfields hbefore ?_
    rw [howner, checkField_of_readOnly hload hfound, hverdict]
  refine ⟨hanswered, ?_, announced?_eq_false_iff, announced?_eq_true_iff, hrefused, ?_⟩
  · -- the field is given out as writable exactly if a layer announces it
    rw [hanswered]
    rcases c.announced? world'.annotated name with defect | _ | _
    · exact iff_of_true nofun nofun
    · refine iff_of_true (fun f hf => ?_) nofun
      rw [← Option.some.inj (Except.ok.inj hf)]
    · exact iff_of_false (fun h => absurd (h _ rfl) nofun) fun h => h rfl
  · intro onDefault d caller start b plan w hcomes howner hfield hentry hplan
    -- with a plan in hand the verdict was no failure
    rcases hverdict : readOnlyVerdict path name (c.announced? world'.annotated name) with
      failure | _
    · rw [hrefused onDefault d caller start b failure hcomes howner hfield hentry hverdict] at hplan
      exact absurd (congrArg Prod.fst hplan) nofun
    · exact readOnlyVerdict_eq_ok_iff.1 hverdict

/-- Three classes.  The second and the third inherit a property that cannot be written, which the
second annotates. -/
def aviary : ModuleDescription :=
  let bird : ClassDescription := ⟨[], none, false, [("song", .property false)]⟩
  let parrot : ClassDescription := ⟨["Bird"], none, false, [("song", .plain none true false false)]⟩
  let crow : ClassDescription := ⟨["Bird"], none, false, []⟩
  ⟨"zoo", false, none, [("Bird", .nested bird), ("Parrot", .nested parrot), ("Crow", .nested crow)]⟩

/-- Whether a class that is found has a field whose attribute is a property that cannot be written,
and that is announced or not. -/
def showsReadOnly (announced : Bool) (name : Text) : Except Failure (Option Class) × World → Bool
  | (.ok (some c), world) =>
    (match c.lookUp? world.annotated name with
      | some (.property false) => true
      | _ => false) &&
    (match c.announced? world.annotated name with
      | .ok announced' => announced' == announced
      | .error _ => false)
  | _ => false

lemma exists_of_showsReadOnly {announced : Bool} {name : Text}
    {outcome : Except Failure (Option Class) × World}
    (h : showsReadOnly announced name outcome = true) :
    ∃ c world, outcome = (.ok (some c), world) ∧
      c.lookUp? world.annotated name = some (.property false) ∧
        c.announced? world.annotated name = .ok announced := by
  rcases outcome with ⟨failure | _ | c, world⟩
  · exact absurd h nofun
  · exact absurd h nofun
  obtain ⟨hfound, hannounced⟩ := Bool.and_eq_true_iff.1 h
  refine ⟨c, world, rfl, ?_, ?_⟩
  · split at hfound
    · assumption
    · exact absurd hfound nofun
  · split at hannounced
    · rename_i heq
      rw [heq, eq_of_beq hannounced]
    · exact absurd hannounced nofun

/-- The property is said to be one that can be written where it is annotated, and only there. -/
theorem aviary_readOnly :
    (∃ c world', ReadOnlyField (ofDescriptions [aviary]) "zoo.Parrot" "song" c none {} world' ∧
        c.announced? world'.annotated "song" = .ok true) ∧
      ∃ c world', ReadOnlyField (ofDescriptions [aviary]) "zoo.Crow" "song" c none {} world' ∧
        c.announced? world'.annotated "song" = .ok false := by
  have hparrot : showsReadOnly true "song"
      ((ofDescriptions [aviary]).loadClass "zoo.Parrot" none {}) = true := by decide +kernel
  have hcrow : showsReadOnly false "song"
      ((ofDescriptions [aviary]).loadClass "zoo.Crow" none {}) = true := by decide +kernel
  obtain ⟨c, w, hload, hfound, hannounced⟩ := exists_of_showsReadOnly hparrot
  obtain ⟨c', w', hload', hfound', hannounced'⟩ := exists_of_showsReadOnly hcrow
  exact ⟨⟨c, w, read_only_property hload hfound, hannounced⟩,
    c', w', read_only_property hload' hfound', hannounced'⟩

end Catalog

end Blueprint
