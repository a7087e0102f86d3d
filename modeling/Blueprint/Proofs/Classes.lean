/-
# Classes with ordered signatures

The objects of a catalog hold each other: a class has attributes, ancestors and a base, and an
attribute may be a class again.  An object is *sound* if every function in it, however deep, has an
ordered signature, and if every class in it can be called as the function says that decides about
its constructor.  This file shows that taking attributes from sound classes gives sound objects, and
that the built in classes are sound.
-/
import Blueprint.Catalog.Introspection
import Blueprint.Proofs.Signatures

namespace Blueprint.Catalog

/-- The function alone decides about the call that makes an object of a class. -/
structure Class.DecidedBy (c : Class) (f : Function) : Prop where
  /-- Objects are made and not looked up. -/
  made : c.own.metaclass ≠ .enumeration
  /-- The class does not declare a signature. -/
  undeclared : c.get? "__signature__" = none
  /-- The class does not stand for something else. -/
  unwrapped : c.get? "__wrapped__" = none
  /-- The function is the first to make or to initialize objects. -/
  decisive : c.decisive? = some (.function f)

mutual

/-- The functions in an object have ordered signatures. -/
inductive Object.IsSound : Object → Prop where
  | function {f : Function} (h : f.signature.IsOrdered) : Object.IsSound (.function f)
  | free {f : Function} (h : f.signature.IsOrdered) : Object.IsSound (.free f)
  | ofClass {f : Function} (h : f.signature.IsOrdered) : Object.IsSound (.ofClass f)
  | bound {f : Function} (h : f.signature.IsOrdered) : Object.IsSound (.bound f)
  | native {owner name : Text} {signature : Except Unreadable Signature}
      (h : ∀ formals, signature = .ok formals → Signature.IsOrdered formals) :
      Object.IsSound (.native owner name signature)
  | property {writable : Bool} : Object.IsSound (.property writable)
  | value {v : Value} : Object.IsSound (.value v)
  | field {serial : Nat} {default : Default} {keywordOnly : Bool} :
      Object.IsSound (.field serial default keywordOnly)
  | slot {owner name : Text} : Object.IsSound (.slot owner name)
  | stored {typeName : Text} : Object.IsSound (.stored typeName)
  | ofMembers : Object.IsSound .ofMembers
  | hidden {typeName : Text} : Object.IsSound (.hidden typeName)
  | cls {c : Class} (h : Class.IsSound c) : Object.IsSound (.cls c)

/-- The attributes of a layer are sound. -/
inductive Layer.IsSound : Layer → Prop where
  | mk {l : Layer} (h : ∀ e ∈ l.attributes, Object.IsSound e.2) : Layer.IsSound l

/-- What a class is made of is sound, and so is what is known of the call that makes an object. -/
inductive Class.IsSound : Class → Prop where
  | mk {c : Class} (layers : ∀ l ∈ c.layers, Layer.IsSound l)
      (base : ∀ b, c.base = some b → Class.IsSound b)
      (construction : ∀ formals, c.construction = .ok formals → Signature.IsOrdered formals)
      (decided : ∀ f, c.DecidedBy f → c.construction = f.signature.bind) : Class.IsSound c

end

/-- The objects that names stand for are sound. -/
def Names.IsSound (names : Names) : Prop :=
  ∀ e ∈ names, e.2.IsSound

/-- The layers and the base of a class are sound. -/
structure Class.HasSoundParts (c : Class) : Prop where
  layers : ∀ l ∈ c.layers, l.IsSound
  base : ∀ b, c.base = some b → b.IsSound

namespace Class.IsSound

variable {c : Class} (h : c.IsSound)

include h

lemma parts : c.HasSoundParts := by
  cases h with
  | mk layers base _ _ => exact ⟨layers, base⟩

lemma construction {formals : Signature} (hc : c.construction = .ok formals) :
    formals.IsOrdered := by
  cases h with
  | mk _ _ construction _ => exact construction formals hc

lemma decided {f : Function} (hf : c.DecidedBy f) : c.construction = f.signature.bind := by
  cases h with
  | mk _ _ _ decided => exact decided f hf

end Class.IsSound

/-! ## Names and layers -/

namespace Names

variable {names more : Names} {name : Text} {o : Object}

lemma IsSound.get? (h : IsSound names) (ho : Entries.get? name names = some o) : o.IsSound :=
  h _ (Entries.mem_of_get? ho)

lemma IsSound.put (h : IsSound names) (ho : o.IsSound) (name : Text) :
    IsSound (Entries.put name o names) := by
  intro e he
  rcases Entries.mem_put he with hmem | ⟨heq, -⟩
  · exact h e hmem
  · rw [heq]
    exact ho

lemma IsSound.append (h : IsSound names) (h' : IsSound more) : IsSound (names ++ more) := by
  intro e he
  rcases List.mem_append.1 he with he | he
  · exact h e he
  · exact h' e he

lemma IsSound.filter (h : IsSound names) (p : Text × Object → Bool) : IsSound (names.filter p) :=
  fun e he => h e ((List.mem_filter.1 he).1)

end Names

namespace Layer.IsSound

variable {l : Layer} {name : Text} {o : Object}

lemma attributes (h : l.IsSound) : Names.IsSound l.attributes := by
  cases h with
  | mk h => exact h

lemma get? (h : l.IsSound) (ho : l.get? name = some o) : o.IsSound :=
  h.attributes.get? ho

lemma put (h : l.IsSound) (ho : o.IsSound) (name : Text) : (l.put name o).IsSound :=
  .mk (h.attributes.put ho name)

lemma putMissing (h : l.IsSound) (ho : o.IsSound) (name : Text) :
    (l.putMissing name o).IsSound := by
  unfold Layer.putMissing
  split
  · exact h
  · exact h.put ho name

lemma remove (h : l.IsSound) (name : Text) : (l.remove name).IsSound :=
  .mk (h.attributes.filter fun e => e.1 != name)

end Layer.IsSound

/-! ## Objects -/

namespace Object.IsSound

variable {o taken : Object} {name : Text} {formals : Signature}

lemma of_cls {c : Class} (h : (Object.cls c).IsSound) : c.IsSound := by
  cases h with
  | cls h => exact h

lemma ofInstance (h : o.IsSound) : o.ofInstance.IsSound := by
  cases h with
  | function h => exact .bound h
  | free h => exact .function h
  | ofClass h => exact .bound h
  | bound h => exact .bound h
  | @native owner name signature h =>
    rcases signature with fault | formals
    · exact .native nofun
    · exact .native fun rest hrest => (h formals rfl).bind hrest
  | cls h => exact .cls h
  | _ => constructor

lemma ofOwner (h : o.IsSound) (ho : o.ofOwner name = .ok taken) : taken.IsSound := by
  cases h with
  | free h =>
    obtain rfl := Except.ok.inj ho
    exact .function h
  | ofClass h =>
    obtain rfl := Except.ok.inj ho
    exact .bound h
  | ofMembers => exact absurd ho (by simp [Object.ofOwner])
  | _ =>
    obtain rfl := Except.ok.inj ho
    constructor
    all_goals assumption

/-- What is read of the parameters of a sound object is ordered. -/
lemma signature? (h : o.IsSound) (hs : o.signature? = some (.ok formals)) :
    formals.IsOrdered := by
  cases h with
  | function h =>
    obtain rfl := Except.ok.inj (Option.some.inj hs)
    exact h
  | bound h => exact h.bind (Option.some.inj hs)
  | native h => exact h formals (Option.some.inj hs)
  | _ => exact absurd hs (by simp [Object.signature?])

lemma call (h : o.IsSound) (hs : o.call = .ok formals) : formals.IsOrdered := by
  have hother : o.signature?.getD (.error (.notCallable o.display)) = .ok formals →
      formals.IsOrdered := by
    intro hgetD
    rcases hs? : o.signature? with _ | signature <;> rw [hs?] at hgetD
    · exact absurd hgetD (by simp)
    · rw [Option.getD_some] at hgetD
      exact h.signature? (by rw [hs?, hgetD])
  cases h with
  | cls h => exact h.construction hs
  | _ => exact hother hs

end Object.IsSound

/-! ## Built in classes -/

/-- Whether an object is no class and its signature, if it has one, is ordered. -/
def Object.isOrdered : Object → Bool
  | function f | free f | ofClass f | bound f => decide f.signature.IsOrdered
  | native _ _ (.ok formals) => decide (Signature.IsOrdered formals)
  | cls _ => false
  | _ => true

lemma Object.IsSound.of_isOrdered {o : Object} (h : o.isOrdered = true) : o.IsSound := by
  cases o with
  | function f => exact .function (of_decide_eq_true h)
  | free f => exact .free (of_decide_eq_true h)
  | ofClass f => exact .ofClass (of_decide_eq_true h)
  | bound f => exact .bound (of_decide_eq_true h)
  | native owner name signature =>
    rcases signature with fault | formals
    · exact .native nofun
    · refine .native fun formals' heq => ?_
      obtain rfl := Except.ok.inj heq
      exact of_decide_eq_true h
  | cls c => exact absurd h (by simp [isOrdered])
  | _ => constructor

/-- Whether the attributes of a layer are no classes and have ordered signatures. -/
def Layer.isOrdered (l : Layer) : Bool :=
  l.attributes.all fun e => e.2.isOrdered

lemma Layer.IsSound.of_isOrdered {l : Layer} (h : l.isOrdered = true) : l.IsSound :=
  .mk fun e he => .of_isOrdered (List.all_eq_true.1 h e he)

/-- Whether no function is declared that makes or initializes the objects of a class. -/
def Class.isUndecided (c : Class) : Bool :=
  (declared? (c.get? makerName)).isNone && (declared? (c.get? constructorName)).isNone

lemma Class.decisive?_of_isUndecided {c : Class} (h : c.isUndecided = true) :
    c.decisive? = none := by
  obtain ⟨hmaker, hinitializer⟩ := Bool.and_eq_true_iff.1 h
  rw [Option.isNone_iff_eq_none] at hmaker hinitializer
  simp [decisive?, hmaker, hinitializer]

namespace Builtin

/-- The parts of a class with one more layer than its base. -/
lemma extend_parts {own : Layer} {b : Class} (hown : own.isOrdered = true) (hb : b.IsSound)
    (construction : Except Unreadable Signature) :
    (⟨own, b.layers, some b, construction⟩ : Class).HasSoundParts := by
  refine ⟨List.forall_mem_cons.2 ⟨.of_isOrdered hown, hb.parts.layers⟩, ?_⟩
  rintro _ hbase
  obtain rfl := Option.some.inj hbase
  exact hb

lemma isSound_of_undecided {c : Class} (h : c.HasSoundParts)
    (hc : ∀ formals, c.construction = .ok formals → Signature.IsOrdered formals)
    (hnone : c.isUndecided = true) : c.IsSound := by
  refine .mk h.layers h.base hc fun f hf => ?_
  have hdecisive := hf.decisive
  rw [Class.decisive?_of_isUndecided hnone] at hdecisive
  exact absurd hdecisive (by simp)

lemma isSound_of_decisive {c : Class} {f : Function} {s : Signature} (h : c.HasSoundParts)
    (hc : c.construction = .ok s) (hs : s.IsOrdered) (hf : c.decisive? = some (.function f))
    (hbind : f.signature.bind = .ok s) : c.IsSound := by
  refine .mk h.layers h.base (fun formals hformals => ?_) fun g hg => ?_
  · exact hs.of_ok (hc.symm.trans hformals)
  · rw [hg.decisive] at hf
    obtain rfl := Object.function.inj (Option.some.inj hf)
    rw [hc, hbind]

lemma object_isSound : object.IsSound := by
  have hlayer : objectLayer.IsSound := .of_isOrdered (by decide)
  have hparts : object.HasSoundParts := ⟨List.forall_mem_singleton.2 hlayer, nofun⟩
  exact isSound_of_undecided hparts (fun _ => Signature.IsOrdered.of_ok (by decide)) (by decide)

/-- A built in class that adds a layer to its base, with no constructor that is declared. -/
lemma extend_isSound {own : Layer} {b : Class} {s : Signature} (hb : b.IsSound)
    (hown : own.isOrdered = true) (hs : s.IsOrdered)
    (hnone : (⟨own, b.layers, some b, .ok s⟩ : Class).isUndecided = true) :
    (⟨own, b.layers, some b, .ok s⟩ : Class).IsSound :=
  isSound_of_undecided (extend_parts hown hb _) (fun _ => hs.of_ok) hnone

lemma opaqueClass_isSound {own : Layer} {b : Class} (hb : b.IsSound)
    (hown : own.isOrdered = true)
    (hnone : (opaqueClass own b.layers b).isUndecided = true) :
    (opaqueClass own b.layers b).IsSound :=
  isSound_of_undecided (extend_parts hown hb _) nofun hnone

lemma list_isSound : list.IsSound :=
  extend_isSound object_isSound (by decide) (by decide) (by decide)

lemma dict_isSound : dict.IsSound :=
  opaqueClass_isSound object_isSound (by decide) (by decide)

lemma int_isSound : int.IsSound :=
  opaqueClass_isSound object_isSound (by decide) (by decide +kernel)

lemma raisable_isSound : raisable.IsSound :=
  opaqueClass_isSound object_isSound (by decide) (by decide)

lemma exception_isSound : exception.IsSound :=
  opaqueClass_isSound raisable_isSound (by decide) (by decide)

lemma abstractBase_isSound : abstractBase.IsSound :=
  extend_isSound object_isSound (by decide) (by decide) (by decide +kernel)

lemma generic_isSound : generic.IsSound :=
  extend_isSound object_isSound (by decide) (by decide) (by decide +kernel)

lemma protocol_isSound : protocol.IsSound :=
  extend_isSound generic_isSound (by decide) (by decide) (by decide +kernel)

lemma type_isSound : type.IsSound :=
  isSound_of_undecided (extend_parts (by decide) object_isSound _) nofun (by decide)

lemma abstractType_isSound : abstractType.IsSound :=
  isSound_of_decisive (extend_parts (by decide) type_isSound _) rfl (by decide) rfl rfl

lemma protocolType_isSound : protocolType.IsSound :=
  isSound_of_decisive (extend_parts (by decide) abstractType_isSound _) rfl (by decide) rfl rfl

lemma enumerationType_isSound : enumerationType.IsSound :=
  isSound_of_decisive (extend_parts (by decide) type_isSound _) rfl (by decide) rfl rfl

lemma enumeration_isSound : enumeration.IsSound := by
  -- the only attribute that is a class is the root
  have hclasses : enumerationLayer.attributes.filter (fun e => !e.2.isOrdered) =
      ([("_member_type_", .cls object)] : Names) := by rfl
  have hlayer : enumerationLayer.IsSound := by
    refine .mk fun e he => ?_
    cases hordered : e.2.isOrdered with
    | true => exact .of_isOrdered hordered
    | false =>
      have hmem : e ∈ enumerationLayer.attributes.filter fun e => !e.2.isOrdered :=
        List.mem_filter.2 ⟨he, by simp [hordered]⟩
      rw [hclasses, List.mem_singleton] at hmem
      rw [hmem]
      exact .cls object_isSound
  refine .mk (List.forall_mem_cons.2 ⟨hlayer, object_isSound.parts.layers⟩) ?_
    (fun _ => Signature.IsOrdered.of_ok (by decide)) fun f hf => absurd rfl hf.made
  rintro _ hbase
  obtain rfl := Option.some.inj hbase
  exact object_isSound

lemma metaclass_isSound (m : Metaclass) : (metaclass m).IsSound := by
  cases m with
  | plain => exact type_isSound
  | abstract => exact abstractType_isSound
  | protocol => exact protocolType_isSound
  | enumeration => exact enumerationType_isSound

lemma names_isSound : Names.IsSound names := by
  intro e he
  simp only [names, List.mem_cons, List.not_mem_nil, or_false] at he
  rcases he with rfl | rfl | rfl | rfl | rfl | rfl | rfl
  · exact .cls object_isSound
  · exact .cls list_isSound
  · exact .cls dict_isSound
  · exact .cls int_isSound
  · exact .cls type_isSound
  · exact .cls exception_isSound
  · exact .cls raisable_isSound

lemma bases_isSound {e : Text × Class} (he : e ∈ bases) : e.2.IsSound := by
  simp only [bases, List.mem_cons, List.not_mem_nil, or_false] at he
  rcases he with rfl | rfl | rfl | rfl | rfl
  · exact abstractBase_isSound
  · exact protocol_isSound
  · exact enumeration_isSound
  · exact exception_isSound
  · exact list_isSound

end Builtin

/-! ## Attributes of classes -/

lemma declared?_eq_some {found : Option Object} {o : Object} (h : declared? found = some o) :
    found = some o := by
  unfold declared? at h
  split at h
  · exact absurd h (by simp)
  · exact absurd h (by simp)
  · exact absurd h (by simp)
  · exact h

namespace Class.HasSoundParts

variable {c : Class} (h : c.HasSoundParts) {name : Text} {o : Object}

include h

lemma own : c.own.IsSound :=
  h.layers c.own List.mem_cons_self

lemma find? (ho : c.find? name = some o) : o.IsSound := by
  obtain ⟨l, hl, hget⟩ := List.exists_of_findSome?_eq_some ho
  exact (h.layers l hl).get? hget

lemma governed (ho : c.governed name = .ok o) : o.IsSound := by
  have hbase : (c.base.map Object.cls).getD (.value .null) |>.IsSound := by
    rcases hb : c.base with _ | b
    · exact .value
    · exact .cls (h.base b hb)
  have hown : ∀ found taken, c.own.get? name = some found → found.ofOwner name = .ok taken →
      taken.IsSound := fun found taken hfound => (h.own.get? hfound).ofOwner
  unfold Class.governed at ho
  split at ho
  · exact Except.ok.inj ho ▸ .value
  split at ho
  · exact Except.ok.inj ho ▸ .value
  split at ho
  · exact Except.ok.inj ho ▸ .cls (Builtin.metaclass_isSound _)
  split at ho
  · exact Except.ok.inj ho ▸ hbase
  split at ho
  · split at ho
    · exact hown _ _ ‹_› ho
    · split at ho
      · exact absurd ho (by simp)
      split at ho
      · exact absurd ho (by simp)
      split at ho
      · exact Except.ok.inj ho ▸ .value
      · exact Except.ok.inj ho ▸ .hidden
  · exact Except.ok.inj ho ▸ .hidden

/-- What is taken from a class is sound. -/
lemma get (ho : c.get name = .ok o) : o.IsSound := by
  have hmeta := (Builtin.metaclass_isSound c.own.metaclass).parts
  simp only [Class.get] at ho
  split at ho
  · exact h.governed ho
  · rcases hfind : c.find? name with _ | found <;> rw [hfind] at ho
    · rcases hclasses : (Builtin.metaclass c.own.metaclass).find? name with _ | found <;>
        rw [hclasses] at ho
      · exact absurd ho (by simp)
      · exact Except.ok.inj ho ▸ (hmeta.find? hclasses).ofInstance
    · exact (h.find? hfind).ofOwner ho

lemma get? (ho : c.get? name = some o) : o.IsSound := by
  rcases hget : c.get name with defect | found <;> rw [Class.get?, hget] at ho
  · exact absurd ho (by simp [Except.toOption])
  · exact Option.some.inj ho ▸ h.get hget

/-! ## Construction -/

lemma decisive? (ho : c.decisive? = some o) : o.IsSound := by
  have hdeclared : ∀ key : Text, declared? (c.get? key) = some o → o.IsSound :=
    fun key hkey => h.get? (declared?_eq_some hkey)
  obtain ⟨l, -, hl⟩ := List.exists_of_findSome?_eq_some ho
  split at hl
  · exact hdeclared _ hl
  split at hl
  · exact hdeclared _ hl
  · exact absurd hl (by simp)

omit h in
lemma builtinConstruction {formals : Signature} (hc : c.builtinConstruction = .ok formals) :
    formals.IsOrdered := by
  unfold Class.builtinConstruction at hc
  split at hc
  · exact Signature.IsOrdered.of_ok (by decide) hc
  split at hc
  · exact absurd hc (by simp)
  split at hc
  · exact Signature.IsOrdered.of_ok (by decide) hc
  · exact absurd hc (by simp)

lemma inferredConstruction {formals : Signature} (hc : c.inferredConstruction = .ok formals) :
    formals.IsOrdered := by
  unfold Class.inferredConstruction at hc
  split at hc
  · exact Signature.IsOrdered.of_ok (by decide) hc
  -- the class is called as its decisive attribute is, or else as the built in class below it
  rcases hdecisive : c.decisive? with _ | o <;> rw [hdecisive] at hc
  · have hbuiltin : c.builtinConstruction = .ok formals := hc
    exact builtinConstruction hbuiltin
  · rcases hcall : o.call with fault | called <;> simp only [hcall] at hc
    · exact absurd hc (by simp [bind, Except.bind])
    · exact ((h.decisive? hdecisive).call hcall).bind hc

lemma constructionOf {formals : Signature} (hc : c.constructionOf = .ok formals) :
    formals.IsOrdered := by
  unfold Class.constructionOf at hc
  split at hc
  · exact h.inferredConstruction hc
  · exact h.inferredConstruction hc
  · exact absurd hc (by simp)
  · rename_i o _ hwrapped
    rcases hcall : o.call with fault | called <;> rw [hcall] at hc
    · have hfault : Except.error _ = Except.ok _ := hc
      exact absurd hfault (by simp)
    · exact Signature.IsOrdered.of_ok ((h.get? hwrapped).call hcall) hc

/-- A class whose construction follows from its attributes is sound if its parts are. -/
lemma settled : c.settled.IsSound := by
  refine .mk h.layers h.base (fun formals => h.constructionOf) fun f hf => ?_
  have hundeclared : c.get? "__signature__" = none := hf.undeclared
  have hunwrapped : c.get? "__wrapped__" = none := hf.unwrapped
  have hdecisive : c.decisive? = some (.function f) := hf.decisive
  have hmade : (c.own.metaclass == .enumeration) = false :=
    beq_eq_false_iff_ne.2 hf.made
  show c.constructionOf = f.signature.bind
  simp only [Class.constructionOf, hundeclared, hunwrapped, Class.inferredConstruction, hmade,
    hdecisive, Object.call, Object.signature?]
  rfl

end Class.HasSoundParts

lemma Object.IsSound.get {o found : Object} {name : Text} (h : o.IsSound)
    (hf : o.get name = .ok found) : found.IsSound := by
  cases h with
  | cls h => exact h.parts.get hf
  | _ => exact absurd hf (by simp [Object.get])

end Blueprint.Catalog
