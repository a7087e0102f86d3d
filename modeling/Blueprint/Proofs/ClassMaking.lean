/-
# Classes that are made are sound

A class is made in steps: its body is read, its ancestors are put in order and told of it, and what
its sort asks for is added.  Every step takes sound objects to sound ones, so that the modules of
descriptions with legal signatures hold nothing but sound objects.
-/
import Blueprint.Proofs.Classes

namespace Blueprint.Catalog

section Results

variable {ε α β : Type} {x : Except ε α}

lemma ok_of_bind {f : α → Except ε β} {b : β} (h : (x >>= f) = .ok b) :
    ∃ a, x = .ok a ∧ f a = .ok b := by
  rcases x with e | a
  · exact absurd h (by simp [bind, Except.bind])
  · exact ⟨a, rfl, h⟩

lemma ok_of_map {f : α → β} {b : β} (h : x.map f = .ok b) : ∃ a, x = .ok a ∧ f a = b := by
  rcases x with e | a
  · exact absurd h (by simp [Except.map])
  · exact ⟨a, rfl, Except.ok.inj h⟩

lemma forall_of_mapM_ok {f : α → Except ε β} {P : β → Prop} {as : List α}
    {bs : List β} (hf : ∀ a b, f a = .ok b → P b) (h : as.mapM f = .ok bs) : ∀ b ∈ bs, P b := by
  induction as generalizing bs with
  | nil =>
    obtain rfl : [] = bs := Except.ok.inj h
    exact List.forall_mem_nil _
  | cons a rest ih =>
    rw [List.mapM_cons] at h
    obtain ⟨b, hb, h⟩ := ok_of_bind h
    obtain ⟨more, hmore, h⟩ := ok_of_bind h
    rw [← Except.ok.inj h]
    exact List.forall_mem_cons.2 ⟨hf a b hb, ih hmore⟩

end Results

/-! ## Changing a class -/

namespace Class.HasSoundParts

variable {c c' : Class} (h : c.HasSoundParts) {bases : List Class} {name : Text} {o : Object}

include h

/-- The class with another layer of its own. -/
lemma withOwn {l : Layer} (hl : l.IsSound) : ({ c with own := l } : Class).HasSoundParts :=
  ⟨List.forall_mem_cons.2 ⟨hl, fun l hl => h.layers l (List.mem_cons_of_mem _ hl)⟩, h.base⟩

/-- The class with something else recorded of it. -/
lemma withSameAttributes {l : Layer} (hl : l.attributes = c.own.attributes) :
    ({ c with own := l } : Class).HasSoundParts := by
  refine h.withOwn (.mk ?_)
  rw [hl]
  exact h.own.attributes

lemma put (ho : o.IsSound) (name : Text) : (c.put name o).HasSoundParts :=
  h.withOwn (h.own.put ho name)

lemma putMissing (ho : o.IsSound) (name : Text) : (c.putMissing name o).HasSoundParts :=
  h.withOwn (h.own.putMissing ho name)

lemma collectOpen (bases : List Class) : (c.collectOpen bases).HasSoundParts :=
  h.withSameAttributes rfl

lemma trackOpen (bases : List Class) : (c.trackOpen bases).HasSoundParts := by
  unfold Class.trackOpen
  split
  · exact ((h.collectOpen bases).put .hidden _).put .hidden _
  · exact h

/-! ## Telling ancestors -/

lemma joinProtocols (hc : c.joinProtocols bases = .ok c') : c'.HasSoundParts := by
  have hmarked : ∀ listed : Bool, (if (c.own.get? Class.protocolKey).any Object.isTruthy then c
      else c.put Class.protocolKey (.value (.bool listed))).HasSoundParts := by
    intro listed
    split
    · exact h
    · exact h.put .value _
  have hhooked := (hmarked (bases.any fun b => b.own.id == Builtin.protocol.own.id)).putMissing
    (.function (by decide : Class.protocolHook.signature.IsOrdered)) "__subclasshook__"
  unfold Class.joinProtocols at hc
  dsimp only at hc
  generalize Class.putMissing _ "__subclasshook__" _ = hooked at hc hhooked
  -- only a protocol without a constructor of its own gets the one that protocols have
  split at hc
  · exact Except.ok.inj hc ▸ hhooked
  · split at hc
    · exact absurd hc (by simp)
    · rw [← Except.ok.inj hc]
      split
      · exact hhooked.put (.function (by decide)) _
      · exact hhooked

lemma tellAncestors {layers : List Layer} (hc : c.tellAncestors bases layers = .ok c') :
    c'.HasSoundParts := by
  induction layers generalizing c' with
  | nil => exact Except.ok.inj hc ▸ h
  | cons l rest ih =>
    unfold Class.tellAncestors at hc
    split at hc
    · exact ih hc
    split at hc
    · obtain ⟨told, htold, hc⟩ := ok_of_bind hc
      exact (ih htold).joinProtocols hc
    split at hc
    · obtain ⟨told, htold, rfl⟩ := ok_of_map hc
      exact (ih htold).put .value _
    · obtain ⟨hook, -, hc⟩ := ok_of_bind hc
      split at hc
      · exact absurd hc (by simp)
      · exact Except.ok.inj hc ▸ h

/-! ## Data classes -/

lemma settleFields {fields : List DataField} (hc : c.settleFields fields = .ok c') :
    c'.HasSoundParts := by
  induction fields generalizing c with
  | nil => exact Except.ok.inj hc ▸ h
  | cons f rest ih =>
    unfold Class.settleFields at hc
    -- the declaration of a field gives way to the default, or goes where there is none
    split at hc
    · exact ih (h.put .value _) hc
    · split at hc
      · exact ih (h.withOwn (h.own.remove f.name)) hc
      · exact absurd hc (by simp)
    · exact ih h hc

lemma withDataFunctions {fields : List DataField} (hfields : (fieldNames fields).Nodup)
    (inOrder : List DataField) : (c.withDataFunctions fields inOrder).HasSoundParts := by
  have hhash : ∀ {c : Class} (unhashed : Bool), c.HasSoundParts →
      (if unhashed then c.put Class.hashKey (.value .null) else c).HasSoundParts := by
    intro c unhashed hc
    split
    · exact hc.put .value _
    · exact hc
  have hdoc : ∀ {c : Class}, c.HasSoundParts →
      (if (c.get? "__doc__").any Object.isTruthy then c
        else c.put "__doc__" (.hidden "str")).HasSoundParts := by
    intro c hc
    split
    · exact hc
    · exact hc.put .hidden _
  have hfunctions : ∀ {c : Class} (name : Text) {formals : Signature} (key : Text),
      c.HasSoundParts → formals.IsOrdered →
      (c.putMissing key (c.dataFunction name formals)).HasSoundParts :=
    fun _ _ key hc hformals => hc.putMissing (.function hformals) key
  refine HasSoundParts.putMissing (hdoc (hhash _ ?_)) .value _
  refine hfunctions _ _ (hfunctions _ _ (hfunctions _ _ h ?_) ?_) ?_
  · exact dataConstructor_isOrdered hfields
  · decide
  · decide

lemma makeData (hc : c.makeData bases = .ok c') : c'.HasSoundParts := by
  have hthrow : ∀ {defect : Defect} {next : Unit → Except Defect Class},
      (throw defect >>= next : Except Defect Class) ≠ .ok c' := nofun
  obtain ⟨declared, -, hc⟩ := ok_of_bind hc
  obtain ⟨settled, hsettled, hc⟩ := ok_of_bind hc
  have hparts := (h.put .hidden _).settleFields hsettled
  have hnames := putFields_nodup (inheritedFields_nodup settled.ancestors) (namedFields declared)
  have hdict : (Object.hidden "dict").IsSound := .hidden
  have hmade := (hparts.put hdict "__dataclass_fields__").withDataFunctions hnames
  dsimp only at hc
  split at hc
  · exact absurd hc hthrow
  split at hc
  · exact absurd hc hthrow
  rw [← Except.ok.inj hc]
  split
  · refine HasSoundParts.collectOpen ((hmade _).withSameAttributes ?_) _
    rfl
  · refine (hmade _).withSameAttributes ?_
    rfl

end Class.HasSoundParts

/-! ## Enumerations -/

namespace Enumeration

variable {bases : List Class} {body body' : Body} {c c' : Class} {o : Object}

lemma bind_isSound {className name : Text} (h : Names.IsSound body.names) (ho : o.IsSound)
    (hb : bind className body name o = .ok body') : Names.IsSound body'.names := by
  -- wherever the binding goes through, the name is put among those of the body
  have hput : Names.IsSound (Entries.put name o body.names) := h.put ho name
  unfold bind at hb
  dsimp only at hb
  split at hb
  · exact Except.ok.inj hb ▸ hput
  split at hb
  · split at hb
    · exact Except.ok.inj hb ▸ hput
    · exact absurd hb (by simp)
  split at hb
  · exact Except.ok.inj hb ▸ hput
  split at hb
  · exact absurd hb (by simp)
  split at hb
  · exact Except.ok.inj hb ▸ hput
  split at hb
  · exact absurd hb (by simp)
  · exact Except.ok.inj hb ▸ hput

lemma initialNames_isSound (h : c.IsSound) : Names.IsSound (initialNames c) := by
  refine List.forall_mem_singleton.2 ?_
  rcases hget : c.get? nextValueKey with _ | o
  · exact .value
  · exact h.parts.get? hget

lemma parent_isSound {className : Text} (h : ∀ b ∈ bases, b.IsSound)
    (hc : parent className bases = .ok c) : c.IsSound := by
  unfold parent at hc
  split at hc
  · exact absurd hc (by simp)
  dsimp only at hc
  split at hc
  · exact absurd hc (by simp)
  · split at hc
    · exact absurd hc (by simp)
    split at hc
    · exact Except.ok.inj hc ▸ h _ (List.mem_of_getLast? ‹_›)
    · exact absurd hc (by simp)

lemma valueTypeOf?_isSound {t : Class} (h : c.IsSound) (ht : valueTypeOf? c = some t) :
    t.IsSound := by
  unfold valueTypeOf? at ht
  split at ht
  · split at ht
    · split at ht
      · exact absurd ht (by simp)
      · exact Option.some.inj ht ▸ (h.parts.get? ‹_›).of_cls
    · exact absurd ht (by simp)
  split at ht
  · exact Option.some.inj ht ▸ h
  · exact absurd ht (by simp)

lemma valueType?_isSound {t : Class} (h : ∀ b ∈ bases, b.IsSound)
    (ht : valueType? bases = some t) : t.IsSound := by
  obtain ⟨b, hb, htype⟩ := List.exists_of_findSome?_eq_some ht
  exact valueTypeOf?_isSound (h b hb) htype

lemma memberMaker?_isSound {names : Names} (hbases : ∀ b ∈ bases, b.IsSound)
    (hnames : Names.IsSound names) (ho : memberMaker? bases names = some o) : o.IsSound := by
  have hunder : ∀ (name : Text) (c : Option Class), (∀ t, c = some t → t.IsSound) →
      special? (c.bind fun c => c.get? name) = some o → o.IsSound := by
    intro name c hc hspecial
    obtain ⟨hfound, -⟩ := Option.filter_eq_some_iff.1 hspecial
    obtain ⟨t, ht, hget⟩ := Option.bind_eq_some_iff.1 hfound
    exact (hc t ht).parts.get? hget
  have htype : ∀ t, valueType? bases = some t → t.IsSound := fun t => valueType?_isSound hbases
  have hlast : ∀ t, bases.getLast? = some t → t.IsSound :=
    fun t ht => hbases t (List.mem_of_getLast? ht)
  simp only [memberMaker?, Option.or_eq_some_iff] at ho
  rcases ho with ho | ⟨-, ho | ⟨-, ho | ⟨-, ho⟩⟩⟩
  · exact hnames.get? (declared?_eq_some ho)
  · exact hunder _ _ htype ho
  · exact hunder _ _ hlast ho
  · exact hunder _ _ htype ho

lemma putAll_isSound {own names : Names} (hown : Names.IsSound own)
    (hnames : Names.IsSound names) :
    Names.IsSound (own.foldl (fun names entry => Entries.put entry.1 entry.2 names) names) := by
  induction own generalizing names with
  | nil => exact hnames
  | cons e rest ih =>
    obtain ⟨he, hrest⟩ := List.forall_mem_cons.1 hown
    exact ih hrest (hnames.put he e.1)

lemma attributes_isSound (hbases : ∀ b ∈ bases, b.IsSound) (hbody : Names.IsSound body.names) :
    Names.IsSound (attributes bases body) := by
  have hnames := hbody.filter fun entry => !orderKeys.contains entry.1
  refine putAll_isSound ?_ ?_
  · have hmaker : ∀ maker : Option Object, (∀ o, maker = some o → o.IsSound) →
        (maker.getD (.native "object" makerName (.ok []))).IsSound := by
      intro maker hmaker
      rcases maker with _ | o
      · exact .native fun formals => Signature.IsOrdered.of_ok (by decide)
      · exact hmaker o rfl
    have htype : ∀ t : Option Class, (∀ c, t = some c → c.IsSound) →
        (Object.cls (t.getD Builtin.object)).IsSound := by
      intro t ht
      rcases t with _ | c
      · exact .cls Builtin.object_isSound
      · exact .cls (ht c rfl)
    simp only [List.forall_mem_cons, Names.IsSound]
    exact ⟨hmaker _ fun o => memberMaker?_isSound hbases hnames, .value, .value, .value, .value,
      .value, htype _ fun t => valueType?_isSound hbases, .value, by simp⟩
  · intro e he
    obtain ⟨entry, hentry, rfl⟩ := List.mem_map.1 he
    split
    · exact .hidden
    · exact hnames entry hentry

lemma member_isSound (c : Class) (name : Text) (o : Object) : (member c name o).IsSound := by
  unfold member
  split
  · repeat' split
    all_goals first | exact .value | exact .hidden
  · exact .hidden

lemma earlier?_isSound {names : List Text} {same : Object}
    (hsame : earlier? c o names = some same) : same.IsSound := by
  unfold earlier? at hsame
  split at hsame
  · obtain ⟨name, -, hname⟩ := List.exists_of_findSome?_eq_some hsame
    split at hname
    · split at hname
      · exact Option.some.inj hname ▸ .value
      · exact absurd hname (by simp)
    · exact absurd hname (by simp)
  · exact absurd hsame (by simp)

lemma makeMembers_parts {valueType : Option Class} {maker : Option Object} {values : Names}
    {names pending : List Text} (h : c.HasSoundParts)
    (hc : makeMembers valueType maker values c names pending = .ok c') : c'.HasSoundParts := by
  induction pending generalizing c names with
  | nil => exact Except.ok.inj hc ▸ h.put .value _
  | cons name rest ih =>
    simp only [makeMembers] at hc
    split at hc
    · exact absurd hc (by simp)
    split at hc
    · exact ih (h.put (earlier?_isSound ‹_›) name) hc
    · exact ih (h.put (member_isSound _ _ _) name) hc

lemma populate_parts (h : c.HasSoundParts) (hc : populate c bases body = .ok c') :
    c'.HasSoundParts :=
  makeMembers_parts h hc

lemma showAlike_parts (h : c.HasSoundParts) (hbases : ∀ b ∈ bases, b.IsSound) (name : Text) :
    (showAlike c bases name).HasSoundParts := by
  unfold showAlike
  dsimp only
  split
  · split
    · rename_i hfound _
      obtain ⟨p, hp, hget⟩ := Option.bind_eq_some_iff.1 hfound
      exact h.put ((hbases p (List.mem_of_getLast? hp)).parts.get? hget) name
    · exact h
  · exact h

lemma showAll_parts (h : c.HasSoundParts) (hbases : ∀ b ∈ bases, b.IsSound) (keys : List Text) :
    (keys.foldl (fun c name => showAlike c bases name) c).HasSoundParts := by
  induction keys generalizing c with
  | nil => exact h
  | cons key rest ih => exact ih (showAlike_parts h hbases key)

lemma close_parts (h : c.HasSoundParts) (hbases : ∀ b ∈ bases, b.IsSound)
    (hbody : Names.IsSound body.names) : (close c bases body).HasSoundParts := by
  have hshown := showAll_parts h hbases shownKeys
  have hlookup : (Object.function Builtin.enumerationLookup).IsSound := .function (by decide)
  unfold close
  dsimp only
  split
  · exact (hshown.put (hbody.get? (declared?_eq_some ‹_›)) _).put hlookup _
  · exact hshown.put hlookup _

end Enumeration

/-! ## Making a class -/

lemma SlotPlan.attributes_isSound (plan : SlotPlan) (className : Text) :
    Names.IsSound (plan.attributes className) := by
  refine Names.IsSound.append (Names.IsSound.append ?_ ?_) ?_
  · intro e he
    obtain ⟨name, -, rfl⟩ := List.mem_map.1 he
    exact .slot
  · split
    · exact List.forall_mem_singleton.2 .stored
    · exact List.forall_mem_nil _
  · split
    · exact List.forall_mem_singleton.2 .stored
    · exact List.forall_mem_nil _

lemma addMissing_isSound {names : Names} {o : Object} (h : Names.IsSound names) (name : Text)
    (ho : o.IsSound) : Names.IsSound (addMissing names name o) := by
  unfold addMissing
  split
  · exact h
  · exact h.append (List.forall_mem_singleton.2 ho)

lemma boundByName_isSound {o : Object} (h : o.IsSound) (name : Text) :
    (boundByName name o).IsSound := by
  cases h with
  | function h =>
    unfold boundByName
    dsimp only
    split
    · exact .free h
    split
    · exact .ofClass h
    · exact .function h
  | cls h => exact .cls h
  | _ =>
    constructor
    all_goals assumption

lemma addAllMissing_isSound {slots own : Names} (hslots : Names.IsSound slots)
    (hown : Names.IsSound own) :
    Names.IsSound (slots.foldl (fun all entry => addMissing all entry.1 entry.2) own) := by
  induction slots generalizing own with
  | nil => exact hown
  | cons e rest ih =>
    obtain ⟨he, hrest⟩ := List.forall_mem_cons.1 hslots
    exact ih hrest (addMissing_isSound hown e.1 he)

lemma classAttributes_isSound {names : Names} (h : Names.IsSound names) (className : Text)
    (plan : SlotPlan) : Names.IsSound (classAttributes className names plan) := by
  have hown : Names.IsSound ((names.filter fun entry => entry.1 != qualifiedKey).map
      fun entry => (entry.1, boundByName entry.1 entry.2)) := by
    intro e he
    obtain ⟨entry, hentry, rfl⟩ := List.mem_map.1 he
    exact boundByName_isSound (h.filter _ entry hentry) entry.1
  have hslots := addAllMissing_isSound (plan.attributes_isSound className) hown
  have hdescribed := addMissing_isSound hslots "__doc__" (.value (v := .null))
  unfold classAttributes
  dsimp only
  split
  · exact addMissing_isSound hdescribed _ .value
  · exact hdescribed

lemma ancestorLayers_isSound {bases : List Class} {layers : List Layer}
    (h : ∀ b ∈ bases, b.IsSound) (hl : ancestorLayers bases = .ok layers) :
    ∀ l ∈ layers, l.IsSound := by
  unfold ancestorLayers at hl
  split at hl
  · exact absurd hl (by simp)
  · dsimp only at hl
    split at hl
    · intro l hmem
      rw [← Except.ok.inj hl] at hmem
      -- an ancestor is a layer of one of the bases
      obtain ⟨id, -, hfind⟩ := List.mem_filterMap.1 hmem
      obtain ⟨b, hb, hlayer⟩ := List.mem_flatMap.1 (List.mem_of_find?_eq_some hfind)
      exact (h b hb).parts.layers l hlayer
    · exact absurd hl (by simp)

lemma bestBase_mem {first c : Class} {rest : List Class} (h : bestBase first rest = .ok c) :
    c ∈ first :: rest := by
  induction rest generalizing first with
  | nil =>
    rw [← Except.ok.inj h]
    exact List.mem_cons_self
  | cons other rest ih =>
    unfold bestBase at h
    split at h
    · rcases List.mem_cons.1 (ih h) with rfl | hmem
      · exact List.mem_cons_self
      · exact List.mem_cons_of_mem _ (List.mem_cons_of_mem _ hmem)
    split at h
    · exact List.mem_cons_of_mem _ (ih h)
    · exact absurd h (by simp)

namespace Draft

variable {d : Draft} {c : Class}

lemma allBases_isSound (hbases : ∀ b ∈ d.bases, b.IsSound) : ∀ b ∈ d.allBases, b.IsSound := by
  unfold allBases
  split
  · exact List.forall_mem_singleton.2 Builtin.object_isSound
  · exact hbases

variable (hbases : ∀ b ∈ d.bases, b.IsSound) (hbody : Names.IsSound d.body.names)

include hbases hbody

lemma names_isSound {names : Names} (hn : d.names = .ok names) : Names.IsSound names := by
  unfold Draft.names at hn
  split at hn
  · split at hn
    · exact absurd hn (by simp)
    · exact Except.ok.inj hn ▸ Enumeration.attributes_isSound hbases hbody
  · exact Except.ok.inj hn ▸ hbody

lemma layOut_parts (hc : d.layOut = .ok c) : c.HasSoundParts := by
  have hall := allBases_isSound hbases
  obtain ⟨names, hnames, hc⟩ := ok_of_bind hc
  obtain ⟨base, hbase, hc⟩ := ok_of_bind hc
  obtain ⟨plan, -, hc⟩ := ok_of_bind hc
  obtain ⟨qualifiedName, -, hc⟩ := ok_of_bind hc
  obtain ⟨ancestors, hancestors, hc⟩ := ok_of_bind hc
  have hattributes := classAttributes_isSound (names_isSound hbases hbody hnames) d.name plan
  have hsound : base.IsSound := by
    rcases List.mem_cons.1 (bestBase_mem hbase) with rfl | hmem
    · rcases hd : d.allBases with _ | ⟨first, rest⟩
      · exact Builtin.object_isSound
      · exact hall first (by rw [hd]; exact List.mem_cons_self)
    · exact hall base (List.mem_of_mem_drop hmem)
  rw [← Except.ok.inj hc]
  refine ⟨List.forall_mem_cons.2 ⟨.mk hattributes, ancestorLayers_isSound hall hancestors⟩, ?_⟩
  intro b hb
  exact Option.some.inj hb ▸ hsound

/-- What is left to do once the members of an enumeration are made keeps a class sound. -/
lemma finish_isSound {populated : Class} (hparts : populated.HasSoundParts) {isEnumeration : Bool}
    (hc : (do
      let c ← populated.tellAncestors d.allBases populated.ancestors
      let c := c.trackOpen d.allBases
      let c := if isEnumeration then Enumeration.close c d.bases d.body else c
      let c ← if d.isDataclass then c.makeData d.allBases else pure c
      return c.settled : Except Defect Class) = .ok c) : c.IsSound := by
  obtain ⟨told, htold, hc⟩ := ok_of_bind hc
  have htracked := (hparts.tellAncestors htold).trackOpen d.allBases
  have hclosed : (if isEnumeration then
      Enumeration.close (told.trackOpen d.allBases) d.bases d.body
      else told.trackOpen d.allBases).HasSoundParts := by
    split
    · exact Enumeration.close_parts htracked hbases hbody
    · exact htracked
  cases hdata : d.isDataclass <;> rw [hdata] at hc
  · exact Except.ok.inj hc ▸ hclosed.settled
  · obtain ⟨made, hmade, hc⟩ := ok_of_bind hc
    exact Except.ok.inj hc ▸ (hclosed.makeData hmade).settled

/-- A class that is made of sound bases and a sound body is sound. -/
lemma make_isSound (hc : d.make = .ok c) : c.IsSound := by
  obtain ⟨laidOut, hlayOut, hc⟩ := ok_of_bind hc
  have hlaidOut := layOut_parts hbases hbody hlayOut
  generalize (d.metaclass == .enumeration) = isEnumeration at hc
  cases isEnumeration with
  | false => exact finish_isSound hbases hbody hlaidOut hc
  | true =>
    obtain ⟨populated, hpopulated, hc⟩ := ok_of_bind hc
    exact finish_isSound hbases hbody (Enumeration.populate_parts hlaidOut hpopulated) hc

end Draft

/-! ## Bases -/

namespace Basis

/-- The classes among the bases are sound. -/
def IsSound : Basis → Prop
  | classes _ bases => ∀ b ∈ bases, b.IsSound
  | objects _ => True

variable {basis : Basis} {o : Object}

lemma ofObjects_isSound {bases : List Object} (h : ∀ o ∈ bases, o.IsSound)
    (hb : ofObjects bases = .ok basis) : basis.IsSound := by
  unfold ofObjects at hb
  dsimp only at hb
  split at hb
  · obtain ⟨metaclass, -, hb⟩ := ok_of_bind hb
    rw [← Except.ok.inj hb]
    intro c hc
    obtain ⟨o, ho, hcls⟩ := List.mem_filterMap.1 hc
    split at hcls
    · exact Option.some.inj hcls ▸ (h _ ho).of_cls
    · exact absurd hcls (by simp)
  · split at hb
    · rw [← Except.ok.inj hb]
      trivial
    · exact absurd hb (by simp)

lemma initialNames_isSound (h : basis.IsSound) {className : Text} {names : Names}
    (hn : basis.initialNames className = .ok names) : Names.IsSound names := by
  unfold Basis.initialNames at hn
  split at hn
  · obtain ⟨parent, hparent, rfl⟩ := ok_of_map hn
    exact Enumeration.initialNames_isSound (Enumeration.parent_isSound h hparent)
  · exact Except.ok.inj hn ▸ List.forall_mem_nil _

lemma make_isSound (h : basis.IsSound) {id : ClassId} {name : Text} {body : Body}
    {isDataclass : Bool} (hbody : Names.IsSound body.names)
    (ho : basis.make id name body isDataclass = .ok o) : o.IsSound := by
  unfold Basis.make at ho
  split at ho
  · obtain ⟨c, hc, rfl⟩ := ok_of_map ho
    exact .cls (Draft.make_isSound (d := ⟨id, name, _, _, body, isDataclass⟩) h hbody hc)
  · split at ho
    · exact Except.ok.inj ho ▸ .property
    · exact absurd ho (by simp)

end Basis

end Blueprint.Catalog
