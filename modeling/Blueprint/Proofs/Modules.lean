/-
# Modules of legal descriptions

The functions of a description have the signatures that are written there, and everything else in
its module is made of them, of built in classes and of what stands there already.  So if the
signatures are legal, whatever names of the module stand for is sound, and so is every class that a
path leads to, whichever modules happen to be imported.
-/
import Blueprint.Proofs.ClassMaking
import Blueprint.Proofs.Lookup

namespace Blueprint.Catalog

/-! ## Parts of making a module -/

/-- Whatever a part of making a module comes to satisfies `P`. -/
def Making.Yields {α : Type} (x : Making α) (P : α → Prop) : Prop :=
  ∀ p a p', x p = (.ok a, p') → P a

namespace Making.Yields

variable {α β : Type} {x : Making α} {f : α → Making β} {P : α → Prop} {Q : β → Prop}

lemma always (x : Making α) : Yields x fun _ => True :=
  fun _ _ _ _ => trivial

protected lemma pure {a : α} (h : P a) : Yields (Pure.pure a : Making α) P := by
  intro p b p' hb
  obtain rfl : a = b := Except.ok.inj (Prod.mk.inj hb).1
  exact h

protected lemma bind (hx : Yields x P) (hf : ∀ a, P a → Yields (f a) Q) :
    Yields (x >>= f) Q := by
  intro p b p' hb
  rcases hxp : x p with ⟨defect | a, q⟩
  · have hfail : (x >>= f) p = (.error defect, q) := by
      show ExceptT.bindCont f (x p).1 (x p).2 = _
      rw [hxp]
      rfl
    rw [hfail] at hb
    exact absurd (Prod.mk.inj hb).1 (by simp)
  · have hnext : (x >>= f) p = f a q := by
      show ExceptT.bindCont f (x p).1 (x p).2 = _
      rw [hxp]
      rfl
    exact hf a (hx p a q hxp) q b p' (hnext ▸ hb)

lemma ofExcept {result : Except Defect α} (h : ∀ a, result = .ok a → P a) :
    Yields (Making.ofExcept result) P :=
  fun _ a _ ha => h a (Prod.mk.inj ha).1

end Making.Yields

/-! ## Names in a body -/

lemma follow_isSound {o found : Object} {path : List Text} (h : o.IsSound)
    (hf : follow o path = .ok found) : found.IsSound := by
  induction path generalizing o with
  | nil => exact Except.ok.inj hf ▸ h
  | cons name rest ih =>
    obtain ⟨next, hnext, hf⟩ := ok_of_bind hf
    exact ih (h.get hnext) hf

namespace Surroundings

variable {s : Surroundings} {names : Names} {o : Object}

lemma lookup?_isSound (hs : Names.IsSound s.globals) (h : Names.IsSound names) {name : Text}
    (ho : s.lookup? names name = some o) : o.IsSound := by
  rw [Surroundings.lookup?, Option.or_eq_some_iff, Option.or_eq_some_iff] at ho
  rcases ho with ho | ⟨-, ho | ⟨-, ho⟩⟩
  · exact h.get? ho
  · exact hs.get? ho
  · exact Builtin.names_isSound.get? ho

lemma resolve_isSound (hs : Names.IsSound s.globals) (h : Names.IsSound names) {path : Text}
    (ho : s.resolve names path = .ok o) : o.IsSound := by
  unfold Surroundings.resolve at ho
  split at ho
  · exact absurd ho (by simp)
  · split at ho
    · exact follow_isSound (lookup?_isSound hs h ‹_›) ho
    · exact absurd ho (by simp)

lemma base_isSound (hs : Names.IsSound s.globals) (h : Names.IsSound names) {name : Text}
    (ho : s.base names name = .ok o) : o.IsSound := by
  unfold Surroundings.base at ho
  split at ho
  · exact Except.ok.inj ho ▸ .cls (Builtin.bases_isSound (Entries.mem_of_get? ‹_›))
  · exact resolve_isSound hs h ho

lemma store_yields {body : Body} (hbody : Names.IsSound body.names) (ho : o.IsSound)
    (name : Text) : (s.store body name o).Yields fun body => Names.IsSound body.names := by
  unfold store
  split
  · have hbind : ∀ className : Text, (Making.ofExcept
        (Enumeration.bind className body name o)).Yields fun body => Names.IsSound body.names :=
      fun _ => .ofExcept fun _ => Enumeration.bind_isSound hbody ho
    split
    · exact .bind (.always _) fun _ _ => hbind _
    · exact hbind _
  · exact .pure (hbody.put ho name)

end Surroundings

lemma annotate_isSound {body body' : Body} (h : Names.IsSound body.names) {name : Text}
    (hb : annotate body name = .ok body') : Names.IsSound body'.names := by
  unfold annotate at hb
  split at hb
  · exact Except.ok.inj hb ▸ h.put .value _
  · exact absurd hb (by simp)
  · exact absurd hb (by simp)
  · exact absurd hb (by simp)

lemma initialAnnotations_isSound (members : List (Text × Member)) :
    Names.IsSound (initialAnnotations members) := by
  unfold initialAnnotations
  split
  · exact List.forall_mem_singleton.2 .value
  · exact List.forall_mem_nil _

lemma initialNames_isSound {s : Surroundings} {names start : Names} {name : Text} {basis : Basis}
    {slots : Option (List Text)} {members : List (Text × Member)}
    (hs : Names.IsSound s.globals) (h : Names.IsSound names) (hb : basis.IsSound)
    (hn : initialNames s names name basis slots members = .ok start) : Names.IsSound start := by
  obtain ⟨inherited, hinherited, hn⟩ := ok_of_bind hn
  obtain ⟨moduleName, hmodule, hn⟩ := ok_of_bind hn
  have hinherits := Basis.initialNames_isSound hb hinherited
  have hglobals : Names.IsSound (s.within names name basis).globals := by
    unfold Surroundings.within
    dsimp only
    split
    · exact h
    · exact hs
  rw [← Except.ok.inj hn]
  refine Names.IsSound.append (Names.IsSound.append (hinherits.append ?_)
    (initialAnnotations_isSound members)) ?_
  · exact List.forall_mem_cons.2 ⟨Surroundings.resolve_isSound hglobals hinherits hmodule,
      List.forall_mem_singleton.2 .value⟩
  · split
    · exact List.forall_mem_nil _
    · exact List.forall_mem_singleton.2 .value

/-! ## Members -/

lemma FunctionKind.object_isSound (kind : FunctionKind) (name : Text) {formals : Signature}
    (h : formals.IsOrdered) : (kind.object name formals).IsSound := by
  cases kind with
  | ofInstance => exact .function h
  | free => exact .free h
  | ofClass => exact .ofClass h
  | toOverride => exact .function h

lemma plainObject?_yields (value : Option Value) (factory keywordOnly : Bool) :
    (plainObject? value factory keywordOnly).Yields fun found =>
      ∀ o, found = some o → o.IsSound := by
  have hfresh : ∀ default keywordOnly, (do
      return some (.field (← Making.fresh) default keywordOnly) : Making (Option Object)).Yields
        fun found => ∀ o, found = some o → o.IsSound := by
    intro default keywordOnly
    refine .bind (.always _) fun serial _ => .pure ?_
    rintro o ho
    exact Option.some.inj ho ▸ .field
  unfold plainObject?
  split
  · exact hfresh _ _
  split
  · exact hfresh _ _
  · -- nothing that makes a field of it: the value stands as it is
    refine .pure ?_
    intro o ho
    obtain ⟨v, -, rfl⟩ := Option.map_eq_some_iff.1 ho
    exact .value

mutual

theorem makeMembers_yields : ∀ (members : List (Text × Member)) (s : Surroundings) (body : Body),
    membersAreLegal s.className members = true → Names.IsSound s.globals →
    Names.IsSound body.names →
    (makeMembers s body members).Yields fun body => Names.IsSound body.names
  | [], s, body, _, _, hbody => by
    rw [makeMembers]
    exact .pure hbody
  | (name, member) :: rest, s, body, hlegal, hs, hbody => by
    rw [membersAreLegal, Bool.and_eq_true] at hlegal
    rw [makeMembers]
    exact .bind (makeMember_yields member s body name hlegal.1 hs hbody)
      fun body hbody => makeMembers_yields rest s body hlegal.2 hs hbody

theorem makeMember_yields : ∀ (member : Member) (s : Surroundings) (body : Body) (name : Text),
    member.isLegal s.className name = true → Names.IsSound s.globals → Names.IsSound body.names →
    (makeMember s body name member).Yields fun body => Names.IsSound body.names
  | .nested ⟨bases, slots, isDataclass, members⟩, s, body, name, hlegal, hs, hbody => by
    have hobjects : (Making.ofExcept (bases.mapM (s.base body.names))).Yields
        fun objects => ∀ o ∈ objects, o.IsSound := by
      refine .ofExcept fun objects hobjects => ?_
      exact forall_of_mapM_ok (fun _ _ => Surroundings.base_isSound hs hbody) hobjects
    have hglobals : ∀ basis, Names.IsSound (s.within body.names name basis).globals := by
      intro basis
      unfold Surroundings.within
      dsimp only
      split
      · exact hbody
      · exact hs
    rw [Member.isLegal] at hlegal
    rw [makeMember]
    -- the bases, what the body starts with, the body, and the class that is made of it
    refine .bind hobjects fun objects hobjects => ?_
    refine .bind (.ofExcept fun basis => Basis.ofObjects_isSound hobjects) fun basis hbasis => ?_
    refine .bind (.ofExcept fun start => initialNames_isSound hs hbody hbasis)
      fun start hstart => ?_
    refine .bind (makeMembers_yields members (s.within body.names name basis) ⟨start, []⟩
      hlegal (hglobals basis) hstart) fun inner hinner => ?_
    refine .bind (.always _) fun serial _ => ?_
    refine .bind (.ofExcept fun made => Basis.make_isSound hbasis hinner) fun made hmade => ?_
    exact Surroundings.store_yields hbody hmade _
  | .function items kind, s, body, name, hlegal, hs, hbody => by
    rw [Member.isLegal] at hlegal
    have hordered := Signature.IsLegal.isOrdered (of_decide_eq_true hlegal)
    rw [makeMember]
    exact Surroundings.store_yields hbody (kind.object_isSound _ hordered) _
  | .property writable, s, body, name, _, _, hbody => by
    rw [makeMember]
    exact Surroundings.store_yields hbody .property _
  | .alias target, s, body, name, _, hs, hbody => by
    rw [makeMember]
    refine .bind (.ofExcept fun o => Surroundings.resolve_isSound hs hbody) fun o ho => ?_
    exact Surroundings.store_yields hbody ho _
  | .plain value annotated factory keywordOnly, s, body, name, _, _, hbody => by
    have hannotate : ∀ body : Body, Names.IsSound body.names →
        (if annotated then Making.ofExcept (annotate body (s.bound name)) else pure body :
          Making Body).Yields fun body => Names.IsSound body.names := by
      intro body hbody
      split
      · exact .ofExcept fun _ => annotate_isSound hbody
      · exact .pure hbody
    rw [makeMember]
    refine .bind (plainObject?_yields value factory keywordOnly) fun found hfound => ?_
    rcases found with _ | o
    · exact .bind (.pure hbody) hannotate
    · exact .bind (Surroundings.store_yields hbody (hfound o rfl) _) hannotate

end

/-! ## Modules -/

/-- The names of a module of a legal description stand for sound objects. -/
lemma makeModule_isSound {d : ModuleDescription} (h : d.isLegal = true) :
    Names.IsSound (makeModule d).names := by
  have hstart : Names.IsSound (moduleStart d).names :=
    List.forall_mem_cons.2 ⟨.value, initialAnnotations_isSound _⟩
  have hmembers := makeMembers_yields d.attributes (moduleSurroundings d.name) (moduleStart d) h
    (List.forall_mem_nil _) hstart
  unfold makeModule
  split
  · exact List.forall_mem_nil _
  · split
    · exact hmembers _ _ _ ‹_›
    · exact List.forall_mem_nil _

/-- The names of every module of a catalog stand for sound objects. -/
def IsSound (catalog : Catalog) : Prop :=
  ∀ m ∈ catalog.modules, Names.IsSound m.names

/-- The catalog of legal descriptions is sound. -/
lemma ofDescriptions_isSound {descriptions : List ModuleDescription}
    (h : ∀ d ∈ descriptions, d.isLegal = true) : (ofDescriptions descriptions).IsSound := by
  refine List.forall_mem_cons.2 ⟨Builtin.names_isSound, fun m hm => ?_⟩
  obtain ⟨d, hd, rfl⟩ := List.mem_map.1 hm
  exact makeModule_isSound (h d hd)

/-! ## Classes that paths lead to -/

variable (catalog : Catalog)

/-- A path leads to a class, with some of the modules imported. -/
def Leads (path : Text) (c : Class) : Prop :=
  ∃ imported, ∃ candidate ∈ candidates path,
    classIn? catalog imported candidate.1 candidate.2 = some c

lemma loadClass_ensures (path : Text) :
    (catalog.loadClass path).Ensures (fun found => ∀ c, found = some c → catalog.Leads path c)
      fun _ => True := by
  refine Run.Ensures.bind (firstClass_ensures catalog (candidates path)) fun found hfound => ?_
  refine Run.Ensures.pure fun c hc => ?_
  obtain ⟨r, hr, rfl⟩ := Option.map_eq_some_iff.1 hc
  obtain ⟨hmem, imported, hclass⟩ := hfound r hr
  exact ⟨imported, _, hmem, hclass⟩

lemma require_ensures (path : Text) :
    (catalog.require path).Ensures (catalog.Leads path) fun _ => True := by
  refine Run.Ensures.bind (loadClass_ensures catalog path) fun found hfound => ?_
  rcases found with _ | c
  · exact Run.Ensures.mistaken fun _ => trivial
  · exact Run.Ensures.pure (hfound c rfl)

variable {catalog}

/-- What was found on the way along a path is sound. -/
def Found.IsSound : Found → Prop
  | .module m => Names.IsSound m.names
  | .object o => o.IsSound

lemma present?_isSound {o : Option Object} {found : Found} (h : ∀ o', o = some o' → o'.IsSound)
    (hf : present? o = some found) : found.IsSound := by
  unfold present? at hf
  split at hf
  · exact absurd hf (by simp)
  · exact Option.some.inj hf ▸ h _ rfl
  · exact absurd hf (by simp)

lemma find?_isSound (hsound : catalog.IsSound) {name : Text} {m : Module}
    (h : catalog.find? name = some m) : Names.IsSound m.names :=
  hsound m (List.mem_of_find?_eq_some h)

lemma walk?_isSound (hsound : catalog.IsSound) {imported : List Text} {found result : Found}
    {path : List Text} (h : found.IsSound)
    (hw : catalog.walk? imported found path = some result) : result.IsSound := by
  induction path generalizing found with
  | nil => exact Option.some.inj hw ▸ h
  | cons name rest ih =>
    obtain ⟨next, hnext, hw⟩ := Option.bind_eq_some_iff.1 hw
    refine ih ?_ hw
    unfold step? at hnext
    -- within a module: a module of its own, or a name; within a class: an attribute
    split at hnext
    · dsimp only at hnext
      split at hnext
      · exact Option.some.inj hnext ▸ find?_isSound hsound ‹_›
      · exact present?_isSound (fun _ => Names.IsSound.get? h) hnext
    · exact present?_isSound (fun _ => (Object.IsSound.of_cls h).parts.get?) hnext
    · exact absurd hnext (by simp)

/-- A path of a sound catalog leads to sound classes only. -/
lemma Leads.isSound (hsound : catalog.IsSound) {path : Text} {c : Class}
    (h : catalog.Leads path c) : c.IsSound := by
  obtain ⟨imported, candidate, -, hclass⟩ := h
  unfold classIn? at hclass
  split at hclass
  · exact absurd hclass (by simp)
  · split at hclass
    · rename_i m hmodule _ found hwalk
      have hstart : Found.IsSound (.module m) := find?_isSound hsound hmodule
      have hfound : Found.IsSound (.object (.cls found)) := walk?_isSound hsound hstart hwalk
      exact Option.some.inj hclass ▸ Object.IsSound.of_cls hfound
    · exact absurd hclass (by simp)

end Blueprint.Catalog
