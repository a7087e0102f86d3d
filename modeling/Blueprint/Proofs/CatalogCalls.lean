/-
# Calls reach their parameters

What a catalog answers about constructors and methods are the parameters that a call has to fill:
those of the call that makes an object of the class, and those that are left of a function once the
object or the class is bound to it.  So a definition that is compiled against a catalog of legal
descriptions has a plan whose calls, however deep, pass to each of these parameters its own
argument.
-/
import Blueprint.Proofs.Modules

namespace Blueprint.Catalog

variable {catalog : Catalog}

/-! ## What callables take -/

/-- The parameters that a call on an object of a class has to fill, for a function that the class
has: all of them but the one that the object or the class is bound to, if there is to be one. -/
inductive Object.Takes : Object → Signature → Prop where
  | function {f : Function} {formals : Signature} (h : f.signature.bind = .ok formals) :
      Takes (.function f) formals
  | free {f : Function} : Takes (.free f) f.signature
  | ofClass {f : Function} {formals : Signature} (h : f.signature.bind = .ok formals) :
      Takes (.ofClass f) formals
  | native {owner name : Text} {formals : Signature} :
      Takes (.native owner name (.ok (Builtin.receiver :: formals))) formals

namespace Class

variable {c : Class} {name : Text} {o taken : Object} {callable : Callable}

/-- The constructor of a class: it takes what the call takes that makes an object, and if a function
alone decides about this call, what is left of its parameters when it is bound. -/
inductive HasConstructor (c : Class) : Option Callable → Prop where
  | plain (hinitializer : c.isDefault constructorName = true)
      (hmaker : c.isDefault makerName = true) : HasConstructor c none
  | call {formals : Signature} (h : c.construction = .ok formals)
      (decided : ∀ f, c.DecidedBy f → f.signature.bind = .ok formals) :
      HasConstructor c (some ⟨constructorName, formals.parameters c.hasBuiltinConstructor⟩)

/-- A method of a class: it takes what the function takes that the class has under its name. -/
structure HasMethod (c : Class) (name : Text) (callable : Callable) : Prop where
  name_eq : callable.name = name
  parameters_eq : ∀ o formals, c.find? name = some o → o.Takes formals →
    callable.parameters = Signature.parameters o.isBuiltin formals

lemma IsSound.constructor (h : c.IsSound) {found : Option Callable}
    (hf : c.constructor = .ok found) :
    c.HasConstructor found ∧ ∀ callable, found = some callable → callable.IsOrdered := by
  unfold Class.constructor at hf
  split at hf
  · rename_i hdefault
    obtain ⟨hinitializer, hmaker⟩ := Bool.and_eq_true_iff.1 hdefault
    obtain rfl := Except.ok.inj hf
    exact ⟨.plain hinitializer hmaker, nofun⟩
  · obtain ⟨formals, hformals, rfl⟩ := ok_of_map hf
    refine ⟨.call hformals fun f hdecided => (h.decided hdecided).symm.trans hformals, ?_⟩
    rintro _ hcallable
    exact Option.some.inj hcallable ▸ (h.construction hformals).parameters _ _

/-- What a class says of itself is callable only if it declares that it is. -/
lemma governed_callable (h : c.governed name = .ok taken) (hs : taken.signature?.isSome = true) :
    ∃ o, c.own.get? name = some o ∧ o.ofOwner name = .ok taken := by
  -- most of what a class says of itself cannot be called
  have hquiet : ∀ o : Object, o.signature?.isSome = false → (Except.ok o : Except Defect Object) =
      .ok taken → ∃ o, c.own.get? name = some o ∧ o.ofOwner name = .ok taken := by
    intro o hnone ho
    rw [Except.ok.inj ho, hs] at hnone
    exact absurd hnone (by simp)
  unfold Class.governed at h
  split at h
  · exact hquiet _ rfl h
  split at h
  · exact hquiet _ rfl h
  split at h
  · exact hquiet _ rfl h
  split at h
  · refine hquiet _ ?_ h
    rcases c.base with _ | b <;> rfl
  split at h
  · split at h
    · exact ⟨_, ‹_›, h⟩
    · split at h
      · exact absurd h (by simp)
      split at h
      · exact absurd h (by simp)
      split at h
      · exact hquiet _ rfl h
      · exact hquiet _ rfl h
  · exact hquiet _ rfl h

/-- What is callable under a name is what the class has there, if it has anything. -/
lemma get_callable (hfind : c.find? name = some o) (h : c.get name = .ok taken)
    (hs : taken.signature?.isSome = true) : o.ofOwner name = .ok taken := by
  simp only [Class.get] at h
  split at h
  · obtain ⟨own, hown, htaken⟩ := governed_callable h hs
    rw [find?_of_own hown] at hfind
    exact Option.some.inj hfind ▸ htaken
  · rw [hfind] at h
    exact h

/-- A method is what is taken from the class under its name, without its first parameter unless the
class has a function there that takes no object. -/
lemma method_eq_ok (h : c.method name = .ok (.ok (some callable))) :
    ∃ found taken signature formals, c.static? name = some found ∧ c.get name = .ok taken ∧
      taken.signature? = some signature ∧
      (if isDetached found then signature else signature.map fun formals => formals.drop 1) =
        .ok formals ∧ callable = ⟨name, formals.parameters taken.isBuiltin⟩ := by
  unfold Class.method at h
  split at h
  · exact absurd h (by simp)
  · rename_i found hfound
    obtain ⟨taken, htaken, h⟩ := ok_of_bind h
    split at h
    · exact absurd (Except.ok.inj h) (by simp)
    · rename_i shown hshown
      obtain ⟨signature, hsignature, rfl⟩ := Option.map_eq_some_iff.1 hshown
      obtain ⟨formals, hformals, hcallable⟩ := ok_of_map (Except.ok.inj h)
      obtain rfl := Option.some.inj hcallable
      exact ⟨found, taken, signature, formals, hfound, htaken, hsignature, hformals, rfl⟩

lemma IsSound.method (h : c.IsSound) (hm : c.method name = .ok (.ok (some callable))) :
    c.HasMethod name callable ∧ callable.IsOrdered := by
  obtain ⟨found, taken, signature, formals, hfound, htaken, hsignature, hformals, rfl⟩ :=
    method_eq_ok hm
  have htakenSound : taken.IsSound := h.parts.get htaken
  constructor
  · refine ⟨rfl, fun o declared hfind htakes => ?_⟩
    have howner : o.ofOwner name = .ok taken := get_callable hfind htaken (by simp [hsignature])
    obtain rfl : found = o := by
      rw [static?, hfind, Option.some_or] at hfound
      exact (Option.some.inj hfound).symm
    -- by the kind of what is found, each with its own way of being read
    cases htakes with
    | @function f _ hbind =>
      obtain rfl : Object.function f = taken := Except.ok.inj howner
      obtain rfl : Except.ok f.signature = signature := Option.some.inj hsignature
      obtain rfl : f.signature.drop 1 = formals := Except.ok.inj hformals
      exact Signature.parameters_drop hbind _
    | @free f =>
      obtain rfl : Object.function f = taken := Except.ok.inj howner
      obtain rfl : Except.ok f.signature = signature := Option.some.inj hsignature
      obtain rfl : f.signature = formals := Except.ok.inj hformals
      rfl
    | @ofClass f _ hbind =>
      obtain rfl : Object.bound f = taken := Except.ok.inj howner
      obtain rfl : f.signature.bind = signature := Option.some.inj hsignature
      obtain rfl : declared = formals := Except.ok.inj (hbind.symm.trans hformals)
      rfl
    | native =>
      obtain rfl := Except.ok.inj howner
      obtain rfl := Option.some.inj hsignature
      obtain rfl := Except.ok.inj hformals
      rfl
  · have hordered : ∀ read : Signature, signature = .ok read → read.IsOrdered := by
      rintro read rfl
      exact htakenSound.signature? hsignature
    refine Signature.IsOrdered.parameters ?_ _ _
    split at hformals
    · exact hordered formals hformals
    · obtain ⟨read, hread, rfl⟩ := ok_of_map hformals
      exact (hordered read hread).drop 1

/-- A function that something is bound to already is bound once more: its next parameter is taken
off as well, and gets no argument. -/
lemma method_of_bound {f : Function} {formals : Signature} (hfind : c.find? name = some (.bound f))
    (hbind : f.signature.bind = .ok formals) (hm : c.method name = .ok (.ok (some callable))) :
    callable.parameters = Signature.parameters false (formals.drop 1) := by
  obtain ⟨found, taken, signature, read, hfound, htaken, hsignature, hread, rfl⟩ := method_eq_ok hm
  have howner := get_callable hfind htaken (by simp [hsignature])
  obtain rfl : Object.bound f = taken := Except.ok.inj howner
  obtain rfl : Object.bound f = found := by
    rw [static?, hfind, Option.some_or] at hfound
    exact Option.some.inj hfound
  obtain rfl : f.signature.bind = signature := Option.some.inj hsignature
  rw [hbind] at hread
  rw [← Except.ok.inj hread]
  rfl

end Class

/-! ## Compiling against a catalog -/

/-- What the constructors and the methods of a catalog are known to be. -/
def contract (catalog : Catalog) : Contract where
  constructor path found :=
    ∃ c, catalog.Leads path c ∧ c.HasConstructor found ∧
      ∀ callable, found = some callable → callable.IsOrdered
  method path name callable :=
    ∃ c, catalog.Leads path c ∧ c.HasMethod name callable ∧ callable.IsOrdered

lemma contract_isOrdered (catalog : Catalog) : (contract catalog).IsOrdered where
  constructor _ callable := fun ⟨_, _, _, hordered⟩ => hordered callable rfl
  method _ _ _ := fun ⟨_, _, _, hordered⟩ => hordered

lemma introspector_meets (h : catalog.IsSound) :
    (introspector catalog).Meets (contract catalog) := by
  constructor
  · intro path
    refine Run.Ensures.bind (require_ensures catalog path) fun c hc => ?_
    rcases hconstructor : c.constructor with fault | found
    · exact Run.Ensures.mistaken fun _ => trivial
    · exact Run.Ensures.pure ⟨c, hc, (hc.isSound h).constructor hconstructor⟩
  · intro path name
    refine Run.Ensures.bind (require_ensures catalog path) fun c hc => ?_
    have hreached : (reached (c.method name)).Ensures
        (fun found => c.method name = .ok found) fun _ => True := by
      rcases c.method name with defect | found
      · exact Run.Ensures.fail trivial
      · exact Run.Ensures.pure rfl
    have hmethod : ∀ answer, c.method name = .ok (.ok answer) → ∀ callable,
        answer = some callable → (contract catalog).method path name callable := by
      rintro _ hfound callable rfl
      exact ⟨c, hc, (hc.isSound h).method hfound⟩
    refine Run.Ensures.bind hreached fun found hfound => ?_
    by_cases hkey : (name == Layer.annotationsKey) = true
    · -- to ask for the annotations makes them, which changes the world and not the answer
      simp only [hkey, if_true]
      refine Run.Ensures.bind (Run.Ensures.always _) fun _ _ => ?_
      rcases found with fault | answer
      · exact Run.Ensures.mistaken fun _ => trivial
      · exact Run.Ensures.pure (hmethod answer hfound)
    · simp only [hkey]
      rcases found with fault | answer
      · exact Run.Ensures.mistaken fun _ => trivial
      · exact Run.Ensures.pure (hmethod answer hfound)

/-- Whatever is compiled against the catalog of legal descriptions, at every depth of the plan every
parameter of every call gets the operand of its own argument.  Which parameters these are depends on
the class: those of the call that makes its objects, or those that are left of the function that it
has under the name of the method.  An attribute that is not such a function, because something is
bound to it already, is no part of this: see `Class.method_of_bound`. -/
theorem compile_delivers {descriptions : List ModuleDescription}
    (hlegal : ∀ m ∈ descriptions, m.isLegal = true) {d : Definition} {plan : Plan}
    {entry : Option Value} {world world' : World}
    (h : compile (introspector (ofDescriptions descriptions)) d entry world = (.ok plan, world')) :
    (contract (ofDescriptions descriptions)).Fills d plan := by
  have hmeets := introspector_meets (ofDescriptions_isSound hlegal)
  have hplan := Contract.compile_fills hmeets (contract_isOrdered _) d entry world
  rw [h] at hplan
  exact hplan

/-- A module of two data classes.  One inherits a field that is passed by name only, and has a
function of objects and one of the class. -/
def cattery : ModuleDescription :=
  let animal : ClassDescription := ⟨[], none, true,
    [("name", .plain none true false false), ("size", .plain (some (.int 3)) true false true)]⟩
  let cat : ClassDescription := ⟨["Animal"], none, true,
    [("age", .plain none true false false),
      ("feed", .function [.parameter "self" none, .parameter "food" none, .positionalEnd,
        .parameter "amount" (some (.int 1)), .keywordStart, .parameter "slowly" none] .ofInstance),
      ("breed", .function [.parameter "cls" none, .variadic "others", .parameter "kind" none]
        .ofClass)]⟩
  ⟨"zoo", false, none, [("Animal", .nested animal), ("Cat", .nested cat)]⟩

/-- A cat that is fed with what is built on the way. -/
def tom : Definition :=
  let mouse : Definition :=
    { name := .null, className := "zoo.Animal", isLazy := true
      constructor := some ⟨constructorName, [(0, .str "Jerry")]⟩, fields := [], methods := [] }
  { name := .str "tom", className := "zoo.Cat", isLazy := false
    constructor := some ⟨constructorName, [(0, .str "Tom"), (2, .int 5), (1, .int 4)]⟩
    fields := []
    methods := [⟨"feed", [(0, .list [.definition mouse]), (2, .bool true)]⟩,
      ⟨"breed", [(0, .str "tabby")]⟩] }

/-- The cat compiles, and its calls reach their parameters. -/
theorem tom_delivered :
    (∀ m ∈ [cattery], m.isLegal = true) ∧
      ∃ plan world', compile (introspector (ofDescriptions [cattery])) tom none {} =
        (.ok plan, world') ∧ (contract (ofDescriptions [cattery])).Fills tom plan := by
  have hlegal : ∀ m ∈ [cattery], m.isLegal = true := by decide
  have hok : (compile (introspector (ofDescriptions [cattery])) tom none {}).1.isOk = true := by
    decide +kernel
  rcases h : compile (introspector (ofDescriptions [cattery])) tom none {} with ⟨_ | plan, world'⟩
  · rw [h] at hok
    exact absurd hok (by simp [Except.isOk, Except.toBool])
  · exact ⟨hlegal, plan, world', rfl, compile_delivers hlegal h⟩

end Blueprint.Catalog
