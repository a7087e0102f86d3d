/-
# Declaring a parameter in another way

Whether a value may be left out, and what stands in for it then, is declared with a parameter.  A
compilation that never leaves the value out does not depend on this: it comes to the same, with the
same warnings, whether the parameter is required, has a default, or has one that cannot be read.

Which compilations these are is asked of the definitions that the compilation comes to, and of no
others (`Registry.Comes`): what is bound in a definition behind the first failure does not count,
nor does a declared default that nothing relies on.
-/
import Blueprint.Proofs.Agreement

namespace Blueprint

/-! ## One parameter of a registry -/

/-- The place of a parameter: that of the constructor of a class, or of one of its methods. -/
structure Site where
  /-- The class. -/
  className : Text
  /-- The method; none for the constructor. -/
  method : Option Text
  /-- The position of the parameter. -/
  position : Nat

/-- The callable with another declaration of what one parameter falls back to. -/
def Callable.redeclare (c : Callable) (position : Nat) (default : Default) : Callable :=
  { c with parameters := c.parameters.modify position fun p => { p with default } }

/-- What the callable of a class is declared as: the constructor, or the method of a name.  It is
declared in another way if the site is one of its parameters. -/
def Site.redeclare (site : Site) (default : Default) (className : Text) (method : Option Text)
    (c : Callable) : Callable :=
  if site.className = className ∧ site.method = method then c.redeclare site.position default
  else c

/-- The type with another declaration of what the parameter at the site falls back to. -/
def TypeSchema.redeclare (t : TypeSchema) (site : Site) (default : Default) : TypeSchema :=
  { t with
    constructor := t.constructor.map (site.redeclare default t.name none)
    methods := t.methods.map fun e => (e.1, site.redeclare default t.name (some e.1) e.2) }

/-- The registry with another declaration of what the parameter at the site falls back to. -/
def Registry.redeclare (registry : Registry) (site : Site) (default : Default) : Registry :=
  ⟨registry.types.map (·.redeclare site default)⟩

/-- If the definition is one of the class and calls the callable of the site, then it has a value of
its own for the parameter. -/
def Definition.BindsAt (d : Definition) (site : Site) : Prop :=
  site.className = d.className →
    (site.method = none → ∃ b, d.constructor = some b ∧ b.has site.position = true) ∧
      ∀ b ∈ d.methods, site.method = some b.method → b.has site.position = true

/-! ## What stays the same -/

variable {site : Site} {default : Default}

namespace Callable

variable {c : Callable} {position : Nat}

lemma redeclare_getElem? (i : Nat) :
    (c.redeclare position default).parameters[i]? =
      c.parameters[i]?.map fun p => if position = i then { p with default } else p := by
  rw [redeclare, List.getElem?_modify]
  rfl

/-- What is read off the parameters without their defaults stays the same. -/
lemma redeclare_map {α : Type} {f : Parameter → α} (hf : ∀ p, f { p with default } = f p) :
    (c.redeclare position default).parameters.map f = c.parameters.map f := by
  refine List.ext_getElem? fun i => ?_
  rw [List.getElem?_map, List.getElem?_map, redeclare_getElem?, Option.map_map]
  refine Option.map_congr fun p _ => ?_
  rw [Function.comp_apply]
  split
  · exact hf p
  · rfl

lemma redeclare_length :
    (c.redeclare position default).parameters.length = c.parameters.length := by
  rw [redeclare, List.length_modify]

lemma redeclare_keywords : (c.redeclare position default).keywords = c.keywords := by
  have hkeywords : ∀ ps : List Parameter, (ps.filter Parameter.keywordOnly).map Parameter.name =
      ((ps.map fun p => (p.name, p.keywordOnly)).filter Prod.snd).map Prod.fst := by
    intro ps
    rw [List.filter_map, List.map_map]
    rfl
  rw [keywords, keywords, hkeywords, hkeywords]
  rw [redeclare_map fun _ => rfl]

/-- A call that has a value of its own for the parameter passes the same arguments. -/
lemma redeclare_callsAlike {b : Binding} (h : b.has position = true) :
    CallsAlike Eq (some b) c (some b) (c.redeclare position default) where
  name := rfl
  names := redeclare_map fun _ => rfl
  keywords := redeclare_keywords
  unused := by rw [Resolution.unused, Resolution.unused, redeclare_length]
  arguments := by
    intro i p p' hp hp'
    rw [redeclare_getElem?, hp, Option.map_some] at hp'
    obtain rfl := Option.some.inj hp'
    by_cases hi : position = i
    · -- a value of its own is passed, whatever is declared
      subst hi
      rw [Binding.has, Option.isSome_iff_exists] at h
      obtain ⟨v, hv⟩ := h
      rw [Resolution.lookup_boundValues, Option.bind_some, hv]
      exact .ok rfl
    · rw [if_neg hi]
      exact (Registry.callsAlike_refl (some b) c).arguments i p p hp hp

end Callable

namespace Site

variable {className : Text} {method : Option Text} {c : Callable}

lemma redeclare_length :
    (site.redeclare default className method c).parameters.length = c.parameters.length := by
  rw [redeclare]
  split
  · exact Callable.redeclare_length
  · rfl

lemma redeclare_callsAlike {b : Option Binding}
    (h : site.className = className → site.method = method →
      ∃ call, b = some call ∧ call.has site.position = true) :
    CallsAlike Eq b c b (site.redeclare default className method c) := by
  rw [redeclare]
  split
  · rename_i hsite
    obtain ⟨call, rfl, hhas⟩ := h hsite.1 hsite.2
    exact Callable.redeclare_callsAlike hhas
  · exact Registry.callsAlike_refl b c

end Site

namespace TypeSchema

variable (t : TypeSchema)

lemma redeclare_get?_methods (method : Text) :
    Entries.get? method (t.redeclare site default).methods =
      (Entries.get? method t.methods).map (site.redeclare default t.name (some method)) := by
  rw [redeclare]
  induction t.methods with
  | nil => rfl
  | cons e rest ih =>
    obtain ⟨name, c⟩ := e
    rw [List.map_cons, Entries.get?, Entries.get?]
    by_cases hname : name = method
    · subst hname
      rw [if_pos (beq_self_eq_true name), if_pos (beq_self_eq_true name), Option.map_some]
    · rw [if_neg (by simpa using hname), if_neg (by simpa using hname)]
      exact ih

/-- There are as many parameters as before. -/
lemma redeclare_parameters_length :
    (Registry.parametersOf (t.redeclare site default)).length =
      (Registry.parametersOf t).length := by
  have hconstructor : ((t.redeclare site default).constructor.elim [] Callable.parameters).length =
      (t.constructor.elim [] Callable.parameters).length := by
    rcases hc : t.constructor with _ | c
    · simp only [redeclare, hc, Option.map_none, Option.elim_none]
    · simp only [redeclare, hc, Option.map_some, Option.elim_some, Site.redeclare_length]
  have hmethods : ((t.redeclare site default).methods.flatMap fun m => m.2.parameters).length =
      (t.methods.flatMap fun m => m.2.parameters).length := by
    simp only [redeclare, List.length_flatMap, List.map_map, Function.comp_def,
      Site.redeclare_length]
  rw [Registry.parametersOf, Registry.parametersOf, List.length_append, List.length_append,
    hconstructor, hmethods]

end TypeSchema

namespace Registry

variable {registry : Registry}

lemma redeclare_find? (name : Text) :
    (registry.redeclare site default).find? name =
      (registry.find? name).map (·.redeclare site default) := by
  rw [find?, find?, redeclare, List.find?_map]
  rfl

/-- No chain of defaults may get longer. -/
lemma redeclare_parameterCount :
    (registry.redeclare site default).parameterCount = registry.parameterCount := by
  have hcount : ∀ r : Registry,
      r.parameterCount = (r.types.map fun t => (parametersOf t).length).sum :=
    fun r => List.length_flatMap
  rw [hcount, hcount, redeclare, List.map_map]
  simp only [Function.comp_def, TypeSchema.redeclare_parameters_length]

lemma redeclare_checkClass (name : Value) (className : Text) :
    checkClass registry.introspector name className =
      checkClass (registry.redeclare site default).introspector name className := by
  simp only [checkClass, introspector, redeclare_find?, Option.any_map, Option.isSome_map]
  rfl

lemma redeclare_checkField (owner : Value) (field : Text) :
    checkField registry.introspector owner field =
      checkField (registry.redeclare site default).introspector owner field := by
  have hfields : (registry.redeclare site default).introspector.field owner field =
      registry.introspector.field owner field := by
    cases owner with
    | str name =>
      simp only [introspector, requireOwner, require, redeclare_find?]
      rcases registry.find? name with _ | t
      · rfl
      · rfl
    | _ => rfl
  rw [checkField, checkField, hfields]

/-- The registries agree on a definition that binds the parameter wherever it can be passed. -/
lemma redeclare_agreesOn {d : Definition} (h : d.BindsAt site) :
    AgreesOn (fun {α} (x y : Run α) => x = y) registry (registry.redeclare site default) d where
  check name := redeclare_checkClass name d.className
  assigns b _ := redeclare_checkField (fieldOwner b.owner d.className) b.field
  declares := by
    intro schema hschema
    have hname : schema.name = d.className := by
      have hfound := List.find?_some hschema
      exact eq_of_beq hfound
    refine ⟨schema.redeclare site default, by rw [redeclare_find?, hschema]; rfl, ?_, ?_⟩
    · rw [TypeSchema.redeclare, hname]
      rcases schema.constructor with _ | c
      · exact .none
      · exact .some (Site.redeclare_callsAlike fun hclass hmethod => (h hclass).1 hmethod)
    · intro b hb
      rw [TypeSchema.redeclare_get?_methods, hname]
      rcases Entries.get? b.method schema.methods with _ | c
      · exact .none
      · refine .some (Site.redeclare_callsAlike fun hclass hmethod => ?_)
        exact ⟨b, rfl, (h hclass).2 b hb hmethod⟩

/-- A compilation does not depend on how a parameter is declared, if every definition of its class
that it comes to and that calls its callable binds it: whether the parameter is required, has a
default or has one that cannot be read, the outcome is the same, a failure included, and so are the
warnings and everything else that is left behind. -/
theorem compile_redeclare (registry : Registry) (site : Site) (default : Default) (d : Definition)
    (h : ∀ e, registry.Comes (.definition d) e → e.BindsAt site) :
    compile (registry.redeclare site default).introspector d =
      compile registry.introspector d :=
  compile_eq_of_agreesAlong redeclare_parameterCount fun e he => redeclare_agreesOn (h e he)

/-- A class whose constructor has a parameter with a default that cannot be read. -/
def unreadableClass : Registry :=
  ⟨[{ name := "app.A", isInstantiable := true,
      constructor := some ⟨constructorName, [⟨"size", .unreadable, false⟩]⟩,
      methods := [], fields := [] }]⟩

/-- A definition that binds the parameter. -/
def sized : Definition :=
  ⟨.str "a", "app.A", false, some ⟨constructorName, [(0, .int 5)]⟩, [], []⟩

/-- The parameter may as well be required, since the definition binds it. -/
theorem compile_redeclare_sized :
    (∀ e, unreadableClass.Comes (.definition sized) e → e.BindsAt ⟨"app.A", none, 0⟩) ∧
      compile (unreadableClass.redeclare ⟨"app.A", none, 0⟩ .required).introspector sized =
        compile unreadableClass.introspector sized := by
  have hbinds : ∀ e, unreadableClass.Comes (.definition sized) e →
      e.BindsAt ⟨"app.A", none, 0⟩ := by
    intro e h
    cases h with
    | self => exact fun _ => ⟨fun _ => ⟨_, rfl, rfl⟩, by simp [sized]⟩
    | @construct _ schema c s _ _ hi hc hs h =>
      obtain ⟨-, i, p, hp, ha, -⟩ := hs
      obtain rfl := Option.some.inj (hi.1.symm.trans (by rfl))
      obtain rfl := Option.some.inj hc
      obtain ⟨hlt, -⟩ := List.getElem?_eq_some_iff.1 hp
      obtain rfl : i = 0 := Nat.lt_one_iff.1 hlt
      -- what is passed is the number, and nothing is nested in it
      have hpassed : Argument sized.constructor 0 p (.bound (.int 5)) :=
        @Argument.bound _ 0 p ⟨constructorName, [(0, .int 5)]⟩ rfl nofun
      rw [ha.unique hpassed] at h
      cases h
    | assign hb => exact absurd hb (by simp [sized])
    | invoke hb => exact absurd hb (by simp [sized])
  exact ⟨hbinds, compile_redeclare unreadableClass ⟨"app.A", none, 0⟩ .required sized hbinds⟩

end Registry

end Blueprint
