/-
# Compilations that come to an end

Compiling a definition calls for the compilation of others: of those that stand in what it binds,
and of those that stand in the declared defaults that it relies on.  The former are parts of the
definition, but the latter are not, and can be of any size.  If no chain of classes goes on for ever
in which each declares a default that nests a definition of the next (`Registry.DefaultNests`), then
no chain of such calls goes on for ever (`terminating`).

The steps that the compiler grants to declared defaults are then enough: it never gives up for want
of them, and more of them change nothing (`compile_terminates`).  Without the condition no number of
steps may be enough (`selfNesting_runsOut`).
-/
import Blueprint.Proofs.Failing
import Mathlib.Logic.Relation
import Mathlib.Order.WellFounded

namespace Blueprint

lemma Definition.Within.trans {d e f : Definition} (h : d.Within e) (h' : e.Within f) :
    d.Within f := by
  induction h with
  | self => exact h'
  | nested hv hd _ ih => exact .nested hv hd (ih h')

namespace Registry

open Run

variable {registry : Registry} {d e : Definition} {v : Value}

/-! ## Chains of classes and chains of calls -/

/-- A default that the constructor or a method of the class `A` declares holds, however deep inside
it, a definition of the class `B`. -/
inductive DefaultNests (registry : Registry) (A B : Text) : Prop where
  /-- The definition `e` stands in the default `w`, or is nested in one that does. -/
  | intro {schema : TypeSchema} {p : Parameter} {w : Value} {d e : Definition}
      (hs : registry.find? A = some schema) (hp : p ∈ parametersOf schema)
      (hw : declaredValue? p = some w) (hd : w.Holds (.definition d)) (he : d.Within e)
      (hB : e.className = B)

/-- The compilation of the definition `d` calls for that of `e`. -/
inductive CallsFor (registry : Registry) (d : Definition) : Definition → Prop where
  /-- A definition that stands in an operand. -/
  | operand {schema : TypeSchema} {s : Source Value} {e : Definition}
      (hs : registry.find? d.className = some schema) (h : Operand d schema s)
      (he : (Resolution.Source.value s).Holds (.definition e)) : CallsFor registry d e
  /-- A lazy definition is compiled once more, as if it were not lazy. -/
  | eager (h : d.isLazy = true) : CallsFor registry d { d with isLazy := false }

/-- Whatever a compilation comes to is called for by something in the value, directly or not. -/
theorem Comes.callsFor (h : registry.Comes v e) :
    ∃ d, v.Holds (.definition d) ∧ Relation.ReflTransGen registry.CallsFor d e := by
  induction h with
  | self d => exact ⟨d, .self _, .refl⟩
  | list hv _ _ ih =>
    obtain ⟨d, hd, hcalls⟩ := ih
    exact ⟨d, .list (List.mem_of_getElem? hv) hd, hcalls⟩
  | tuple hv _ _ ih =>
    obtain ⟨d, hd, hcalls⟩ := ih
    exact ⟨d, .tuple (List.mem_of_getElem? hv) hd, hcalls⟩
  | dict hx _ _ ih =>
    obtain ⟨d, hd, hcalls⟩ := ih
    exact ⟨d, .dict (List.mem_of_getElem? hx) hd, hcalls⟩
  | @construct d _ _ s _ _ hi hc hs _ ih =>
    obtain ⟨e, he, hcalls⟩ := ih
    obtain ⟨-, i, p, hp, ha, -⟩ := hs
    have hcall : registry.CallsFor d e := .operand hi.1 (.construct hc ⟨i, p, hp, ha⟩) he
    exact ⟨d, .self _, .head hcall hcalls⟩
  | @assign d _ _ _ hb hbefore _ _ ih =>
    obtain ⟨e, he, hcalls⟩ := ih
    obtain ⟨schema, hfits, -⟩ := hbefore
    have hs : registry.find? d.className = some schema := hfits.instantiates.1
    have hcall : registry.CallsFor d e := .operand hs (.assign (List.mem_of_getElem? hb)) he
    exact ⟨d, .self _, .head hcall hcalls⟩
  | @invoke d _ _ _ _ _ _ hb _ hd hc hs _ ih =>
    obtain ⟨e, he, hcalls⟩ := ih
    obtain ⟨-, i, p, hp, ha, -⟩ := hs
    have hcall : registry.CallsFor d e :=
      .operand hd (.invoke (List.mem_of_getElem? hb) hc ⟨i, p, hp, ha⟩) he
    exact ⟨d, .self _, .head hcall hcalls⟩

/-! ## Calls come to an end -/

/-- No chain of calls that starts with the definition goes on for ever. -/
abbrev Terminating (registry : Registry) (d : Definition) : Prop :=
  Acc (fun e d => registry.CallsFor d e) d

/-- A lazy definition calls for nothing that it would not call for if it were not lazy. -/
lemma terminating_of_operands
    (h : ∀ schema s e, registry.find? d.className = some schema → Operand d schema s →
      (Resolution.Source.value s).Holds (.definition e) → registry.Terminating e) :
    registry.Terminating d := by
  refine .intro d fun e he => ?_
  cases he with
  | operand hs hoperand he => exact h _ _ e hs hoperand he
  | eager =>
    -- the eager definition has the operands of the lazy one, and is not lazy itself
    refine .intro _ fun e he => ?_
    cases he with
    | operand hs hoperand he =>
      refine h _ _ e hs ?_ he
      cases hoperand with
      | construct hc hs => exact .construct hc hs
      | assign hb => exact .assign hb
      | invoke hb hc hs => exact .invoke hb hc hs
    | eager hlazy => exact absurd hlazy (by simp)

/-- The calls for what the defaults of a class nest come to an end. -/
def DefaultsEnd (registry : Registry) (A : Text) : Prop :=
  ∀ schema p w d e, registry.find? A = some schema → p ∈ parametersOf schema →
    declaredValue? p = some w → w.Holds (.definition d) → d.Within e → registry.Terminating e

/-- The calls of a definition come to an end if the defaults of the classes that occur in it do. -/
lemma terminating_of_defaultsEnd (h : ∀ e, d.Within e → registry.DefaultsEnd e.className) :
    registry.Terminating d := by
  induction d using Definition.nestInduct with
  | h d ih =>
    refine terminating_of_operands fun schema s e hs hoperand he => ?_
    rcases s with v | w
    · have hv : d.BindsExplicitly v := hoperand.bindsExplicitly
      exact ih v e hv he fun f hf => h f (.nested hv he hf)
    · obtain ⟨p, hp, hw⟩ := hoperand.mem_parametersOf
      exact h d (.self d) schema p w e e hs hp hw he (.self e)

lemma defaultsEnd (h : WellFounded fun B A => registry.DefaultNests A B) (A : Text) :
    registry.DefaultsEnd A := by
  -- the classes that occur in a default come before the class that declares it
  induction A using h.induction with
  | h A ih =>
    intro schema p w d e hs hp hw hd he
    refine terminating_of_defaultsEnd fun f hf => ?_
    exact ih f.className (.intro hs hp hw hd (he.trans hf) rfl)

/-- Where no chain of classes goes on for ever, no chain of calls does. -/
theorem terminating (h : WellFounded fun B A => registry.DefaultNests A B) (d : Definition) :
    registry.Terminating d :=
  terminating_of_defaultsEnd fun e _ => defaultsEnd h e.className

/-! ## Steps for the defaults -/

/-- A definition whose calls come to an end is never given up for want of steps. -/
lemma Terminating.not_circular (h : registry.Terminating d) (entry : Option Value) :
    ¬ Fails entry .circularDefaults (compile registry.introspector d) := by
  induction h generalizing entry with
  | intro d _ ih =>
    intro hfails
    cases compileDefinition_stops hfails with
    | bound hs hv _ hvalue =>
      rcases compileValue_fails hvalue with hrefusal | ⟨e, he, -, hdefinition⟩
      · exact absurd hrefusal (by simp [IsRefusal])
      · exact ih e (.operand hs hv he) _ hdefinition
    | declared hs hw _ hdefault =>
      rcases compileValue_fails hdefault with hrefusal | ⟨e, he, -, world, hdefinition⟩
      · exact absurd hrefusal (by simp [IsRefusal])
      · -- a step less is no less, as the compilation does not run out
        have heq := (compileDefinition_persists registry.introspector.depth
          (Nat.le_refl registry.parameterCount) e).eq_of_never (by
            rintro entry' world' failure rfl hcircular
            exact ih e (.operand hs hw he) entry' ⟨world', hcircular⟩)
        rw [heq] at hdefinition
        exact ih e (.operand hs hw he) _ ⟨world, hdefinition⟩

/-- If no chain of classes goes on for ever in which each declares a default that nests a definition
of the next, then every compilation comes to an end: all that it comes to is called for, directly or
not, and no chain of calls goes on for ever; the steps that are granted to the defaults never run
out, and with more of them the compilation comes to the same. -/
theorem compile_terminates (registry : Registry)
    (h : ¬ ∃ path : Nat → Text, ∀ i, registry.DefaultNests (path i) (path (i + 1)))
    (d : Definition) :
    (∀ e, registry.Comes (.definition d) e → Relation.ReflTransGen registry.CallsFor d e) ∧
      (¬ ∃ calls : Nat → Definition,
        calls 0 = d ∧ ∀ i, registry.CallsFor (calls i) (calls (i + 1))) ∧
      (∀ entry world,
        (compile registry.introspector d entry world).1 ≠ .error .circularDefaults) ∧
      ∀ n, registry.introspector.depth ≤ n →
        compileDefinition (some registry.introspector) (compileUpTo registry.introspector n) d =
          compile registry.introspector d := by
  have hwellFounded : WellFounded fun B A => registry.DefaultNests A B := by
    rw [wellFounded_iff_isEmpty_descending_chain]
    exact ⟨fun path => h ⟨path.1, path.2⟩⟩
  have hterminating : registry.Terminating d := terminating hwellFounded d
  have hcircular : ∀ entry world,
      (compile registry.introspector d entry world).1 ≠ .error .circularDefaults :=
    fun entry world hfails => hterminating.not_circular entry ⟨world, hfails⟩
  refine ⟨fun e he => ?_, ?_, hcircular, fun n hn => ?_⟩
  · obtain ⟨d', hd', hcalls⟩ := he.callsFor
    cases hd' with
    | self => exact hcalls
  · exact fun hcalls => not_acc_iff_exists_descending_chain.2 hcalls hterminating
  · have hsteps : registry.parameterCount ≤ n :=
      Nat.le_trans (Nat.le_succ registry.parameterCount) hn
    refine (compileDefinition_persists registry.introspector.depth hsteps d).eq_of_never ?_
    rintro entry world failure rfl
    exact hcircular entry world

/-- A definition of a class that nothing is known of but its name. -/
def plain (name className : Text) : Definition :=
  ⟨.str name, className, false, none, [], []⟩

/-- Nothing is nested in it. -/
lemma plain_within {name className : Text} (h : (plain name className).Within e) :
    e = plain name className := by
  cases h with
  | self => rfl
  | nested hv _ _ =>
    cases hv with
    | construct hb _ _ => exact absurd hb (by simp [plain])
    | assign hb => exact absurd hb (by simp [plain])
    | invoke hb _ _ => exact absurd hb (by simp [plain])

/-- Two classes, of which the first declares a default that is a definition of the second. -/
def nestedDefault : Registry :=
  ⟨[{ name := "app.A", isInstantiable := true,
      constructor :=
        some ⟨constructorName, [⟨"part", .declared (.definition (plain "b" "app.B")), false⟩]⟩,
      methods := [], fields := [] },
    { name := "app.B", isInstantiable := true, constructor := none, methods := [], fields := [] }]⟩

/-- The default is compiled, and then there is nothing more to do. -/
theorem compile_terminates_nestedDefault :
    (¬ ∃ path : Nat → Text, ∀ i, nestedDefault.DefaultNests (path i) (path (i + 1))) ∧
      ∀ entry world, (compile nestedDefault.introspector (plain "a" "app.A") entry world).1 ≠
        .error .circularDefaults := by
  have hnests : ∀ {A B : Text}, nestedDefault.DefaultNests A B → A = "app.A" ∧ B = "app.B" := by
    rintro A B ⟨hs, hp, hw, hd, he, rfl⟩
    have hmem := List.mem_of_find?_eq_some hs
    have hname := List.find?_some hs
    simp only [nestedDefault, List.mem_cons, List.not_mem_nil, or_false] at hmem
    rcases hmem with rfl | rfl
    · simp only [parametersOf, Option.elim_some, List.flatMap_nil, List.append_nil,
        List.mem_singleton] at hp
      subst hp
      obtain rfl := Option.some.inj hw
      cases hd with
      | self => exact ⟨(eq_of_beq hname).symm, by rw [plain_within he, plain]⟩
    · exact absurd hp (by simp [parametersOf])
  have hends : ¬ ∃ path : Nat → Text,
      ∀ i, nestedDefault.DefaultNests (path i) (path (i + 1)) := by
    rintro ⟨path, hpath⟩
    have hfirst := (hnests (hpath 0)).2
    have hsecond := (hnests (hpath 1)).1
    exact absurd (hfirst.symm.trans hsecond) (by decide)
  exact ⟨hends, (compile_terminates nestedDefault hends (plain "a" "app.A")).2.2.1⟩

/-- A class that declares a default which is a definition of the class itself. -/
def selfNesting : Registry :=
  ⟨[{ name := "app.A", isInstantiable := true,
      constructor :=
        some ⟨constructorName, [⟨"next", .declared (.definition (plain "a" "app.A")), false⟩]⟩,
      methods := [], fields := [] }]⟩

/-- The default of a class that nests a definition of the class runs out in every number of
steps. -/
theorem selfNesting_runsOut (n : Nat) :
    selfNesting.RunsOut n (.definition (plain "a" "app.A")) := by
  induction n with
  | zero => exact ⟨none, {}, rfl⟩
  | succ n ih =>
    have hC := Signals.failsWith .circularDefaults fun _ => by simp
    have hi : selfNesting.Instantiates (plain "a" "app.A").className selfNesting.types[0] :=
      ⟨rfl, rfl⟩
    have harguments : ∀ entry, FailsWith .circularDefaults entry
        (compileArguments (compileUpTo selfNesting.introspector n)
          (boundRuns (some selfNesting.introspector) (compileUpTo selfNesting.introspector n) none)
          (some ⟨constructorName, parametersOf selfNesting.types[0]⟩)) := by
      intro entry
      rw [compileArguments_eq, Resolution.resolve_of_ok rfl, bind_assoc]
      refine hC.later (Resolution.warnUnused_returns _ _) fun _ => ?_
      rw [pure_bind]
      exact (compileOperands_traverses _).signals hC (fun _ => trivial) (i := 0) rfl (by simp)
        (blameDefault_signals hC _ _ (ih.apply entry))
    have hn : IsNameable (plain "a" "app.A").className :=
      isAnonymous_eq_false_iff.1 (by decide)
    have hdefinition : FailsWith .circularDefaults none
        (compileDefinition (some selfNesting.introspector) (compileUpTo selfNesting.introspector n)
          (plain "a" "app.A")) :=
      compileDefinition_signals hC hn hi (declaredPlan_signals_constructor hC (harguments _))
    refine ⟨none, {}, ?_⟩
    rw [compileUpTo, compileValue]
    exact hC.first hdefinition (fun _ => trivial) {}

end Registry

end Blueprint
