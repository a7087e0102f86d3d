/-
# Which factories are hygienic

A factory imports the modules of the classes that it names, inside the function.  Each import binds
the first part of the path of its module.  Nothing keeps that name apart from those that the factory
uses for something of its own: the container, the factory of placeholders, what needs no module, its
objects and its functions.  A module that is called like one of them takes its name.

When that happens can be told from the plan (`Factory.hygienic_iff`).
-/
import Blueprint.Proofs.Emission.Uses

namespace Blueprint

namespace Factory

variable {name : Text} {plan : Plan} {entry : Option Value} {world : World} {f : Factory}

/-- The names that a factory uses for something of its own are a few fixed ones, and those of its
local objects and functions. -/
lemma fixed_or_local_of_mem_ownNames {last : Nat} {us : List Use} {n : Text}
    (hn : n ∈ Use.ownNames last us) : n ∈ fixedNames ∨ ∃ l : Local, n = l.text := by
  induction us generalizing last with
  | nil => exact absurd hn List.not_mem_nil
  | cons u rest ih =>
    rw [Use.ownNames, List.mem_append] at hn
    rcases hn with hn | hn
    · -- only a fresh variable has a name with a number; all others are fixed
      cases u with
      | fresh role => exact .inr ⟨_, List.mem_singleton.1 hn⟩
      | path className =>
        rw [Use.own] at hn
        split at hn
        · rename_i hbuiltin
          obtain rfl := List.mem_singleton.1 hn
          exact .inl (List.mem_cons_of_mem _ (List.mem_cons_of_mem _ (.tail _ hbuiltin)))
        · exact absurd hn List.not_mem_nil
      | field field =>
        rw [Use.own] at hn
        split at hn
        · exact absurd hn List.not_mem_nil
        · obtain rfl := List.mem_singleton.1 hn
          exact .inl (by decide)
      | method => exact absurd hn List.not_mem_nil
      | keyword => exact absurd hn List.not_mem_nil
      | double | container | proxyFactory =>
        obtain rfl := List.mem_singleton.1 hn
        exact .inl (by decide)
    · exact ih hn

/-- Before the body is run a parameter stands for itself, unless an import takes its name. -/
lemma initialNames_eq_parameter?_iff {m : Type → Type} {O : Type} {n : Text}
    (hn : (Script.parameter? n : Option (Script.Datum m O)) ≠ none) :
    (f.script.initialNames : Script.Names m O) n = Script.parameter? n ↔
      n ∉ Script.importedNames f.imports := by
  have hparameter : n = "container" ∨ n = "proxy_factory" := by
    by_cases hcontainer : n = "container"
    · exact .inl hcontainer
    · by_cases hfactory : n = "proxy_factory"
      · exact .inr hfactory
      · exact absurd (by rw [Script.parameter?, if_neg hcontainer, if_neg hfactory]) hn
  have hstandard : n ∉ Script.standardNames := by
    rcases hparameter with rfl | rfl <;> decide
  rw [Script.initialNames, script]
  -- an import takes the name of the parameter, and a module is neither of the two
  by_cases himported : n ∈ Script.importedNames f.imports
  · rw [if_pos himported]
    refine iff_of_false ?_ (not_not_intro himported)
    rcases hparameter with rfl | rfl
    · simp [Script.parameter?]
    · rw [Script.parameter?, if_neg (by decide)]
      simp
  · rw [if_neg himported, if_neg fun h => hstandard h.2]
    exact iff_of_true rfl himported

/-- The imports of a factory bind the first parts of its class paths.  No import takes a name that
the factory uses for something of its own exactly if that is so of the plan, and a parameter stands
for itself exactly if no class path of the plan starts with it.  Class paths that start neither with
a fixed name nor with an underscore take no name. -/
theorem hygienic_iff (catalog : Catalog)
    (h : (ofPlan catalog.split name plan entry world).1 = .ok f) :
    (∀ n, n ∈ Script.importedNames f.imports ↔ n ∈ plan.importedNames) ∧
      (∀ n, n ∈ f.ownNames ↔ n ∈ plan.ownNames) ∧
      ((∀ n ∈ Script.importedNames f.imports, n ∉ f.ownNames) ↔
        ∀ n ∈ plan.importedNames, n ∉ plan.ownNames) ∧
      (∀ (m : Type → Type) (O : Type) (n : Text),
        (Script.parameter? n : Option (Script.Datum m O)) ≠ none →
          ((f.script.initialNames : Script.Names m O) n = Script.parameter? n ↔
            n ∉ plan.importedNames)) ∧
      ((∀ n ∈ plan.importedNames, n ∉ fixedNames ∧ n.points.head? ≠ some (.char '_')) →
        ∀ n ∈ Script.importedNames f.imports, n ∉ f.ownNames) := by
  obtain ⟨himported, hown, -⟩ := ofPlan_reflects catalog.split_isCutting h
  refine ⟨himported, hown, ?_, fun m O n hn => ?_, ?_⟩
  · simp only [himported, hown]
  · rw [initialNames_eq_parameter?_iff hn]
    exact not_congr (himported n)
  · intro hplan n hn hnown
    obtain ⟨hfixed, hunderscore⟩ := hplan n ((himported n).1 hn)
    rcases fixed_or_local_of_mem_ownNames ((hown n).1 hnown) with hmem | ⟨l, rfl⟩
    · exact hfixed hmem
    · exact hunderscore l.head_text

/-- A plan for a class of a module that is called like the container, made from an entry. -/
def containerPlan : Plan :=
  [.construct "container.X" [.reference (.str "a")] []]

/-- Its factory. -/
def containerFactory : Factory where
  name := "build_x"
  imports := ["container"]
  body :=
    [.bind ⟨.object, 1⟩ ⟨.member "container" "X", [.lookup (.str "a")], []⟩, .result ⟨.object, 1⟩]

/-- The import of the module takes the name of the container, which is used to look up the entry. -/
theorem containerFactory_captured :
    (ofPlan (Catalog.split ⟨[]⟩) "build_x" containerPlan none {}).1 = .ok containerFactory ∧
      ("container" : Text) ∈ Script.importedNames containerFactory.imports ∧
      ("container" : Text) ∈ containerFactory.ownNames := by
  have hdrafted : (ofPlan (Catalog.split ⟨[]⟩) "build_x" containerPlan none {}).1 =
      .ok containerFactory := rfl
  obtain ⟨himported, hown, -⟩ := hygienic_iff ⟨[]⟩ hdrafted
  have huses : containerPlan.uses = [.fresh .object, .path "container.X", .container] := rfl
  refine ⟨hdrafted, (himported _).2 ?_, (hown _).2 ?_⟩
  · rw [Plan.importedNames, huses]
    decide
  · rw [Plan.ownNames, huses]
    simp [Use.ownNames, Use.own]

end Factory

end Blueprint
