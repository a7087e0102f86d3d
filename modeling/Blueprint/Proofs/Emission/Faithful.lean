/-
# Factories are faithful

This is what the other files of this folder come to.  The text of a factory is that of a script, and
running the script asks of every host what carrying out the plan asks of it, if the names that the
plan mentions are in their normal form, and only then.  The plan has to be of the right shape, its
names have to be identifiers that are not taken, and no module may take a name away from the
factory.
-/
import Blueprint.Proofs.Emission.Legality
import Blueprint.Proofs.Emission.Spelling

namespace Blueprint

/-- What a plan mentions has the shape it needs, and names that are identifiers and not taken. -/
def Plan.IsWellFormed (plan : Plan) : Prop :=
  ∀ u ∈ plan.mentions, u.IsFit Script.IsBareName

instance : DecidablePred Plan.IsWellFormed :=
  fun plan => inferInstanceAs (Decidable (∀ u ∈ plan.mentions, u.IsFit Script.IsBareName))

/-- The names that a plan mentions are in their normal form. -/
def Plan.IsNormal (plan : Plan) : Prop :=
  ∀ u ∈ plan.mentions, ∀ t ∈ u.bareNames, t.normal = t

instance : DecidablePred Plan.IsNormal :=
  fun plan => inferInstanceAs (Decidable (∀ u ∈ plan.mentions, ∀ t ∈ u.bareNames, t.normal = t))

namespace Factory

variable {split : Splitter} {name : Text} {plan : Plan} {entry : Option Value} {world : World}
  {f : Factory}

/-- A factory of a plan is drafted from nothing. -/
lemma ofPlan_inv (h : (ofPlan split name plan entry world).1 = .ok f) :
    f.name = name ∧ ∃ draft, Drafts (draftPlan split plan) ⟨0, []⟩ f.body draft ∧
      f.imports = draft.modules := by
  rw [ofPlan] at h
  by_cases hid : Text.isIdentifier name = true
  · rw [if_neg (by simp [hid])] at h
    have hdrafted : (((draftPlan split plan).run ⟨0, []⟩ >>= fun drafted =>
        pure ⟨name, drafted.2.modules, drafted.1⟩) entry world).1 = .ok f := h
    rw [Run.bind_apply] at hdrafted
    rcases hd : (draftPlan split plan).run ⟨0, []⟩ entry world with
      ⟨failure | ⟨body, draft⟩, world'⟩ <;> rw [hd] at hdrafted
    · exact absurd hdrafted (by simp)
    · obtain rfl : (⟨name, draft.modules, body⟩ : Factory) = f := Except.ok.inj hdrafted
      exact ⟨rfl, draft, ⟨entry, world, world', hd⟩, rfl⟩
  · rw [if_pos (by simp [hid])] at h
    have hfail : Except.error (Failure.mismatch (.factoryName name)) = Except.ok f := h
    exact absurd hfail (by simp)

/-- The factory is sound, and the names in it are such as `P` allows to be written. -/
structure IsSound (P : Text → Prop) (f : Factory) : Prop where
  /-- The paths of modules. -/
  imports : ∀ n ∈ f.imports, ∀ part ∈ Catalog.pathParts n, P part
  /-- The body. -/
  body : BlockSound P f.imports f.body

/-- The factory of a plan that mentions nothing unfit is sound, and does what the plan does. -/
lemma ofPlan_ready {m : Type → Type} [Monad m] [LawfulMonad m] {O : Type} (host : Host m O)
    {P : Text → Prop} (hsplit : Splitter.IsCutting split)
    (h : (ofPlan split name plan entry world).1 = .ok f) (hplan : ∀ u ∈ plan.mentions, u.IsFit P) :
    f.IsSound P ∧ ∀ locals, runBlock host f.body locals = host.execute plan := by
  obtain ⟨-, draft, hd, himports⟩ := ofPlan_inv h
  have hready : BlockReady host P plan ⟨0, []⟩ draft f.body := draftPlan_ready hsplit hplan hd
  refine ⟨⟨fun n hn => ?_, hready.sound _ fun n hn => himports ▸ hn⟩, hready.runs⟩
  rcases hready.adds n (himports ▸ hn) with hnone | hparts
  · exact absurd hnone List.not_mem_nil
  · exact hparts

/-- The script of a factory does for a host what the plan does for the host as it is addressed by
names that are written. -/
lemma run_script_eq_respelled {m : Type → Type} [Monad m] [LawfulMonad m] {O : Type}
    (host : Host m O) (hsplit : Splitter.IsCutting split)
    (h : (ofPlan split name plan entry world).1 = .ok f) (hplan : plan.IsWellFormed)
    (hf : f.IsHygienic) : f.script.run host = host.respelled.execute plan := by
  obtain ⟨hsound, hruns⟩ := ofPlan_ready host.respelled hsplit h hplan
  rw [run_script host f hsound.body hf, hruns]

/-- A name that can be written, and means itself. -/
def IsPlainName (t : Text) : Prop :=
  Script.IsBareName t ∧ t.normal = t

lemma isName_of_isPlainName {t : Text} (h : IsPlainName t) : Script.IsName t ∧ t.normal = t :=
  ⟨isName_of_normal h.2 h.1, h.2⟩

lemma isFit_isPlainName (hplan : plan.IsWellFormed) (hnormal : plan.IsNormal) :
    ∀ u ∈ plan.mentions, u.IsFit IsPlainName :=
  fun u hu => ⟨(hplan u hu).1, fun t ht => ⟨(hplan u hu).2 t ht, hnormal u hu t ht⟩⟩

/-- A factory whose names are in their normal form is legal, and does the same for a host that is
addressed by written names. -/
lemma IsSound.script_isLegal (h : f.IsSound IsPlainName) (hname : Script.IsName f.name) :
    f.script.IsLegal := by
  refine ⟨hname, fun n hn part hpart => ?_, ?_⟩
  · exact (isName_of_isPlainName (h.imports n hn part hpart)).1
  · exact blockScript_isLegal (fun t => isName_of_isPlainName) f.body h.body

end Factory

/-- The text of a factory is that of a script.  The script is legal, and asks of every host what
carrying out the plan asks of it, exactly if the names that the plan mentions are in their normal
form. -/
theorem Factory.script_faithful_iff (catalog : Catalog) {name : Text} {plan : Plan}
    {entry : Option Value} {world : World} {f : Factory}
    (h : (Factory.ofPlan catalog.split name plan entry world).1 = .ok f)
    (hplan : plan.IsWellFormed) (hf : f.IsHygienic) :
    f.script.text = f.text ∧
      ((f.script.IsLegal ∧ ∀ (m : Type → Type) [Monad m] [LawfulMonad m] (O : Type)
          (host : Host m O), f.script.run host = host.execute plan) ↔
        Script.IsName name ∧ plan.IsNormal) := by
  have hsplit := catalog.split_isCutting
  have hname := (ofPlan_inv h).1
  refine ⟨f.script_text, ?_, ?_⟩
  · rintro ⟨hlegal, hsame⟩
    refine ⟨hname ▸ hlegal.name, Recorder.isNormal_of_execute_eq (fun u hu => (hplan u hu).1) ?_⟩
    exact (run_script_eq_respelled _ hsplit h hplan hf).symm.trans (hsame _ _ _)
  · rintro ⟨hisName, hnormal⟩
    have hfit := isFit_isPlainName hplan hnormal
    obtain ⟨hsound, -⟩ := ofPlan_ready (Recorder.host id id) hsplit h hfit
    refine ⟨hsound.script_isLegal (hname ▸ hisName), fun m _ _ O host => ?_⟩
    obtain ⟨-, hruns⟩ := ofPlan_ready host hsplit h hfit
    rw [run_script host f hsound.body hf,
      runBlock_respelled (fun t ht => ht.2) f.body _ hsound.body, hruns]

/-- The plan of a pair, with an object built in place as an argument, and another behind a
placeholder in a list. -/
def nestedPlan : Plan :=
  [.construct "app.Pair"
      [.int 1, .nested "app.Item" [.construct "app.Item" [.reference (.str "seed")] []]] ["second"],
    .assign "items"
      (.list [.nested "app.Item" [.placeholder "app.Item" [.construct "app.Item" [] []]]]),
    .invoke "seal" [] []]

/-- Its factory. -/
def nestedFactory : Factory where
  name := "build_pair"
  imports := ["app"]
  body :=
    [.define ⟨.nested, 2⟩
        [.bind ⟨.object, 3⟩ ⟨.member "app" "Item", [.lookup (.str "seed")], []⟩,
          .result ⟨.object, 3⟩],
      .bind ⟨.object, 1⟩
        ⟨.member "app" "Pair", [.constant (.int 1)], [("second", .build ⟨.nested, 2⟩)]⟩,
      .define ⟨.nested, 4⟩
        [.define ⟨.initializer, 6⟩
            [.bind ⟨.object, 7⟩ ⟨.member "app" "Item", [], []⟩, .result ⟨.object, 7⟩],
          .proxy ⟨.object, 5⟩ "app.Item" ⟨.initializer, 6⟩, .result ⟨.object, 5⟩],
      .assign ⟨.object, 1⟩ "items" (.list [.build ⟨.nested, 4⟩]),
      .perform ⟨.method ⟨.object, 1⟩ "seal", [], []⟩,
      .result ⟨.object, 1⟩]

lemma nestedPlan_mentions :
    nestedPlan.mentions =
      [.block true, .block true, .entry (.str "seed"), .path ["app", "Item"], .keywords [] 1,
        .path ["app", "Pair"], .keywords ["second"] 2, .block true, .block true,
        .path ["app", "Item"], .keywords [] 0, .field "items", .method "seal", .keywords [] 0] := by
  rfl

/-- The factory of the pair does for every host what the plan does. -/
theorem nestedFactory_faithful :
    nestedFactory.script.IsLegal ∧ ∀ (m : Type → Type) [Monad m] [LawfulMonad m] (O : Type)
      (host : Host m O), nestedFactory.script.run host = host.execute nestedPlan := by
  have hdrafted : (Factory.ofPlan (Catalog.split ⟨[]⟩) "build_pair" nestedPlan none {}).1 =
      .ok nestedFactory := by rfl
  have hplan : nestedPlan.IsWellFormed := by
    rw [Plan.IsWellFormed, nestedPlan_mentions]
    decide
  have hnormal : nestedPlan.IsNormal := by
    rw [Plan.IsNormal, nestedPlan_mentions]
    decide
  have hhygienic : nestedFactory.IsHygienic := by
    refine ⟨?_, ?_⟩ <;>
      simp only [Factory.ownNames, nestedFactory, Factory.blockNames, Factory.Expr.ownNames,
        Factory.itemNames, Factory.Call.ownNames, Factory.Callee.ownNames, List.map,
        Factory.Local.text_eq, Factory.constantNames] <;> decide
  exact (Factory.script_faithful_iff ⟨[]⟩ hdrafted hplan hhygienic).2.2 ⟨by decide, hnormal⟩

end Blueprint
