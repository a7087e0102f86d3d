/-
# The names that a plan puts into its factory

Which names a factory imports, which it uses for something of its own and which it writes as they
are can be told from the plan alone: `Plan.uses` collects them, in the order in which the plan is
drafted, so that the numbers of the local names come out by counting.  Of arguments for one name
only the last is drafted, and a plan uses no more.

`Factory.ofPlan_reflects` shows, for every plan that is drafted, that what was collected is what the
factory has.
-/
import Blueprint.Proofs.Emission.Faithful

namespace Blueprint

/-! ## Splitting arguments that change their form -/

lemma Entries.put_map {κ ι ι' : Type} [BEq κ] (f : ι → ι') (key : κ) (value : ι)
    (entries : List (κ × ι)) :
    Entries.put key (f value) (entries.map fun e => (e.1, f e.2)) =
      (Entries.put key value entries).map fun e => (e.1, f e.2) := by
  induction entries with
  | nil => rfl
  | cons e rest ih =>
    simp only [List.map_cons, Entries.put, ih]
    split <;> rfl

lemma Entries.putAll_map {κ ι ι' : Type} [BEq κ] (f : ι → ι') (pairs entries : List (κ × ι)) :
    (pairs.map fun e => (e.1, f e.2)).foldl (fun entries e => Entries.put e.1 e.2 entries)
        (entries.map fun e => (e.1, f e.2)) =
      (pairs.foldl (fun entries e => Entries.put e.1 e.2 entries) entries).map
        fun e => (e.1, f e.2) := by
  induction pairs generalizing entries with
  | nil => rfl
  | cons pair rest ih =>
    have hput := Entries.put_map f pair.1 pair.2 entries
    rw [List.map_cons, List.foldl_cons, List.foldl_cons, ← ih, ← hput]

lemma Entries.ofList_map {κ ι ι' : Type} [BEq κ] (f : ι → ι') (pairs : List (κ × ι)) :
    Entries.ofList (pairs.map fun e => (e.1, f e.2)) =
      (Entries.ofList pairs).map fun e => (e.1, f e.2) :=
  Entries.putAll_map f pairs []

/-- Which arguments are passed by name does not depend on what they are. -/
lemma splitArguments_map {α β : Type} (f : α → β) (arguments : List α) (keywords : List Text) :
    splitArguments (arguments.map f) keywords =
      ((splitArguments arguments keywords).1.map f,
        (splitArguments arguments keywords).2.map fun e => (e.1, f e.2)) := by
  unfold splitArguments
  split
  · rfl
  · simp only [List.length_map, ← List.map_take, ← List.map_drop, ← Entries.ofList_map]
    rw [List.zip_map_right]
    rfl

/-- Every argument that is passed in one way or the other is one of the arguments. -/
lemma mem_of_mem_splitArguments {α : Type} {arguments : List α} {keywords : List Text} {a : α}
    (h : a ∈ (splitArguments arguments keywords).1 ∨
      ∃ e ∈ (splitArguments arguments keywords).2, e.2 = a) : a ∈ arguments := by
  unfold splitArguments at h
  split at h
  · rcases h with h | ⟨e, he, -⟩
    · exact h
    · exact absurd he (by simp)
  · rcases h with h | ⟨e, he, rfl⟩
    · exact List.mem_of_mem_take h
    · obtain ⟨pair, hpair, hv⟩ := List.mem_map.1 (Entries.mem_ofList he).2
      rw [← hv]
      exact List.mem_of_mem_drop (List.of_mem_zip hpair).2

/-! ## Uses -/

/-- A name that a plan needs. -/
inductive Use where
  /-- A new local name. -/
  | fresh (role : Factory.Role)
  /-- The class of doubles, for one that has no literal. -/
  | double
  /-- The container. -/
  | container
  /-- The factory of placeholders. -/
  | proxyFactory
  /-- The class of a path. -/
  | path (className : Text)
  /-- A field that is assigned. -/
  | field (name : Text)
  /-- A method that is called. -/
  | method (name : Text)
  /-- The name of an argument. -/
  | keyword (name : Text)

/-- What the arguments of a call use, given what each of them does. -/
def callUses (arguments : List (List Use)) (keywords : List Text) : List Use :=
  (splitArguments arguments keywords).1.flatten ++
    (splitArguments arguments keywords).2.flatMap fun e => .keyword e.1 :: e.2

mutual

/-- What an operand uses. -/
def Value.uses : Value → List Use
  | .float x | .derived _ (.float x) => if x.isFinite then [] else [.double]
  | .reference _ => [.container]
  | .nested _ plan => .fresh .nested :: .fresh .object :: stepUses plan
  | .list items => (itemUses items).flatten
  | .tuple items => (itemUses items).flatten
  | .dict entries => entryUses entries
  | _ => []

/-- What operands use, each of them. -/
def itemUses : List Value → List (List Use)
  | [] => []
  | item :: rest => item.uses :: itemUses rest

/-- What keys and their values use. -/
def entryUses : List (Value × Value) → List Use
  | [] => []
  | (key, item) :: rest => key.uses ++ (item.uses ++ entryUses rest)

/-- What instructions use. -/
def stepUses : List Instruction → List Use
  | [] => []
  | .construct className arguments keywords :: rest =>
    .path className :: (callUses (itemUses arguments) keywords ++ stepUses rest)
  | .assign field value :: rest => value.uses ++ .field field :: stepUses rest
  | .invoke method arguments keywords :: rest =>
    callUses (itemUses arguments) keywords ++ .method method :: stepUses rest
  | .placeholder _ initializer :: rest =>
    .fresh .initializer :: .fresh .object ::
      (stepUses initializer ++ .proxyFactory :: stepUses rest)
  | .stray _ :: _ => []

end

/-- What a plan uses, at any depth. -/
def Plan.uses (plan : Plan) : List Use :=
  .fresh .object :: stepUses plan

lemma itemUses_eq_map (items : List Value) : itemUses items = items.map Value.uses := by
  induction items with
  | nil => rw [itemUses, List.map_nil]
  | cons item rest ih => rw [itemUses, ih, List.map_cons]

/-- A call of values uses what the values do, first of those in order, then of those by name. -/
lemma callUses_itemUses (arguments : List Value) (keywords : List Text) :
    callUses (itemUses arguments) keywords =
      ((splitArguments arguments keywords).1.map Value.uses).flatten ++
        (splitArguments arguments keywords).2.flatMap fun e => .keyword e.1 :: e.2.uses := by
  rw [callUses, itemUses_eq_map, splitArguments_map, List.flatMap_map]

/-! ## Names of uses -/

/-- A name in a text: as it is, or in quotes. -/
inductive Written where
  | bare (name : Text)
  | quoted (name : Text)
deriving DecidableEq

namespace Use

/-- The names that the use writes. -/
def written : Use → List Written
  | path className => (classPath className).map .bare
  | field name => [if Text.isIdentifier name then .bare name else .quoted name]
  | method name => [.bare name]
  | keyword name => [.bare name]
  | fresh _ | double | container | proxyFactory => []

/-- The name that is bound by the import that the use needs. -/
def imported : Use → List Text
  | path className =>
    if className ∈ Factory.builtinNames then []
    else ((classPath className).head?.map Text.normal).toList
  | _ => []

/-- Whether the use takes a new local name. -/
def isFresh : Use → Bool
  | fresh _ => true
  | _ => false

/-- The name that the use needs for something of the factory's own, given the number of the last
local name. -/
def own (last : Nat) : Use → List Text
  | fresh role => [Factory.Local.text ⟨role, last + 1⟩]
  | double => ["float"]
  | container => ["container"]
  | proxyFactory => ["proxy_factory"]
  | path className => if className ∈ Factory.builtinNames then [className] else []
  | field name => if Text.isIdentifier name then [] else ["setattr"]
  | method _ | keyword _ => []

/-- The names that uses need for something of the factory's own, given the number of the last local
name. -/
def ownNames (last : Nat) : List Use → List Text
  | [] => []
  | u :: rest => u.own last ++ ownNames (if u.isFresh then last + 1 else last) rest

lemma ownNames_append (last : Nat) (us us' : List Use) :
    ownNames last (us ++ us') =
      ownNames last us ++ ownNames (last + us.countP isFresh) us' := by
  induction us generalizing last with
  | nil => rfl
  | cons u rest ih =>
    rw [List.cons_append, ownNames, ownNames, ih, List.append_assoc, List.countP_cons]
    congr 3
    split <;> omega

end Use

/-- The names that an operand writes. -/
def Value.written (v : Value) : List Written :=
  v.uses.flatMap Use.written

/-- The names that the imports of a plan's factory bind. -/
def Plan.importedNames (plan : Plan) : List Text :=
  plan.uses.flatMap Use.imported

/-- The names that a plan's factory uses for something of its own. -/
def Plan.ownNames (plan : Plan) : List Text :=
  Use.ownNames 0 plan.uses

/-- The names that a plan's factory writes. -/
def Plan.written (plan : Plan) : List Written :=
  plan.uses.flatMap Use.written

/-- An import binds the first part of the path of its module. -/
lemma Script.mem_importedNames_iff {imports : List Text} {n : Text} :
    n ∈ Script.importedNames imports ↔
      ∃ name ∈ imports, (Catalog.pathParts name).head?.map Text.normal = some n := by
  rw [Script.importedNames, Script.modulePaths, List.filterMap_map, List.mem_filterMap]
  simp only [Function.comp_def, List.head?_map]

namespace Factory

/-! ## Names of factories -/

/-- The names that stand for what is called. -/
def Callee.written : Callee → List Written
  | member moduleName qualifiedName =>
    (Catalog.pathParts moduleName ++ Catalog.pathParts qualifiedName).map .bare
  | builtin name => [.bare name]
  | method _ name => [.bare name]

/-- The names that a call writes, but for its arguments. -/
def Call.written (c : Call) : List Written :=
  c.callee.written ++ c.keywords.map fun e => .bare e.1

/-- The names that a block writes, at any depth, but for names of its own. -/
def blockWritten : List Statement → List Written
  | [] => []
  | .define _ body :: rest => blockWritten body ++ blockWritten rest
  | .bind _ call :: rest => call.written ++ blockWritten rest
  | .assign _ field _ :: rest =>
    (if Text.isIdentifier field then .bare field else .quoted field) :: blockWritten rest
  | .perform call :: rest => call.written ++ blockWritten rest
  | .proxy _ _ _ :: rest => blockWritten rest
  | .result _ :: rest => blockWritten rest

/-- The names that a factory writes: in its imports, and for classes, fields, methods and
arguments. -/
def written (f : Factory) : List Written :=
  (f.imports.flatMap fun n => (Catalog.pathParts n).map .bare) ++ blockWritten f.body

lemma blockNames_append (body body' : List Statement) :
    blockNames (body ++ body') = blockNames body ++ blockNames body' := by
  induction body with
  | nil => rw [blockNames, List.nil_append, List.nil_append]
  | cons s rest ih =>
    cases s <;> simp only [List.cons_append, blockNames, ih, List.append_assoc]

lemma blockWritten_append (body body' : List Statement) :
    blockWritten (body ++ body') = blockWritten body ++ blockWritten body' := by
  induction body with
  | nil => rw [blockWritten, List.nil_append, List.nil_append]
  | cons s rest ih =>
    cases s <;> simp only [List.cons_append, blockWritten, ih, List.append_assoc]

/-! ## Drafting reflects what is used -/

/-- From one draft to a later one something was drafted that needs the names in `own` and writes
those in `written`: these are the names of the uses. -/
structure Reflects (us : List Use) (d d' : Draft) (own : List Text) (written : List Written) :
    Prop where
  /-- The local names are counted. -/
  count : d'.count = d.count + us.countP Use.isFresh
  /-- The modules are added. -/
  imported : ∀ n, n ∈ Script.importedNames d'.modules ↔
    n ∈ Script.importedNames d.modules ∨ n ∈ us.flatMap Use.imported
  /-- Their paths are made of parts that are written. -/
  parts : ∀ n ∈ d'.modules, n ∈ d.modules ∨
    ∀ part ∈ Catalog.pathParts n, .bare part ∈ us.flatMap Use.written
  /-- The names for something of its own. -/
  own : ∀ n, n ∈ own ↔ n ∈ Use.ownNames d.count us
  /-- The names that are written. -/
  written : ∀ w, w ∈ written ↔ w ∈ us.flatMap Use.written

namespace Reflects

variable {us us' : List Use} {d d₁ d' : Draft} {own own' : List Text}
  {written written' : List Written}

lemma nil (d : Draft) : Reflects [] d d [] [] :=
  ⟨rfl, fun _ => by simp, fun _ => .inl, fun _ => Iff.rfl, fun _ => Iff.rfl⟩

lemma append (h : Reflects us d d₁ own written) (h' : Reflects us' d₁ d' own' written') :
    Reflects (us ++ us') d d' (own ++ own') (written ++ written') := by
  refine ⟨?_, fun n => ?_, fun n hn => ?_, fun n => ?_, fun w => ?_⟩
  · rw [h'.count, h.count, List.countP_append, Nat.add_assoc]
  · rw [h'.imported, h.imported, List.flatMap_append, List.mem_append, or_assoc]
  · rw [List.flatMap_append]
    rcases h'.parts n hn with hn | hparts
    · rcases h.parts n hn with hn | hparts
      · exact .inl hn
      · exact .inr fun part hpart => List.mem_append_left _ (hparts part hpart)
    · exact .inr fun part hpart => List.mem_append_right _ (hparts part hpart)
  · rw [Use.ownNames_append, List.mem_append, List.mem_append, h.own, h'.own, h.count]
  · rw [List.flatMap_append, List.mem_append, List.mem_append, h.written, h'.written]

/-- Only which names there are matters. -/
lemma congr (h : Reflects us d d' own written) (hown : ∀ n, n ∈ own' ↔ n ∈ own)
    (hwritten : ∀ w, w ∈ written' ↔ w ∈ written) : Reflects us d d' own' written' :=
  ⟨h.count, h.imported, h.parts, fun n => (hown n).trans (h.own n),
    fun w => (hwritten w).trans (h.written w)⟩

/-- A use that takes no new local name and needs no module. -/
lemma single {u : Use} (hfresh : u.isFresh = false) (himported : u.imported = []) (d : Draft) :
    Reflects [u] d d (u.own d.count) u.written := by
  refine ⟨?_, fun n => ?_, fun _ => .inl, fun n => ?_, fun w => ?_⟩
  · rw [List.countP_singleton, hfresh]
    rfl
  · rw [List.flatMap_singleton, himported]
    simp
  · rw [Use.ownNames, Use.ownNames, List.append_nil]
  · rw [List.flatMap_singleton]

lemma ownNames_keywords (named : List (Text × Value)) (count : Nat) :
    Use.ownNames count (named.flatMap fun e => .keyword e.1 :: e.2.uses) =
      Use.ownNames count ((named.map Prod.snd).map Value.uses).flatten := by
  induction named generalizing count with
  | nil => rfl
  | cons e rest ih =>
    simp only [List.flatMap_cons, List.cons_append, Use.ownNames, Use.own, List.nil_append,
      Use.ownNames_append, List.map_cons, List.flatten_cons, ih]
    rfl

/-- The names of arguments are written, and that is all they are used for. -/
lemma keywords {named : List (Text × Value)}
    (h : Reflects ((named.map Prod.snd).map Value.uses).flatten d d' own written) :
    Reflects (named.flatMap fun e => .keyword e.1 :: e.2.uses) d d' own
      (written ++ named.map fun e => .bare e.1) := by
  -- whatever is told of each use, a name of an argument adds only what is told of it
  have hmem : ∀ {α : Type} (f : Use → List α) (a : α),
      a ∈ (named.flatMap fun e => .keyword e.1 :: e.2.uses).flatMap f ↔
        a ∈ ((named.map Prod.snd).map Value.uses).flatten.flatMap f ∨
          ∃ e ∈ named, a ∈ f (.keyword e.1) := by
    intro α f a
    rw [List.map_map, ← List.flatMap_def, List.flatMap_assoc, List.flatMap_assoc]
    simp only [List.mem_flatMap (l := named), List.flatMap_cons, List.mem_append,
      Function.comp_apply, and_or_left, exists_or]
    exact or_comm
  refine ⟨?_, fun n => ?_, fun n hn => ?_, fun n => ?_, fun w => ?_⟩
  · rw [h.count, List.countP_flatMap, List.countP_flatten]
    simp [Use.isFresh, Function.comp_def]
  · rw [h.imported, hmem]
    simp [Use.imported]
  · exact (h.parts n hn).imp_right fun hparts part hpart => (hmem _ _).2 (.inl (hparts part hpart))
  · rw [h.own, ownNames_keywords]
  · rw [List.mem_append, h.written, hmem]
    simp only [Use.written, List.mem_map, List.mem_singleton, eq_comm]

lemma of_fresh {role : Role} {l : Local} (h : Drafts (fresh role) d l d') :
    Reflects [.fresh role] d d' [l.text] [] := by
  obtain ⟨rfl, rfl⟩ := h.fresh_inv
  refine ⟨rfl, fun n => ?_, fun _ => .inl, fun n => ?_, fun w => Iff.rfl⟩
  · simp [Use.imported]
  · rw [Use.ownNames, Use.ownNames, List.append_nil, Use.own]

end Reflects

section Drafting

variable {split : Splitter} {d d' : Draft}

/-- What drafting an expression leaves is what the uses are. -/
def ExprReflects (x : Drafting Drafted) (us : List Use) : Prop :=
  ∀ d drafted d', Drafts x d drafted d' →
    Reflects us d d' (blockNames drafted.1 ++ drafted.2.ownNames) (blockWritten drafted.1)

lemma draftAll_reflects {items : List Value}
    (h : ∀ v ∈ items, ExprReflects (draftValue split v) v.uses)
    {drafted : List Statement × List Expr}
    (hd : Drafts (draftAll (items.map (draftValue split))) d drafted d') :
    Reflects (items.map Value.uses).flatten d d' (blockNames drafted.1 ++ itemNames drafted.2)
      (blockWritten drafted.1) := by
  induction items generalizing d drafted with
  | nil =>
    obtain ⟨rfl, rfl⟩ := hd.pure_inv
    rw [blockNames, itemNames, blockWritten]
    exact Reflects.nil _
  | cons item rest ih =>
    obtain ⟨entry, world, world', hd⟩ := hd
    obtain ⟨before, e, d₁, _, more, es, hitem, hrest, rfl⟩ := LeadsTo.all_cons_inv hd
    have hhead := h item List.mem_cons_self d _ d₁ hitem.drafts
    have htail := ih (fun v hv => h v (List.mem_cons_of_mem item hv)) hrest.drafts
    refine (hhead.append htail).congr (fun n => ?_) fun w => ?_
    · simp only [blockNames_append, itemNames, List.mem_append]
      exact or_or_or_comm
    · simp only [blockWritten_append]

/-- The names of arguments are written, whatever the arguments are. -/
lemma draftNamed_reflects {named : List (Text × Value)}
    (h : ∀ e ∈ named, ExprReflects (draftValue split e.2) e.2.uses)
    {drafted : List Statement × List (Text × Expr)}
    (hd : Drafts (draftNamed (named.map fun e => (e.1, draftValue split e.2))) d drafted d') :
    Reflects (named.flatMap fun e => .keyword e.1 :: e.2.uses) d d'
      (blockNames drafted.1 ++ itemNames (drafted.2.map Prod.snd))
      (blockWritten drafted.1 ++ drafted.2.map fun e => .bare e.1) := by
  obtain ⟨entry, world, world', hd⟩ := hd
  obtain ⟨hall, hnames⟩ := LeadsTo.namedValues_inv hd
  have hwritten : (drafted.2.map fun e => Written.bare e.1) = named.map fun e => .bare e.1 := by
    have h := congrArg (List.map Written.bare) hnames
    simpa only [List.map_map, Function.comp_def] using h
  have hreflects := draftAll_reflects (List.forall_mem_map.2 h) hall.drafts
  rw [hwritten]
  exact hreflects.keywords

lemma draftCall_reflects {arguments : List Value} {keywords : List Text} {callee : Callee}
    (h : ∀ v ∈ arguments, ExprReflects (draftValue split v) v.uses)
    {drafted : List Statement × Call}
    (hd : Drafts (draftCall callee (draftItems split arguments) keywords) d drafted d') :
    drafted.2.callee = callee ∧
      Reflects (callUses (itemUses arguments) keywords) d d'
        (blockNames drafted.1 ++ (itemNames drafted.2.positional ++
          itemNames (drafted.2.keywords.map Prod.snd)))
        (blockWritten drafted.1 ++ drafted.2.keywords.map fun e => .bare e.1) := by
  obtain ⟨entry, world, world', hd⟩ := hd
  obtain ⟨before, es, d₁, _, more, ks, hpositional, hnamed, rfl⟩ := LeadsTo.call_inv hd
  rw [draftItems_eq_map, splitArguments_map] at hpositional hnamed
  have hfirst := draftAll_reflects
    (fun v hv => h v (mem_of_mem_splitArguments (.inl hv))) hpositional.drafts
  have hsecond := draftNamed_reflects
    (fun e he => h e.2 (mem_of_mem_splitArguments (.inr ⟨e, he, rfl⟩))) hnamed.drafts
  refine ⟨rfl, ?_⟩
  rw [callUses_itemUses]
  refine (hfirst.append hsecond).congr (fun n => ?_) fun w => ?_
  · simp only [blockNames_append, List.mem_append]
    exact or_or_or_comm
  · simp only [blockWritten_append, List.mem_append, or_assoc]

/-- The class of a path is written by its parts, whether it needs a module or not. -/
lemma draftClass_reflects (hsplit : Splitter.IsCutting split) {className : Text} {callee : Callee}
    (h : Drafts (draftClass split className) d callee d') :
    Reflects [.path className] d d' callee.ownNames callee.written := by
  obtain ⟨entry, world, world', h⟩ := h
  have hbuiltin : ∀ name ∈ builtinNames, classPath name = [name] := by decide
  obtain ⟨m, q, hcut, ⟨-, hmem, rfl, rfl⟩ | ⟨hempty, rfl, rfl⟩⟩ := LeadsTo.class_inv h
  · refine ⟨rfl, fun n => ?_, fun _ => .inl, fun n => ?_, fun w => ?_⟩
    · simp [Use.imported, if_pos hmem]
    · simp [Use.ownNames, Use.own, if_pos hmem, Callee.ownNames]
    · simp [Use.written, hbuiltin className hmem, Callee.written]
  · have hcuts := hsplit className entry world
    rw [hcut] at hcuts
    have hpath : Catalog.pathParts m ++ Catalog.pathParts q = classPath className :=
      hcuts.resolve_left (by simp [hempty])
    -- a path with a module has at least two parts, and no class that needs none has
    have hmem : className ∉ builtinNames := by
      intro hmem
      have hlength := congrArg List.length (hpath.trans (hbuiltin className hmem))
      have hm := List.length_pos_iff.2 (Catalog.pathParts_ne_nil m)
      have hq := List.length_pos_iff.2 (Catalog.pathParts_ne_nil q)
      rw [List.length_append, List.length_singleton] at hlength
      omega
    have hhead : (Catalog.pathParts m).head? = (classPath className).head? := by
      rw [← hpath, List.head?_append,
        List.head?_eq_some_head (Catalog.pathParts_ne_nil m), Option.some_or]
    refine ⟨rfl, fun n => ?_, fun n hn => ?_, fun n => ?_, fun w => ?_⟩
    · rw [Script.mem_importedNames_iff, Script.mem_importedNames_iff, List.flatMap_singleton,
        Use.imported, if_neg hmem, ← hhead, Option.mem_toList]
      constructor
      · rintro ⟨name, hname, hn⟩
        rcases mem_withModule.1 hname with hname | rfl
        · exact .inl ⟨name, hname, hn⟩
        · exact .inr hn
      · rintro (⟨name, hname, hn⟩ | hn)
        · exact ⟨name, mem_withModule.2 (.inl hname), hn⟩
        · exact ⟨m, mem_withModule.2 (.inr rfl), hn⟩
    · rcases mem_withModule.1 hn with hn | rfl
      · exact .inl hn
      · refine .inr fun part hpart => ?_
        rw [List.flatMap_singleton, Use.written, ← hpath]
        exact List.mem_map_of_mem (List.mem_append_left _ hpart)
    · rw [Callee.ownNames, Use.ownNames, Use.ownNames, Use.own, if_neg hmem]
      rfl
    · rw [Callee.written, hpath, List.flatMap_singleton, Use.written]

/-! ## Instructions and blocks -/

/-- What drafting instructions leaves is what they use, but for the name of the object, which is
used wherever the object is. -/
def StepsReflect (split : Splitter) (plan : Plan) : Prop :=
  ∀ target d statements d', Drafts (draftSteps split target plan) d statements d' →
    ∃ own, Reflects (stepUses plan) d d' own (blockWritten statements) ∧
      ∀ n, n ∈ target.text :: blockNames statements ↔ n ∈ target.text :: own

lemma stepsReflect_nil : StepsReflect split [] := by
  rintro target d statements d' ⟨entry, world, world', hd⟩
  obtain ⟨rfl, rfl, rfl⟩ := LeadsTo.steps_nil_inv hd
  rw [stepUses, blockWritten, blockNames]
  exact ⟨[], Reflects.nil _, fun _ => Iff.rfl⟩

lemma stepsReflect_construct (hsplit : Splitter.IsCutting split) {className : Text}
    {arguments : List Value} {keywords : List Text} {rest : Plan}
    (harguments : ∀ v ∈ arguments, ExprReflects (draftValue split v) v.uses)
    (hrest : StepsReflect split rest) :
    StepsReflect split (.construct className arguments keywords :: rest) := by
  rintro target d statements d' ⟨entry, world, world', hd⟩
  obtain ⟨callee, d₁, _, before, call, d₂, _, more, hclass, hcall, hmore, rfl⟩ :=
    LeadsTo.construct_inv hd
  have hpath := draftClass_reflects hsplit hclass.drafts
  obtain ⟨hcallee, harguments⟩ := draftCall_reflects harguments hcall.drafts
  obtain ⟨own, hsteps, hown⟩ := hrest target d₂ more d' hmore.drafts
  obtain rfl : call.callee = callee := hcallee
  rw [stepUses]
  refine ⟨_, (hpath.append (harguments.append hsteps)).congr (fun _ => Iff.rfl) fun w => ?_,
    fun n => ?_⟩
  · simp only [blockWritten_append, blockWritten, Call.written, List.mem_append, or_assoc,
      or_left_comm]
  · have h := hown n
    simp only [blockNames_append, blockNames, Call.ownNames, List.mem_append, List.mem_cons] at h ⊢
    grind

lemma stepsReflect_assign {field : Text} {value : Value} {rest : Plan}
    (hvalue : ExprReflects (draftValue split value) value.uses) (hrest : StepsReflect split rest) :
    StepsReflect split (.assign field value :: rest) := by
  rintro target d statements d' ⟨entry, world, world', hd⟩
  obtain ⟨before, e, d₁, _, more, he, hmore, rfl⟩ := LeadsTo.assign_inv hd
  have hbefore := hvalue d _ d₁ he.drafts
  have hfield := Reflects.single (u := .field field) rfl rfl d₁
  obtain ⟨own, hsteps, hown⟩ := hrest target d₁ more d' hmore.drafts
  rw [stepUses]
  refine ⟨_, (hbefore.append (hfield.append hsteps)).congr (fun _ => Iff.rfl) fun w => ?_,
    fun n => ?_⟩
  · simp only [blockWritten_append, blockWritten, Use.written, List.mem_append, List.mem_cons,
      List.not_mem_nil, or_false]
  · have h := hown n
    simp only [blockNames_append, blockNames, Use.own, List.mem_append, List.mem_cons] at h ⊢
    split <;> simp only [List.mem_cons, List.not_mem_nil, or_false, false_or] <;> grind

lemma stepsReflect_invoke {method : Text} {arguments : List Value} {keywords : List Text}
    {rest : Plan} (harguments : ∀ v ∈ arguments, ExprReflects (draftValue split v) v.uses)
    (hrest : StepsReflect split rest) :
    StepsReflect split (.invoke method arguments keywords :: rest) := by
  rintro target d statements d' ⟨entry, world, world', hd⟩
  obtain ⟨before, call, d₁, _, more, hcall, hmore, rfl⟩ := LeadsTo.invoke_inv hd
  obtain ⟨hcallee, harguments⟩ := draftCall_reflects harguments hcall.drafts
  have hmethod := Reflects.single (u := .method method) rfl rfl d₁
  obtain ⟨own, hsteps, hown⟩ := hrest target d₁ more d' hmore.drafts
  have hcallee : call.callee = .method target method := hcallee
  rw [stepUses]
  refine ⟨_, (harguments.append (hmethod.append hsteps)).congr (fun _ => Iff.rfl) fun w => ?_,
    fun n => ?_⟩
  · simp only [blockWritten_append, blockWritten, Call.written, hcallee, Callee.written,
      Use.written, List.mem_append, or_assoc, or_left_comm]
  · have h := hown n
    simp only [blockNames_append, blockNames, Call.ownNames, hcallee, Callee.ownNames, Use.own,
      List.mem_append, List.mem_cons, List.not_mem_nil, or_false, false_or] at h ⊢
    grind

lemma inBlock_reflects {plan : Plan} (hsteps : StepsReflect split plan) {body : List Statement}
    (hd : Drafts (draftPlan split plan) d body d') :
    Reflects (.fresh .object :: stepUses plan) d d' (blockNames body) (blockWritten body) := by
  obtain ⟨entry, world, world', hd⟩ := hd
  obtain ⟨target, d₁, _, statements, hfresh, hstatements, rfl⟩ := LeadsTo.plan_inv hd
  obtain ⟨own, hreflects, hown⟩ := hsteps target d₁ statements d' hstatements.drafts
  refine ((Reflects.of_fresh hfresh.drafts).append hreflects).congr (fun n => ?_) fun w => ?_
  · rw [List.singleton_append, ← hown, blockNames_append, blockNames, blockNames, List.mem_append,
      List.mem_singleton, List.mem_cons, or_comm]
  · rw [blockWritten_append, blockWritten, blockWritten, List.append_nil, List.nil_append]

lemma stepsReflect_placeholder {className : Text} {initializer rest : Plan}
    (hinitializer : StepsReflect split initializer) (hrest : StepsReflect split rest) :
    StepsReflect split (.placeholder className initializer :: rest) := by
  rintro target d statements d' ⟨entry, world, world', hd⟩
  obtain ⟨builder, d₁, _, body, d₂, _, more, hfresh, hbody, hmore, rfl⟩ :=
    LeadsTo.placeholder_inv hd
  have hblock := inBlock_reflects hinitializer hbody.drafts
  have hfactory := Reflects.single (u := .proxyFactory) rfl rfl d₂
  obtain ⟨own, hsteps, hown⟩ := hrest target d₂ more d' hmore.drafts
  rw [stepUses]
  have hall := (Reflects.of_fresh hfresh.drafts).append (hblock.append (hfactory.append hsteps))
  refine ⟨_, hall.congr (fun _ => Iff.rfl) fun w => ?_, fun n => ?_⟩
  · simp only [blockWritten, Use.written, List.mem_append, List.not_mem_nil, false_or]
  · have h := hown n
    simp only [blockNames, Use.own, List.mem_append, List.mem_cons, List.not_mem_nil,
      or_false] at h ⊢
    grind

/-! ## Values -/

/-- A literal uses nothing, unless it is a double that has no literal. -/
lemma uses_of_isLiteral {v : Value} (h : v.isLiteral = true) :
    (constantNames v = [] ∧ v.uses = []) ∨ (constantNames v = ["float"] ∧ v.uses = [.double]) := by
  have hfloat : ∀ x : Double,
      ((if x.isFinite then [] else ["float"] : List Text) = [] ∧
          (if x.isFinite then [] else [.double] : List Use) = []) ∨
        ((if x.isFinite then [] else ["float"] : List Text) = ["float"] ∧
          (if x.isFinite then [] else [.double] : List Use) = [.double]) := by
    intro x
    split
    · exact .inl ⟨rfl, rfl⟩
    · exact .inr ⟨rfl, rfl⟩
  cases v with
  | float x => simpa only [constantNames, Value.uses] using hfloat x
  | derived form literal =>
    cases literal with
    | float x => simpa only [constantNames, Value.uses] using hfloat x
    | _ => exact .inl ⟨rfl, by simp only [Value.uses]⟩
  | null | bool | int | str | bytes => exact .inl ⟨rfl, by simp only [Value.uses]⟩
  | _ => exact absurd h Bool.false_ne_true

lemma exprReflects_literal {v : Value} (hv : v.isLiteral = true) :
    ExprReflects (draftValue split v) v.uses := by
  intro d drafted d' hd
  rw [draftValue_literal hv] at hd
  obtain ⟨rfl, rfl⟩ := hd.literal_inv
  rw [blockNames, Expr.ownNames, blockWritten]
  rcases uses_of_isLiteral hv with ⟨hown, huses⟩ | ⟨hown, huses⟩ <;> rw [hown, huses]
  · exact Reflects.nil _
  · exact Reflects.single rfl rfl _

lemma exprReflects_refused {v : Value} {us : List Use}
    (h : draftValue split v = refuseConstant v) : ExprReflects (draftValue split v) us := by
  intro d drafted d' hd
  rw [h] at hd
  exact hd.refuseConstant_inv.elim

lemma exprReflects_nested {className : Text} {plan : Plan} (h : StepsReflect split plan) :
    ExprReflects (draftValue split (.nested className plan))
      (Value.nested className plan).uses := by
  rintro d drafted d' ⟨entry, world, world', hd⟩
  obtain ⟨builder, d₁, _, body, hfresh, hbody, rfl⟩ := LeadsTo.nested_inv hd
  rw [Value.uses]
  refine ((Reflects.of_fresh hfresh.drafts).append (inBlock_reflects h hbody.drafts)).congr
    (fun n => ?_) fun w => ?_
  · simp only [blockNames, Expr.ownNames, List.mem_append, List.mem_cons, List.not_mem_nil,
      or_false]
    grind
  · rw [blockWritten, blockWritten, List.append_nil, List.nil_append]

lemma draftEntries_reflects {entries : List (Value × Value)}
    (h : ∀ e ∈ entries, ExprReflects (draftValue split e.1) e.1.uses ∧
      ExprReflects (draftValue split e.2) e.2.uses)
    {drafted : List Statement × List (Expr × Expr)}
    (hd : Drafts (draftEntries split entries) d drafted d') :
    Reflects (entryUses entries) d d' (blockNames drafted.1 ++ entryNames drafted.2)
      (blockWritten drafted.1) := by
  induction entries generalizing d drafted with
  | nil =>
    obtain ⟨entry, world, world', hd⟩ := hd
    obtain ⟨rfl, rfl, rfl⟩ := LeadsTo.entries_nil_inv hd
    rw [blockNames, entryNames, blockWritten, entryUses]
    exact Reflects.nil _
  | cons pair rest ih =>
    obtain ⟨key, item⟩ := pair
    obtain ⟨entry, world, world', hd⟩ := hd
    obtain ⟨before, k, d₁, _, middle, v, d₂, _, more, es, hkey, hitem, hrest, rfl⟩ :=
      LeadsTo.entries_cons_inv hd
    obtain ⟨hk, hv⟩ := h (key, item) List.mem_cons_self
    have hkey := hk d _ d₁ hkey.drafts
    have hitem := hv d₁ _ d₂ hitem.drafts
    have htail := ih (fun e he => h e (List.mem_cons_of_mem _ he)) hrest.drafts
    rw [entryUses]
    refine (hkey.append (hitem.append htail)).congr (fun n => ?_) fun w => ?_
    · simp only [blockNames_append, entryNames, List.mem_append]
      grind
    · simp only [blockWritten_append, List.mem_append, or_assoc]

lemma exprReflects_items {items : List Value} {collect : List Expr → Expr}
    (h : ∀ v ∈ items, ExprReflects (draftValue split v) v.uses)
    (hcollect : ∀ es, (collect es).ownNames = itemNames es) :
    ExprReflects (draftAll (draftItems split items) >>= fun drafted =>
      pure (drafted.1, collect drafted.2)) (itemUses items).flatten := by
  rintro d drafted d' ⟨entry, world, world', hd⟩
  rw [draftItems_eq_map] at hd
  obtain ⟨before, es, hall, rfl⟩ := LeadsTo.gathered_inv hd
  rw [itemUses_eq_map, hcollect]
  exact draftAll_reflects h hall.drafts

mutual

/-- What drafting a value leaves is what the value uses. -/
lemma valueReflects (hsplit : Splitter.IsCutting split) :
    ∀ v : Value, ExprReflects (draftValue split v) v.uses
  | .null | .bool _ | .int _ | .float _ | .str _ | .bytes _ | .derived .. =>
    exprReflects_literal rfl
  | .reference entry => by
    intro d drafted d' hd
    rw [draftValue] at hd
    obtain ⟨rfl, rfl⟩ := hd.ifWritten_inv.2.pure_inv
    rw [blockNames, Expr.ownNames, blockWritten, Value.uses]
    exact Reflects.single rfl rfl _
  | .nested _ plan => exprReflects_nested (stepsReflect hsplit plan)
  | .list items => by
    rw [draftValue, Value.uses]
    exact exprReflects_items (itemsReflect hsplit items) fun es => by rw [Expr.ownNames]
  | .tuple items => by
    rw [draftValue, Value.uses]
    exact exprReflects_items (itemsReflect hsplit items) fun es => by rw [Expr.ownNames]
  | .dict entries => by
    rintro d drafted d' ⟨entry, world, world', hd⟩
    rw [draftValue] at hd
    obtain ⟨before, es, hentries, rfl⟩ := LeadsTo.gathered_inv hd
    rw [Value.uses, Expr.ownNames]
    exact draftEntries_reflects (entriesReflect hsplit entries) hentries.drafts
  | .useDefault => exprReflects_refused (by rw [draftValue])
  | .definition _ => exprReflects_refused (by rw [draftValue])
  | .set _ => exprReflects_refused (by rw [draftValue])
  | .foreign _ => exprReflects_refused (by rw [draftValue])
  | .enumMember .. => exprReflects_refused (by rw [draftValue])

lemma itemsReflect (hsplit : Splitter.IsCutting split) :
    ∀ items : List Value, ∀ v ∈ items, ExprReflects (draftValue split v) v.uses
  | [] => List.forall_mem_nil _
  | item :: rest => List.forall_mem_cons.2 ⟨valueReflects hsplit item, itemsReflect hsplit rest⟩

lemma entriesReflect (hsplit : Splitter.IsCutting split) :
    ∀ entries : List (Value × Value), ∀ e ∈ entries,
      ExprReflects (draftValue split e.1) e.1.uses ∧ ExprReflects (draftValue split e.2) e.2.uses
  | [] => List.forall_mem_nil _
  | (key, item) :: rest =>
    List.forall_mem_cons.2 ⟨⟨valueReflects hsplit key, valueReflects hsplit item⟩,
      entriesReflect hsplit rest⟩

/-- What drafting instructions leaves is what they use. -/
lemma stepsReflect (hsplit : Splitter.IsCutting split) :
    ∀ plan : List Instruction, StepsReflect split plan
  | [] => stepsReflect_nil
  | .construct _ arguments _ :: rest =>
    stepsReflect_construct hsplit (itemsReflect hsplit arguments) (stepsReflect hsplit rest)
  | .assign _ value :: rest =>
    stepsReflect_assign (valueReflects hsplit value) (stepsReflect hsplit rest)
  | .invoke _ arguments _ :: rest =>
    stepsReflect_invoke (itemsReflect hsplit arguments) (stepsReflect hsplit rest)
  | .placeholder _ initializer :: rest =>
    stepsReflect_placeholder (stepsReflect hsplit initializer) (stepsReflect hsplit rest)
  | .stray _ :: _ => by
    rintro target d statements d' ⟨entry, world, world', hd⟩
    exact (LeadsTo.stray_inv hd).elim

end

end Drafting

/-! ## Factories -/

variable {split : Splitter} {name : Text} {plan : Plan} {entry : Option Value} {world : World}
  {f : Factory}

/-- A factory imports, uses and writes the names that its plan does. -/
theorem ofPlan_reflects (hsplit : Splitter.IsCutting split)
    (h : (ofPlan split name plan entry world).1 = .ok f) :
    (∀ n, n ∈ Script.importedNames f.imports ↔ n ∈ plan.importedNames) ∧
      (∀ n, n ∈ f.ownNames ↔ n ∈ plan.ownNames) ∧ ∀ w, w ∈ f.written ↔ w ∈ plan.written := by
  obtain ⟨-, draft, hd, himports⟩ := ofPlan_inv h
  have hbody : Reflects plan.uses ⟨0, []⟩ draft (blockNames f.body) (blockWritten f.body) :=
    inBlock_reflects (stepsReflect hsplit plan) hd
  refine ⟨fun n => ?_, hbody.own, fun w => ?_⟩
  · rw [himports, hbody.imported]
    simp [Script.importedNames, Script.modulePaths, Plan.importedNames]
  · rw [written, List.mem_append, hbody.written, himports, Plan.written, or_iff_right_iff_imp]
    intro hw
    obtain ⟨n, hn, hw⟩ := List.mem_flatMap.1 hw
    obtain ⟨part, hpart, rfl⟩ := List.mem_map.1 hw
    rcases hbody.parts n hn with hnone | hparts
    · exact absurd hnone List.not_mem_nil
    · exact hparts part hpart

end Factory

end Blueprint
