/-
# What earlier look ups cannot change

A look up imports modules, and modules stay imported.  A module that is imported is found in the
package that it is in, in the place of what the package itself has under the name.  So a look up can
depend on the ones before it: whether `zoo:sub.Deep` stands for a class depends on whether the
module `zoo.sub` was imported.

This is the only way in which it can.  Of the modules whose names a path runs through, those up to
the module that is tried first are imported for the look up itself, as far as they can be.  What
counts is which of those behind it were imported before (`RunsThrough`): from two worlds that agree
on them the path comes to the same class, or to the same failure (`resolve_steadyUpTo`).  The same
holds of the compilation of a definition with all paths that it comes to (`compile_after`), but for
one field, the record of annotations, which a class may get when it is asked for it.

If the first module that is tried for a path holds no module of the next name, then there is none to
be imported, and nothing that comes before the look up can change it (`IsSettled`).
-/
import Blueprint.Proofs.Imports
import Blueprint.Proofs.Lookup

namespace Blueprint.Catalog

open Run (Keeps Stays SteadyUpTo)

/-- The module and the name that are tried first for a path: the first candidate with both. -/
def firstTried? (path : Text) : Option (Text × Text) :=
  (candidates path).find? fun candidate => !(candidate.1.isEmpty || candidate.2.isEmpty)

/-- The path runs through the module of the name, which is behind the module that is tried first. -/
def RunsThrough (path name : Text) : Prop :=
  ∃ m q inner, firstTried? path = some (m, q) ∧ inner ≠ [] ∧ inner <+: pathParts q ∧
    name = joined (pathParts m ++ inner)

/-- No module was imported that the path runs through behind the one that is tried first. -/
def Untouched (world : World) (path : Text) : Prop :=
  ∀ name, RunsThrough path name → name ∉ world.imported

/-- The first module that is tried for the path holds no module of the name that comes next. -/
def IsSettled (catalog : Catalog) (path : Text) : Prop :=
  ∀ m q, firstTried? path = some (m, q) →
    ¬ catalog.Importable (pathParts m ++ (pathParts q).take 1)

variable {catalog : Catalog}

/-- Of the modules that a settled path runs through, none can be imported. -/
lemma IsSettled.untouched {path : Text} (h : catalog.IsSettled path) {world : World}
    (hworld : catalog.Sound world) : Untouched world path := by
  rintro name ⟨m, q, inner, hfirst, hne, hinner, rfl⟩ hmem
  have hdotless : Dotless (pathParts m ++ inner) :=
    List.forall_mem_append.2 ⟨dotless_pathParts m, fun part hpart =>
      dotless_pathParts q part (hinner.subset hpart)⟩
  have himportable := hworld _ hmem
  rw [pathParts_joined hdotless (List.append_ne_nil_of_right_ne_nil _ hne)] at himportable
  refine h m q hfirst (himportable.of_prefix ?_)
  have hlength : 1 ≤ inner.length := List.length_pos_of_ne_nil hne
  rw [List.prefix_append_right_inj, List.prefix_iff_eq_take.1 hinner]
  exact List.take_prefix_take_left hlength

/-! ## Walking through modules -/

section Walk

variable {imported imported' : List Text}

lemma present?_eq_object {found : Option Object} {next : Found} (h : present? found = some next) :
    ∃ o, next = .object o := by
  unfold present? at h
  split at h
  · simp at h
  · exact ⟨_, (Option.some.inj h).symm⟩
  · simp at h

/-- Objects lead to objects only. -/
lemma step?_object {o : Object} {name : Text} {next : Found}
    (h : catalog.step? imported (.object o) name = some next) : ∃ o', next = .object o' := by
  cases o with
  | cls c => exact present?_eq_object h
  | _ => exact absurd h (by simp [step?])

/-- From objects on, a walk does not look at what was imported. -/
lemma walk?_object (o : Object) (names : List Text) :
    catalog.walk? imported (.object o) names = catalog.walk? imported' (.object o) names := by
  induction names generalizing o with
  | nil => rfl
  | cons name rest ih =>
    have hstep : catalog.step? imported (.object o) name =
        catalog.step? imported' (.object o) name := by
      cases o <;> rfl
    rw [walk?, walk?, ← hstep]
    refine Option.bind_congr fun next hnext => ?_
    obtain ⟨o', rfl⟩ := step?_object hnext
    exact ih o'

/-- A walk from a module looks for no modules but those of the names on its way. -/
lemma walk?_module {m : Module} {names : List Text} (hdotless : Dotless names)
    (hsame : ∀ k, 0 < k → k ≤ names.length →
      (joined (pathParts m.name ++ names.take k) ∈ imported ↔
        joined (pathParts m.name ++ names.take k) ∈ imported')) :
    catalog.walk? imported (.module m) names = catalog.walk? imported' (.module m) names := by
  induction names generalizing m with
  | nil => rfl
  | cons name rest ih =>
    obtain ⟨hname, hrest⟩ := List.forall_mem_cons.1 hdotless
    have hinner : joined (pathParts m.name ++ [name]) = m.name ++ "." ++ name := by
      rw [joined_append (pathParts_ne_nil _) (List.cons_ne_nil _ _)]
      exact congrArg (· ++ "." ++ name) (intercalate_pathParts m.name)
    have hparts : pathParts (m.name ++ "." ++ name) = pathParts m.name ++ [name] := by
      rw [pathParts_append, pathParts_of_not_mem hname]
    have hfirst : imported.contains (m.name ++ "." ++ name) =
        imported'.contains (m.name ++ "." ++ name) := by
      rw [← hinner, Bool.eq_iff_iff, List.contains_iff_mem, List.contains_iff_mem]
      exact hsame 1 Nat.one_pos (by simp)
    have hown : ∀ found : Option Object,
        (present? found).bind (catalog.walk? imported · rest) =
          (present? found).bind (catalog.walk? imported' · rest) := by
      refine fun found => Option.bind_congr fun next hnext => ?_
      obtain ⟨o, rfl⟩ := present?_eq_object hnext
      exact walk?_object o rest
    rw [walk?, walk?, step?, step?, hfirst]
    -- a module that was imported goes before what the module itself has of the name
    cases imported'.contains (m.name ++ "." ++ name) with
    | false => exact hown _
    | true =>
      rcases hfind : catalog.find? (m.name ++ "." ++ name) with _ | inner
      · exact hown _
      · refine ih hrest fun k hk hlt => ?_
        rw [find?_name hfind, hparts, List.append_assoc]
        exact hsame (k + 1) k.succ_pos (Nat.succ_le_succ hlt)

end Walk

/-! ## Worlds that agree -/

section Agreement

variable {names : Text → Prop} {marks : Prop} {front back : List Text}

/-- The worlds are sound, and agree on which of the modules of some names were imported; and also on
which classes were asked for their annotations, if that counts. -/
structure Agree (catalog : Catalog) (names : Text → Prop) (marks : Prop) (world world' : World) :
    Prop where
  sound : catalog.Sound world
  sound' : catalog.Sound world'
  imported : ∀ name, names name → (name ∈ world.imported ↔ name ∈ world'.imported)
  annotated : marks → world.annotated = world'.annotated

/-- The module of the parts and the packages around it are imported, as far as they can be. -/
def Opened (catalog : Catalog) (front : List Text) (world : World) : Prop :=
  ∀ parts, parts ≠ [] → parts <+: front → catalog.Importable parts →
    joined parts = builtinModule ∨ joined parts ∈ world.imported

/-- The worlds agree, and in both the module of the parts was imported. -/
structure AgreeAt (catalog : Catalog) (names : Text → Prop) (marks : Prop) (front : List Text)
    (world world' : World) : Prop where
  agree : catalog.Agree names marks world world'
  opened : catalog.Opened front world
  opened' : catalog.Opened front world'

lemma importModule_steadyUpTo (path : Text) :
    SteadyUpTo (catalog.Agree names marks) (catalog.importModule path) := by
  intro entry world world' h
  by_cases hpath : Text.startsWith "." path = true
  · rw [importModule_relative hpath]
    exact ⟨rfl, h⟩
  · rw [Bool.not_eq_true] at hpath
    have hspec := importModule_spec entry h.sound hpath
    have hspec' := importModule_spec entry h.sound' hpath
    have hannotated : Keeps World.annotated (catalog.importModule path) :=
      catalog.importModule_keeps (fun _ _ => rfl) (fun _ _ => rfl) path
    refine ⟨hspec.result.trans hspec'.result.symm, hspec.sound, hspec'.sound, fun name hname => ?_,
      fun hmarks => ?_⟩
    · rw [hspec.imported, hspec'.imported, h.imported name hname]
    · rw [hannotated entry world, hannotated entry world', h.annotated hmarks]

lemma tryImport_steadyUpTo (m : Text) :
    SteadyUpTo (catalog.Agree names marks) (catalog.tryImport m) := by
  intro entry world world' h
  rw [tryImport_apply, tryImport_apply]
  exact (importModule_steadyUpTo m entry world world' h).imp_left (congrArg (judged m))

/-- What was tried, and was not just refused, is imported as far as it can be. -/
lemma tryImport_opened {m : Text} {entry : Option Value} {world : World} {isThere : Bool}
    (hworld : catalog.Sound world) (h : (catalog.tryImport m entry world).1 = .ok isThere) :
    catalog.Opened (pathParts m) (catalog.tryImport m entry world).2 := by
  rw [tryImport_apply] at h ⊢
  have hpath : Text.startsWith "." m = false := by
    rw [← Bool.not_eq_true]
    intro hrelative
    rw [importModule_relative hrelative] at h
    exact absurd h (by simp [Run.fail, judged])
  intro parts hne hinit himportable
  -- the module of built-in names is always there and never marked
  by_cases hbuiltin : joined parts = builtinModule
  · exact .inl hbuiltin
  · have himported := (importModule_spec entry hworld hpath).imported (joined parts)
    exact .inr (himported.2 (.inr ⟨parts, hne, hinit, himportable, hbuiltin, rfl⟩))

/-- Modules stay imported. -/
lemma Opened.tryImport {world : World} (h : catalog.Opened front world)
    (hworld : catalog.Sound world) (m : Text) (entry : Option Value) :
    catalog.Opened front (catalog.tryImport m entry world).2 := by
  intro parts hne hinit himportable
  refine (h parts hne hinit himportable).imp_right fun hmem => ?_
  rw [tryImport_apply]
  by_cases hpath : Text.startsWith "." m = true
  · rw [importModule_relative hpath]
    exact hmem
  · exact ((importModule_spec entry hworld (by simpa using hpath)).imported _).2 (.inl hmem)

/-- The worlds still agree when others are tried. -/
lemma tryImport_steadyUpTo_agreeAt (m : Text) :
    SteadyUpTo (catalog.AgreeAt names marks front) (catalog.tryImport m) := by
  intro entry world world' h
  obtain ⟨hsame, hagree⟩ := tryImport_steadyUpTo m entry world world' h.agree
  exact ⟨hsame, hagree, h.opened.tryImport h.agree.sound m entry,
    h.opened'.tryImport h.agree.sound' m entry⟩

/-- Behind the first part, those modules on the way are imported that can be. -/
lemma Opened.mem_imported_iff {world : World} (h : catalog.Opened front world)
    (hworld : catalog.Sound world) (hdotless : Dotless front) {k : Nat} (hk : 1 < k)
    (hlt : k ≤ front.length) :
    joined (front.take k) ∈ world.imported ↔ catalog.Importable (front.take k) := by
  have htake : Dotless (front.take k) :=
    fun part hpart => hdotless part (List.mem_of_mem_take hpart)
  have hlength : (front.take k).length = k := List.length_take_of_le hlt
  have hne : front.take k ≠ [] := List.ne_nil_of_length_pos (by omega)
  have hparts := pathParts_joined htake hne
  constructor
  · intro hmem
    have himportable := hworld _ hmem
    rwa [hparts] at himportable
  · intro himportable
    refine (h _ hne (List.take_prefix k front) himportable).resolve_left fun hbuiltin => ?_
    -- the module of built in classes is in no package
    rw [hbuiltin] at hparts
    have hone : (pathParts builtinModule).length = 1 := by decide
    rw [hparts, hlength] at hone
    omega

variable (hnames : ∀ inner, inner ≠ [] → inner <+: back → names (joined (front ++ inner)))

include hnames

/-- So the worlds agree on all modules that are behind the first part. -/
lemma AgreeAt.mem_imported_iff {world world' : World}
    (h : catalog.AgreeAt names marks front world world') (hdotless : Dotless (front ++ back))
    {k : Nat} (hk : 1 < k) (hlt : k ≤ (front ++ back).length) :
    joined ((front ++ back).take k) ∈ world.imported ↔
      joined ((front ++ back).take k) ∈ world'.imported := by
  have hfront : Dotless front := (List.forall_mem_append.1 hdotless).1
  rw [List.length_append] at hlt
  by_cases hle : k ≤ front.length
  · rw [List.take_append_of_le_length hle, h.opened.mem_imported_iff h.agree.sound hfront hk hle,
      h.opened'.mem_imported_iff h.agree.sound' hfront hk hle]
  · rw [List.take_append, List.take_of_length_le (by omega)]
    refine h.agree.imported _ (hnames _ ?_ (List.take_prefix _ back))
    exact List.ne_nil_of_length_pos (by rw [List.length_take]; omega)

/-- All that is looked at for a candidate with these parts is in both worlds or in none. -/
lemma AgreeAt.classIn?_eq {world world' : World}
    (h : catalog.AgreeAt names marks front world world') {m q : Text}
    (hcut : pathParts m ++ pathParts q = front ++ back) :
    catalog.classIn? world.imported m q = catalog.classIn? world'.imported m q := by
  unfold classIn?
  rcases hfind : catalog.find? m with _ | found
  · rfl
  · dsimp only
    have hdotless : Dotless (front ++ back) := by
      rw [← hcut]
      exact List.forall_mem_append.2 ⟨dotless_pathParts m, dotless_pathParts q⟩
    have hpos : 0 < (pathParts m).length := List.length_pos_of_ne_nil (pathParts_ne_nil m)
    rw [walk?_module (dotless_pathParts q) fun k hk hlt => ?_]
    have hlength : (pathParts m).length + k ≤ (front ++ back).length := by
      rw [← hcut, List.length_append]
      omega
    rw [find?_name hfind, ← List.take_length_add_append, hcut]
    exact h.mem_imported_iff hnames hdotless (by omega) hlength

/-- What was tried stands for the same class; or for none, and then the others decide. -/
lemma judge_steadyUpTo {m q : Text} (hcut : pathParts m ++ pathParts q = front ++ back)
    (isThere : Bool) {others : Run (Option Resolved)}
    (hothers : SteadyUpTo (catalog.AgreeAt names marks front) others) :
    SteadyUpTo (catalog.AgreeAt names marks front)
      (if isThere then
        Run.imported >>= fun imported =>
          match catalog.classIn? imported m q with
          | some c => pure (some ⟨m, q, c⟩)
          | none => others
      else others) := by
  cases isThere with
  | false => exact hothers
  | true =>
    intro entry world world' h
    rw [if_pos rfl, Run.bind_of_ok (rfl : Run.imported entry world = _),
      Run.bind_of_ok (rfl : Run.imported entry world' = _), h.classIn?_eq hnames hcut]
    -- both worlds find the same class in the module, or both go on to the other candidates
    rcases catalog.classIn? world'.imported m q with _ | c
    · exact hothers entry world world' h
    · exact ⟨rfl, h⟩

/-- So it is with all candidates that have these parts. -/
lemma firstClass_steadyUpTo_agreeAt {tried : List (Text × Text)}
    (hcuts : ∀ cut ∈ tried, pathParts cut.1 ++ pathParts cut.2 = front ++ back) :
    SteadyUpTo (catalog.AgreeAt names marks front) (catalog.firstClass tried) := by
  induction tried with
  | nil => exact .pure none
  | cons candidate rest ih =>
    obtain ⟨m, q⟩ := candidate
    obtain ⟨hcut, hrest⟩ := List.forall_mem_cons.1 hcuts
    rw [firstClass]
    split
    · exact ih hrest
    · refine .bind (tryImport_steadyUpTo_agreeAt m) fun isThere => ?_
      exact judge_steadyUpTo hnames hcut isThere (ih hrest)

end Agreement

section Resolving

variable {names : Text → Prop} {marks : Prop}

/-- The first candidate with both sides brings its module, and the others find it so. -/
lemma firstClass_steadyUpTo {parts : List Text} {tried : List (Text × Text)}
    (hcuts : ∀ cut ∈ tried, pathParts cut.1 ++ pathParts cut.2 = parts)
    (hnames : ∀ m q, tried.find? (fun cut => !(cut.1.isEmpty || cut.2.isEmpty)) = some (m, q) →
      ∀ inner, inner ≠ [] → inner <+: pathParts q → names (joined (pathParts m ++ inner))) :
    SteadyUpTo (catalog.Agree names marks) (catalog.firstClass tried) := by
  induction tried with
  | nil => exact .pure none
  | cons candidate rest ih =>
    obtain ⟨m, q⟩ := candidate
    obtain ⟨hcut, hrest⟩ := List.forall_mem_cons.1 hcuts
    rw [firstClass]
    split
    · rename_i hblank
      rw [List.find?_cons_of_neg (by simp only [hblank]; decide)] at hnames
      exact ih hrest hnames
    · rename_i hboth
      have hbehind := hnames m q (List.find?_cons_of_pos (by simpa using hboth))
      have hrest' : ∀ cut ∈ rest, pathParts cut.1 ++ pathParts cut.2 = pathParts m ++ pathParts q :=
        fun cut hmem => (hrest cut hmem).trans hcut.symm
      have hothers : SteadyUpTo (catalog.AgreeAt names marks (pathParts m))
          (catalog.firstClass rest) := firstClass_steadyUpTo_agreeAt hbehind hrest'
      refine .bind_into (S := fun _ => True) (T := catalog.AgreeAt names marks (pathParts m))
        (fun _ _ _ => trivial) (fun _ _ => AgreeAt.agree) (tryImport_steadyUpTo m)
        (fun entry world world' h isThere hok => ?_) fun isThere _ => ?_
      · obtain ⟨hsame, hagree⟩ := tryImport_steadyUpTo m entry world world' h
        exact ⟨hagree, tryImport_opened h.sound hok,
          tryImport_opened h.sound' (hsame.symm.trans hok)⟩
      · exact judge_steadyUpTo hbehind rfl isThere hothers

/-- A path comes to the same from worlds that agree on the modules that it runs through. -/
theorem resolve_steadyUpTo {path : Text} (hnames : ∀ name, RunsThrough path name → names name) :
    SteadyUpTo (catalog.Agree names marks) (catalog.resolve path) :=
  firstClass_steadyUpTo (fun _ hcut => cuts_of_mem_candidates hcut)
    fun m q hfirst inner hne hinner => hnames _ ⟨m, q, inner, hfirst, hne, hinner, rfl⟩

end Resolving

/-! ## Definitions -/

/-- To compile the definition, without those within it, the class of the path is asked for. -/
inductive AsksFor (d : Definition) : Text → Prop where
  /-- The class of the object. -/
  | className : AsksFor d d.className
  /-- The class that declares a field. -/
  | owner {b : FieldBinding} {path : Text} (hb : b ∈ d.fields)
      (hpath : fieldOwner b.owner d.className = .str path) : AsksFor d path

/-- The definition, without those within it, sets the record of annotations as a field. -/
def SetsAnnotations (d : Definition) : Prop :=
  ∃ b ∈ d.fields, b.field = Layer.annotationsKey

/-- What the world has from earlier look ups plays no part in compiling the definition, without
those within it. -/
structure Spares (world : World) (d : Definition) : Prop where
  imported : ∀ path, AsksFor d path → Untouched world path
  annotated : SetsAnnotations d → world.annotated = []

/-- The compilation of the definition `d` comes to the definition `e`, in a sound world. -/
def ComesTo (catalog : Catalog) (d e : Definition) : Prop :=
  catalog.introspector.Reaches catalog.Sound (.definition d) e

/-- Nor does it for any definition that the compilation comes to. -/
def SparesThroughout (catalog : Catalog) (world : World) (d : Definition) : Prop :=
  ∀ e, catalog.ComesTo d e → Spares world e

lemma Layer.fieldAccess?_eq {name : Text} (hname : name ≠ annotationsKey) (l : Layer)
    (annotated annotated' : List ClassId) :
    l.fieldAccess? annotated name = l.fieldAccess? annotated' name := by
  have hkey : (name == annotationsKey) = false := by simpa using hname
  simp only [Layer.fieldAccess?, hkey, Bool.false_and]

/-- Of all names but one, it makes no difference which classes were asked for their annotations. -/
lemma fieldAccess?_eq {name : Text} (hname : name ≠ Layer.annotationsKey) (layers : List Layer)
    (annotated annotated' : List ClassId) :
    fieldAccess? annotated name layers = fieldAccess? annotated' name layers := by
  induction layers with
  | nil => rfl
  | cons l rest ih =>
    rw [fieldAccess?, fieldAccess?, l.fieldAccess?_eq hname annotated annotated', ih]

section Compiling

variable {names : Text → Prop} {marks : Prop}

lemma agree_inherited :
    Run.InheritedFrom catalog.Sound (SteadyUpTo (catalog.Agree names marks)) :=
  .steadyUpTo (fun _ _ => Agree.sound)
    (fun _ _ _ _ h => ⟨h.sound, h.sound', h.imported, h.annotated⟩)
    fun _ _ _ _ h => ⟨h.sound, h.sound', h.imported, h.annotated⟩

lemma markAnnotated_steadyUpTo (id : ClassId) :
    SteadyUpTo (catalog.Agree names marks) (Run.markAnnotated id) :=
  fun _ _ _ h =>
    ⟨rfl, h.sound, h.sound', h.imported, fun hmarks => congrArg (id :: ·) (h.annotated hmarks)⟩

lemma readField_steadyUpTo {name : Text} (hmarks : name = Layer.annotationsKey → marks) (c : Class)
    (path : Text) :
    SteadyUpTo (catalog.Agree names marks)
      (Run.annotated >>= fun annotated => reached (c.field? annotated path name)) := by
  intro entry world world' h
  have hfield : c.field? world.annotated path name = c.field? world'.annotated path name := by
    -- which classes were given annotations matters to the field of annotations only
    by_cases hname : name = Layer.annotationsKey
    · rw [h.annotated (hmarks hname)]
    · rw [Class.field?, Class.field?,
        fieldAccess?_eq hname c.layers world.annotated world'.annotated]
  rw [Run.bind_of_ok (rfl : Run.annotated entry world = _),
    Run.bind_of_ok (rfl : Run.annotated entry world' = _), hfield]
  exact reached_inherited agree_inherited _ entry world world' h

lemma constructor_steadyUpTo {path : Text} (hnames : ∀ name, RunsThrough path name → names name) :
    SteadyUpTo (catalog.Agree names marks) (catalog.introspector.constructor path) :=
  constructor_inherited agree_inherited (resolve_steadyUpTo hnames)

lemma serves_steadyUpTo {d : Definition}
    (hnames : ∀ path, AsksFor d path → ∀ name, RunsThrough path name → names name)
    (hmarks : SetsAnnotations d → marks) :
    catalog.introspector.Serves (SteadyUpTo (catalog.Agree names marks)) d := by
  have hresolve : SteadyUpTo (catalog.Agree names marks) (catalog.resolve d.className) :=
    resolve_steadyUpTo (hnames _ .className)
  exact
    { exists? := exists?_inherited agree_inherited hresolve
      isInstantiable := isInstantiable_inherited agree_inherited hresolve
      constructor := constructor_inherited agree_inherited hresolve
      method := fun b _ =>
        method_inherited agree_inherited hresolve markAnnotated_steadyUpTo b.method
      field := fun b hb => catalog.field_inherited agree_inherited
        (fun path hpath => resolve_steadyUpTo (hnames path (.owner hb hpath)))
        (readField_steadyUpTo fun hname => hmarks ⟨b, hb, hname⟩) }

/-- A definition comes to the same from worlds that agree on the modules that its paths run through,
and on annotations where it sets their record. -/
theorem compile_steadyUpTo {d : Definition}
    (hnames : ∀ e, catalog.ComesTo d e →
      ∀ path, AsksFor e path → ∀ name, RunsThrough path name → names name)
    (hmarks : ∀ e, catalog.ComesTo d e → SetsAnnotations e → marks) :
    SteadyUpTo (catalog.Agree names marks) (compile catalog.introspector d) :=
  compile_inherited_of_reaches agree_inherited fun e he =>
    serves_steadyUpTo (hnames e he) (hmarks e he)

end Compiling

/-! ## Histories -/

/-- What may be asked of a compiler and of the catalog that it asks. -/
inductive Request where
  /-- To compile a definition. -/
  | compile (d : Definition)
  /-- To compile definitions in one pass. -/
  | compileAll (ds : List Definition)
  /-- For the class of a path. -/
  | loadClass (path : Text)
  /-- For the module and the name within it that a path stands for. -/
  | split (path : Text)
  /-- Whether a class exists. -/
  | exists? (path : Text)
  /-- Whether objects of a class can be made. -/
  | isInstantiable (path : Text)
  /-- For the constructor of a class. -/
  | constructor (path : Text)
  /-- For a method of a class. -/
  | method (path name : Text)
  /-- For a field of its owner. -/
  | field (owner : Value) (name : Text)

/-- The world after a request, whatever it came to. -/
def Request.serve (catalog : Catalog) (world : World) : Request → World
  | compile d => (Blueprint.compile catalog.introspector d none world).2
  | compileAll ds => (Blueprint.compileAll catalog.introspector ds none world).2
  | loadClass path => (catalog.loadClass path none world).2
  | split path => (catalog.split path none world).2
  | exists? path => (catalog.introspector.exists? path none world).2
  | isInstantiable path => (catalog.introspector.isInstantiable path none world).2
  | constructor path => (catalog.introspector.constructor path none world).2
  | method path name => (catalog.introspector.method path name none world).2
  | field owner name => (catalog.introspector.field owner name none world).2

/-- The world after some requests in a row, in which nothing was imported before. -/
def after (catalog : Catalog) (history : List Request) : World :=
  history.foldl (Request.serve catalog) {}

lemma lookUp_stays : catalog.LookUp (Stays catalog.Sound) where
  inherited := .stays (fun _ _ _ h => h) fun _ _ _ h => h
  imported := fun _ _ => id
  annotated := fun _ _ => id
  markAnnotated := fun _ _ _ => id
  importModule := importModule_stays

lemma serve_sound {world : World} (h : catalog.Sound world) (request : Request) :
    catalog.Sound (request.serve catalog world) := by
  have hanswers : catalog.introspector.Answers (Stays catalog.Sound) := lookUp_stays.answers
  cases request with
  | compile d => exact compile_inherited lookUp_stays.inherited hanswers d none world h
  | compileAll ds => exact compileAll_inherited lookUp_stays.inherited hanswers ds none world h
  | loadClass path =>
    exact loadClass_inherited lookUp_stays.inherited (lookUp_stays.resolve path) none world h
  | split path => exact lookUp_stays.split path none world h
  | exists? path => exact hanswers.exists? path none world h
  | isInstantiable path => exact hanswers.isInstantiable path none world h
  | constructor path => exact hanswers.constructor path none world h
  | method path name => exact hanswers.method path name none world h
  | field owner name => exact hanswers.field owner name none world h

lemma foldl_serve_sound {world : World} (h : catalog.Sound world) (history : List Request) :
    catalog.Sound (history.foldl (Request.serve catalog) world) := by
  induction history generalizing world with
  | nil => exact h
  | cons request rest ih => exact ih (serve_sound h request)

lemma fresh_sound : catalog.Sound {} :=
  fun _ hname => absurd hname List.not_mem_nil

lemma after_sound (history : List Request) : catalog.Sound (catalog.after history) :=
  foldl_serve_sound fresh_sound history

/-- A world agrees with that at first on modules that were not imported. -/
lemma agree_fresh {names : Text → Prop} {marks : Prop} {world : World} (h : catalog.Sound world)
    (hnames : ∀ name, names name → name ∉ world.imported) (hmarks : marks → world.annotated = []) :
    catalog.Agree names marks world {} :=
  ⟨h, fresh_sound, fun name hname => iff_of_false (hnames name hname) List.not_mem_nil, hmarks⟩

/-- Whatever was asked before, a path comes to the class that it comes to at first, or fails as it
does at first, unless a module was imported that it runs through; and a definition has the plan that
it has at first, or is rejected as at first, unless such a module was imported for one of the paths
that its compilation comes to, or the record of annotations is set as a field after some class was
asked for it.  For a settled path, no such module is ever imported. -/
theorem compile_after (catalog : Catalog) (history : List Request) (entry : Option Value) :
    (∀ path, Untouched (catalog.after history) path →
      (catalog.resolve path entry (catalog.after history)).1 =
        (catalog.resolve path entry {}).1) ∧
      (∀ d, catalog.SparesThroughout (catalog.after history) d →
        (compile catalog.introspector d entry (catalog.after history)).1 =
          (compile catalog.introspector d entry {}).1) ∧
      ∀ path, catalog.IsSettled path → Untouched (catalog.after history) path := by
  have hsound : catalog.Sound (catalog.after history) := after_sound history
  refine ⟨fun path h => ?_, fun d h => ?_, fun path h => h.untouched hsound⟩
  · have hagree : catalog.Agree (RunsThrough path) False (catalog.after history) {} :=
      agree_fresh hsound h False.elim
    exact (resolve_steadyUpTo (fun _ => id) entry _ _ hagree).1
  · have hagree : catalog.Agree
        (fun name => ∃ e path, catalog.ComesTo d e ∧ AsksFor e path ∧ RunsThrough path name)
        (∃ e, catalog.ComesTo d e ∧ SetsAnnotations e) (catalog.after history) {} := by
      refine agree_fresh hsound ?_ ?_
      · rintro name ⟨e, path, he, hpath, hname⟩
        exact (h e he).imported path hpath name hname
      · rintro ⟨e, he, hsets⟩
        exact (h e he).annotated hsets
    refine (compile_steadyUpTo ?_ ?_ entry _ _ hagree).1
    · exact fun e he path hpath name hname => ⟨e, path, he, hpath, hname⟩
    · exact fun e he hsets => ⟨e, he, hsets⟩

/-- A package with a module that has a class. -/
def nestedZoo : Catalog :=
  let deep : Class :=
    { own :=
        { Builtin.objectLayer with
          id := ⟨"zoo.sub", 0⟩, name := "Deep", qualifiedName := "Deep"
          attributes := [("size", .value (.int 0))] }
      ancestors := [Builtin.objectLayer], base := some Builtin.object, construction := .ok [] }
  ⟨[⟨"zoo", true, none, [], 0⟩, ⟨"zoo.sub", false, none, [("Deep", .cls deep)], 0⟩]⟩

/-- An object of the class, under its own path. -/
def deepObject : Definition :=
  { name := .str "deep", className := "zoo.sub.Deep", isLazy := false, constructor := none
    fields := [⟨"size", .int 3, .null⟩], methods := [] }

lemma nestedZoo_isSettled : nestedZoo.IsSettled "zoo.sub.Deep" := by
  have hfirst : firstTried? "zoo.sub.Deep" = some (("zoo.sub" : Text), ("Deep" : Text)) := by
    with_unfolding_all rfl
  have hclosed : (nestedZoo.openFault? ["zoo", "sub", "Deep"]).isSome = true := by
    with_unfolding_all rfl
  intro m q h himportable
  obtain ⟨rfl, rfl⟩ := Prod.mk.inj (Option.some.inj (hfirst.symm.trans h))
  rw [himportable ["zoo", "sub", "Deep"] (by simp) List.prefix_rfl] at hclosed
  exact absurd hclosed (by simp)

lemma deepObject_spared {world : World} (h : nestedZoo.Sound world) :
    nestedZoo.SparesThroughout world deepObject := by
  have huntouched : Untouched world "zoo.sub.Deep" := nestedZoo_isSettled.untouched h
  have hself : Spares world deepObject := by
    refine ⟨fun path hpath => ?_, ?_⟩
    · cases hpath with
      | className => exact huntouched
      | owner hb hpath =>
        obtain rfl := List.mem_singleton.1 hb
        obtain rfl := Value.str.inj hpath
        exact huntouched
    · rintro ⟨b, hb, hname⟩
      obtain rfl := List.mem_singleton.1 hb
      exact absurd hname (by decide)
  intro e he
  cases he with
  | self => exact hself
  | bound hv h =>
    cases hv with
    | construct hb _ => exact absurd hb (by simp [deepObject])
    | assign hb =>
      obtain rfl := List.mem_singleton.1 hb
      cases h
    | invoke hb _ => exact absurd hb (by simp [deepObject])
  | construct hc _ _ =>
    -- the class has no constructor of its own, in this world as in that at first
    obtain ⟨entry, world', hworld', hsome⟩ := hc
    have hagree : nestedZoo.Agree (RunsThrough "zoo.sub.Deep") False world' {} :=
      agree_fresh hworld' (nestedZoo_isSettled.untouched hworld') False.elim
    have hnone : (nestedZoo.introspector.constructor "zoo.sub.Deep" entry {}).1 = .ok none := by
      with_unfolding_all rfl
    have hsame := (constructor_steadyUpTo (fun _ => id) entry _ _ hagree).1
    exact absurd (hsome.symm.trans (hsame.trans hnone)) (by simp)
  | invoke hb _ _ _ => exact absurd hb (by simp [deepObject])

/-- It compiles as it does at first after its class was found under another path. -/
theorem deepObject_after :
    nestedZoo.IsSettled "zoo.sub.Deep" ∧
      nestedZoo.SparesThroughout (nestedZoo.after [.loadClass "zoo.sub:Deep"]) deepObject ∧
      (nestedZoo.resolve "zoo.sub.Deep" none (nestedZoo.after [.loadClass "zoo.sub:Deep"])).1 =
        (nestedZoo.resolve "zoo.sub.Deep" none {}).1 ∧
      (compile nestedZoo.introspector deepObject none
          (nestedZoo.after [.loadClass "zoo.sub:Deep"])).1 =
        .ok [.construct "zoo.sub.Deep" [] [], .assign "size" (.int 3)] := by
  have hafter := compile_after nestedZoo [.loadClass "zoo.sub:Deep"] none
  have hspared := deepObject_spared (after_sound [.loadClass "zoo.sub:Deep"])
  have hplan : (compile nestedZoo.introspector deepObject none {}).1 =
      .ok [.construct "zoo.sub.Deep" [] [], .assign "size" (.int 3)] := by
    with_unfolding_all rfl
  exact ⟨nestedZoo_isSettled, hspared, hafter.1 _ (hafter.2.2 _ nestedZoo_isSettled),
    (hafter.2.1 _ hspared).trans hplan⟩

-- the package does not know the module that this path runs through until it was imported
example :
    (nestedZoo.introspector.exists? "zoo:sub.Deep" none {}).1 = .ok false ∧
      (nestedZoo.introspector.exists? "zoo:sub.Deep" none
        (nestedZoo.after [.exists? "zoo.sub.Deep"])).1 = .ok true := by
  constructor <;> with_unfolding_all rfl

/-! ## Hidden classes -/

lemma ne_builtinModule (m name : Text) : m ++ "." ++ name ≠ builtinModule := by
  intro h
  have hlength := congrArg (fun path => (pathParts path).length) h
  have hone : (pathParts builtinModule).length = 1 := by decide
  have hm : 0 < (pathParts m).length := List.length_pos_of_ne_nil (pathParts_ne_nil m)
  have hname : 0 < (pathParts name).length := List.length_pos_of_ne_nil (pathParts_ne_nil name)
  simp only [pathParts_append, List.length_append, hone] at hlength
  omega

/-- Once a module was imported, its name in the package stands for it, and for no class. -/
lemma classIn?_of_imported {imported : List Text} {m name : Text} {inner : Module}
    (hname : Point.char '.' ∉ name.points) (hinner : m ++ "." ++ name ∈ imported)
    (hfind : catalog.find? (m ++ "." ++ name) = some inner) :
    catalog.classIn? imported m name = none := by
  unfold classIn?
  rcases hm : catalog.find? m with _ | found
  · rfl
  · have hcontains : imported.contains (found.name ++ "." ++ name) = true := by
      rw [find?_name hm]
      simpa using hinner
    rw [← find?_name hm] at hfind
    simp only [pathParts_of_not_mem hname, walk?, step?, hcontains, hfind, Option.bind_some]

/-- A module hides the class of its name that is in its package: once the module was imported, for
whatever was asked before, the class is not found. -/
theorem resolve_hidden {path m name : Text} {history : List Request} {entry : Option Value}
    (hcolon : splitAtColon? path = some (m, name)) (hboth : (m.isEmpty || name.isEmpty) = false)
    (habsolute : Text.startsWith "." m = false) (hname : Point.char '.' ∉ name.points)
    (hinner : m ++ "." ++ name ∈ (catalog.after history).imported) :
    (catalog.resolve path entry (catalog.after history)).1 = .ok none := by
  have hsound : catalog.Sound (catalog.after history) := after_sound history
  have himportable := hsound _ hinner
  obtain ⟨inner, hfind⟩ := himportable.exists_find? (ne_builtinModule m name)
  rw [pathParts_append] at himportable
  have hm : catalog.Importable (pathParts m) := himportable.of_prefix (List.prefix_append _ _)
  have hspec := importModule_spec entry hsound habsolute
  have htry : catalog.tryImport m entry (catalog.after history) =
      (.ok true, (catalog.importModule m entry (catalog.after history)).2) := by
    rw [tryImport_apply, hspec.result, hm.importFault?_eq_none]
    rfl
  have hclass := classIn?_of_imported hname ((hspec.imported _).2 (.inl hinner)) hfind
  have hresolve : catalog.resolve path = catalog.firstClass [(m, name)] := by
    rw [resolve, candidates, hcolon]
  rw [hresolve, firstClass_cons hboth, Run.bind_of_ok htry, if_pos rfl,
    Run.bind_of_ok (rfl : Run.imported _ _ = _), hclass]
  rfl

end Blueprint.Catalog
