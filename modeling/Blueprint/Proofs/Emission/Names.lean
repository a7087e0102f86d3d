/-
# Names in emitted factories

A factory and its script do the same, as long as no import takes a name away from the factory: the
names that it uses for something of its own are `Factory.ownNames`.  The proof relates what the
local names stand for in the factory to what the texts stand for in the script, and goes by
recursion on the blocks.

The relation says nothing about names that the factory does not use.  So a module may be called like
a parameter, like a class that needs no module or like a local name, where these are not used.
-/
import Blueprint.Proofs.Emission.Blocks

namespace Blueprint

namespace Text

/-! ## Basic names -/

lemma chars?_ofChars (cs : List Char) : (ofChars cs).chars? = some cs := by
  have h := chars?_ofString (String.ofList cs)
  rw [ofString, String.toList_ofList] at h
  exact h

/-- A text of basic characters is in its normal form. -/
lemma normal_ofChars {cs : List Char} (h : ∀ c ∈ cs, isBasic c = true) :
    (ofChars cs).normal = ofChars cs := by
  rw [normal, chars?_ofChars]
  exact if_pos (List.all_eq_true.2 h)

lemma isBasic_of_isDigit {c : Char} (h : c.isDigit = true) : isBasic c = true := by
  rw [Char.isDigit, Bool.and_eq_true, decide_eq_true_eq, decide_eq_true_eq] at h
  have hle : c.toNat ≤ 57 := h.2
  rw [isBasic, decide_eq_true_eq]
  omega

end Text

namespace Factory

/-- The letters of a role, between the underscores around them. -/
def Role.letters : Role → List Char
  | object => ['_', 'o', 'b', 'j', '_']
  | nested => ['_', 'n', 'e', 's', 't', 'e', 'd', '_']
  | initializer => ['_', 'i', 'n', 'i', 't', 'i', 'a', 'l', 'i', 'z', 'e', 'r', '_']

lemma Local.text_eq (l : Local) :
    l.text = Text.ofChars (l.role.letters ++ Nat.toDigits 10 l.number) := by
  obtain ⟨role, number⟩ := l
  have hdigits : Text.ofString (toString number) = Text.ofChars (Nat.toDigits 10 number) := by
    rw [Text.ofString, Nat.toString_eq_repr, Nat.toList_repr]
  cases role <;> simp only [Local.text, hdigits] <;> rfl

/-- Local names are in their normal form. -/
lemma Local.normal_text (l : Local) : l.text.normal = l.text := by
  rw [Local.text_eq]
  refine Text.normal_ofChars fun c hc => ?_
  rcases List.mem_append.1 hc with hc | hc
  · have hletters : l.role.letters.all Text.isBasic = true := by
      cases l.role <;> rfl
    exact List.all_eq_true.1 hletters c hc
  · exact Text.isBasic_of_isDigit (Nat.isDigit_of_mem_toDigits (by decide) (by decide) hc)

/-- Different local names have different texts. -/
lemma Local.text_injective {l l' : Local} (h : l.text = l'.text) : l = l' := by
  obtain ⟨role, number⟩ := l
  obtain ⟨role', number'⟩ := l'
  have hchars : role.letters ++ Nat.toDigits 10 number =
      role'.letters ++ Nat.toDigits 10 number' := by
    rw [Local.text_eq, Local.text_eq] at h
    have := congrArg Text.chars? h
    rw [Text.chars?_ofChars, Text.chars?_ofChars] at this
    exact Option.some.inj this
  have hrole : role = role' := by
    have hsecond := congrArg (fun cs => cs[1]?) hchars
    cases role <;> cases role' <;> first | rfl | exact absurd hsecond (by simp [Role.letters])
  subst hrole
  have hdigits := List.append_cancel_left hchars
  have hnumber := congrArg (Nat.ofDigitChars 10 · 0) hdigits
  simp only [Nat.ofDigitChars_ten_toDigits] at hnumber
  rw [hnumber]

/-- The text of a local name starts with an underscore. -/
lemma Local.head_text (l : Local) : l.text.points.head? = some (.char '_') := by
  rw [Local.text_eq]
  cases l.role <;> rfl

/-! ## The names of a factory -/

/-- The name that a literal needs. -/
def constantNames : Value → List Text
  | .float x | .derived _ (.float x) => if x.isFinite then [] else ["float"]
  | _ => []

mutual

/-- The names that an expression uses, other than those of modules. -/
def Expr.ownNames : Expr → List Text
  | .constant v => constantNames v
  | .lookup _ => ["container"]
  | .build builder => [builder.text]
  | .list items => itemNames items
  | .tuple items => itemNames items
  | .dict entries => entryNames entries

/-- The names that expressions use. -/
def itemNames : List Expr → List Text
  | [] => []
  | e :: rest => e.ownNames ++ itemNames rest

/-- The names that keys and values use. -/
def entryNames : List (Expr × Expr) → List Text
  | [] => []
  | (k, v) :: rest => k.ownNames ++ v.ownNames ++ entryNames rest

end

/-- The name that the use of what is called needs. -/
def Callee.ownNames : Callee → List Text
  | member _ _ => []
  | builtin name => [name]
  | method target _ => [target.text]

/-- The names that a call uses. -/
def Call.ownNames (c : Call) : List Text :=
  c.callee.ownNames ++ (itemNames c.positional ++ itemNames (c.keywords.map Prod.snd))

/-- The names that a block uses, at any depth. -/
def blockNames : List Statement → List Text
  | [] => []
  | .define l body :: rest => l.text :: (blockNames body ++ blockNames rest)
  | .bind target call :: rest => target.text :: (call.ownNames ++ blockNames rest)
  | .assign target field value :: rest =>
    (if Text.isIdentifier field then [target.text] else ["setattr", target.text]) ++
      (value.ownNames ++ blockNames rest)
  | .perform call :: rest => call.ownNames ++ blockNames rest
  | .proxy target _ initializer :: rest =>
    "proxy_factory" :: target.text :: initializer.text :: blockNames rest
  | .result target :: rest => target.text :: blockNames rest

/-- The names that a factory uses for something of its own: its parameters, its local names and what
needs no module. -/
def ownNames (f : Factory) : List Text :=
  blockNames f.body

/-- No name is taken away from the factory. -/
structure IsHygienic (f : Factory) : Prop where
  /-- No import takes one. -/
  imports : ∀ n ∈ Script.importedNames f.imports, n ∉ f.ownNames
  /-- The factory has not the name of something that needs no module, and that it uses. -/
  name : f.name.normal ∈ f.ownNames → f.name.normal ∉ Script.standardNames

/-! ## Sound factories -/

mutual

/-- The literals of an expression are literals of types themselves, and names of entries are plain
ones. -/
def Expr.IsSound : Expr → Prop
  | .constant v => v.isBuiltin = true
  | .lookup entry => entry.isPlain = true
  | .build _ => True
  | .list items => ItemsSound items
  | .tuple items => ItemsSound items
  | .dict entries => EntriesSound entries

/-- The expressions are sound. -/
def ItemsSound : List Expr → Prop
  | [] => True
  | e :: rest => e.IsSound ∧ ItemsSound rest

/-- The keys and values are sound. -/
def EntriesSound : List (Expr × Expr) → Prop
  | [] => True
  | (k, v) :: rest => k.IsSound ∧ v.IsSound ∧ EntriesSound rest

end

/-- What is called is in a module that is imported, or needs none, and its names are such as `P`
allows to be written. -/
def Callee.IsSound (P : Text → Prop) (imports : List Text) : Callee → Prop
  | member moduleName qualifiedName =>
    moduleName ∈ imports ∧
      ∀ part ∈ Catalog.pathParts moduleName ++ Catalog.pathParts qualifiedName, P part
  | builtin name => name ∈ builtinNames
  | method _ name => P name

/-- The call passes sound arguments, and no two by one name. -/
structure Call.IsSound (P : Text → Prop) (imports : List Text) (c : Call) : Prop where
  /-- What is called. -/
  callee : c.callee.IsSound P imports
  /-- The arguments in order. -/
  positional : ItemsSound c.positional
  /-- The arguments by name. -/
  named : ItemsSound (c.keywords.map Prod.snd)
  /-- Their names. -/
  names : ∀ name ∈ c.keywords.map Prod.fst, P name
  /-- No two names are the same. -/
  nodup : (c.keywords.map Prod.fst).Nodup

/-- The block is made of sound expressions and calls, and the fields that it assigns by name are
such as `P` allows to be written. -/
def BlockSound (P : Text → Prop) (imports : List Text) : List Statement → Prop
  | [] => True
  | .define _ body :: rest => BlockSound P imports body ∧ BlockSound P imports rest
  | .bind _ call :: rest => call.IsSound P imports ∧ BlockSound P imports rest
  | .assign _ field value :: rest =>
    (Text.isIdentifier field = true → P field) ∧ value.IsSound ∧ BlockSound P imports rest
  | .perform call :: rest => call.IsSound P imports ∧ BlockSound P imports rest
  | .proxy _ _ _ :: rest => BlockSound P imports rest
  | .result _ :: rest => BlockSound P imports rest

/-! ## What names stand for -/

section Meaning

variable {m : Type → Type} {O : Type}

/-- What a local name stands for, as that of its text. -/
def Item.datum : Item m O → Script.Datum m O
  | object o => .object o
  | routine run => .routine run

/-- The names of the script stand for what they stand for in the factory: those in `own` for local
names, parameters or nothing, and others that are imported for modules. -/
structure Matches (imports own : List Text) (names : Script.Names m O) (locals : Locals m O) :
    Prop where
  /-- Local names. -/
  local_ : ∀ l : Local, l.text ∈ own → names l.text = (locals l).map Item.datum
  /-- Other names that are used. -/
  other : ∀ n ∈ own, (∀ l : Local, n ≠ l.text) → names n = Script.parameter? n
  /-- Imported names. -/
  imported : ∀ n ∈ Script.importedNames imports, names n = some (.member [n])

variable {imports own : List Text} {names : Script.Names m O} {locals : Locals m O}

lemma Matches.bind (hfresh : ∀ n ∈ Script.importedNames imports, n ∉ own)
    (h : Matches imports own names locals) {l : Local} (hl : l.text ∈ own) (item : Item m O) :
    Matches imports own (names.bind l.text item.datum) (locals.bind l item) := by
  refine ⟨fun l' hl' => ?_, fun n hn hlocal => ?_, fun n hn => ?_⟩
  · rw [Script.Names.bind, Locals.bind, Local.normal_text]
    -- the variable that is bound, or another one, which has another text
    by_cases he : l' = l
    · rw [if_pos he, he, if_pos rfl]
      rfl
    · rw [if_neg he, if_neg fun ht => he (Local.text_injective ht)]
      exact h.local_ l' hl'
  · rw [Script.Names.bind, Local.normal_text, if_neg (hlocal l)]
    exact h.other n hn hlocal
  · have hne : n ≠ l.text := by
      rintro rfl
      exact hfresh _ hn hl
    rw [Script.Names.bind, Local.normal_text, if_neg hne]
    exact h.imported n hn

lemma Matches.without (hfresh : ∀ n ∈ Script.importedNames imports, n ∉ own)
    (h : Matches imports own names locals) {ls : List Local} (hls : ∀ l ∈ ls, l.text ∈ own) :
    Matches imports own (names.without (ls.map Local.text)) (locals.without ls) := by
  have htexts : (ls.map Local.text).map Text.normal = ls.map Local.text := by
    rw [List.map_map]
    exact List.map_congr_left fun l _ => l.normal_text
  refine ⟨fun l hl => ?_, fun n hn hlocal => ?_, fun n hn => ?_⟩
  · rw [Script.Names.without, Locals.without, htexts]
    by_cases hmem : l ∈ ls
    · rw [if_pos hmem, if_pos (List.mem_map_of_mem hmem)]
      rfl
    · have htext : l.text ∉ ls.map Local.text := by
        intro ht
        obtain ⟨l', hl', he⟩ := List.mem_map.1 ht
        exact hmem (Local.text_injective he ▸ hl')
      rw [if_neg hmem, if_neg htext]
      exact h.local_ l hl
  · have htext : n ∉ ls.map Local.text := by
      intro ht
      obtain ⟨l, -, he⟩ := List.mem_map.1 ht
      exact hlocal l he.symm
    rw [Script.Names.without, htexts, if_neg htext]
    exact h.other n hn hlocal
  · have htext : n ∉ ls.map Local.text := by
      intro ht
      obtain ⟨l, hl, rfl⟩ := List.mem_map.1 ht
      exact hfresh _ hn (hls l hl)
    rw [Script.Names.without, htexts, if_neg htext]
    exact h.imported n hn

lemma boundNames_blockScript (body : List Statement) :
    Script.boundNames (blockScript body) = (boundLocals body).map Local.text := by
  induction body with
  | nil => simp only [blockScript, Script.boundNames, boundLocals, List.map_nil]
  | cons s rest ih =>
    cases s with
    | assign target field value =>
      simp only [blockScript, boundLocals, assignScript]
      split <;> simp only [Script.boundNames, ih]
    | _ => simp only [blockScript, Script.boundNames, boundLocals, List.map_cons, ih]

/-- The local names that a block binds are among those that it uses. -/
lemma mem_blockNames_of_bound {body : List Statement} {l : Local} (h : l ∈ boundLocals body) :
    l.text ∈ blockNames body := by
  induction body with
  | nil => exact absurd h (List.not_mem_nil)
  | cons s rest ih =>
    cases s <;> simp only [boundLocals, List.mem_cons] at h <;>
      simp only [blockNames, List.mem_cons, List.mem_append]
    case define =>
      rcases h with rfl | h
      · exact .inl rfl
      · exact .inr (.inr (ih h))
    case bind =>
      rcases h with rfl | h
      · exact .inl rfl
      · exact .inr (.inr (ih h))
    case assign => exact .inr (.inr (ih h))
    case perform => exact .inr (ih h)
    case proxy =>
      rcases h with rfl | h
      · exact .inr (.inl rfl)
      · exact .inr (.inr (.inr (ih h)))
    case result => exact .inr (ih h)

end Meaning

end Factory

end Blueprint
