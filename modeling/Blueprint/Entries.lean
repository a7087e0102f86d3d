/-
# Entries in order of first insertion

A table is a list of keys with their values.  Putting a value under a key that is already
there changes the value where the key stands; a new key goes to the end.  So a repeated key
keeps its first place and takes its last value.
-/

namespace Blueprint.Entries

variable {α β γ : Type} [BEq α]

/-- Puts a value under a key. -/
def put (key : α) (value : β) : List (α × β) → List (α × β)
  | [] => [(key, value)]
  | (k, v) :: rest => if k == key then (k, value) :: rest else (k, v) :: put key value rest

/-- The value under a key. -/
def get? (key : α) : List (α × β) → Option β
  | [] => none
  | (k, v) :: rest => if k == key then some v else get? key rest

/-- Whether a key has a value. -/
def contains (key : α) (entries : List (α × β)) : Bool :=
  entries.any fun entry => entry.1 == key

/-- The table of a list of pairs, put one after the other. -/
def ofList (pairs : List (α × β)) : List (α × β) :=
  pairs.foldl (fun entries pair => put pair.1 pair.2 entries) []

/-- The keys in their order. -/
def keys (entries : List (α × β)) : List α :=
  entries.map Prod.fst

@[simp] theorem get?_nil (key : α) : get? key ([] : List (α × β)) = none := rfl

theorem keys_put [LawfulBEq α] (key : α) (value : β) (entries : List (α × β)) :
    keys (put key value entries) =
      if key ∈ keys entries then keys entries else keys entries ++ [key] := by
  induction entries with
  | nil => simp [put, keys]
  | cons entry rest ih =>
    obtain ⟨k, v⟩ := entry
    by_cases h : k = key
    · subst h
      simp [put, keys]
    · have h' : key ≠ k := fun e => h e.symm
      simp only [put, beq_iff_eq, h, if_false]
      simp only [keys, List.map_cons, List.mem_cons, h', false_or] at ih ⊢
      rw [ih]
      split <;> simp [*]

theorem get?_put_self [LawfulBEq α] (key : α) (value : β) (entries : List (α × β)) :
    get? key (put key value entries) = some value := by
  induction entries with
  | nil => simp [put, get?]
  | cons entry rest ih =>
    obtain ⟨k, v⟩ := entry
    by_cases h : k = key <;> simp [put, get?, h, ih]

theorem get?_put_of_ne [LawfulBEq α] {key key' : α} (h : key' ≠ key) (value : β)
    (entries : List (α × β)) : get? key' (put key value entries) = get? key' entries := by
  induction entries with
  | nil => simp [put, get?, Ne.symm h]
  | cons entry rest ih =>
    obtain ⟨k, v⟩ := entry
    by_cases hk : k = key
    · subst hk
      simp [put, get?, Ne.symm h]
    · simp [put, get?, hk, ih]

end Blueprint.Entries
