/-!
# Tables in order of arrival

A table is a list of entries in the order in which their keys first arrived. Writing to a key that
is present replaces its value where it stands.

* `Table.get?`, `Table.put`, `Table.keys`: look-up, writing, the keys in order.
* `keys_put_of_mem`, `put_of_not_mem`, `get?_put_self`, `get?_put_of_ne`: what writing does.
-/

namespace PolicyHost

/-- Entries in the order in which their keys first arrived. -/
abbrev Table (κ α : Type) := List (κ × α)

namespace Table

variable {κ α : Type} [DecidableEq κ]

/-- The value at a key. -/
def get? (k : κ) : Table κ α → Option α
  | [] => none
  | (key, value) :: rest => if key = k then some value else get? k rest

/-- Writes a value: in place if the key is present, at the end otherwise. -/
def put (k : κ) (v : α) : Table κ α → Table κ α
  | [] => [(k, v)]
  | (key, value) :: rest =>
    if key = k then (key, v) :: rest else (key, value) :: put k v rest

def keys (t : Table κ α) : List κ := t.map Prod.fst

def contains (t : Table κ α) (k : κ) : Bool := (get? k t).isSome

def ofList (entries : List (κ × α)) : Table κ α :=
  entries.foldl (fun t entry => put entry.1 entry.2 t) []

@[simp] theorem get?_nil (k : κ) : get? k ([] : Table κ α) = none := rfl

theorem get?_put_self (k : κ) (v : α) (t : Table κ α) : get? k (put k v t) = some v := by
  induction t with
  | nil => simp [put, get?]
  | cons entry rest ih =>
    obtain ⟨key, value⟩ := entry
    by_cases same : key = k <;> simp [put, get?, same, ih]

theorem get?_put_of_ne {k k' : κ} (differ : k' ≠ k) (v : α) (t : Table κ α) :
    get? k' (put k v t) = get? k' t := by
  induction t with
  | nil => simp [put, get?, Ne.symm differ]
  | cons entry rest ih =>
    obtain ⟨key, value⟩ := entry
    by_cases same : key = k
    · subst same
      simp [put, get?, Ne.symm differ]
    · by_cases other : key = k'
      · subst other
        simp [put, get?, same]
      · simp [put, get?, same, other, ih]

theorem mem_keys_iff {k : κ} {t : Table κ α} : k ∈ t.keys ↔ ∃ v, get? k t = some v := by
  induction t with
  | nil => simp [keys]
  | cons entry rest ih =>
    obtain ⟨key, value⟩ := entry
    simp only [keys, List.map_cons, List.mem_cons] at ih ⊢
    by_cases same : key = k
    · simp [get?, same]
    · simp [get?, same, Ne.symm same, ih]

theorem keys_put_of_mem {k : κ} {t : Table κ α} (present : k ∈ t.keys) (v : α) :
    (put k v t).keys = t.keys := by
  induction t with
  | nil => simp [keys] at present
  | cons entry rest ih =>
    obtain ⟨key, value⟩ := entry
    simp only [keys, List.map_cons, List.mem_cons] at ih present ⊢
    by_cases same : key = k
    · simp [put, same]
    · have later : k ∈ rest.map Prod.fst := by
        cases present with
        | inl equal => exact absurd equal.symm same
        | inr later => exact later
      simp [put, same, ih later]

theorem put_of_not_mem {t : Table κ α} {k : κ} (absent : k ∉ t.keys) (v : α) :
    t.put k v = t ++ [(k, v)] := by
  induction t with
  | nil => rfl
  | cons entry rest ih =>
    simp only [keys, List.map_cons, List.mem_cons, not_or] at ih absent
    rw [put, if_neg (Ne.symm absent.1), ih absent.2]
    rfl

theorem keys_put_of_not_mem {k : κ} {t : Table κ α} (absent : k ∉ t.keys) (v : α) :
    (put k v t).keys = t.keys ++ [k] := by
  rw [put_of_not_mem absent, keys, List.map_append]
  rfl

end Table

end PolicyHost
