import Mathlib.Data.List.Nodup
import PolicyHost.Table

/-!
# What tables hold

Look-up and writing, further on: what a table holds that has been written to, and of several entries for
one key the last one that arrives.

* `mem_of_get?`, `get?_of_mem`, `get?_eq_some_iff`, `mem_values_iff`: look-up and membership.
* `get?_put`, `put_of_nodup`, `nodup_keys_put`, `mem_put`: one entry that is written or
  dropped.
* `get?_foldl_put`, `get?_ofList`, `get?_ofList_eq_some_iff`: entries that arrive one after another.
* `get?_tabulated`, `keys_tabulated`: a table that lists the values of a function.
-/

namespace PolicyHost.Table

variable {κ α : Type} [DecidableEq κ]

theorem mem_of_get? {t : Table κ α} {k : κ} {v : α} (found : t.get? k = some v) : (k, v) ∈ t := by
  induction t with
  | nil => cases found
  | cons entry rest ih =>
    obtain ⟨key, value⟩ := entry
    unfold get? at found
    split at found
    · next same =>
      cases found
      exact same ▸ List.mem_cons_self
    · exact List.mem_cons_of_mem _ (ih found)

theorem get?_eq_none_of_not_mem {t : Table κ α} {k : κ} (absent : k ∉ t.keys) : get? k t = none := by
  rw [mem_keys_iff, not_exists] at absent
  exact Option.eq_none_iff_forall_ne_some.mpr absent

/-- With one entry for each key, an entry is found. -/
theorem get?_of_mem {t : Table κ α} (distinct : t.keys.Nodup) {k : κ} {v : α} (member : (k, v) ∈ t) :
    get? k t = some v := by
  induction t with
  | nil => cases member
  | cons entry rest ih =>
    obtain ⟨key, value⟩ := entry
    obtain ⟨fresh, distinct⟩ := List.nodup_cons.mp distinct
    rcases List.mem_cons.mp member with here | behind
    · cases here
      exact if_pos rfl
    · have later := ih distinct behind
      have apart : key ≠ k := fun same => fresh (mem_keys_iff.mpr ⟨v, same ▸ later⟩)
      rw [get?, if_neg apart, later]

/-- The value of a key is that of its first entry. -/
theorem get?_eq_some_iff {t : Table κ α} {k : κ} {v : α} :
    get? k t = some v ↔ ∃ before after, t = before ++ (k, v) :: after ∧ ∀ entry ∈ before, entry.1 ≠ k := by
  induction t with
  | nil => simp
  | cons entry rest ih =>
    obtain ⟨key, value⟩ := entry
    rw [get?]
    constructor
    · intro found
      split at found
      · next same =>
        cases found
        exact ⟨[], rest, same ▸ rfl, List.forall_mem_nil _⟩
      · next differ =>
        obtain ⟨before, after, rfl, apart⟩ := ih.mp found
        exact ⟨(key, value) :: before, after, rfl, List.forall_mem_cons.mpr ⟨differ, apart⟩⟩
    · rintro ⟨before, after, cut, apart⟩
      cases before with
      | nil =>
        cases cut
        exact if_pos rfl
      | cons head before =>
        cases cut
        obtain ⟨differ, apart⟩ := List.forall_mem_cons.mp apart
        rw [if_neg differ]
        exact ih.mpr ⟨before, after, rfl, apart⟩

theorem mem_values_iff {t : Table κ α} (distinct : t.keys.Nodup) {v : α} :
    v ∈ t.map Prod.snd ↔ ∃ k, get? k t = some v := by
  constructor
  · intro member
    obtain ⟨⟨k, _⟩, inside, rfl⟩ := List.mem_map.mp member
    exact ⟨k, get?_of_mem distinct inside⟩
  · rintro ⟨k, found⟩
    exact List.mem_map_of_mem (mem_of_get? found)

theorem get?_append (k : κ) (first second : Table κ α) :
    get? k (first ++ second) = (get? k first).or (get? k second) := by
  induction first with
  | nil => rfl
  | cons entry rest ih =>
    rw [List.cons_append, get?, get?]
    split
    · rfl
    · exact ih

/-! ## One entry -/

theorem get?_put (k name : κ) (v : α) (t : Table κ α) :
    get? name (put k v t) = if k = name then some v else get? name t := by
  split
  · next same => rw [← same, get?_put_self]
  · next differ => exact get?_put_of_ne (Ne.symm differ) v t

/-- A key that no entry in front of it has is written to the end. -/
theorem put_of_nodup {before after : Table κ α} {k : κ} {v : α}
    (distinct : (keys (before ++ (k, v) :: after)).Nodup) : before.put k v = before ++ [(k, v)] := by
  refine put_of_not_mem (fun early => ?_) v
  rw [keys, List.map_append, List.nodup_append] at distinct
  exact distinct.2.2 k early k List.mem_cons_self rfl

theorem nodup_keys_put {t : Table κ α} (distinct : t.keys.Nodup) (k : κ) (v : α) :
    (t.put k v).keys.Nodup := by
  by_cases present : k ∈ t.keys
  · rw [keys_put_of_mem present]
    exact distinct
  · rw [keys_put_of_not_mem present, List.nodup_append]
    refine ⟨distinct, by simp, fun key member last => ?_⟩
    rintro other rfl
    exact present (List.mem_singleton.mp other ▸ member)

/-- An entry of a table that has been written to was there before or is the one written. -/
theorem mem_put {t : Table κ α} {k : κ} {v : α} {entry : κ × α} (member : entry ∈ t.put k v) :
    entry ∈ t ∨ entry = (k, v) := by
  induction t with
  | nil => exact Or.inr (List.mem_singleton.mp member)
  | cons head rest ih =>
    obtain ⟨key, value⟩ := head
    unfold put at member
    split at member
    · next same =>
      subst same
      rcases List.mem_cons.mp member with new | later
      · exact Or.inr new
      · exact Or.inl (List.mem_cons_of_mem _ later)
    · rcases List.mem_cons.mp member with new | later
      · exact Or.inl (new ▸ List.mem_cons_self)
      · rcases ih later with old | new
        · exact Or.inl (List.mem_cons_of_mem _ old)
        · exact Or.inr new

/-! ## Entries one after another -/

/-- Of the entries for a key that arrive at a table the last one counts, and before them what is there. -/
theorem get?_foldl_put (k : κ) (entries : List (κ × α)) (t : Table κ α) :
    get? k (entries.foldl (fun t entry => put entry.1 entry.2 t) t) =
      (get? k entries.reverse).or (get? k t) := by
  induction entries generalizing t with
  | nil => rfl
  | cons entry rest ih =>
    obtain ⟨key, value⟩ := entry
    rw [List.foldl_cons, ih, List.reverse_cons, get?_append, get?_put, Option.or_assoc, get?]
    by_cases same : key = k
    · rw [if_pos same, if_pos same, Option.some_or]
    · rw [if_neg same, if_neg same, get?_nil, Option.none_or]

theorem nodup_keys_foldl_put (entries : List (κ × α)) {t : Table κ α} (distinct : t.keys.Nodup) :
    (entries.foldl (fun t entry => put entry.1 entry.2 t) t).keys.Nodup := by
  induction entries generalizing t with
  | nil => exact distinct
  | cons entry rest ih => exact ih (nodup_keys_put distinct entry.1 entry.2)

theorem get?_ofList (k : κ) (entries : List (κ × α)) : get? k (ofList entries) = get? k entries.reverse := by
  rw [ofList, get?_foldl_put, get?_nil, Option.or_none]

theorem nodup_keys_ofList (entries : List (κ × α)) : (ofList entries).keys.Nodup :=
  nodup_keys_foldl_put entries List.nodup_nil

/-- Of the entries for a key that arrive, the last one counts. -/
theorem get?_ofList_eq_some_iff {entries : List (κ × α)} {k : κ} {v : α} :
    get? k (ofList entries) = some v ↔
      ∃ before after, entries = before ++ (k, v) :: after ∧ ∀ entry ∈ after, entry.1 ≠ k := by
  rw [get?_ofList, get?_eq_some_iff]
  constructor
  · rintro ⟨before, after, cut, apart⟩
    refine ⟨after.reverse, before.reverse, ?_, fun entry member => apart entry (List.mem_reverse.mp member)⟩
    rw [← List.reverse_reverse entries, cut]
    simp
  · rintro ⟨before, after, rfl, apart⟩
    exact ⟨after.reverse, before.reverse, by simp, fun entry member => apart entry (List.mem_reverse.mp member)⟩

/-- A table that lists the values of a function for some keys. -/
theorem get?_tabulated (value : κ → Option α) (k : κ) (listed : List κ) :
    get? k (listed.filterMap fun key => (value key).map fun v => (key, v)) =
      if k ∈ listed then value k else none := by
  induction listed with
  | nil => rfl
  | cons key rest ih =>
    rw [List.filterMap_cons]
    by_cases same : key = k
    · subst same
      rw [if_pos List.mem_cons_self]
      cases held : value key with
      | none =>
        rw [Option.map_none, ih, held]
        simp
      | some v => exact if_pos rfl
    · have elsewhere : k ∈ key :: rest ↔ k ∈ rest := by simp [Ne.symm same]
      simp only [elsewhere, ← ih]
      cases value key with
      | none => rfl
      | some v => exact if_neg same

omit [DecidableEq κ] in
theorem keys_tabulated (value : κ → Option α) (listed : List κ) :
    keys (listed.filterMap fun key => (value key).map fun v => (key, v)) =
      listed.filter fun key => (value key).isSome := by
  induction listed with
  | nil => rfl
  | cons key rest ih =>
    rw [List.filterMap_cons, List.filter_cons]
    cases value key with
    | none => exact ih
    | some v => exact congrArg (List.cons key) ih

end PolicyHost.Table
