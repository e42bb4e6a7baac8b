import PolicyHost.Proofs.Table
import PolicyHost.Text.Basic

/-!
# Tables in ascending order of their keys

Texts are ordered lexicographically by code point. A table whose keys are texts has one arrangement in
ascending order if there is one entry for each key, so two arrangements of the same entries come to the
same.

* `Text.le_trans`, `Text.le_total`, `Text.le_antisymm`: the order of texts.
* `Table.ascending`: the arrangement; `pairwise_ascending`, `ascending_perm`: its order and its entries.
* `ascending_ascending`, `ascending_map`: what is in order already, and values that are changed one by one.
* `ascending_eq_iff`, `get?_eq_of_perm`: with one entry for each key.
-/

namespace PolicyHost

namespace Text

theorem le_iff {a b : Text} : le a b = true ↔ ¬ b < a := by
  rw [le, Bool.not_eq_true', decide_eq_false_iff_not]

theorem le_refl (a : Text) : le a a = true := le_iff.mpr (List.lt_irrefl a)

theorem le_trans {a b c : Text} (first : le a b = true) (second : le b c = true) : le a c = true :=
  le_iff.mpr (List.not_lt.mpr
    (List.le_trans (List.not_lt.mp (le_iff.mp first)) (List.not_lt.mp (le_iff.mp second))))

theorem le_total (a b : Text) : (le a b || le b a) = true := by
  rw [Bool.or_eq_true, le_iff, le_iff]
  exact (List.le_total a b).imp List.not_lt.mpr List.not_lt.mpr

theorem le_antisymm {a b : Text} (low : le a b = true) (high : le b a = true) : a = b :=
  List.le_antisymm (List.not_lt.mp (le_iff.mp low)) (List.not_lt.mp (le_iff.mp high))

end Text

namespace Table

variable {α β : Type}

def ascending (t : Table Text α) : Table Text α := t.mergeSort fun a b => Text.le a.1 b.1

theorem ascending_perm (t : Table Text α) : t.ascending.Perm t := List.mergeSort_perm t _

theorem pairwise_ascending (t : Table Text α) :
    t.ascending.Pairwise fun a b => Text.le a.1 b.1 = true := by
  have transitive (a b c : Text × α) (first : Text.le a.1 b.1 = true) (second : Text.le b.1 c.1 = true) :
      Text.le a.1 c.1 = true := Text.le_trans first second
  exact List.pairwise_mergeSort transitive (fun a b => Text.le_total a.1 b.1) t

theorem ascending_ascending (t : Table Text α) : t.ascending.ascending = t.ascending :=
  List.mergeSort_of_pairwise (pairwise_ascending t)

theorem ascending_map (f : α → β) (t : Table Text α) :
    ascending (t.map fun entry => (entry.1, f entry.2)) =
      t.ascending.map fun entry => (entry.1, f entry.2) := by
  unfold ascending
  rw [List.map_mergeSort (s := fun a b : Text × β => Text.le a.1 b.1) fun _ _ _ _ => rfl]

theorem nodup_keys_perm {t t' : Table Text α} (same : t.Perm t') (distinct : t.keys.Nodup) : t'.keys.Nodup :=
  (same.map Prod.fst).nodup_iff.mp distinct

/-- Two entries of one key are the same entry. -/
theorem eq_of_key_eq {t : Table Text α} (distinct : t.keys.Nodup) {a b : Text × α} (first : a ∈ t)
    (second : b ∈ t) (same : a.1 = b.1) : a = b := by
  have value : some a.2 = some b.2 := by
    rw [← get?_of_mem distinct (k := a.1) first, ← get?_of_mem distinct (k := b.1) second, same]
  exact Prod.ext same (Option.some.inj value)

/-- However the entries are arranged, in ascending order they are arranged alike. -/
theorem ascending_eq_of_perm {t t' : Table Text α} (distinct : t.keys.Nodup) (same : t.Perm t') :
    t.ascending = t'.ascending := by
  have arranged : t.ascending.Perm t'.ascending :=
    (ascending_perm t).trans (same.trans (ascending_perm t').symm)
  refine List.Perm.eq_of_pairwise (fun a b first second low high => ?_) (pairwise_ascending t)
    (pairwise_ascending t') arranged
  have inside : b ∈ t := ((ascending_perm t').trans same.symm).mem_iff.mp second
  exact eq_of_key_eq distinct ((ascending_perm t).mem_iff.mp first) inside (Text.le_antisymm low high)

theorem ascending_eq_iff {t t' : Table Text α} (distinct : t.keys.Nodup) :
    t.ascending = t'.ascending ↔ t.Perm t' :=
  ⟨fun same => (ascending_perm t).symm.trans (same ▸ ascending_perm t'), ascending_eq_of_perm distinct⟩

theorem get?_eq_of_perm {t t' : Table Text α} (distinct : t.keys.Nodup) (same : t.Perm t') (k : Text) :
    get? k t = get? k t' := by
  refine Option.ext fun v => ⟨fun found => ?_, fun found => ?_⟩
  · exact get?_of_mem (nodup_keys_perm same distinct) (same.mem_iff.mp (mem_of_get? found))
  · exact get?_of_mem distinct (same.mem_iff.mpr (mem_of_get? found))

end Table

end PolicyHost
