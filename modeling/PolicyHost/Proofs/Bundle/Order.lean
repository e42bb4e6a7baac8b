import PolicyHost.Proofs.Bundle.Union

/-!
# Data documents in any order

Whether documents merge is a matter of any two of them, so their order does not count.

* `Agree`, `Clash`: two documents at a key path, and at some key path.
* `mergeAll_ok_iff`: documents merge when any two agree at every key path.
* `mergeAll_ok_of_trees`, `reordered_of_trees`: documents that are the same trees, in another order.
* `merge_order`: documents in another order.
-/

namespace PolicyHost

namespace Bundle

open Json

/-- If two documents both hold a value at a key path, both values are objects. -/
def Agree (path : List Text) (d e : DataDocument) : Prop :=
  ∀ a, d.wrapped.at? path = some a → ∀ b, e.wrapped.at? path = some b →
    a.isObject = true ∧ b.isObject = true

/-- Two documents both hold a value at some key path, and not both values are objects. -/
def Clash (d e : DataDocument) : Prop :=
  ∃ path a b, d.wrapped.at? path = some a ∧ e.wrapped.at? path = some b ∧
    (a.isObject = false ∨ b.isObject = false)

theorem Agree.symm {path : List Text} {d e : DataDocument} (agree : Agree path d e) :
    Agree path e d :=
  fun a first b second => (agree b second a first).symm

theorem clash_iff {d e : DataDocument} : Clash d e ↔ ∃ path, ¬ Agree path d e := by
  constructor
  · rintro ⟨path, a, b, first, second, leaf⟩
    refine ⟨path, fun agree => ?_⟩
    obtain ⟨isObject, isObject'⟩ := agree a first b second
    rcases leaf with leaf | leaf
    · exact absurd isObject (by simp [leaf])
    · exact absurd isObject' (by simp [leaf])
  · rintro ⟨path, differ⟩
    unfold Agree at differ
    push Not at differ
    obtain ⟨a, first, b, second, leaf⟩ := differ
    refine ⟨path, a, b, first, second, ?_⟩
    by_cases isObject : a.isObject = true
    · exact Or.inr (by simpa using leaf isObject)
    · exact Or.inl (by simpa using isObject)

/-- The values that documents hold at a key path join when any two documents agree there. -/
theorem held_join_iff {docs : List DataDocument} (rooted : ∀ d ∈ docs, d.Rooted)
    (path : List Text) :
    (((Json.object []).place path).joinAll? (held docs path)).isSome = true ↔
      docs.Pairwise (Agree path) := by
  cases path with
  | nil =>
    -- The tree is an object at its root, and so is every document that can stand in it.
    have objects : ∀ d ∈ docs, d.wrapped.isObject = true :=
      fun d member => wrap_isObject (rooted d member)
    have agree : docs.Pairwise (Agree []) := by
      refine List.pairwise_of_forall_mem_list fun d first e second => ?_
      intro a atRoot b atRoot'
      rw [at?_nil] at atRoot atRoot'
      cases atRoot
      cases atRoot'
      exact ⟨objects d first, objects e second⟩
    have all : (held docs []).all Json.isObject = true := by
      simpa [held] using objects
    rw [place_nil, Json.Place.of_object, Json.Place.joinAll?_object, all]
    exact ⟨fun _ => agree, fun _ => rfl⟩
  | cons key rest =>
    change (Json.Place.vacant.joinAll? (held docs (key :: rest))).isSome = true ↔ _
    rw [Json.Place.joinAll?_isSome_iff, held, List.pairwise_filterMap]
    exact Iff.rfl

/-- Documents that can stand in a tree merge when any two agree; else there is a conflict of data. -/
theorem mergeAll_ok_iff {docs : List DataDocument} (rooted : ∀ d ∈ docs, d.Rooted) :
    (∃ data, mergeAll docs = .ok data) ↔ ∀ path, docs.Pairwise (Agree path) := by
  have unites := mergeInto_unites rooted []
  constructor
  · rintro ⟨data, merged⟩ path
    unfold mergeAll at merged
    rw [merged] at unites
    rw [← held_join_iff rooted, unites path]
    rfl
  · intro agree
    cases merged : mergeInto [] docs with
    | ok data => exact ⟨data, merged⟩
    | error cause =>
      rw [merged] at unites
      obtain ⟨-, path, apart⟩ := unites
      have joined := (held_join_iff rooted path).mpr (agree path)
      rw [apart] at joined
      cases joined

theorem conflict_iff_not_merged {docs : List DataDocument} (rooted : ∀ d ∈ docs, d.Rooted) :
    (∃ cause, mergeAll docs = .error cause ∧ cause.isDataConflict = true) ↔
      ¬ ∃ data, mergeAll docs = .ok data := by
  have unites := mergeInto_unites rooted []
  unfold mergeAll
  cases merged : mergeInto [] docs with
  | ok data => exact ⟨nofun, fun missing => absurd ⟨data, rfl⟩ missing⟩
  | error cause =>
    rw [merged] at unites
    exact ⟨fun _ => nofun, fun _ => ⟨cause, rfl, unites.1⟩⟩

/-- Any two documents at different positions agree, if each agrees with those after it. -/
theorem pairwise_agree_iff {docs : List DataDocument} {path : List Text} :
    docs.Pairwise (Agree path) ↔
      ∀ (i j : Nat) (d e : DataDocument), i ≠ j → docs[i]? = some d → docs[j]? = some e → Agree path d e := by
  rw [List.pairwise_iff_getElem]
  constructor
  · intro agree i j d e differ first second
    obtain ⟨inside, rfl⟩ := List.getElem?_eq_some_iff.mp first
    obtain ⟨inside', rfl⟩ := List.getElem?_eq_some_iff.mp second
    rcases Nat.lt_or_gt_of_ne differ with before | after
    · exact agree i j inside inside' before
    · exact (agree j i inside' inside after).symm
  · intro agree i j inside inside' before
    exact agree i j _ _ (Nat.ne_of_lt before) (List.getElem?_eq_getElem inside)
      (List.getElem?_eq_getElem inside')

theorem conflict_iff_clash {docs : List DataDocument} (rooted : ∀ d ∈ docs, d.Rooted) :
    (∃ cause, mergeAll docs = .error cause ∧ cause.isDataConflict = true) ↔
      ∃ (i j : Nat) (d e : DataDocument), i ≠ j ∧ docs[i]? = some d ∧ docs[j]? = some e ∧ Clash d e := by
  rw [conflict_iff_not_merged rooted, mergeAll_ok_iff rooted]
  simp only [pairwise_agree_iff, clash_iff]
  push Not
  constructor
  · rintro ⟨path, i, j, d, e, differ, first, second, apart⟩
    exact ⟨i, j, d, e, differ, first, second, path, apart⟩
  · rintro ⟨i, j, d, e, differ, first, second, path, apart⟩
    exact ⟨path, i, j, d, e, differ, first, second, apart⟩

/-! ## Another order -/

theorem rooted_iff_isObject {d : DataDocument} : d.Rooted ↔ d.wrapped.isObject = true := by
  refine ⟨fun rooted => wrap_isObject rooted, fun object root => ?_⟩
  rw [DataDocument.wrapped, root] at object
  exact object

/-- If two trees both hold a value at a key path, both values are objects. -/
def TreesAgree (path : List Text) (first second : Json) : Prop :=
  ∀ a, first.at? path = some a → ∀ b, second.at? path = some b → a.isObject = true ∧ b.isObject = true

theorem TreesAgree.symm {path : List Text} {first second : Json} (agree : TreesAgree path first second) :
    TreesAgree path second first :=
  fun b found a found' => (agree a found' b found).symm

theorem pairwise_agree_iff_trees {docs : List DataDocument} {path : List Text} :
    docs.Pairwise (Agree path) ↔ (docs.map DataDocument.wrapped).Pairwise (TreesAgree path) := by
  rw [List.pairwise_map]
  rfl

theorem held_eq_trees (docs : List DataDocument) (path : List Text) :
    held docs path = (docs.map DataDocument.wrapped).filterMap fun tree => tree.at? path := by
  rw [List.filterMap_map]
  rfl

section Trees

variable {docs others : List DataDocument}
  (perm : (docs.map DataDocument.wrapped).Perm (others.map DataDocument.wrapped))

include perm

/-- Documents that are the same trees in another order merge if they did, whatever their paths are. -/
theorem mergeAll_ok_of_trees (merges : ∃ data, mergeAll docs = .ok data) :
    ∃ data, mergeAll others = .ok data := by
  obtain ⟨data, merged⟩ := merges
  have rooted := (rooted_distinct_of_mergeInto distinct_empty merged).1
  have rooted' : ∀ d ∈ others, d.Rooted := by
    intro d member
    obtain ⟨e, inside, same⟩ := List.mem_map.mp (perm.mem_iff.mpr (List.mem_map_of_mem member))
    rw [rooted_iff_isObject, ← same]
    exact rooted_iff_isObject.mp (rooted e inside)
  have agree := (mergeAll_ok_iff rooted).mp ⟨data, merged⟩
  rw [mergeAll_ok_iff rooted']
  intro path
  rw [pairwise_agree_iff_trees, ← perm.pairwise_iff TreesAgree.symm]
  exact pairwise_agree_iff_trees.mp (agree path)

theorem reordered_of_trees {data data' : Members} (first : mergeAll docs = .ok data)
    (second : mergeAll others = .ok data') : Reordered (.object data) (.object data') := by
  refine reordered_of_place (rooted_distinct_of_mergeInto distinct_empty first).2
    (rooted_distinct_of_mergeInto distinct_empty second).2 fun path => ?_
  cases path with
  | nil => rw [place_nil, place_nil, Json.Place.of_object, Json.Place.of_object]
  | cons key rest =>
    have values : (held docs (key :: rest)).Perm (held others (key :: rest)) := by
      rw [held_eq_trees, held_eq_trees]
      exact perm.filterMap _
    have joined := joinAll?_held first (List.cons_ne_nil key rest)
    rw [Json.Place.joinAll?_perm values, joinAll?_held second (List.cons_ne_nil key rest)] at joined
    exact (Option.some.inj joined).symm

end Trees

/-- Merging documents that can stand in a tree ends in a conflict of data just when two documents at
different positions clash. In another order documents merge if they did, and make up the same data up
to the order of members. -/
theorem merge_order (docs : List DataDocument) :
    ((∀ d ∈ docs, d.Rooted) →
      ((∃ cause, mergeAll docs = .error cause ∧ cause.isDataConflict = true) ↔
        ∃ (i j : Nat) (d e : DataDocument),
          i ≠ j ∧ docs[i]? = some d ∧ docs[j]? = some e ∧ Clash d e)) ∧
    ∀ others, docs.Perm others →
      ((∃ data, mergeAll docs = .ok data) ↔ ∃ data, mergeAll others = .ok data) ∧
      ∀ data data', mergeAll docs = .ok data → mergeAll others = .ok data' →
        Reordered (.object data) (.object data') := by
  refine ⟨conflict_iff_clash, fun others perm => ⟨⟨?_, ?_⟩, ?_⟩⟩
  · exact mergeAll_ok_of_trees (perm.map _)
  · exact mergeAll_ok_of_trees (perm.symm.map _)
  · exact fun data data' => reordered_of_trees (perm.map _)

def single (directories : List Text) (name : Text) (value : Json) (distinct : value.Distinct) :
    DataDocument :=
  ⟨"data.json", directories, .object [(name, value)], by simp [distinct_object_iff, Table.keys, distinct]⟩

theorem single_merge_order :
    (∃ cause, mergeAll [single ["a"] "b" .null trivial, single [] "a" (.int 1) trivial] =
      .error cause ∧ cause.isDataConflict = true) ∧
    Reordered (.object [("a", .object [("b", .null)]), ("c", .int 1)])
      (.object [("c", .int 1), ("a", .object [("b", .null)])]) := by
  constructor
  · refine (merge_order _).1 ?_ |>.mpr ⟨0, 1, _, _, by decide, rfl, rfl, ?_⟩
    · simp [single, DataDocument.Rooted, Rooted, isObject]
    · exact ⟨["a"], _, _, rfl, rfl, Or.inr rfl⟩
  · exact ((merge_order [single ["a"] "b" .null trivial, single [] "c" (.int 1) trivial]).2
      [single [] "c" (.int 1) trivial, single ["a"] "b" .null trivial] (.swap _ _ _)).2
      _ _ rfl rfl

end Bundle

end PolicyHost
