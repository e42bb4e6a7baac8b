import PolicyHost.Bundle.Basic
import PolicyHost.Proofs.Json.Place
import PolicyHost.Proofs.Outcome

/-!
# Merging place by place

What merging does to a tree is said place by place: it joins the places of the tree with those of the
document, and it fails just where two places do not join.

* `Unites`: what a merge comes to, whether it succeeds or fails.
* `mergeValue_unites`, `mergeMembers_unites`, `mergeAt_unites`: every merge comes to that.
* `mergeAt_distinct`: what is merged keeps names that come once.
-/

namespace PolicyHost

open Json

def PolicyError.isDataConflict : PolicyError → Bool
  | .dataConflict _ | .keyConflict .. => true
  | _ => false

namespace Bundle

/-- The place at the end of a key path in a value that may be missing. -/
def placeIn (current : Option Json) (path : List Text) : Json.Place :=
  .of (current.bind fun value => value.at? path)

@[simp] theorem placeIn_none (path : List Text) : placeIn none path = .vacant := rfl

@[simp] theorem placeIn_some (value : Json) (path : List Text) :
    placeIn (some value) path = value.place path := rfl

/-- What merging a value into what is there already comes to. Each place is what the two places join
to; or there is a conflict of data, and two places that do not join. -/
def Unites (current : Option Json) (value : Json) : Except PolicyError Json → Prop
  | .ok merged =>
    ∀ path, (placeIn current path).join? (value.place path) = some (merged.place path)
  | .error cause =>
    cause.isDataConflict = true ∧ ∃ path, (placeIn current path).join? (value.place path) = none

theorem Unites.none (value : Json) : Unites none value (.ok value) := by
  intro path
  simp

/-- An object without members adds nothing to an object. -/
theorem Unites.empty (base : Members) :
    Unites (some (.object base)) (.object []) (.ok (.object base)) := by
  intro path
  cases path with
  | nil => rfl
  | cons key rest =>
    rw [place_object_cons []]
    exact Json.Place.join?_vacant_right _

/-- Two values of which one is no object do not join at their roots. -/
theorem Unites.conflict {current value : Json} {cause : PolicyError}
    (kind : cause.isDataConflict = true)
    (leaf : current.isObject = false ∨ value.isObject = false) :
    Unites (some current) value (.error cause) := by
  refine ⟨kind, [], ?_⟩
  rw [placeIn_some, place_nil, place_nil]
  rcases leaf with leaf | leaf
  · rw [Json.Place.of_leaf leaf]
    cases value <;> rfl
  · rw [Json.Place.of_leaf leaf]
    cases current <;> rfl

theorem place_single (name : Text) (value : Json) (key : Text) (rest : List Text) :
    (Json.object [(name, value)]).place (key :: rest) =
      if name = key then value.place rest else .vacant := by
  rw [place_object_cons]
  by_cases same : name = key
  · simp [Table.get?, same, place]
  · simp [Table.get?, same]

/-- A value that is merged under a name is an object with that name alone merged into the whole. -/
theorem Unites.put {tree : Members} {name : Text} {value : Json} {outcome : Except PolicyError Json}
    (unites : Unites (Table.get? name tree) value outcome) :
    Unites (some (.object tree)) (.object [(name, value)])
      (outcome.map fun merged => .object (tree.put name merged)) := by
  cases outcome with
  | error cause =>
    obtain ⟨kind, path, apart⟩ := unites
    refine ⟨kind, name :: path, ?_⟩
    rw [place_single, if_pos rfl]
    exact apart
  | ok merged =>
    intro path
    cases path with
    | nil => rfl
    | cons key rest =>
      rw [place_single, placeIn_some, place_object_cons, place_object_cons]
      by_cases same : name = key
      · subst same
        rw [if_pos rfl, Table.get?_put_self]
        exact unites rest
      · rw [if_neg same, Table.get?_put_of_ne (Ne.symm same), Json.Place.join?_vacant_right]

/-- The places of a value are those of two others, joined. -/
def Splits (whole first second : Json) : Prop :=
  ∀ path, (first.place path).join? (second.place path) = some (whole.place path)

/-- A value can be merged in two parts. -/
theorem Unites.trans {current whole first second middle : Json}
    {outcome : Except PolicyError Json} (splits : Splits whole first second)
    (before : Unites (some current) first (.ok middle))
    (after : Unites (some middle) second outcome) : Unites (some current) whole outcome := by
  have join : ∀ path, (middle.place path).join? (second.place path) =
      (current.place path).join? (whole.place path) := by
    intro path
    have assoc := Json.Place.join?_assoc (current.place path) (first.place path) (second.place path)
    have joined := before path
    rw [placeIn_some] at joined
    rw [joined, splits path] at assoc
    exact assoc
  cases outcome with
  | error cause =>
    obtain ⟨kind, path, apart⟩ := after
    exact ⟨kind, path, (join path).symm.trans apart⟩
  | ok merged => exact fun path => (join path).symm.trans (after path)

/-- A conflict with a part is a conflict with the whole. -/
theorem Unites.of_part {current whole first second : Json} {cause : PolicyError}
    (splits : Splits whole first second) (part : Unites (some current) first (.error cause)) :
    Unites (some current) whole (.error cause) := by
  obtain ⟨kind, path, apart⟩ := part
  refine ⟨kind, path, ?_⟩
  have assoc := Json.Place.join?_assoc (current.place path) (first.place path) (second.place path)
  rw [placeIn_some] at apart
  rw [apart, splits path] at assoc
  exact assoc.symm

/-- An object is its first member and the others, if the name comes once. -/
theorem splits_cons {name : Text} (value : Json) {rest : Members}
    (once : name ∉ Table.keys rest) :
    Splits (.object ((name, value) :: rest)) (.object [(name, value)]) (.object rest) := by
  intro path
  cases path with
  | nil => rfl
  | cons key more =>
    rw [place_single, place_object_cons, place_object_cons]
    by_cases same : name = key
    · subst same
      have absent : Table.get? name rest = Option.none := by
        rw [Table.mem_keys_iff] at once
        cases found : Table.get? name rest with
        | none => rfl
        | some other => exact absurd ⟨other, found⟩ once
      simp [Table.get?, absent, place]
    · simp [Table.get?, same]

/-! ## The merges -/

theorem mergeMembers_cons (path : Text) (base : Members) (name : Text) (value : Json)
    (rest : Members) :
    mergeMembers path base ((name, value) :: rest) =
      (mergeValue path name (Table.get? name base) value).bind fun merged =>
        mergeMembers path (base.put name merged) rest := by
  rw [mergeMembers]
  rfl

theorem mergeValue_objects (path name : Text) (base members : Members) :
    mergeValue path name (some (.object base)) (.object members) =
      (mergeMembers path base members).map Json.object := by
  rw [mergeValue]
  cases mergeMembers path base members <;> rfl

theorem mergeValue_apart (path name : Text) {current value : Json}
    (leaf : current.isObject = false ∨ value.isObject = false) :
    mergeValue path name (some current) value = .error (.keyConflict name path) := by
  rcases leaf with leaf | leaf
  · cases current with
    | object members => cases leaf
    | _ => cases value <;> rw [mergeValue] <;> simp
  · cases value with
    | object members => cases leaf
    | _ => cases current <;> rw [mergeValue] <;> simp

mutual

theorem mergeValue_unites (path name : Text) (current : Option Json) (value : Json)
    (distinct : value.Distinct) : Unites current value (mergeValue path name current value) := by
  cases current with
  | none =>
    rw [mergeValue]
    exact .none value
  | some current =>
    -- Nothing but two objects can be merged, and then the members are.
    by_cases leaf : current.isObject = false ∨ value.isObject = false
    · rw [mergeValue_apart path name leaf]
      exact .conflict rfl leaf
    · simp only [not_or, Bool.not_eq_false] at leaf
      obtain ⟨base, rfl⟩ := isObject_iff.mp leaf.1
      match value, leaf.2, distinct with
      | .object members, _, distinct =>
        rw [mergeValue_objects]
        rw [distinct_object_iff] at distinct
        exact mergeMembers_unites path base members distinct.1 distinct.2
termination_by sizeOf value

theorem mergeMembers_unites (path : Text) (base members : Members)
    (names : (Table.keys members).Nodup) (values : ∀ entry ∈ members, entry.2.Distinct) :
    Unites (some (.object base)) (.object members) ((mergeMembers path base members).map Json.object) := by
  match members, names, values with
  | [], _, _ =>
    rw [mergeMembers]
    exact .empty base
  | (name, value) :: rest, names, values =>
    obtain ⟨once, names⟩ := List.nodup_cons.mp names
    obtain ⟨first, values⟩ := List.forall_mem_cons.mp values
    -- The first member goes in as an object of its own, the others into what comes of it.
    have splits := splits_cons value once
    have head := (mergeValue_unites path name (Table.get? name base) value first).put
    rw [mergeMembers_cons]
    cases merged : mergeValue path name (Table.get? name base) value with
    | error cause =>
      rw [merged] at head
      exact .of_part splits head
    | ok middle =>
      rw [merged] at head
      exact .trans splits head (mergeMembers_unites path (base.put name middle) rest names values)
termination_by sizeOf members

end

theorem mergeLeaf_objects (path : Text) (base members : Members) :
    mergeLeaf path (some (.object base)) (.object members) =
      (mergeMembers path base members).map Json.object := by
  change (mergeMembers path base members >>= fun merged => pure (Json.object merged)) = _
  cases mergeMembers path base members <;> rfl

theorem mergeLeaf_apart (path : Text) {current document : Json}
    (leaf : current.isObject = false ∨ document.isObject = false) :
    mergeLeaf path (some current) document = .error (.dataConflict path) := by
  unfold mergeLeaf
  split
  · next missing => cases missing
  · next base members found =>
    cases found
    rcases leaf with leaf | leaf <;> cases leaf
  · rfl

/-- A document is merged at its place as a member is, with another wording of conflicts. -/
theorem mergeLeaf_unites (path : Text) (current : Option Json) (document : Json)
    (distinct : document.Distinct) :
    Unites current document (mergeLeaf path current document) := by
  cases current with
  | none => exact .none document
  | some current =>
    by_cases leaf : current.isObject = false ∨ document.isObject = false
    · rw [mergeLeaf_apart path leaf]
      exact .conflict rfl leaf
    · simp only [not_or, Bool.not_eq_false] at leaf
      obtain ⟨base, rfl⟩ := isObject_iff.mp leaf.1
      obtain ⟨members, rfl⟩ := isObject_iff.mp leaf.2
      rw [mergeLeaf_objects]
      rw [distinct_object_iff] at distinct
      exact mergeMembers_unites path base members distinct.1 distinct.2

/-- A document under the names of its directories. -/
def wrap : List Text → Json → Json
  | [], document => document
  | name :: rest, document => .object [(name, wrap rest document)]

/-- A document that can stand in a tree: it is an object, or it stands in a directory. -/
def Rooted (directories : List Text) (document : Json) : Prop :=
  directories = [] → document.isObject = true

theorem wrap_isObject {directories : List Text} {document : Json}
    (rooted : Rooted directories document) : (wrap directories document).isObject = true := by
  cases directories with
  | nil => exact rooted rfl
  | cons name rest => rfl

theorem mergeAt_single (path : Text) (tree : Members) (name : Text) (document : Json) :
    mergeAt path tree [name] document =
      (mergeLeaf path (Table.get? name tree) document).map fun merged => tree.put name merged := by
  rw [mergeAt]
  cases mergeLeaf path (Table.get? name tree) document <;> rfl

/-- A name in a tree is free or a directory, or taken by a value that is no object. -/
theorem directory_cases (tree : Members) (name : Text) :
    (∃ members, (Table.get? name tree).getD (.object []) = .object members) ∨
      ∃ value, Table.get? name tree = some value ∧ value.isObject = false := by
  cases current : Table.get? name tree with
  | none => exact Or.inl ⟨[], rfl⟩
  | some value =>
    cases value with
    | object members => exact Or.inl ⟨members, rfl⟩
    | _ => exact Or.inr ⟨_, rfl, rfl⟩

/-- A directory that is missing counts as an empty one. -/
theorem mergeAt_nested (path : Text) {tree members : Members} {name : Text}
    (found : (Table.get? name tree).getD (.object []) = .object members) (next : Text)
    (rest : List Text) (document : Json) :
    mergeAt path tree (name :: next :: rest) document =
      (mergeAt path members (next :: rest) document).map fun inner =>
        tree.put name (.object inner) := by
  rw [mergeAt]
  · cases current : Table.get? name tree with
    | none =>
      rw [current] at found
      cases found
      dsimp only
      change (mergeAt path [] (next :: rest) document >>= _) = _
      cases mergeAt path [] (next :: rest) document <;> rfl
    | some value =>
      rw [current] at found
      cases found
      dsimp only
      change (mergeAt path members (next :: rest) document >>= _) = _
      cases mergeAt path members (next :: rest) document <;> rfl
  · simp

theorem mergeAt_apart (path : Text) {tree : Members} {name : Text} {value : Json}
    (found : Table.get? name tree = some value) (leaf : value.isObject = false) (next : Text)
    (rest : List Text) (document : Json) :
    mergeAt path tree (name :: next :: rest) document = .error (.dataConflict path) := by
  rw [mergeAt]
  · rw [found]
    cases value with
    | object members => cases leaf
    | _ => rfl
  · simp

/-- An object that merges into an empty one is itself where there is nothing. -/
theorem Unites.of_default {current : Option Json} {value : Json} {outcome : Except PolicyError Json}
    (isObject : value.isObject = true)
    (unites : Unites (some (current.getD (.object []))) value outcome) :
    Unites current value outcome := by
  cases current with
  | some current => exact unites
  | none =>
    have start : ∀ path, (Json.object []).place path = .vacant ∨ value.place path = .object ∧
        (Json.object []).place path = .object := by
      intro path
      cases path with
      | nil =>
        obtain ⟨members, rfl⟩ := isObject_iff.mp isObject
        exact Or.inr ⟨place_nil _, place_nil _⟩
      | cons key rest => exact Or.inl rfl
    have same : ∀ path, (placeIn Option.none path).join? (value.place path) =
        ((Json.object []).place path).join? (value.place path) := by
      intro path
      rcases start path with empty | ⟨object, root⟩
      · rw [empty, placeIn_none]
      · rw [object, root]
        rfl
    cases outcome with
    | error cause =>
      obtain ⟨kind, path, apart⟩ := unites
      exact ⟨kind, path, (same path).trans apart⟩
    | ok merged => exact fun path => (same path).trans (unites path)

/-- A document is merged into a tree as an object under the names of its directories. -/
theorem mergeAt_unites (path : Text) {directories : List Text} {document : Json}
    (rooted : Rooted directories document) (distinct : document.Distinct) (tree : Members) :
    Unites (some (.object tree)) (wrap directories document)
      ((mergeAt path tree directories document).map Json.object) := by
  induction directories generalizing tree with
  | nil =>
    obtain ⟨members, rfl⟩ := isObject_iff.mp (rooted rfl)
    rw [distinct_object_iff] at distinct
    exact mergeMembers_unites path tree members distinct.1 distinct.2
  | cons name rest ih =>
    cases rest with
    | nil =>
      have leaf := (mergeLeaf_unites path (Table.get? name tree) document distinct).put
      rw [mergeAt_single, Outcome.map_map]
      exact leaf
    | cons next rest =>
      have inside : Rooted (next :: rest) document := nofun
      have isObject := wrap_isObject inside
      rcases directory_cases tree name with ⟨members, found⟩ | ⟨value, current, leaf⟩
      -- The induction is on the directories: the next one is merged into what the first one holds.
      · have inner := ih inside members
        rw [← found] at inner
        have outer := (inner.of_default isObject).put
        rw [Outcome.map_map] at outer
        rw [mergeAt_nested path found, Outcome.map_map]
        exact outer
      · rw [mergeAt_apart path current leaf]
        have apart : Unites (some value) (wrap (next :: rest) document)
            (.error (.dataConflict path)) := .conflict rfl (Or.inl leaf)
        rw [← current] at apart
        exact apart.put

/-- What merges at a root is an object. -/
theorem rooted_of_mergeAt {path : Text} {tree data : Members} {directories : List Text}
    {document : Json} (merged : mergeAt path tree directories document = .ok data) :
    Rooted directories document := by
  rintro rfl
  cases document with
  | object members => rfl
  | _ => cases merged

/-! ## Names that come once -/

mutual

theorem mergeValue_distinct (path name : Text) (current : Option Json) (value : Json)
    {merged : Json} (old : ∀ held ∈ current, held.Distinct) (new : value.Distinct)
    (done : mergeValue path name current value = .ok merged) : merged.Distinct := by
  cases current with
  | none =>
    rw [mergeValue] at done
    cases done
    exact new
  | some current =>
    by_cases leaf : current.isObject = false ∨ value.isObject = false
    · rw [mergeValue_apart path name leaf] at done
      cases done
    · simp only [not_or, Bool.not_eq_false] at leaf
      obtain ⟨base, rfl⟩ := isObject_iff.mp leaf.1
      obtain ⟨members, shape⟩ := isObject_iff.mp leaf.2
      have smaller : sizeOf members < sizeOf value := by simp [shape]
      rw [shape, mergeValue_objects] at done
      rw [shape, distinct_object_iff] at new
      obtain ⟨result, inner, rfl⟩ := Outcome.map_eq_ok_iff.mp done
      exact mergeMembers_distinct path base members (old _ rfl) new.2 inner
termination_by sizeOf value

theorem mergeMembers_distinct (path : Text) (base members : Members) {merged : Members}
    (old : (Json.object base).Distinct) (new : ∀ entry ∈ members, entry.2.Distinct)
    (done : mergeMembers path base members = .ok merged) : (Json.object merged).Distinct := by
  match members, new, done with
  | [], _, done =>
    rw [mergeMembers] at done
    cases done
    exact old
  | (name, value) :: rest, new, done =>
    obtain ⟨first, others⟩ := List.forall_mem_cons.mp new
    rw [mergeMembers] at done
    obtain ⟨middle, inner, later⟩ := Outcome.bind_eq_ok_iff.mp done
    have held := mergeValue_distinct path name _ value (fun _ found => old.of_get? found) first inner
    exact mergeMembers_distinct path (base.put name middle) rest (distinct_put old held name) others
      later
termination_by sizeOf members

end

theorem mergeLeaf_distinct {path : Text} {current : Option Json} {document merged : Json}
    (old : ∀ held ∈ current, held.Distinct) (new : document.Distinct)
    (done : mergeLeaf path current document = .ok merged) : merged.Distinct := by
  cases current with
  | none =>
    cases done
    exact new
  | some current =>
    by_cases leaf : current.isObject = false ∨ document.isObject = false
    · rw [mergeLeaf_apart path leaf] at done
      cases done
    · simp only [not_or, Bool.not_eq_false] at leaf
      obtain ⟨base, rfl⟩ := isObject_iff.mp leaf.1
      obtain ⟨members, rfl⟩ := isObject_iff.mp leaf.2
      -- The name only words a conflict, and there was none.
      rw [mergeLeaf_objects, ← mergeValue_objects path []] at done
      exact mergeValue_distinct path [] _ _ old new done

/-- A tree whose names come once keeps them so. -/
theorem mergeAt_distinct {path : Text} {directories : List Text} {document : Json}
    (new : document.Distinct) {tree data : Members} (old : (Json.object tree).Distinct)
    (done : mergeAt path tree directories document = .ok data) : (Json.object data).Distinct := by
  induction directories generalizing tree data with
  | nil =>
    obtain ⟨members, rfl⟩ := isObject_iff.mp (rooted_of_mergeAt done rfl)
    exact mergeMembers_distinct path tree members old (distinct_object_iff.mp new).2 done
  | cons name rest ih =>
    cases rest with
    | nil =>
      rw [mergeAt_single] at done
      obtain ⟨value, merged, rfl⟩ := Outcome.map_eq_ok_iff.mp done
      exact distinct_put old (mergeLeaf_distinct (fun _ found => old.of_get? found) new merged) name
    | cons next rest =>
      rcases directory_cases tree name with ⟨members, found⟩ | ⟨value, current, leaf⟩
      · have held : ((Table.get? name tree).getD (.object [])).Distinct := by
          cases current : Table.get? name tree with
          | none => exact distinct_empty
          | some value => exact old.of_get? current
        rw [found] at held
        rw [mergeAt_nested path found] at done
        obtain ⟨inner, merged, rfl⟩ := Outcome.map_eq_ok_iff.mp done
        exact distinct_put old (ih held merged) name
      · rw [mergeAt_apart path current leaf] at done
        cases done

end Bundle

end PolicyHost
