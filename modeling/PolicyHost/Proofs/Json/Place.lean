import Mathlib.Data.List.Nodup
import PolicyHost.Proofs.Json.Distinct

/-!
# Places in a value

A key path leads through objects to a place, which is vacant, holds an object, or holds a leaf: any
value that is no object. Two places join when one is vacant or both hold objects.

* `at?`: the value at a key path.
* `Place`, `Place.join?`, `Place.joinAll?`: places and how they join.
* `Reordered`: equality up to the order of members; `reordered_of_place` finds it place by place.
-/

namespace PolicyHost

namespace Json

/-- The value at a key path. -/
def at? : Json → List Text → Option Json
  | value, [] => some value
  | .object members, name :: rest => (Table.get? name members).bind fun inner => inner.at? rest
  | _, _ :: _ => none

@[simp] theorem at?_nil (value : Json) : value.at? [] = some value := by
  cases value <;> rfl

def isObject : Json → Bool
  | .object _ => true
  | _ => false

theorem isObject_iff {value : Json} : value.isObject = true ↔ ∃ members, value = .object members := by
  cases value <;> simp [isObject]

/-! ## Places -/

/-- What is at the end of a key path: nothing, an object, or a value that is no object. -/
inductive Place
  | vacant
  | object
  | leaf (value : Json)

/-- The place that a value, if there is one, makes. -/
def Place.of : Option Json → Place
  | none => .vacant
  | some (.object _) => .object
  | some value => .leaf value

def place (value : Json) (path : List Text) : Place := .of (value.at? path)

namespace Place

@[simp] theorem of_none : of none = vacant := rfl

@[simp] theorem of_object (members : Members) : of (some (.object members)) = object := rfl

theorem of_leaf {value : Json} (leaf : value.isObject = false) : of (some value) = .leaf value := by
  cases value with
  | object members => cases leaf
  | _ => rfl

theorem of_eq_object_iff {value : Option Json} :
    of value = object ↔ ∃ members, value = some (.object members) := by
  rcases value with _ | value
  · simp
  · cases value <;> simp [of]

theorem of_eq_leaf_iff {value : Option Json} {x : Json} (leaf : x.isObject = false) :
    of value = .leaf x ↔ value = some x := by
  rcases value with _ | value
  · simp
  · cases value with
    | object members =>
      simp only [of_object, reduceCtorEq, Option.some.injEq, false_iff]
      rintro rfl
      cases leaf
    | _ => simp [of]

/-- Two places as one, if nothing is lost. -/
def join? : Place → Place → Option Place
  | .vacant, q => some q
  | p, .vacant => some p
  | .object, .object => some .object
  | _, _ => none

@[simp] theorem join?_vacant_left (p : Place) : vacant.join? p = some p := by
  cases p <;> rfl

@[simp] theorem join?_vacant_right (p : Place) : p.join? vacant = some p := by
  cases p <;> rfl

theorem join?_assoc (p q r : Place) :
    ((p.join? q).bind fun joined => joined.join? r) = (q.join? r).bind fun joined => p.join? joined := by
  cases p <;> cases q <;> cases r <;> rfl

theorem join?_comm (p q : Place) : p.join? q = q.join? p := by
  cases p <;> cases q <;> rfl

/-- A place and values, as one. -/
def joinAll? (p : Place) (values : List Json) : Option Place :=
  values.foldlM (fun joined value => joined.join? (of (some value))) p

theorem joinAll?_cons (p : Place) (value : Json) (rest : List Json) :
    p.joinAll? (value :: rest) = (p.join? (of (some value))).bind fun joined => joined.joinAll? rest :=
  rfl

/-- Values join in any order. -/
theorem joinAll?_perm {values others : List Json} (perm : values.Perm others) (p : Place) :
    p.joinAll? values = p.joinAll? others := by
  induction perm generalizing p with
  | nil => rfl
  | cons value _ ih =>
    rw [joinAll?_cons, joinAll?_cons]
    exact congrArg (Option.bind _) (funext ih)
  | swap first second rest =>
    have swapped : ((p.join? (of (some second))).bind fun joined => joined.join? (of (some first))) =
        (p.join? (of (some first))).bind fun joined => joined.join? (of (some second)) := by
      rw [join?_assoc, join?_comm, ← join?_assoc]
    simp only [joinAll?_cons, ← Option.bind_assoc]
    rw [swapped]
  | trans _ _ first second => exact (first p).trans (second p)

theorem joinAll?_object (values : List Json) :
    object.joinAll? values = if values.all isObject then some object else none := by
  induction values with
  | nil => rfl
  | cons value rest ih => cases value <;> simp [joinAll?_cons, of, join?, isObject, ih]

theorem joinAll?_leaf (x : Json) (values : List Json) :
    (leaf x).joinAll? values = if values.isEmpty then some (leaf x) else none := by
  cases values with
  | nil => rfl
  | cons value rest => cases value <;> rfl

/-- Values join when all of them are objects or there is only one. -/
theorem joinAll?_isSome_iff (values : List Json) :
    (vacant.joinAll? values).isSome ↔
      values.Pairwise fun a b => a.isObject = true ∧ b.isObject = true := by
  cases values with
  | nil => simp [joinAll?]
  | cons value rest =>
    rw [joinAll?_cons, join?_vacant_left, Option.bind_some, List.pairwise_cons]
    -- The first value decides: an object takes in objects only, any other value nothing.
    by_cases object : value.isObject = true
    · obtain ⟨members, rfl⟩ := isObject_iff.mp object
      rw [of_object, joinAll?_object]
      constructor
      · intro joined
        have all : ∀ b ∈ rest, b.isObject = true := by simpa using joined
        exact ⟨fun b member => ⟨object, all b member⟩,
          List.pairwise_of_forall_mem_list fun a first b second => ⟨all a first, all b second⟩⟩
      · intro pairs
        have all : ∀ b ∈ rest, b.isObject = true := fun b member => (pairs.1 b member).2
        simpa using all
    · rw [of_leaf (by simpa using object), joinAll?_leaf]
      cases rest with
      | nil => simp
      | cons next others =>
        have lone : ¬ ∀ b ∈ next :: others, value.isObject = true ∧ b.isObject = true :=
          fun pairs => object (pairs next List.mem_cons_self).1
        exact ⟨fun joined => by simp at joined, fun pairs => absurd pairs.1 lone⟩

/-- What values come to that join: nothing, an object whose place all of them are at, or the one leaf
that they are. -/
theorem joinAll?_cases {values : List Json} {p : Place} (joined : vacant.joinAll? values = some p) :
    (values = [] ∧ p = vacant) ∨
      (p = object ∧ ∃ members rest, values = .object members :: rest ∧ rest.all isObject = true) ∨
      ∃ x, x.isObject = false ∧ values = [x] ∧ p = leaf x := by
  cases values with
  | nil =>
    cases joined
    exact .inl ⟨rfl, rfl⟩
  | cons value rest =>
    rw [joinAll?_cons, join?_vacant_left, Option.bind_some] at joined
    by_cases isObj : value.isObject = true
    · obtain ⟨members, rfl⟩ := isObject_iff.mp isObj
      rw [of_object, joinAll?_object] at joined
      split at joined
      · next all =>
        cases joined
        exact .inr (.inl ⟨rfl, members, rest, rfl, all⟩)
      · cases joined
    · have other : value.isObject = false := by simpa using isObj
      rw [of_leaf other, joinAll?_leaf] at joined
      split at joined
      · next empty =>
        cases joined
        exact .inr (.inr ⟨value, other, congrArg _ (List.isEmpty_iff.mp empty), rfl⟩)
      · cases joined

/-- Values that join to an object hold one among them. -/
theorem joinAll?_eq_object {values : List Json} {p : Place}
    (joined : vacant.joinAll? values = some p) :
    p = object ↔ ∃ members, Json.object members ∈ values := by
  rcases joinAll?_cases joined with ⟨rfl, rfl⟩ | ⟨rfl, members, rest, rfl, -⟩ | ⟨x, other, rfl, rfl⟩
  · simp
  · exact ⟨fun _ => ⟨members, List.mem_cons_self⟩, fun _ => rfl⟩
  · simp only [reduceCtorEq, List.mem_singleton, false_iff, not_exists]
    rintro members rfl
    cases other

/-- Values that join to a leaf are that leaf alone. -/
theorem joinAll?_eq_leaf {values : List Json} {p : Place}
    (joined : vacant.joinAll? values = some p) {x : Json} (isLeaf : x.isObject = false) :
    p = leaf x ↔ values = [x] := by
  rcases joinAll?_cases joined with ⟨rfl, rfl⟩ | ⟨rfl, members, rest, rfl, -⟩ | ⟨y, -, rfl, rfl⟩
  · simp
  · simp only [reduceCtorEq, List.cons.injEq, false_iff, not_and]
    rintro rfl
    cases isLeaf
  · simp

end Place

theorem place_nil (value : Json) : value.place [] = .of (some value) := by
  rw [place, at?_nil]

theorem place_object_cons (members : Members) (name : Text) (rest : List Text) :
    (Json.object members).place (name :: rest) =
      .of ((Table.get? name members).bind fun inner => inner.at? rest) := rfl

/-! ## Order of members -/

/-- Equality up to the order of members: two objects hold values that are equal in this way under the
same names, and all other values are the same. -/
inductive Reordered : Json → Json → Prop
  | same (value : Json) : Reordered value value
  | object {first second : Members} :
      (Table.keys first).Perm (Table.keys second) →
      (∀ name a b, Table.get? name first = some a → Table.get? name second = some b →
        Reordered a b) →
      Reordered (.object first) (.object second)

theorem sizeOf_lt_of_get? {members : Members} {name : Text} {value : Json}
    (found : Table.get? name members = some value) : sizeOf value < sizeOf (Json.object members) := by
  have entry := List.sizeOf_lt_of_mem (Table.mem_of_get? found)
  simp only [Prod.mk.sizeOf_spec, Json.object.sizeOf_spec] at entry ⊢
  omega

theorem Distinct.of_get? {members : Members} (distinct : (Json.object members).Distinct) {name : Text}
    {value : Json} (found : Table.get? name members = some value) : value.Distinct :=
  (distinct_object_iff.mp distinct).2 _ (Table.mem_of_get? found)

/-- A name is one of an object when the place under it is not vacant. -/
theorem mem_keys_iff_place {members : Members} {name : Text} :
    name ∈ Table.keys members ↔ (Json.object members).place [name] ≠ .vacant := by
  rw [Table.mem_keys_iff, place_object_cons]
  cases Table.get? name members with
  | none => simp
  | some value => cases value <;> simp [Place.of]

/-- Distinct values with the same places are equal up to the order of members. -/
theorem reordered_of_place {a b : Json} (first : a.Distinct) (second : b.Distinct)
    (same : ∀ path, a.place path = b.place path) : Reordered a b := by
  have root := same []
  rw [place_nil, place_nil] at root
  by_cases isObj : a.isObject = true
  · obtain ⟨members, rfl⟩ := isObject_iff.mp isObj
    rw [Place.of_object] at root
    obtain ⟨others, found⟩ := Place.of_eq_object_iff.mp root.symm
    cases found
    refine .object ?_ ?_
    · rw [List.perm_ext_iff_of_nodup (distinct_object_iff.mp first).1 (distinct_object_iff.mp second).1]
      intro name
      rw [mem_keys_iff_place, mem_keys_iff_place, same]
    · intro name c d inFirst inSecond
      have smaller := sizeOf_lt_of_get? inFirst
      refine reordered_of_place (first.of_get? inFirst) (second.of_get? inSecond) fun path => ?_
      have inner := same (name :: path)
      rw [place_object_cons, place_object_cons, inFirst, inSecond] at inner
      exact inner
  · have isLeaf : a.isObject = false := by simpa using isObj
    rw [Place.of_leaf isLeaf] at root
    have found := (Place.of_eq_leaf_iff isLeaf).mp root.symm
    cases found
    exact .same _
termination_by sizeOf a

end Json

end PolicyHost
