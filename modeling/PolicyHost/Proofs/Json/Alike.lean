import PolicyHost.Proofs.Json.Distinct
import PolicyHost.Proofs.Text.Order

/-!
# Values up to the order of members

Two values are alike if they differ in nothing but the order in which the objects in them, however deep,
have their members. With distinct names every value has one arrangement with all members in ascending order
of their names, and values are alike just when these are the same.

* `Alike`: the relation; truth values, integers and floating-point numbers are kept apart.
* `inOrder`: the arrangement.
* `alike_iff`: the one by the other; `alike_inOrder`: the arrangement is alike.
-/

namespace PolicyHost.Json

/-- Values by their parts. -/
@[elab_as_elim]
theorem induction_parts {motive : Json → Prop} (null : motive .null) (bool : ∀ b, motive (.bool b))
    (int : ∀ n, motive (.int n)) (float : ∀ x, motive (.float x)) (string : ∀ t, motive (.string t))
    (array : ∀ items, (∀ item ∈ items, motive item) → motive (.array items))
    (object : ∀ members : Members, (∀ member ∈ members, motive member.2) → motive (.object members))
    (value : Json) : motive value := by
  cases value with
  | null => exact null
  | bool b => exact bool b
  | int n => exact int n
  | float x => exact float x
  | string t => exact string t
  | array items =>
    refine array items fun item member => ?_
    have smaller := List.sizeOf_lt_of_mem member
    exact induction_parts null bool int float string array object item
  | object members =>
    refine object members fun member inside => ?_
    have smaller := List.sizeOf_lt_of_mem inside
    exact induction_parts null bool int float string array object member.2
termination_by sizeOf value
decreasing_by
  · simp only [Json.array.sizeOf_spec]
    omega
  · obtain ⟨name, value⟩ := member
    simp only [Json.object.sizeOf_spec, Prod.mk.sizeOf_spec] at smaller ⊢
    omega

mutual

/-- Equality up to the order of members. -/
def Alike : Json → Json → Prop
  | .null, .null => True
  | .bool a, .bool b => a = b
  | .int a, .int b => a = b
  | .float a, .float b => a = b
  | .string a, .string b => a = b
  | .array a, .array b => ItemsAlike a b
  | .object a, .object b => (Table.keys a).Perm (Table.keys b) ∧ MembersAlike a b
  | _, _ => False

/-- Lists of items that are alike, one by one. -/
def ItemsAlike : List Json → List Json → Prop
  | [], [] => True
  | a :: as, b :: bs => Alike a b ∧ ItemsAlike as bs
  | _, _ => False

/-- Each of the first members is alike to the one of the same name. -/
def MembersAlike : List (Text × Json) → List (Text × Json) → Prop
  | [], _ => True
  | (name, a) :: rest, others => (∃ b, Table.get? name others = some b ∧ Alike a b) ∧ MembersAlike rest others

end

mutual

/-- A value with all members in ascending order of their names. -/
def inOrder : Json → Json
  | .array items => .array (itemsInOrder items)
  | .object members => .object (Table.ascending (membersInOrder members))
  | value => value

/-- Items, each in order. -/
def itemsInOrder : List Json → List Json
  | [] => []
  | item :: rest => inOrder item :: itemsInOrder rest

def membersInOrder : List (Text × Json) → List (Text × Json)
  | [] => []
  | (name, value) :: rest => (name, inOrder value) :: membersInOrder rest

end

theorem itemsInOrder_eq (items : List Json) : itemsInOrder items = items.map inOrder := by
  induction items with
  | nil => rfl
  | cons item rest ih => rw [itemsInOrder, ih, List.map_cons]

theorem membersInOrder_eq (members : Members) :
    membersInOrder members = members.map fun member => (member.1, inOrder member.2) := by
  induction members with
  | nil => rfl
  | cons member rest ih => rw [membersInOrder, ih, List.map_cons]

/-- The members of an object may as well be arranged first. -/
theorem membersInOrder_ascending (members : Members) :
    membersInOrder members.ascending = Table.ascending (membersInOrder members) := by
  rw [membersInOrder_eq, membersInOrder_eq, Table.ascending_map]

theorem keys_membersInOrder (members : Members) :
    Table.keys (membersInOrder members) = Table.keys members := by
  rw [membersInOrder_eq, Table.keys, List.map_map]
  rfl

theorem mem_membersInOrder {members : Members} {name : Text} {value : Json} :
    (name, value) ∈ membersInOrder members ↔ ∃ a, (name, a) ∈ members ∧ inOrder a = value := by
  simp [membersInOrder_eq]

theorem nodup_keys_membersInOrder {members : Members} (distinct : (Table.keys members).Nodup) :
    (Table.keys (membersInOrder members)).Nodup := by
  rwa [keys_membersInOrder]

/-- The members of an arranged object are those of the object, with their values arranged. -/
theorem forall_mem_arranged {members : Members} {p : Text × Json → Prop} :
    (∀ member ∈ Table.ascending (membersInOrder members), p member) ↔
      ∀ member ∈ members, p (member.1, inOrder member.2) :=
  calc (∀ member ∈ Table.ascending (membersInOrder members), p member)
    _ ↔ ∀ member ∈ membersInOrder members, p member :=
        forall_congr' fun _ => imp_congr_left (Table.ascending_perm _).mem_iff
    _ ↔ ∀ member ∈ members, p (member.1, inOrder member.2) := by
        rw [membersInOrder_eq, List.forall_mem_map]

theorem nodup_keys_arranged {members : Members} (distinct : (Table.keys members).Nodup) :
    (Table.keys (Table.ascending (membersInOrder members))).Nodup :=
  Table.nodup_keys_perm (Table.ascending_perm _).symm (nodup_keys_membersInOrder distinct)

theorem membersAlike_iff {members others : Members} :
    MembersAlike members others ↔
      ∀ member ∈ members, ∃ b, Table.get? member.1 others = some b ∧ Alike member.2 b := by
  induction members with
  | nil => simp [MembersAlike]
  | cons member rest ih => rw [MembersAlike, ih, List.forall_mem_cons]

/-! ## Alike just when in order the same -/

theorem itemsAlike_iff {items others : List Json}
    (each : ∀ item ∈ items, ∀ other ∈ others, Alike item other ↔ inOrder item = inOrder other) :
    ItemsAlike items others ↔ items.map inOrder = others.map inOrder := by
  induction items generalizing others with
  | nil => cases others <;> simp [ItemsAlike]
  | cons item rest ih =>
    cases others with
    | nil => simp [ItemsAlike]
    | cons other more =>
      have first := each item List.mem_cons_self other List.mem_cons_self
      have later := ih fun a inside b there =>
        each a (List.mem_cons_of_mem _ inside) b (List.mem_cons_of_mem _ there)
      rw [ItemsAlike, first, later, List.map_cons, List.map_cons, List.cons.injEq]

/-- Members are alike under the same names just when they are the same entries, up to order. -/
theorem membersAlike_iff_perm {members others : Members} (distinct : (Table.keys members).Nodup)
    (distinct' : (Table.keys others).Nodup)
    (each : ∀ member ∈ members, ∀ other ∈ others, Alike member.2 other.2 ↔ inOrder member.2 = inOrder other.2) :
    ((Table.keys members).Perm (Table.keys others) ∧ MembersAlike members others) ↔
      (membersInOrder members).Perm (membersInOrder others) := by
  constructor
  · rintro ⟨names, alike⟩
    rw [membersAlike_iff] at alike
    have nodup : (membersInOrder members).Nodup := .of_map Prod.fst (nodup_keys_membersInOrder distinct)
    have nodup' : (membersInOrder others).Nodup := .of_map Prod.fst (nodup_keys_membersInOrder distinct')
    refine (List.perm_ext_iff_of_nodup nodup nodup').mpr fun ⟨name, value⟩ => ?_
    rw [mem_membersInOrder, mem_membersInOrder]
    constructor
    · rintro ⟨a, inside, rfl⟩
      obtain ⟨b, found, same⟩ := alike _ inside
      have there := Table.mem_of_get? found
      exact ⟨b, there, ((each _ inside _ there).mp same).symm⟩
    · rintro ⟨b, there, rfl⟩
      obtain ⟨a, found⟩ := Table.mem_keys_iff.mp (names.mem_iff.mpr (List.mem_map_of_mem there))
      have inside := Table.mem_of_get? found
      obtain ⟨b', found', same⟩ := alike _ inside
      obtain rfl : b = b' := Option.some.inj ((Table.get?_of_mem distinct' there).symm.trans found')
      exact ⟨a, inside, (each _ inside _ there).mp same⟩
  · intro same
    refine ⟨?_, membersAlike_iff.mpr fun ⟨name, a⟩ inside => ?_⟩
    · rw [← keys_membersInOrder, ← keys_membersInOrder others]
      exact same.map Prod.fst
    · obtain ⟨b, there, equal⟩ := mem_membersInOrder.mp (same.mem_iff.mp (mem_membersInOrder.mpr ⟨a, inside, rfl⟩))
      exact ⟨b, Table.get?_of_mem distinct' there, (each _ inside _ there).mpr equal.symm⟩

/-- Values with distinct names are alike just when they are the same in order. -/
theorem alike_iff {a b : Json} (distinct : a.Distinct) (distinct' : b.Distinct) :
    Alike a b ↔ inOrder a = inOrder b := by
  induction a using induction_parts generalizing b with
  | array items each =>
    cases b with
    | array others =>
      rw [distinct_array_iff] at distinct distinct'
      rw [Alike, inOrder, inOrder, itemsInOrder_eq, itemsInOrder_eq, Json.array.injEq]
      exact itemsAlike_iff fun item inside other there =>
        each item inside (distinct item inside) (distinct' other there)
    | _ => simp [Alike, inOrder]
  | object members each =>
    cases b with
    | object others =>
      rw [distinct_object_iff] at distinct distinct'
      rw [Alike, inOrder, inOrder, Json.object.injEq,
        Table.ascending_eq_iff (nodup_keys_membersInOrder distinct.1)]
      exact membersAlike_iff_perm distinct.1 distinct'.1 fun member inside other there =>
        each member inside (distinct.2 member inside) (distinct'.2 other there)
    | _ => simp [Alike, inOrder]
  | _ => cases b <;> simp [Alike, inOrder]

/-! ## The arrangement -/

theorem distinct_inOrder {value : Json} (distinct : value.Distinct) : (inOrder value).Distinct := by
  induction value using induction_parts with
  | array items each =>
    rw [distinct_array_iff] at distinct
    rw [inOrder, itemsInOrder_eq, distinct_array_iff]
    intro item member
    obtain ⟨a, inside, rfl⟩ := List.mem_map.mp member
    exact each a inside (distinct a inside)
  | object members each =>
    rw [distinct_object_iff] at distinct
    rw [inOrder, distinct_object_iff]
    refine ⟨nodup_keys_arranged distinct.1, forall_mem_arranged.mpr fun member inside => ?_⟩
    exact each member inside (distinct.2 member inside)
  | _ => exact distinct

theorem inOrder_inOrder (value : Json) : inOrder (inOrder value) = inOrder value := by
  induction value using induction_parts with
  | array items each =>
    rw [inOrder, inOrder, itemsInOrder_eq, itemsInOrder_eq, List.map_map]
    exact congrArg Json.array (List.map_congr_left each)
  | object members each =>
    have again : membersInOrder (membersInOrder members) = membersInOrder members := by
      rw [membersInOrder_eq, membersInOrder_eq, List.map_map]
      exact List.map_congr_left fun member inside => congrArg (Prod.mk member.1) (each member inside)
    rw [inOrder, inOrder, membersInOrder_ascending, again, Table.ascending_ascending]
  | _ => rfl

/-- A value differs from its arrangement in nothing but the order of members. -/
theorem alike_inOrder {value : Json} (distinct : value.Distinct) : Alike value (inOrder value) :=
  (alike_iff distinct (distinct_inOrder distinct)).mpr (inOrder_inOrder value).symm

end PolicyHost.Json
