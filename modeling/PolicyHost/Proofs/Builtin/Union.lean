import Mathlib.Data.List.DropRight
import Mathlib.Data.List.Induction
import PolicyHost.Builtin.Standard
import PolicyHost.Proofs.Json.Place

/-!
# The union of objects, name by name

Objects are united one after another, and inside of each other where two of them hold objects under one
name. What comes of it is said name by name: only the last value under a name counts, and if it is an
object, then with the objects right before it.

* `valuesAt`: the values under a name, in the order of the objects.
* `Prevails`, `IsUnited`: what prevails of values, and the union of objects, at every depth.
* `get?_uniteAll`, `keys_uniteAll`: a value and the names of the union.
* `isUnited_iff`: there is one union; `union_name_by_name`: the builtin gives it.
-/

namespace PolicyHost

namespace Table

variable {κ α : Type} [DecidableEq κ]

/-- Writing keeps the keys in the order in which they first occur. -/
theorem keys_put_eraseDups [BEq κ] [LawfulBEq κ] {t : Table κ α} {seen : List κ}
    (order : t.keys = seen.eraseDups) (k : κ) (v : α) : (put k v t).keys = (seen ++ [k]).eraseDups := by
  have member : k ∈ t.keys ↔ k ∈ seen := by rw [order, List.mem_eraseDups]
  rw [List.eraseDups_append]
  by_cases present : k ∈ seen
  · rw [keys_put_of_mem (member.mpr present), order]
    simp [List.removeAll, present]
  · rw [keys_put_of_not_mem (fun inside => present (member.mp inside)), order]
    simp [List.removeAll, present, List.eraseDups_cons]

/-- Tables with the same keys in the same order and the same values are the same. -/
theorem ext_of_keys {s t : Table κ α} (distinct : t.keys.Nodup) (names : s.keys = t.keys)
    (values : ∀ k, get? k s = get? k t) : s = t := by
  induction s generalizing t with
  | nil =>
    cases t with
    | nil => rfl
    | cons entry rest => cases names
  | cons entry rest ih =>
    cases t with
    | nil => cases names
    | cons other later =>
      obtain ⟨key, value⟩ := entry
      obtain ⟨key', value'⟩ := other
      obtain ⟨rfl, behind⟩ := List.cons.inj names
      obtain ⟨once, distinct⟩ := List.nodup_cons.mp distinct
      have first : value = value' := by simpa [get?] using values key
      refine congrArg₂ List.cons (congrArg (Prod.mk key) first) (ih distinct behind fun k => ?_)
      by_cases here : key = k
      · subst here
        have once' : key ∉ keys rest := fun inside => once (behind ▸ inside)
        rw [get?_eq_none_of_not_mem once, get?_eq_none_of_not_mem once']
      · simpa [get?, here] using values k

end Table

namespace Json

/-! ## The union, said name by name -/

/-- The values that objects hold under a name, in the order of the objects. -/
def valuesAt (name : Text) (objects : List Members) : List Json := objects.filterMap (Table.get? name)

/-- The objects at the end of values, as many as there are in a row. -/
def lastObjects (values : List Json) : List Members := (values.rtakeWhile isObject).filterMap members?

mutual

/-- What prevails of values that arrive one after another.

* `nothing`: nothing, if there are none;
* `leaf`: the last value, if it is no object;
* `objects`: otherwise the union of the objects at the end, as many as there are in a row. -/
inductive Prevails : List Json → Option Json → Prop
  | nothing : Prevails [] none
  | leaf {earlier : List Json} {x : Json} : x.isObject = false → Prevails (earlier ++ [x]) (some x)
  | objects {earlier : List Json} {objects : List Members} {members : Members} :
      objects ≠ [] → (∀ x ∈ earlier.getLast?, x.isObject = false) → IsUnited objects members →
      Prevails (earlier ++ objects.map Json.object) (some (.object members))

/-- The union of objects: their names in the order in which they first occur, and under each name what
prevails of the values there. -/
inductive IsUnited : List Members → Members → Prop
  | intro {objects : List Members} {members : Members} :
      Table.keys members = (objects.flatMap Table.keys).eraseDups →
      (∀ name, Prevails (valuesAt name objects) (Table.get? name members)) →
      IsUnited objects members

end

/-- Values that arrive one after another are none, or end in a leaf, or in objects in a row. -/
theorem ending_cases (values : List Json) :
    values = [] ∨ (∃ earlier x, x.isObject = false ∧ values = earlier ++ [x]) ∨
      ∃ earlier, ∃ objects : List Members, objects ≠ [] ∧ (∀ x ∈ earlier.getLast?, x.isObject = false) ∧
        values = earlier ++ objects.map Json.object := by
  induction values using List.reverseRecOn with
  | nil => exact .inl rfl
  | append_singleton values last ih =>
    by_cases isObject : last.isObject = true
    · obtain ⟨members, rfl⟩ := isObject_iff.mp isObject
      refine .inr (.inr ?_)
      rcases ih with rfl | ⟨earlier, x, leaf, rfl⟩ | ⟨earlier, objects, -, apart, rfl⟩
      · exact ⟨[], [members], List.cons_ne_nil _ _, nofun, rfl⟩
      · refine ⟨earlier ++ [x], [members], List.cons_ne_nil _ _, ?_, rfl⟩
        simpa using leaf
      · exact ⟨earlier, objects ++ [members], by simp, apart, by simp⟩
    · exact .inr (.inl ⟨values, last, by simpa using isObject, rfl⟩)

theorem lastObjects_append {earlier : List Json} (apart : ∀ x ∈ earlier.getLast?, x.isObject = false)
    (objects : List Members) : lastObjects (earlier ++ objects.map Json.object) = objects := by
  have row : (earlier ++ objects.map Json.object).rtakeWhile isObject = objects.map Json.object := by
    induction objects using List.reverseRecOn with
    | nil =>
      rw [List.map_nil, List.append_nil, List.rtakeWhile_eq_nil_iff]
      intro nonempty
      simp [apart _ (List.getLast?_eq_getLast_of_ne_nil nonempty)]
    | append_singleton objects last ih =>
      rw [List.map_append, ← List.append_assoc, List.map_singleton, List.rtakeWhile_concat_pos _ _ _ rfl, ih]
  rw [lastObjects, row, List.filterMap_map]
  exact List.filterMap_some

/-! ## Objects inside of objects -/

/-- Objects whose names come once, at every depth. -/
def AllDistinct (objects : List Members) : Prop := ∀ o ∈ objects, (Json.object o).Distinct

theorem AllDistinct.keys {objects : List Members} (distinct : AllDistinct objects) :
    ∀ o ∈ objects, (Table.keys o).Nodup :=
  fun o member => (distinct_object_iff.mp (distinct o member)).1

/-- An object among the values under a name lies in one of the objects. -/
theorem mem_of_valuesAt {name : Text} {objects inner : List Members} {earlier : List Json}
    (values : valuesAt name objects = earlier ++ inner.map Json.object) {o : Members} (member : o ∈ inner) :
    ∃ outer ∈ objects, Table.get? name outer = some (.object o) := by
  have held : Json.object o ∈ valuesAt name objects := by
    rw [values]
    exact List.mem_append_right earlier (List.mem_map_of_mem member)
  exact List.mem_filterMap.mp held

theorem AllDistinct.inner {name : Text} {objects inner : List Members} {earlier : List Json}
    (distinct : AllDistinct objects) (values : valuesAt name objects = earlier ++ inner.map Json.object) :
    AllDistinct inner := by
  intro o member
  obtain ⟨outer, inside, found⟩ := mem_of_valuesAt values member
  exact (distinct outer inside).of_get? found

/-! ## One object over another -/

theorem overlay_of_leaf {current : Option Json} {value : Json}
    (leaf : (∀ x ∈ current, x.isObject = false) ∨ value.isObject = false) :
    overlay current value = value := by
  rw [overlay]
  rintro base members rfl rfl
  rcases leaf with leaf | leaf
  · exact Bool.noConfusion (leaf _ rfl)
  · cases leaf

theorem overlay_objects (base members : Members) :
    overlay (some (.object base)) (.object members) = .object (unite base members) := by
  rw [overlay]

/-- A value of the union of two objects. -/
theorem get?_unite (base : Members) {added : Members} (distinct : (Table.keys added).Nodup) (name : Text) :
    Table.get? name (unite base added) =
      match Table.get? name added with
      | some value => some (overlay (Table.get? name base) value)
      | none => Table.get? name base := by
  induction added generalizing base with
  | nil =>
    rw [unite]
    rfl
  | cons entry rest ih =>
    obtain ⟨key, value⟩ := entry
    obtain ⟨once, distinct⟩ := List.nodup_cons.mp distinct
    rw [unite, ih _ distinct, Table.get?_put]
    by_cases here : key = name
    · subst here
      simp [Table.get?, Table.get?_eq_none_of_not_mem once]
    · simp [Table.get?, here]

/-- An object over objects of other names is added behind them. -/
theorem unite_of_nodup {base added : Members} (distinct : (Table.keys (base ++ added)).Nodup) :
    unite base added = base ++ added := by
  induction added generalizing base with
  | nil => rw [unite, List.append_nil]
  | cons entry rest ih =>
    obtain ⟨key, value⟩ := entry
    have absent : key ∉ Table.keys base := by
      rw [Table.keys, List.map_append, List.nodup_append] at distinct
      exact fun inside => distinct.2.2 key inside key List.mem_cons_self rfl
    rw [unite, Table.get?_eq_none_of_not_mem absent, overlay_of_leaf (.inl (by simp)),
      Table.put_of_not_mem absent, ih (by simpa using distinct), List.append_assoc, List.singleton_append]

theorem unite_empty {added : Members} (distinct : (Table.keys added).Nodup) : unite [] added = added :=
  unite_of_nodup distinct

/-- Uniting keeps the names in the order in which they first occur. -/
theorem keys_unite {base : Members} {seen : List Text} (order : Table.keys base = seen.eraseDups)
    (added : Members) : Table.keys (unite base added) = (seen ++ Table.keys added).eraseDups := by
  induction added generalizing base seen with
  | nil =>
    rw [unite, order]
    simp [Table.keys]
  | cons entry rest ih =>
    rw [unite, ih (Table.keys_put_eraseDups order _ _), List.append_assoc]
    rfl

/-! ## Objects one after another -/

/-- What is left of values that arrive one after another. -/
def arriveAll (values : List Json) (current : Option Json) : Option Json :=
  values.foldl (fun current value => some (overlay current value)) current

theorem arriveAll_append (first second : List Json) (current : Option Json) :
    arriveAll (first ++ second) current = arriveAll second (arriveAll first current) :=
  List.foldl_append

theorem arriveAll_leaf (earlier : List Json) {x : Json} (leaf : x.isObject = false) (current : Option Json) :
    arriveAll (earlier ++ [x]) current = some x := by
  rw [arriveAll_append]
  exact congrArg some (overlay_of_leaf (.inr leaf))

/-- Nothing but a leaf is left of values that do not end in an object. -/
theorem arriveAll_apart {earlier : List Json} (apart : ∀ x ∈ earlier.getLast?, x.isObject = false) :
    ∀ x ∈ arriveAll earlier none, x.isObject = false := by
  rcases List.eq_nil_or_concat earlier with rfl | ⟨before, last, rfl⟩
  · exact nofun
  · rw [List.concat_eq_append] at apart ⊢
    have leaf : last.isObject = false := apart last (by simp)
    rw [arriveAll_leaf before leaf]
    rintro x ⟨⟩
    exact leaf

theorem arriveAll_objects (objects : List Members) (base : Members) :
    arriveAll (objects.map Json.object) (some (.object base)) = some (.object (objects.foldl unite base)) := by
  induction objects generalizing base with
  | nil => rfl
  | cons first rest ih =>
    rw [List.foldl_cons, ← ih (unite base first), ← overlay_objects]
    rfl

/-- Objects in a row behind a leaf, or with nothing before them, leave their union. -/
theorem arriveAll_union {earlier : List Json} {objects : List Members} (some_object : objects ≠ [])
    (apart : ∀ x ∈ earlier.getLast?, x.isObject = false) (distinct : ∀ o ∈ objects, (Table.keys o).Nodup) :
    arriveAll (earlier ++ objects.map Json.object) none = some (.object (uniteAll objects)) := by
  obtain ⟨first, rest, rfl⟩ := List.exists_cons_of_ne_nil some_object
  rw [arriveAll_append]
  calc
    arriveAll ((first :: rest).map Json.object) (arriveAll earlier none)
      = arriveAll (rest.map Json.object) (some (overlay (arriveAll earlier none) (.object first))) := rfl
    _ = arriveAll (rest.map Json.object) (some (.object first)) := by
      rw [overlay_of_leaf (.inl (arriveAll_apart apart))]
    _ = some (.object (rest.foldl unite first)) := arriveAll_objects rest first
    _ = some (.object (uniteAll (first :: rest))) := by
      rw [uniteAll, List.foldl_cons, unite_empty (distinct first List.mem_cons_self)]

theorem valuesAt_cons (name : Text) (first : Members) (rest : List Members) :
    valuesAt name (first :: rest) = (Table.get? name first).toList ++ valuesAt name rest := by
  unfold valuesAt
  rw [List.filterMap_cons]
  cases Table.get? name first <;> rfl

theorem get?_foldl_unite {objects : List Members} (distinct : ∀ o ∈ objects, (Table.keys o).Nodup)
    (base : Members) (name : Text) :
    Table.get? name (objects.foldl unite base) = arriveAll (valuesAt name objects) (Table.get? name base) := by
  induction objects generalizing base with
  | nil => rfl
  | cons first rest ih =>
    obtain ⟨names, others⟩ := List.forall_mem_cons.mp distinct
    rw [List.foldl_cons, ih others, get?_unite base names, valuesAt_cons, arriveAll_append]
    cases Table.get? name first <;> rfl

/-- A value of the union is what is left of the values under its name. -/
theorem get?_uniteAll {objects : List Members} (distinct : ∀ o ∈ objects, (Table.keys o).Nodup)
    (name : Text) : Table.get? name (uniteAll objects) = arriveAll (valuesAt name objects) none :=
  get?_foldl_unite distinct [] name

/-- Under a name, the last value counts; if it is an object, it is united with the objects right before it. -/
theorem get?_uniteAll_eq {objects : List Members} (distinct : AllDistinct objects) (name : Text) :
    Table.get? name (uniteAll objects) =
      match (valuesAt name objects).getLast? with
      | some (.object _) => some (.object (uniteAll (lastObjects (valuesAt name objects))))
      | last => last := by
  rw [get?_uniteAll distinct.keys]
  rcases ending_cases (valuesAt name objects) with
    none_there | ⟨earlier, x, leaf, values⟩ | ⟨earlier, inner, some_object, apart, values⟩
  · rw [none_there]
    rfl
  · rw [values, arriveAll_leaf earlier leaf, List.getLast?_concat]
    cases x with
    | object members => cases leaf
    | _ => rfl
  · obtain ⟨before, last, rfl⟩ := (List.eq_nil_or_concat inner).resolve_left some_object
    rw [values, arriveAll_union some_object apart (distinct.inner values).keys, lastObjects_append apart,
      List.concat_eq_append, List.map_append, ← List.append_assoc, List.map_singleton, List.getLast?_concat]

/-- The names of the union stand in the order in which they first occur. -/
theorem keys_uniteAll (objects : List Members) :
    Table.keys (uniteAll objects) = (objects.flatMap Table.keys).eraseDups := by
  have run : ∀ (base : Members) (seen : List Text), Table.keys base = seen.eraseDups →
      Table.keys (objects.foldl unite base) = (seen ++ objects.flatMap Table.keys).eraseDups := by
    induction objects with
    | nil =>
      intro base seen order
      simpa using order
    | cons first rest ih =>
      intro base seen order
      rw [List.foldl_cons, ih _ _ (keys_unite order first), List.flatMap_cons, List.append_assoc]
  exact run [] [] rfl

theorem nodup_keys_unite {base : Members} (distinct : (Table.keys base).Nodup) (added : Members) :
    (Table.keys (unite base added)).Nodup := by
  induction added generalizing base with
  | nil =>
    rw [unite]
    exact distinct
  | cons entry rest ih =>
    rw [unite]
    exact ih (Table.nodup_keys_put distinct _ _)

theorem nodup_keys_uniteAll (objects : List Members) : (Table.keys (uniteAll objects)).Nodup :=
  List.foldlRecOn (motive := fun base => (Table.keys base).Nodup) objects unite List.nodup_nil
    fun _ distinct added _ => nodup_keys_unite distinct added

/-! ## Every depth -/

/-- The objects that `uniteAll` makes are unions, by induction on a bound for their sizes: what prevails
under a name is made of objects that lie inside. -/
theorem uniteAll_isUnited_of_lt (n : Nat) {objects : List Members} (distinct : AllDistinct objects)
    (small : ∀ o ∈ objects, sizeOf (Json.object o) < n) : IsUnited objects (uniteAll objects) := by
  induction n generalizing objects with
  | zero =>
    have none_left : objects = [] := List.eq_nil_iff_forall_not_mem.mpr fun o member =>
      absurd (small o member) (Nat.not_lt_zero _)
    subst none_left
    exact .intro rfl fun _ => .nothing
  | succ n ih =>
    refine .intro (keys_uniteAll objects) fun name => ?_
    rw [get?_uniteAll distinct.keys]
    rcases ending_cases (valuesAt name objects) with
      none_there | ⟨earlier, x, leaf, values⟩ | ⟨earlier, inner, some_object, apart, values⟩
    · rw [none_there]
      exact .nothing
    · rw [values, arriveAll_leaf earlier leaf]
      exact .leaf leaf
    · have inside := distinct.inner values
      rw [values, arriveAll_union some_object apart inside.keys]
      refine .objects some_object apart (ih inside fun o member => ?_)
      obtain ⟨outer, held, found⟩ := mem_of_valuesAt values member
      exact Nat.lt_of_lt_of_le (sizeOf_lt_of_get? found) (Nat.le_of_lt_succ (small outer held))

theorem uniteAll_isUnited {objects : List Members} (distinct : AllDistinct objects) :
    IsUnited objects (uniteAll objects) := by
  refine uniteAll_isUnited_of_lt (sizeOf (objects.map Json.object)) distinct fun o member => ?_
  exact List.sizeOf_lt_of_mem (List.mem_map_of_mem member)

mutual

theorem Prevails.unique {values : List Json} {current : Option Json} (prevails : Prevails values current)
    (distinct : ∀ earlier inner, values = earlier ++ inner.map Json.object → AllDistinct inner) :
    current = arriveAll values none := by
  match prevails with
  | .nothing => rfl
  | .leaf leaf => exact (arriveAll_leaf _ leaf none).symm
  | .objects some_object apart united =>
    have inside := distinct _ _ rfl
    rw [arriveAll_union some_object apart inside.keys, united.unique inside]

/-- There is one union. -/
theorem IsUnited.unique {objects : List Members} {members : Members} (united : IsUnited objects members)
    (distinct : AllDistinct objects) : members = uniteAll objects := by
  match united with
  | .intro names values =>
    refine Table.ext_of_keys (nodup_keys_uniteAll objects) (names.trans (keys_uniteAll objects).symm) ?_
    intro name
    rw [get?_uniteAll distinct.keys]
    exact (values name).unique fun earlier inner there => distinct.inner there

end

/-- A list of objects has one union, and it is what `uniteAll` makes. -/
theorem isUnited_iff {objects : List Members} (distinct : AllDistinct objects) {members : Members} :
    IsUnited objects members ↔ members = uniteAll objects := by
  constructor
  · exact fun united => united.unique distinct
  · rintro rfl
    exact uniteAll_isUnited distinct

end Json

namespace Builtin

open Json

theorem mapM_members? (objects : List Members) : (objects.map Json.object).mapM members? = some objects := by
  rw [List.mapM_map]
  exact (List.mapM_pure (f := id)).trans (by simp)

/-- The builtin gives the union of objects. Under each name it has the last value, or, if that is an
object, the union of the objects at the end of the values there, as many as there are in a row; its names
stand in the order in which they first occur. So it is at every depth: there is one union of the objects,
and this is it. -/
theorem union_name_by_name {objects : List Members} (distinct : AllDistinct objects) (context : Context) :
    (Registry.standard.call "object.union_n" [.array (objects.map Json.object)]).run context =
        (.ok (.ofJson (.object (uniteAll objects))), context) ∧
      (∀ name, Table.get? name (uniteAll objects) =
        match (valuesAt name objects).getLast? with
        | some (.object _) => some (.object (uniteAll (lastObjects (valuesAt name objects))))
        | last => last) ∧
      Table.keys (uniteAll objects) = (objects.flatMap Table.keys).eraseDups ∧
      ∀ members, IsUnited objects members ↔ members = uniteAll objects := by
  refine ⟨?_, get?_uniteAll_eq distinct, keys_uniteAll objects, fun members => isUnited_iff distinct⟩
  change (union [.array (objects.map Json.object)]).run context = _
  unfold union unary
  dsimp only
  rw [mapM_members?]
  rfl

/-- Four objects with values under one name: an object, a number, and two objects. -/
def interrupted : List Members :=
  [[("a", .object [("x", .int 1)])],
    [("a", .int 2)],
    [("b", .null), ("a", .object [("y", .int 3)])],
    [("a", .object [("z", .int 4), ("y", .int 5)])]]

def united : Members := [("a", .object [("y", .int 5), ("z", .int 4)]), ("b", .null)]

theorem interrupted_union :
    AllDistinct interrupted ∧ uniteAll interrupted = united ∧ IsUnited interrupted united := by
  have distinct : AllDistinct interrupted := by
    simp only [AllDistinct, interrupted, List.forall_mem_cons, List.not_mem_nil, false_imp_iff, implies_true,
      Distinct, MembersDistinct, and_true]
    decide
  have same : uniteAll interrupted = united := by rfl
  exact ⟨distinct, same, ((union_name_by_name distinct (.fresh ⟨0, ⟨0, 0⟩⟩)).2.2.2 united).mpr same.symm⟩

end Builtin

end PolicyHost
