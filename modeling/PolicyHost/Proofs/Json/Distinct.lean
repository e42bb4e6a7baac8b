import PolicyHost.Proofs.Json.Kept
import PolicyHost.Proofs.Table

/-!
# Values whose names are distinct

A value is `Distinct` when no object in it, however deep, has two members of one name. Whatever is
read from text or octets is distinct: a name that comes twice keeps one member.

* `Distinct`, `distinct_array_iff`, `distinct_object_iff`: the property and its shape.
* `distinct_kept`: the reader keeps it; `readOctets_distinct`: whole documents.
-/

namespace PolicyHost

namespace Json

mutual

/-- No object in the value has two members of one name. -/
def Distinct : Json → Prop
  | .array items => ItemsDistinct items
  | .object members => (Table.keys members).Nodup ∧ MembersDistinct members
  | _ => True

/-- The values of a list are distinct, each for itself. -/
def ItemsDistinct : List Json → Prop
  | [] => True
  | item :: rest => Distinct item ∧ ItemsDistinct rest

/-- The values of members are distinct, each for itself. -/
def MembersDistinct : List (Text × Json) → Prop
  | [] => True
  | (_, value) :: rest => Distinct value ∧ MembersDistinct rest

end

theorem itemsDistinct_iff {items : List Json} : ItemsDistinct items ↔ ∀ item ∈ items, item.Distinct := by
  induction items with
  | nil => simp [ItemsDistinct]
  | cons item rest ih => simp [ItemsDistinct, ih]

theorem membersDistinct_iff {members : List (Text × Json)} :
    MembersDistinct members ↔ ∀ entry ∈ members, entry.2.Distinct := by
  induction members with
  | nil => simp [MembersDistinct]
  | cons entry rest ih => simp [MembersDistinct, ih]

theorem distinct_array_iff {items : List Json} :
    (Json.array items).Distinct ↔ ∀ item ∈ items, item.Distinct := by
  rw [Distinct, itemsDistinct_iff]

theorem distinct_object_iff {members : Members} :
    (Json.object members).Distinct ↔
      (Table.keys members).Nodup ∧ ∀ entry ∈ members, entry.2.Distinct := by
  rw [Distinct, membersDistinct_iff]

theorem distinct_empty : (Json.object []).Distinct := by
  simp [distinct_object_iff, Table.keys]

theorem distinct_put {members : Members} {value : Json} (base : (Json.object members).Distinct)
    (new : value.Distinct) (name : Text) : (Json.object (members.put name value)).Distinct := by
  rw [distinct_object_iff] at base ⊢
  refine ⟨Table.nodup_keys_put base.1 name value, fun entry member => ?_⟩
  rcases Table.mem_put member with old | written
  · exact base.2 entry old
  · rw [written]
    exact new

/-! ## Texts -/

theorem distinct_kept : Kept Distinct where
  literal := by simp [words, Distinct]
  string _ := trivial
  numeral n _ value read := by
    unfold Numeral.value at read
    split at read
    · split at read
      · cases read
      · cases read
        trivial
    · cases read
      trivial
  array _ items := distinct_array_iff.mpr items
  empty := distinct_empty
  put _ base name _ new := distinct_put base new name

/-- What is read from octets is distinct. -/
theorem readOctets_distinct [Room] {bytes : Bytes} {value : Json} (done : readOctets bytes = .ok value) :
    value.Distinct := distinct_kept.of_readOctets done

end Json

end PolicyHost
