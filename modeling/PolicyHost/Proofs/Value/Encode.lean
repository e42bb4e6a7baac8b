import PolicyHost.Deployment.Standard
import PolicyHost.Instance
import PolicyHost.Proofs.Json.Encode

/-!
# Values across the border

Whatever a host program hands over, its document is read as its plain JSON: with the same names in the
same order, and with integers, floating-point numbers and truth values kept apart. The conversion to
plain JSON has to see to what a reader relies on: the names of an object are distinct, and no value lies
too deep.

* `LawfulConversion`: what the conversion has to see to.
* `Conversion.encode_reads`, `Conversion.decodeResult_encode`: a document is read as the plain JSON of its value.
* `Value.Admitted`, `Value.conversion_lawful`: a conversion that sees to it.
-/

namespace PolicyHost

/-! ## Documents -/

/-- Containers that a conversion lets lie inside each other. -/
def Conversion.maxNesting : Nat := 255

/-- What a conversion has to see to: keys that become the same name leave one member, and what lies too
deep is not converted. -/
class LawfulConversion (α : Type) [Conversion α] : Prop where
  distinct : ∀ {value : α} {json : Json}, Conversion.toJson value = .ok json → json.Distinct
  nesting : ∀ {value : α} {json : Json}, Conversion.toJson value = .ok json →
    json.nesting ≤ Conversion.maxNesting

namespace Conversion

variable {α : Type} [Conversion α] {value : α}

theorem plain_eq_ok_iff {json : Json} : plain value = .ok json ↔ toJson value = .ok json := by
  unfold plain
  split
  · next found => simp [found]
  · next found => simp [found]
  · next found => simp [found]

/-- Floating-point numbers in the plain JSON of a value are read as they are written. -/
def FloatsReadBack [Room] (value : α) : Prop :=
  ∀ json, plain value = .ok json → ∀ x ∈ json.floats, x.isFinite = true → Json.ReadsBack x

/-- A document is UTF-8 without control characters, and is read as the plain JSON of its value. -/
theorem encode_reads [Room] [LawfulConversion α] {bytes : Bytes} (encoded : encode value = .ok bytes)
    (floats : FloatsReadBack value) (room : maxNesting ≤ Room.documents) :
    ∃ json, plain value = .ok json ∧ (∃ t, Utf8.decode bytes = .ok t) ∧ (∀ b ∈ bytes, 0x20 ≤ b) ∧
      Json.readOctets bytes = .ok json := by
  obtain ⟨json, converted, written⟩ := Outcome.bind_eq_ok_iff.mp encoded
  have found := plain_eq_ok_iff.mp converted
  have shallow : json.nesting ≤ Room.documents := (LawfulConversion.nesting found).trans room
  exact ⟨json, converted,
    Json.readOctets_encode written (LawfulConversion.distinct found) shallow (floats json converted)⟩

/-- Decoding undoes encoding: what a value is encoded as is UTF-8 without control characters, and is
decoded to the plain JSON of the value, with the same names in the same order and every number of its
kind. Of floating-point numbers it is assumed that they are read as they are written, and of the machine
that it has room for what the conversion lets lie inside each other. -/
theorem decodeResult_encode [Platform] [LawfulConversion α] {bytes : Bytes}
    (encoded : encode value = .ok bytes) (floats : FloatsReadBack value)
    (room : maxNesting ≤ Room.documents) :
    ∃ json, plain value = .ok json ∧ (∃ t, Utf8.decode bytes = .ok t) ∧ (∀ b ∈ bytes, 0x20 ≤ b) ∧
      decodeResult bytes none = .ok (.ofJson json) := by
  obtain ⟨json, converted, utf8, visible, reads⟩ := encode_reads encoded floats room
  refine ⟨json, converted, utf8, visible, ?_⟩
  rw [decodeResult, reads]

end Conversion

namespace Value

/-! ## The plain JSON of values -/

/-- JSON that may stand where `depth` containers enclose it: names are distinct, and no value lies
too deep. -/
structure Admitted (depth : Nat) (json : Json) : Prop where
  distinct : json.Distinct
  nesting : json.nesting ≤ maxDepth + 1 - depth

/-- Members of an object that `depth` containers enclose, itself among them. -/
structure MembersAdmitted (depth : Nat) (members : Json.Members) : Prop where
  names : (Table.keys members).Nodup
  values : ∀ entry ∈ members, Admitted depth entry.2

variable {depth : Nat}

theorem Admitted.array (room : depth ≤ maxDepth) {items : List Json}
    (all : ∀ item ∈ items, Admitted (depth + 1) item) : Admitted depth (.array items) where
  distinct := Json.distinct_array_iff.mpr fun item member => (all item member).distinct
  nesting := by
    have deepest : Json.itemsNesting items ≤ maxDepth + 1 - (depth + 1) :=
      Json.itemsNesting_le_iff.mpr fun item member => (all item member).nesting
    rw [Json.nesting]
    omega

theorem MembersAdmitted.object (room : depth ≤ maxDepth) {members : Json.Members}
    (all : MembersAdmitted (depth + 1) members) : Admitted depth (.object members) where
  distinct := Json.distinct_object_iff.mpr
    ⟨all.names, fun entry member => (all.values entry member).distinct⟩
  nesting := by
    have deepest : Json.membersNesting members ≤ maxDepth + 1 - (depth + 1) :=
      Json.membersNesting_le_iff.mpr fun entry member => (all.values entry member).nesting
    rw [Json.nesting]
    omega

theorem MembersAdmitted.nil : MembersAdmitted depth [] := ⟨List.nodup_nil, nofun⟩

theorem MembersAdmitted.put {members : Json.Members} (all : MembersAdmitted depth members)
    {value : Json} (new : Admitted depth value) (name : Text) :
    MembersAdmitted depth (members.put name value) where
  names := Table.nodup_keys_put all.names name value
  values := by
    intro entry member
    rcases Table.mem_put member with old | rfl
    · exact all.values entry old
    · exact new

theorem Admitted.leaf {json : Json} (distinct : json.Distinct) (flat : json.nesting = 0) :
    Admitted depth json :=
  ⟨distinct, flat ▸ Nat.zero_le _⟩

mutual

/-- The conversion yields admitted JSON, case by case of the value. -/
theorem toJsonAt_admitted {depth : Nat} (value : Value) {json : Json}
    (done : toJsonAt depth value = .ok json) : Admitted depth json := by
  unfold toJsonAt at done
  split at done
  · cases done
  · next room =>
    have room : depth ≤ maxDepth := Nat.not_lt.mp room
    cases value with
    | null | bool | int | float | text | decimal | moment =>
      cases done
      exact .leaf trivial rfl
    | octets bytes =>
      obtain ⟨t, -, rfl⟩ := Outcome.map_eq_ok_iff.mp done
      exact .leaf trivial rfl
    | list items | tuple items | set items =>
      obtain ⟨jsons, inside, done⟩ := Outcome.bind_eq_ok_iff.mp done
      cases done
      exact .array room (itemsToJson_admitted items inside)
    | dict entries =>
      obtain ⟨members, inside, done⟩ := Outcome.bind_eq_ok_iff.mp done
      cases done
      exact (entriesToJson_admitted entries .nil inside).object room
    | record type fields =>
      obtain ⟨members, inside, done⟩ := Outcome.bind_eq_ok_iff.mp done
      cases done
      exact (fieldsToJson_admitted fields .nil inside).object room
    | constant type value => exact toJsonAt_admitted value done
    | enclosing => cases done
    | other type number => cases done

theorem itemsToJson_admitted {depth : Nat} (items : List Value) {jsons : List Json}
    (done : itemsToJson depth items = .ok jsons) : ∀ json ∈ jsons, Admitted depth json := by
  cases items with
  | nil =>
    cases done
    exact nofun
  | cons item rest =>
    obtain ⟨first, one, others⟩ := Outcome.bind_eq_ok_iff.mp done
    obtain ⟨more, two, joined⟩ := Outcome.bind_eq_ok_iff.mp others
    cases joined
    exact List.forall_mem_cons.mpr ⟨toJsonAt_admitted item one, itemsToJson_admitted rest two⟩

theorem entriesToJson_admitted {depth : Nat} (entries : List (Value × Value))
    {before members : Json.Members}
    (start : MembersAdmitted depth before) (done : entriesToJson depth before entries = .ok members) :
    MembersAdmitted depth members := by
  cases entries with
  | nil =>
    cases done
    exact start
  | cons entry rest =>
    obtain ⟨name, -, others⟩ := Outcome.bind_eq_ok_iff.mp done
    obtain ⟨first, one, more⟩ := Outcome.bind_eq_ok_iff.mp others
    exact entriesToJson_admitted rest (start.put (toJsonAt_admitted entry.2 one) name) more

theorem fieldsToJson_admitted {depth : Nat} (fields : List (Text × Value))
    {before members : Json.Members}
    (start : MembersAdmitted depth before) (done : fieldsToJson depth before fields = .ok members) :
    MembersAdmitted depth members := by
  cases fields with
  | nil =>
    cases done
    exact start
  | cons field rest =>
    obtain ⟨first, one, more⟩ := Outcome.bind_eq_ok_iff.mp done
    exact fieldsToJson_admitted rest (start.put (toJsonAt_admitted field.2 one) field.1) more

end

attribute [local instance] conversion in
/-- The conversion of values sees to what a reader relies on. -/
theorem conversion_lawful : LawfulConversion Value where
  distinct found := (toJsonAt_admitted _ found).distinct
  nesting found := (toJsonAt_admitted _ found).nesting

/-- A record with numbers of both kinds, text beyond ASCII and beyond printing, and a dictionary two
keys of which become one name. -/
def sample : Value :=
  .record "Request" [
    ("path", .tuple [.text "a\"\\\u007f\x00\né€😀", .octets [0x68, 0xC3, 0xA9]]),
    ("numbers", .list [.int 2, .float 2.5, .float (-0.0), .bool true, .int (-12345678901234567890)]),
    ("entries", .dict [(.int 1, .null), (.text "k", .set []),
      (.text "1", .constant "Stage" (.text "late")), (.null, .dict [])])]

def sampleDocument : Bytes :=
  let path : Text := "\x7b\"path\":[\"a\\\"\\\\\u007f\\u0000\\né€😀\",\"hé\"],"
  let numbers : Text := "\"numbers\":[2,2.5,-0.0,true,-12345678901234567890],"
  let entries : Text := "\"entries\":\x7b\"1\":\"late\",\"k\":[],\"None\":\x7b\x7d\x7d\x7d"
  (path ++ numbers ++ entries).flatMap Utf8.encodePoint

section

attribute [local instance] Deployment.platform

theorem sample_encode : Conversion.encode sample = .ok sampleDocument := by decide +kernel

theorem sample_floats : (Conversion.plain sample).map Json.floats = .ok [2.5, -0.0] := by decide +kernel

theorem sample_decodeResult_encode :
    ∃ json, Conversion.plain sample = .ok json ∧
      decodeResult sampleDocument none = .ok (.ofJson json) := by
  have := conversion_lawful
  have floats : Conversion.FloatsReadBack sample := by
    intro json plain x member _
    have found := sample_floats
    rw [plain] at found
    rw [Except.ok.inj found] at member
    simp only [List.mem_cons, List.not_mem_nil, or_false] at member
    rcases member with rfl | rfl <;> rfl
  obtain ⟨json, plain, -, -, decoded⟩ := Conversion.decodeResult_encode sample_encode floats (by decide)
  exact ⟨json, plain, decoded⟩

end

end Value

end PolicyHost
