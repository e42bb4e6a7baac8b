import PolicyHost.Deployment.Standard
import PolicyHost.Instance
import PolicyHost.Proofs.Json.Halves
import PolicyHost.Proofs.Json.Limits

/-!
# What does not cross the border

A value with something in it of a type that has no plain JSON is an error of the library, as is a number
without a JSON form and a document that is malformed. All else that stops the two directions is a fault,
and leaves them as such: the faults of the conversion, surrogates that stand alone in strings and names,
and the limits of the reader.

* `Conversion.Untyped`, `Conversion.encode_cases`: writing.
* `BeyondLimits`, `Json.readOctets_cases`: reading a document; `decodeResult_cases`: reading a result
  without a shape.
* `border_faults`: both.
-/

namespace PolicyHost

/-- The faults with which a value has no document: those of its conversion, and a surrogate that stands
alone in a string or name of its plain JSON. -/
inductive Conversion.Untyped {α : Type} [Conversion α] (value : α) : Fault → Prop
  | conversion {fault : Fault} : toJson value = .error (.fault fault) → Untyped value fault
  | surrogate {json : Json} {t : Text} {fault : Utf8.Unwritable} :
      plain value = .ok json → t ∈ json.texts → fault.first ∈ t.halves → Untyped value (.unwritable fault)

/-- The faults with which a document is not read: the limits of the reader beyond which it lies. -/
inductive BeyondLimits [Room] (raw : Bytes) : Fault → Prop
  | longInteger {t : Text} {digits : Nat} :
      Json.decodeOctets raw = .ok t → Json.SpellsInteger t digits → Json.maxDigits < digits →
      BeyondLimits raw (.longInteger digits)
  | tooDeep {t : Text} :
      Json.decodeOctets raw = .ok t → Json.NestsBeyond t → BeyondLimits raw .tooDeep

theorem Json.encode_cases (json : Json) :
    match json.encode with
    | .ok _ => ∀ t ∈ json.texts, t.halves = []
    | .error (.error cause) => cause.kind = .serialize
    | .error (.fault fault) =>
      ∃ halves, fault = .unwritable halves ∧ ∃ t ∈ json.texts, halves.first ∈ t.halves := by
  unfold Json.encode
  cases written : Json.compact ⟨Json.plainPoint, true⟩ json with
  | error fault => rfl
  | ok t =>
    have finite := Json.isFinite_of_compact rfl json written
    have halves := Json.halves_compact Json.halves_plainPoint json written finite
    dsimp only
    cases encoded : Utf8.encode t with
    | ok bytes => exact List.flatMap_eq_nil_iff.mp (halves ▸ Utf8.encode_ok_halves encoded)
    | error fault =>
      have first := Utf8.encode_error encoded
      rw [halves] at first
      exact ⟨fault, rfl, List.mem_flatMap.mp first⟩

/-- What has no document for another reason than a serialization error has a fault of the conversion, or
a surrogate that stands alone; what has a document has none of these. -/
theorem Conversion.encode_cases {α : Type} [Conversion α] (value : α) :
    match encode value with
    | .ok _ => ∀ fault, ¬ Untyped value fault
    | .error (.error cause) => cause.kind = .serialize
    | .error (.fault fault) => Untyped value fault := by
  unfold encode
  cases converted : toJson value with
  | error reason =>
    cases reason with
    | unserializable reason =>
      simp only [plain, converted]
      rfl
    | fault fault =>
      simp only [plain, converted]
      exact .conversion converted
  | ok json =>
    have plain : plain value = .ok json := by simp only [plain, converted]
    have writing := json.encode_cases
    rw [plain]
    show match json.encode with
      | .ok _ => ∀ fault, ¬ Untyped value fault
      | .error (.error cause) => cause.kind = .serialize
      | .error (.fault fault) => Untyped value fault
    cases encoded : json.encode with
    | error failure =>
      rw [encoded] at writing
      cases failure with
      | error cause => exact writing
      | fault fault =>
        obtain ⟨halves, rfl, t, text, first⟩ := writing
        exact .surrogate plain text first
    | ok bytes =>
      rw [encoded] at writing
      rintro fault (stopped | ⟨same, text, first⟩)
      · cases converted.symm.trans stopped
      · cases plain.symm.trans same
        rw [writing _ text] at first
        cases first

/-- Octets that are no text are an error of the library, not a limit of the reader. -/
theorem Json.decodeOctets_failure {raw : Bytes} {flaw : Json.OctetFault}
    (malformed : Json.decodeOctets raw = .error flaw) (wrap : Json.OctetFault → PolicyError) :
    flaw.failure wrap = .error (wrap flaw) := by
  unfold Json.decodeOctets at malformed
  split at malformed
  all_goals
    obtain ⟨cause, -, rfl⟩ := Outcome.mapError_eq_error_iff.mp malformed
    rfl

/-- What is read lies within both limits of the reader. What is not read is an error of the library, or
lies beyond a limit. -/
theorem Json.readOctets_cases [Room] (raw : Bytes) (wrap : Json.OctetFault → PolicyError) :
    match Json.readOctets raw with
    | .ok _ => ∀ fault, ¬ BeyondLimits raw fault
    | .error flaw =>
      match flaw.failure wrap with
      | .error cause => cause = wrap flaw
      | .fault fault => BeyondLimits raw fault := by
  cases read : Json.readOctets raw with
  | error flaw =>
    rcases Outcome.bind_eq_error_iff.mp read with malformed | ⟨t, decoded, stopped⟩
    · dsimp only
      rw [Json.decodeOctets_failure malformed]
    · obtain ⟨cause, unread, rfl⟩ := Outcome.mapError_eq_error_iff.mp stopped
      have limits := Json.read_limits t
      rw [unread] at limits
      cases cause with
      | malformed => rfl
      | longInteger digits => exact .longInteger decoded limits.2 limits.1
      | tooDeep => exact .tooDeep decoded limits
  | ok json =>
    obtain ⟨t, decoded, done⟩ := Outcome.bind_eq_ok_iff.mp read
    have limits := Json.read_limits t
    rw [Outcome.mapError_eq_ok_iff.mp done] at limits
    rintro fault (⟨same, spells, beyond⟩ | ⟨same, nests⟩)
    · cases decoded.symm.trans same
      exact Nat.not_lt.mpr (limits.1 _ spells) beyond
    · cases decoded.symm.trans same
      exact limits.2 nests

/-- What is not read for another reason than a deserialization error lies beyond a limit of the reader;
what is read lies within both. -/
theorem decodeResult_cases [Platform] (raw : Bytes) :
    match decodeResult raw none with
    | .ok _ => ∀ fault, ¬ BeyondLimits raw fault
    | .error (.error cause) => cause.kind = .deserialize
    | .error (.fault fault) => BeyondLimits raw fault := by
  have reading := Json.readOctets_cases raw .resultJson
  unfold decodeResult
  cases read : Json.readOctets raw with
  | ok json =>
    rw [read] at reading
    exact reading
  | error flaw =>
    rw [read] at reading
    dsimp only at reading ⊢
    cases failed : flaw.failure .resultJson with
    | error cause =>
      rw [failed] at reading
      cases reading
      rfl
    | fault fault =>
      rw [failed] at reading
      exact reading

theorem decodeResult_ok [Platform] {raw : Bytes} {value : Value} (decoded : decodeResult raw none = .ok value) :
    ∃ json, Json.readOctets raw = .ok json ∧ value = .ofJson json := by
  unfold decodeResult at decoded
  split at decoded
  · cases decoded
  · next json read =>
    cases decoded
    exact ⟨json, read, rfl⟩

/-- The faults with which the two directions stop, and no others, leave them as they are: every other
failure of theirs is a serialization or a deserialization error. -/
theorem border_faults [Platform] {α : Type} [Conversion α] (value : α) (raw : Bytes) :
    (match Conversion.encode value with
      | .ok _ => ∀ fault, ¬ Conversion.Untyped value fault
      | .error (.error cause) => cause.kind = .serialize
      | .error (.fault fault) => Conversion.Untyped value fault) ∧
    (match decodeResult raw none with
      | .ok _ => ∀ fault, ¬ BeyondLimits raw fault
      | .error (.error cause) => cause.kind = .deserialize
      | .error (.fault fault) => BeyondLimits raw fault) :=
  ⟨Conversion.encode_cases value, decodeResult_cases raw⟩

attribute [local instance] Value.conversion in
/-- A surrogate that stands alone. -/
example : Conversion.encode (Value.text [0xD800]) = .error (.fault (.unwritable ⟨0xD800, 1, 1⟩)) := by
  rfl

end PolicyHost
