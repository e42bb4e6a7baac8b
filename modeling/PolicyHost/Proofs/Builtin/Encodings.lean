import PolicyHost.Proofs.Builtin.Query

/-!
# Builtins that undo each other

Hexadecimal digits and queries are written from the octets of a text in UTF-8, and read as the text of the
octets that they spell. So each of the two readers undoes its writer on texts without surrogates. For
hexadecimal digits it is also known what else is read, and that all the rest is refused.

* `applied`: a standard builtin with one operand.
* `applied_hexEncode`, `applied_hexDecode`, `applied_queryEncode`, `applied_queryDecode`: the builtins by
  the functions on texts that they apply.
* `encodings_undone`: the four of them together.
-/

namespace PolicyHost.Builtin

/-- What a standard builtin with one operand comes to, and the context that it leaves behind. -/
def applied (name : Text) (operand : Json) (context : Context) : Except Failure Value × Context :=
  (Registry.standard.call name [operand]).run context

theorem applied_hexEncode {s : Text} {bytes : Bytes} (written : Utf8.encode s = .ok bytes) (context : Context) :
    applied "hex.encode" (.string s) context = (.ok (.text (Text.hex bytes)), context) := by
  change (do return Value.text (Text.hex (← writable (Utf8.encode s))) : Action Value).run context = _
  rw [written]
  rfl

theorem applied_hexDecode (x : Text) (context : Context) :
    applied "hex.decode" (.string x) context =
      (match Hex.decode x with
        | .ok t => .ok (.text t)
        | .error fault => .error (.error (.operand (.notHex fault))), context) := by
  change (match Hex.decode x with
    | .ok t => pure (Value.text t)
    | .error fault => fail (.notHex fault) : Action Value).run context = _
  cases Hex.decode x <;> rfl

theorem applied_queryEncode {s query : Text} (written : Query.encode s = .ok query) (context : Context) :
    applied "urlquery.encode" (.string s) context = (.ok (.text query), context) := by
  change (do return Value.text (← writable (Query.encode s)) : Action Value).run context = _
  rw [written]
  rfl

theorem applied_queryDecode (x : Text) (context : Context) :
    applied "urlquery.decode" (.string x) context = (.ok (.text (Query.decode x)), context) := rfl

/-- A text without surrogates can be written. -/
theorem exists_octets {s : Text} (scalar : ∀ c ∈ s, c.isSurrogate = false) :
    ∃ bytes, Utf8.encode s = .ok bytes :=
  ⟨_, Utf8.encode_eq_ok_iff.mpr ⟨scalar, rfl⟩⟩

/-- A text without surrogates is what its hexadecimal digits are read as, and what its query is read as.
The digits are those in lower case; the query consists of plain characters, plus signs and percent signs
with two digits each. Conversely, what is read as a text `t` are just the pairs of digits of either case
that spell the octets of `t`, with blanks between them; for all else the builtin fails, with an error of its
own. -/
theorem encodings_undone (context : Context) :
    (∀ s : Text, (∀ c ∈ s, c.isSurrogate = false) →
      (∃ digits, applied "hex.encode" (.string s) context = (.ok (.text digits), context) ∧
        (∀ c ∈ digits, c ∈ Hex.lowerDigits) ∧
        applied "hex.decode" (.string digits) context = (.ok (.text s), context)) ∧
      ∃ query bytes, applied "urlquery.encode" (.string s) context = (.ok (.text query), context) ∧
        Query.Spells query bytes ∧
        applied "urlquery.decode" (.string query) context = (.ok (.text s), context)) ∧
    ∀ x : Text,
      (∀ t, applied "hex.decode" (.string x) context = (.ok (.text t), context) ↔
        ∃ bytes, Hex.Spells x bytes ∧ Utf8.encode t = .ok bytes) ∧
      ((¬ ∃ t bytes, Hex.Spells x bytes ∧ Utf8.encode t = .ok bytes) →
        ∃ error : PolicyError, error.kind = .builtin ∧
          applied "hex.decode" (.string x) context = (.error (.error error), context)) := by
  refine ⟨fun s scalar => ?_, fun x => ⟨fun t => ?_, fun other => ?_⟩⟩
  · obtain ⟨bytes, written⟩ := exists_octets scalar
    obtain ⟨query, encoded, spells⟩ := Query.spells_encode written
    refine ⟨⟨Text.hex bytes, applied_hexEncode written context,
      fun c inside => Hex.mem_lowerDigits_of_mem_hex inside, ?_⟩,
      query, bytes, applied_queryEncode encoded context, spells, ?_⟩
    · rw [applied_hexDecode, Hex.decode_eq_ok_iff.mpr ⟨bytes, Hex.spells_hex bytes, written⟩]
    · rw [applied_queryDecode, Query.decode_of_spells spells written]
  · rw [applied_hexDecode, ← Hex.decode_eq_ok_iff]
    cases Hex.decode x with
    | ok t' => simp
    | error fault => simp
  · rw [applied_hexDecode]
    cases read : Hex.decode x with
    | ok t => exact absurd ⟨t, Hex.decode_eq_ok_iff.mp read⟩ other
    | error fault => exact ⟨.operand (.notHex fault), rfl, rfl⟩

/-- A text with a space, a percent sign, a plus sign and a character outside of ASCII. -/
def sample : Text := "a %+é"

/-- A digit alone spells no octets. -/
theorem not_spells_single (bytes : Bytes) : ¬ Hex.Spells "4" bytes := by
  rintro (_ | _ | _)
  next blank _ => exact absurd blank (by decide)

theorem sample_undone :
    (∃ query bytes, applied "urlquery.encode" (.string sample) (.fresh ⟨0, ⟨0, 0⟩⟩) =
        (.ok (.text query), .fresh ⟨0, ⟨0, 0⟩⟩) ∧ Query.Spells query bytes ∧
      applied "urlquery.decode" (.string query) (.fresh ⟨0, ⟨0, 0⟩⟩) =
        (.ok (.text sample), .fresh ⟨0, ⟨0, 0⟩⟩)) ∧
      ∃ error : PolicyError, error.kind = .builtin ∧
        applied "hex.decode" (.string "4") (.fresh ⟨0, ⟨0, 0⟩⟩) =
          (.error (.error error), .fresh ⟨0, ⟨0, 0⟩⟩) := by
  have undone := encodings_undone (.fresh ⟨0, ⟨0, 0⟩⟩)
  have scalar : ∀ c ∈ sample, c.isSurrogate = false := fun _ => Text.isSurrogate_of_mem_ofString
  refine ⟨(undone.1 sample scalar).2, (undone.2 "4").2 ?_⟩
  rintro ⟨t, bytes, spells, -⟩
  exact not_spells_single bytes spells

end PolicyHost.Builtin
