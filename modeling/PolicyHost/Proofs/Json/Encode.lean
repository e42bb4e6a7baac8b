import PolicyHost.Proofs.Json.Compact
import PolicyHost.Proofs.Text.Utf8

/-!
# Documents as octets

The document of a value holds no control character, and none of the signs by which other encodings
show: it is read as UTF-8, and as that value.

* `Visible`, `visible_compact`: texts without control characters.
* `detect_eq_utf8`: octets that show no other encoding.
* `readOctets_encode`: a document is read as the value it was written for.
-/

namespace PolicyHost.Json

/-! ## Control characters -/

def Visible (t : Text) : Prop := ∀ c ∈ t, 0x20 ≤ c.val

theorem Visible.append {t u : Text} (first : Visible t) (rest : Visible u) : Visible (t ++ u) :=
  List.forall_mem_append.mpr ⟨first, rest⟩

theorem visible_of_all {t : Text} (all : t.all (fun c => decide (0x20 ≤ c.val)) = true) : Visible t :=
  fun c member => of_decide_eq_true (List.all_eq_true.mp all c member)

theorem Numeric.visible {t : Text} (numeric : Numeric t) : Visible t := fun c member =>
  (bounds_of_isNumeralPoint (numeric c member)).1

theorem visible_joinWith {separator : Text} {pieces : List Text} (between : Visible separator)
    (all : ∀ piece ∈ pieces, Visible piece) : Visible (Text.joinWith separator pieces) := by
  induction pieces with
  | nil => exact nofun
  | cons piece rest ih =>
    obtain ⟨first, later⟩ := List.forall_mem_cons.mp all
    cases rest with
    | nil =>
      rw [Text.joinWith_singleton]
      exact first
    | cons next rest =>
      rw [Text.joinWith_cons_cons]
      exact (first.append between).append (ih later)

theorem visible_hexDigits (width n : Nat) : Visible (Text.hexDigits width n) := by
  induction width generalizing n with
  | zero => exact nofun
  | succ width ih =>
    have digit : ∀ d < 16, 0x20 ≤ (CodePoint.ofHexValue d).val := by decide
    exact (ih _).append (List.forall_mem_singleton.mpr (digit _ (Nat.mod_lt _ (by decide))))

theorem visible_plainPoint (c : CodePoint) : Visible (plainPoint c) := by
  unfold plainPoint
  split
  · next escape short =>
    unfold shortEscape? at short
    repeat' split at short
    all_goals cases short
    all_goals exact visible_of_all (by decide)
  · split
    · exact (visible_of_all (by decide)).append (visible_hexDigits 4 c.val)
    · exact List.forall_mem_singleton.mpr (by omega)

theorem visible_quoteWith {point : CodePoint → Text} (visible : ∀ c, Visible (point c)) (t : Text) :
    Visible (quoteWith point t) := by
  have quote : Visible "\"" := visible_of_all (by decide)
  refine (quote.append fun c member => ?_).append quote
  obtain ⟨d, -, inside⟩ := List.mem_flatMap.mp member
  exact visible d c inside

variable {style : Style}

mutual

/-- A compact text has no control characters if its strings are written without. -/
theorem visible_compact (visible : ∀ c, Visible (style.point c)) (value : Json) {t : Text}
    (written : compact style value = .ok t) (finite : ∀ x ∈ value.floats, x.isFinite = true) :
    Visible t := by
  cases value with
  | null =>
    cases written
    exact visible_of_all (by decide)
  | bool b =>
    cases b <;> cases written <;> exact visible_of_all (by decide)
  | int n =>
    simp only [compact, writeInt] at written
    split at written
    · cases written
      exact (numeric_ofInt n).visible
    · cases written
  | float x =>
    simp only [compact, writeFloat] at written
    split at written
    · cases written
    · cases written
      exact (numeric_ofFloat (finite x (List.mem_singleton_self x))).visible
  | string u =>
    cases written
    exact visible_quoteWith visible u
  | array items =>
    obtain ⟨pieces, inside, done⟩ := Outcome.bind_eq_ok_iff.mp written
    cases done
    have body := visible_joinWith (visible_of_all (t := ",") (by decide))
      (visible_compactItems visible items inside finite)
    exact ((visible_of_all (by decide)).append body).append (visible_of_all (by decide))
  | object members =>
    obtain ⟨pieces, inside, done⟩ := Outcome.bind_eq_ok_iff.mp written
    cases done
    have body := visible_joinWith (visible_of_all (t := ",") (by decide))
      (visible_compactMembers visible members inside finite)
    exact ((visible_of_all (by decide)).append body).append (visible_of_all (by decide))

theorem visible_compactItems (visible : ∀ c, Visible (style.point c)) (items : List Json)
    {pieces : List Text} (written : compactItems style items = .ok pieces)
    (finite : ∀ x ∈ itemsFloats items, x.isFinite = true) : ∀ piece ∈ pieces, Visible piece := by
  cases items with
  | nil =>
    cases written
    exact nofun
  | cons item items =>
    obtain ⟨piece, one, others⟩ := Outcome.bind_eq_ok_iff.mp written
    obtain ⟨pieces, more, joined⟩ := Outcome.bind_eq_ok_iff.mp others
    cases joined
    obtain ⟨first, later⟩ := List.forall_mem_append.mp finite
    exact List.forall_mem_cons.mpr
      ⟨visible_compact visible item one first, visible_compactItems visible items more later⟩

theorem visible_compactMembers (visible : ∀ c, Visible (style.point c)) (members : List (Text × Json))
    {pieces : List Text} (written : compactMembers style members = .ok pieces)
    (finite : ∀ x ∈ membersFloats members, x.isFinite = true) : ∀ piece ∈ pieces, Visible piece := by
  cases members with
  | nil =>
    cases written
    exact nofun
  | cons member members =>
    obtain ⟨piece, one, others⟩ := Outcome.bind_eq_ok_iff.mp written
    obtain ⟨pieces, more, joined⟩ := Outcome.bind_eq_ok_iff.mp others
    cases joined
    obtain ⟨first, later⟩ := List.forall_mem_append.mp finite
    have named := (visible_quoteWith visible member.1).append (visible_of_all (t := ":") (by decide))
    exact List.forall_mem_cons.mpr ⟨named.append (visible_compact visible member.2 one first),
      visible_compactMembers visible members more later⟩

end

theorem Numeric.ascii {t : Text} (numeric : Numeric t) : ∀ c ∈ t.head?, c.val < 0x80 :=
  fun c first => (bounds_of_isNumeralPoint (numeric c (List.mem_of_mem_head? first))).2

/-- A compact text starts with an ASCII character. -/
theorem ascii_compact {value : Json} {t : Text} (written : compact style value = .ok t)
    (finite : ∀ x ∈ value.floats, x.isFinite = true) : ∀ c ∈ t.head?, c.val < 0x80 := by
  have mark (c : CodePoint) (rest : Text) (ascii : c.val < 0x80) :
      ∀ d ∈ (c :: rest).head?, d.val < 0x80 := by
    rintro _ ⟨⟩
    exact ascii
  cases value with
  | null =>
    cases written
    exact mark 'n' _ (by decide)
  | bool b =>
    cases b <;> cases written
    · exact mark 'f' _ (by decide)
    · exact mark 't' _ (by decide)
  | int n =>
    simp only [compact, writeInt] at written
    split at written
    · cases written
      exact (numeric_ofInt n).ascii
    · cases written
  | float x =>
    simp only [compact, writeFloat] at written
    split at written
    · cases written
    · cases written
      exact (numeric_ofFloat (finite x (List.mem_singleton_self x))).ascii
  | string u =>
    cases written
    exact mark '"' _ (by decide)
  | array items =>
    obtain ⟨pieces, -, done⟩ := Outcome.bind_eq_ok_iff.mp written
    cases done
    exact mark '[' _ (by decide)
  | object members =>
    obtain ⟨pieces, -, done⟩ := Outcome.bind_eq_ok_iff.mp written
    cases done
    exact mark 0x7B _ (by decide)

/-! ## Octets -/

/-- Every byte order mark has a zero in it or starts outside ASCII. -/
theorem marked?_eq_none {bytes : Bytes} (nonzero : ∀ b ∈ bytes, b ≠ 0)
    (ascii : ∀ b ∈ bytes.head?, b < 0x80) : Encoding.marked? bytes = none := by
  unfold Encoding.marked?
  split
  · exact absurd rfl (nonzero 0 List.mem_cons_self)
  · exact absurd (ascii _ rfl) (by decide)
  · exact absurd (ascii _ rfl) (by decide)
  · exact absurd (ascii _ rfl) (by decide)
  · exact absurd (ascii _ rfl) (by decide)
  · rfl

theorem ofZeros_eq_utf8 {bytes : Bytes} (nonzero : ∀ b ∈ bytes, b ≠ 0) :
    Encoding.ofZeros bytes = .utf8 := by
  unfold Encoding.ofZeros
  split
  · rw [if_neg (nonzero _ (by simp)), if_neg (nonzero _ (by simp))]
  · rw [if_neg (nonzero _ (by simp)), if_neg (nonzero _ (by simp))]
  · rfl

/-- Octets that start in ASCII and are none of the control characters show no encoding but UTF-8. -/
theorem detect_eq_utf8 {bytes : Bytes} (visible : ∀ b ∈ bytes, 0x20 ≤ b)
    (ascii : ∀ b ∈ bytes.head?, b < 0x80) : Encoding.detect bytes = .utf8 := by
  have nonzero : ∀ b ∈ bytes, b ≠ 0 := by
    rintro b member rfl
    exact absurd (visible 0 member) (by decide)
  rw [Encoding.detect, marked?_eq_none nonzero ascii, ofZeros_eq_utf8 nonzero, Option.getD_none]

/-- The document of a value is UTF-8 without control characters, and is read as the value. -/
theorem readOctets_encode [Room] {value : Json} {bytes : Bytes} (written : value.encode = .ok bytes)
    (distinct : value.Distinct) (room : value.nesting ≤ Room.documents)
    (floats : ∀ x ∈ value.floats, x.isFinite = true → ReadsBack x) :
    (∃ t, Utf8.decode bytes = .ok t) ∧ (∀ b ∈ bytes, 0x20 ≤ b) ∧ readOctets bytes = .ok value := by
  unfold Json.encode at written
  split at written
  · cases written
  · next t compacted =>
    split at written
    · cases written
    · next octets encoded =>
      cases written
      have finite := isFinite_of_compact rfl value compacted
      have reads := read_compact recovers_plainPoint compacted distinct
        (fun x member => ⟨finite x member, floats x member (finite x member)⟩) room
      have visible : ∀ b ∈ bytes, 0x20 ≤ b :=
        Utf8.le_of_mem_encode encoded (visible_compact visible_plainPoint value compacted finite)
      have ascii : ∀ b ∈ bytes.head?, b < 0x80 :=
        Utf8.head_encode encoded (ascii_compact compacted finite)
      refine ⟨⟨t, Utf8.decode_encode encoded⟩, visible, ?_⟩
      -- The reader of documents takes lone surrogates; there are none here.
      unfold readOctets decodeOctets
      rw [detect_eq_utf8 visible ascii, Utf8.decodeWithHalves_encode encoded]
      change (read t).mapError _ = _
      rw [reads]
      rfl

end PolicyHost.Json
