import PolicyHost.Proofs.Builtin.Hex

/-!
# The octets that a query spells

In a query letters, digits and four marks stand for themselves, a plus sign stands for a space, and a
percent sign and two digits in upper case for any octet. Texts are written in this form, and what has this
form is read as the text that its octets are.

* `Spells`: which queries spell which octets.
* `spells_encode`: what is written.
* `decode_of_spells`: what is read.
-/

namespace PolicyHost.Query

/-- A character that stands for itself: an ASCII letter or digit, or one of four marks. -/
def IsPlain (c : CodePoint) : Prop :=
  c.isLetter = true ∨ c.isDigit = true ∨ c ∈ ("_.-~" : Text)

/-- A query spells octets, each of them by a character, a plus sign or a percent sign and two digits. -/
inductive Spells : Text → Bytes → Prop
  | nothing : Spells [] []
  | plain {c : CodePoint} {rest : Text} {bytes : Bytes} :
      IsPlain c → Spells rest bytes → Spells (c :: rest) (c.val.toUInt8 :: bytes)
  | blank {rest : Text} {bytes : Bytes} : Spells rest bytes → Spells ('+' :: rest) (0x20 :: bytes)
  | escape {c d : CodePoint} {high low : Nat} {rest : Text} {bytes : Bytes} :
      Hex.upperDigits[high]? = some c → Hex.upperDigits[low]? = some d → Spells rest bytes →
      Spells ('%' :: c :: d :: rest) ((high * 16 + low).toUInt8 :: bytes)

theorem isPlain_iff_val {c : CodePoint} :
    IsPlain c ↔ (0x41 ≤ c.val ∧ c.val ≤ 0x5A) ∨ (0x61 ≤ c.val ∧ c.val ≤ 0x7A) ∨
      (0x30 ≤ c.val ∧ c.val ≤ 0x39) ∨ c.val = 0x5F ∨ c.val = 0x2E ∨ c.val = 0x2D ∨ c.val = 0x7E := by
  have marks : ("_.-~" : Text) =
    [(⟨0x5F, by decide⟩ : CodePoint), ⟨0x2E, by decide⟩, ⟨0x2D, by decide⟩, ⟨0x7E, by decide⟩] := rfl
  unfold IsPlain CodePoint.isLetter CodePoint.isDigit
  rw [marks]
  simp only [Bool.or_eq_true, Bool.and_eq_true, decide_eq_true_eq, List.mem_cons, List.not_mem_nil, or_false,
    Fin.ext_iff]
  omega

theorem IsPlain.ascii {c : CodePoint} (plain : IsPlain c) : c.val < 0x80 := by
  rw [isPlain_iff_val] at plain
  omega

/-- None of the characters with a meaning in queries stands for itself. -/
theorem IsPlain.ne {c : CodePoint} (plain : IsPlain c) : c ≠ '+' ∧ c ≠ '%' ∧ c ≠ '&' ∧ c ≠ '=' := by
  rw [isPlain_iff_val] at plain
  refine ⟨?_, ?_, ?_, ?_⟩ <;> rintro rfl <;> exact absurd plain (by decide)

theorem isDigit_upper {c : CodePoint} {value : Nat} (digit : Hex.upperDigits[value]? = some c) :
    Hex.IsDigit c value := .inr digit

/-- Digits are plain characters. -/
theorem isPlain_upper {c : CodePoint} {value : Nat} (digit : Hex.upperDigits[value]? = some c) : IsPlain c := by
  have all : ∀ value < 16, IsPlain (CodePoint.ofHexValueUpper value) := by
    simp only [isPlain_iff_val]
    decide
  rw [Hex.upperDigits_eq, List.getElem?_map] at digit
  obtain ⟨n, found, rfl⟩ := Option.map_eq_some_iff.mp digit
  obtain ⟨small, same⟩ := List.getElem?_eq_some_iff.mp found
  rw [List.getElem_range] at same
  exact all n (by rw [← same]; simpa using small)

/-- What stands in a query: plain characters, plus signs and percent signs. -/
theorem Spells.mem {t : Text} {bytes : Bytes} (spells : Spells t bytes) :
    ∀ c ∈ t, IsPlain c ∨ c = '+' ∨ c = '%' := by
  induction spells with
  | nothing => exact nofun
  | plain plain _ ih => exact List.forall_mem_cons.mpr ⟨.inl plain, ih⟩
  | blank _ ih => exact List.forall_mem_cons.mpr ⟨.inr (.inl rfl), ih⟩
  | escape high low _ ih =>
    exact List.forall_mem_cons.mpr ⟨.inr (.inr rfl), List.forall_mem_cons.mpr ⟨.inl (isPlain_upper high),
      List.forall_mem_cons.mpr ⟨.inl (isPlain_upper low), ih⟩⟩⟩

theorem Spells.ascii {t : Text} {bytes : Bytes} (spells : Spells t bytes) : ∀ c ∈ t, c.val < 0x80 := by
  intro c inside
  rcases spells.mem c inside with plain | rfl | rfl
  · exact plain.ascii
  · decide
  · decide

theorem Spells.not_mem {t : Text} {bytes : Bytes} (spells : Spells t bytes) {c : CodePoint}
    (mark : ¬ IsPlain c) (plus : c ≠ '+') (percent : c ≠ '%') : c ∉ t := fun inside => by
  rcases spells.mem c inside with plain | same | same
  · exact mark plain
  · exact plus same
  · exact percent same

/-- Neither of the two separators stands in a query. -/
theorem Spells.separators {t : Text} {bytes : Bytes} (spells : Spells t bytes) :
    CodePoint.ofChar '&' ∉ t ∧ CodePoint.ofChar '=' ∉ t :=
  ⟨spells.not_mem (fun plain => plain.ne.2.2.1 rfl) (by decide) (by decide),
    spells.not_mem (fun plain => plain.ne.2.2.2 rfl) (by decide) (by decide)⟩

/-! ## What is written -/

theorem isPlain_iff {b : UInt8} : isPlain b = true ↔ IsPlain (Fin.ofNat 0x110000 b.toNat) := by
  have marks : ("_.-~" : Text) = [CodePoint.ofChar '_', CodePoint.ofChar '.', CodePoint.ofChar '-',
    CodePoint.ofChar '~'] := rfl
  unfold isPlain IsPlain
  rw [marks]
  simp only [Bool.or_eq_true, beq_iff_eq, List.mem_cons, List.not_mem_nil, or_false, or_assoc]

theorem upperDigits_getElem? {value : Nat} (small : value < 16) :
    Hex.upperDigits[value]? = some (CodePoint.ofHexValueUpper value) := by
  rw [Hex.upperDigits_eq, List.getElem?_map, List.getElem?_range small]
  rfl

theorem Spells.octet {rest : Text} {bytes : Bytes} (spells : Spells rest bytes) (b : UInt8) :
    Spells (encodeOctet b ++ rest) (b :: bytes) := by
  have small : b.toNat < 256 := b.toNat_lt
  unfold encodeOctet
  split
  · next plain =>
    have same : (Fin.ofNat 0x110000 b.toNat).val.toUInt8 = b := Utf8.octet_eq (Utf8.val_point (by omega))
    have spelled := Spells.plain (isPlain_iff.mp plain) spells
    rwa [same] at spelled
  · split
    · next space =>
      rw [space]
      exact .blank spells
    · have high : b.toNat / 16 < 16 := by omega
      have low : b.toNat % 16 < 16 := by omega
      have spelled := Spells.escape (upperDigits_getElem? high) (upperDigits_getElem? low) spells
      rwa [Utf8.octet_eq (b := b) (by omega)] at spelled

theorem spells_octets (bytes : Bytes) : Spells (bytes.flatMap encodeOctet) bytes := by
  induction bytes with
  | nil => exact .nothing
  | cons b rest ih => exact ih.octet b

/-- A text is written as a query that spells its octets. -/
theorem spells_encode {t : Text} {bytes : Bytes} (written : Utf8.encode t = .ok bytes) :
    ∃ query, encode t = .ok query ∧ Spells query bytes := by
  refine ⟨bytes.flatMap encodeOctet, ?_, spells_octets bytes⟩
  rw [encode, written]
  rfl

/-! ## What is read -/

/-- The octet of a character in ASCII; a plus sign is a space. -/
def octetOf (c : CodePoint) : UInt8 := if c = CodePoint.ofChar '+' then space else c.val.toUInt8

/-- In ASCII all octets are put together. -/
theorem decode_ascii {t : Text} (ascii : ∀ c ∈ t, c.val < 0x80) : decode t = decodeRun (t.map octetOf) := by
  have run : t.foldr (fun (c : CodePoint) (split : Bytes × Text) =>
      if c.val < 0x80 then (octetOf c :: split.1, split.2)
      else ([], c :: (decodeRun split.1 ++ split.2))) ([], []) = (t.map octetOf, []) := by
    induction t with
    | nil => rfl
    | cons c rest ih =>
      obtain ⟨first, others⟩ := List.forall_mem_cons.mp ascii
      rw [List.foldr_cons, ih others, if_pos first, List.map_cons]
  unfold decode
  unfold octetOf at run
  dsimp only
  rw [run]
  exact List.append_nil _

theorem octetOf_plain {c : CodePoint} (plain : IsPlain c) : octetOf c = c.val.toUInt8 :=
  if_neg plain.ne.1

theorem digit?_octet {c : CodePoint} (ascii : c.val < 0x80) : digit? c.val.toUInt8 = c.hexValue? := by
  unfold digit?
  rw [Utf8.toNat_octet (by omega)]
  exact congrArg CodePoint.hexValue? (Fin.ext (Utf8.val_point c.isLt))

theorem unescapeOnto_other {a : UInt8} (other : a ≠ 0x25) (done rest : Bytes) :
    unescapeOnto done (a :: rest) = unescapeOnto (a :: done) rest := by
  match rest with
  | [] | [_] => rfl
  | b :: c :: more => rw [unescapeOnto.eq_def]; simp only [other, decide_false]

theorem unescapeOnto_escape {b c : UInt8} {high low : Nat} (first : digit? b = some high)
    (second : digit? c = some low) (done rest : Bytes) :
    unescapeOnto done (0x25 :: b :: c :: rest) = unescapeOnto ((high * 16 + low).toUInt8 :: done) rest := by
  rw [unescapeOnto.eq_def]
  simp only [first, second, decide_true]

theorem unescapeOnto_of_spells {t : Text} {bytes : Bytes} (spells : Spells t bytes) (done : Bytes) :
    unescapeOnto done (t.map octetOf) = bytes.reverse ++ done := by
  induction spells generalizing done with
  | nothing => rfl
  | @plain c rest bytes plain _ ih =>
    have other : c.val.toUInt8 ≠ 0x25 := fun same => by
      have value := congrArg UInt8.toNat same
      rw [Utf8.toNat_octet (by have := plain.ascii; omega)] at value
      exact plain.ne.2.1 (Fin.ext value)
    rw [List.map_cons, octetOf_plain plain, unescapeOnto_other other, ih, List.reverse_cons, List.append_assoc]
    rfl
  | blank _ ih =>
    rw [List.map_cons, octetOf, if_pos rfl, unescapeOnto_other (by decide), ih, List.reverse_cons,
      List.append_assoc]
    rfl
  | @escape c d high low rest bytes first second _ ih =>
    have plain := isPlain_upper first
    have plain' := isPlain_upper second
    have value : digit? c.val.toUInt8 = some high := by
      rw [digit?_octet plain.ascii]
      exact Hex.hexValue?_eq_some_iff.mpr (isDigit_upper first)
    have value' : digit? d.val.toUInt8 = some low := by
      rw [digit?_octet plain'.ascii]
      exact Hex.hexValue?_eq_some_iff.mpr (isDigit_upper second)
    have sign : octetOf '%' = 0x25 := by decide
    rw [List.map_cons, List.map_cons, List.map_cons, octetOf_plain plain, octetOf_plain plain', sign,
      unescapeOnto_escape value value', ih, List.reverse_cons, List.append_assoc]
    rfl

/-- What has this form is read as the text that its octets are. -/
theorem decode_of_spells {query t : Text} {bytes : Bytes} (spells : Spells query bytes)
    (written : Utf8.encode t = .ok bytes) : decode query = t := by
  rw [decode_ascii spells.ascii, decodeRun, unescapeOnto_of_spells spells, List.append_nil,
    List.reverse_reverse]
  exact Utf8.decodeLossy_encode written

end PolicyHost.Query
