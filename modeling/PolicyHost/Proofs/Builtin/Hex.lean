import Mathlib.Data.List.Basic
import PolicyHost.Builtin.Standard
import PolicyHost.Proofs.Outcome
import PolicyHost.Proofs.Text.Scan

/-!
# The octets that hexadecimal digits spell

Pairs of digits of either case spell octets. Blanks may stand in front of pairs and behind them, and not
within a pair. Texts of this form are read, and no others.

* `Spells`: which texts spell which octets.
* `octets_eq_ok_iff`, `decode_eq_ok_iff`: what is read.
* `spells_hex`: the digits that are written are of this form.
-/

namespace PolicyHost.Hex

def blanks : Text := " \t\n\x0b\x0c\r"

/-- The digits in lower case, each in the place of its value. -/
def lowerDigits : Text := "0123456789abcdef"

def upperDigits : Text := "0123456789ABCDEF"

/-- A digit of either case, and its value. -/
def IsDigit (c : CodePoint) (value : Nat) : Prop :=
  lowerDigits[value]? = some c ∨ upperDigits[value]? = some c

/-- A text spells octets, two digits for each of them. -/
inductive Spells : Text → Bytes → Prop
  | nothing : Spells [] []
  | blank {c : CodePoint} {rest : Text} {bytes : Bytes} :
      c ∈ blanks → Spells rest bytes → Spells (c :: rest) bytes
  | pair {c d : CodePoint} {high low : Nat} {rest : Text} {bytes : Bytes} :
      IsDigit c high → IsDigit d low → Spells rest bytes →
      Spells (c :: d :: rest) ((high * 16 + low).toUInt8 :: bytes)

/-! ## Digits and blanks -/

theorem mem_blanks_iff {c : CodePoint} : c ∈ blanks ↔ c.val = 0x20 ∨ (0x9 ≤ c.val ∧ c.val ≤ 0xD) := by
  have listed : blanks = [(⟨0x20, by decide⟩ : CodePoint), ⟨0x9, by decide⟩, ⟨0xA, by decide⟩,
    ⟨0xB, by decide⟩, ⟨0xC, by decide⟩, ⟨0xD, by decide⟩] := rfl
  rw [listed]
  simp only [List.mem_cons, List.not_mem_nil, or_false, Fin.ext_iff]
  omega

theorem isGap_iff {c : CodePoint} : isGap c = true ↔ c ∈ blanks := by
  rw [mem_blanks_iff, isGap, Bool.or_eq_true, Bool.and_eq_true, decide_eq_true_eq, decide_eq_true_eq,
    decide_eq_true_eq]

theorem lowerDigits_eq : lowerDigits = (List.range 16).map CodePoint.ofHexValue := rfl

theorem upperDigits_eq : upperDigits = (List.range 16).map CodePoint.ofHexValueUpper := rfl

theorem isDigit_iff {c : CodePoint} {value : Nat} :
    IsDigit c value ↔
      value < 16 ∧ (CodePoint.ofHexValue value = c ∨ CodePoint.ofHexValueUpper value = c) := by
  unfold IsDigit
  rw [lowerDigits_eq, upperDigits_eq, List.getElem?_map, List.getElem?_map]
  by_cases small : value < 16
  · simp [small]
  · simp [small]

theorem hexValue?_ofHexValue_either {value : Nat} (small : value < 16) :
    (CodePoint.ofHexValue value).hexValue? = some value ∧
      (CodePoint.ofHexValueUpper value).hexValue? = some value := by
  decide +revert

/-- The reader takes the digits of both cases, and nothing else. -/
theorem hexValue?_eq_some_iff {c : CodePoint} {value : Nat} :
    c.hexValue? = some value ↔ IsDigit c value := by
  rw [isDigit_iff]
  constructor
  · intro read
    unfold CodePoint.hexValue? at read
    split at read
    · next digit =>
      cases read
      refine ⟨by omega, .inl (Fin.ext ?_)⟩
      rw [CodePoint.ofHexValue, if_pos (by omega), Utf8.val_point (by omega)]
      omega
    · split at read
      · next upper =>
        cases read
        refine ⟨by omega, .inr (Fin.ext ?_)⟩
        rw [CodePoint.ofHexValueUpper, if_neg (by omega), Utf8.val_point (by omega)]
        omega
      · split at read
        · next lower =>
          cases read
          refine ⟨by omega, .inl (Fin.ext ?_)⟩
          rw [CodePoint.ofHexValue, if_neg (by omega), Utf8.val_point (by omega)]
          omega
        · cases read
  · rintro ⟨small, rfl | rfl⟩
    · exact (hexValue?_ofHexValue_either small).1
    · exact (hexValue?_ofHexValue_either small).2

theorem hexValue?_blank {c : CodePoint} (blank : c ∈ blanks) : c.hexValue? = none := by
  rw [mem_blanks_iff] at blank
  unfold CodePoint.hexValue?
  rw [if_neg (by omega), if_neg (by omega), if_neg (by omega)]

theorem ascii_ofHexValue_either {value : Nat} (small : value < 16) :
    (CodePoint.ofHexValue value).val < 0x80 ∧ (CodePoint.ofHexValueUpper value).val < 0x80 := by
  decide +revert

theorem IsDigit.ascii {c : CodePoint} {value : Nat} (digit : IsDigit c value) : c.val < 0x80 := by
  obtain ⟨small, rfl | rfl⟩ := isDigit_iff.mp digit
  · exact (ascii_ofHexValue_either small).1
  · exact (ascii_ofHexValue_either small).2

theorem Spells.ascii {t : Text} {bytes : Bytes} (spells : Spells t bytes) : ∀ c ∈ t, c.val < 0x80 := by
  induction spells with
  | nothing => exact nofun
  | blank blank _ ih =>
    rw [mem_blanks_iff] at blank
    exact List.forall_mem_cons.mpr ⟨by omega, ih⟩
  | pair high low _ ih => exact List.forall_mem_cons.mpr ⟨high.ascii, List.forall_mem_cons.mpr ⟨low.ascii, ih⟩⟩

/-! ## What is read -/

theorem decodeFrom_blank {c : CodePoint} (blank : c ∈ blanks) (position : Nat) (done : Bytes) (rest : Text) :
    decodeFrom position done (c :: rest) = decodeFrom (position + 1) done rest := by
  rw [decodeFrom.eq_def]
  dsimp only
  rw [if_pos (isGap_iff.mpr blank)]

theorem decodeFrom_pair {c d : CodePoint} {high low : Nat} (first : IsDigit c high) (second : IsDigit d low)
    (position : Nat) (done : Bytes) (rest : Text) :
    decodeFrom position done (c :: d :: rest) =
      decodeFrom (position + 2) ((high * 16 + low).toUInt8 :: done) rest := by
  have value := hexValue?_eq_some_iff.mpr first
  have solid : ¬ isGap c = true := fun gap => by
    rw [hexValue?_blank (isGap_iff.mp gap)] at value
    cases value
  rw [decodeFrom.eq_def]
  dsimp only
  rw [if_neg solid, value]
  dsimp only
  rw [hexValue?_eq_some_iff.mpr second]

theorem decodeFrom_of_spells {t : Text} {bytes : Bytes} (spells : Spells t bytes) (position : Nat)
    (done : Bytes) : decodeFrom position done t = .ok (done.reverse ++ bytes) := by
  induction spells generalizing position done with
  | nothing => rw [decodeFrom, List.append_nil]
  | blank blank _ ih => rw [decodeFrom_blank blank, ih]
  | pair high low _ ih =>
    rw [decodeFrom_pair high low, ih, List.reverse_cons, List.append_assoc, List.singleton_append]

theorem spells_of_decodeFrom {position : Nat} {done bytes : Bytes} {t : Text}
    (read : decodeFrom position done t = .ok bytes) : ∃ more, Spells t more := by
  induction position, done, t using decodeFrom.induct with
  | case1 => exact ⟨[], .nothing⟩
  | case2 position done c rest gap ih =>
    rw [decodeFrom_blank (isGap_iff.mp gap)] at read
    obtain ⟨more, spells⟩ := ih read
    exact ⟨more, .blank (isGap_iff.mp gap) spells⟩
  | case3 position done c rest solid other =>
    -- Neither a blank nor a digit.
    rw [decodeFrom.eq_def] at read
    dsimp only at read
    rw [if_neg solid, other] at read
    cases read
  | case4 position done c solid high first =>
    -- A digit at the end.
    rw [decodeFrom.eq_def] at read
    dsimp only at read
    rw [if_neg solid, first] at read
    cases read
  | case5 position done c solid high d more first other =>
    -- A digit with something else behind it.
    rw [decodeFrom.eq_def] at read
    dsimp only at read
    rw [if_neg solid, first] at read
    dsimp only at read
    rw [other] at read
    cases read
  | case6 position done c solid high d more first low second ih =>
    rw [decodeFrom_pair (hexValue?_eq_some_iff.mp first) (hexValue?_eq_some_iff.mp second)] at read
    obtain ⟨others, spells⟩ := ih read
    exact ⟨_, .pair (hexValue?_eq_some_iff.mp first) (hexValue?_eq_some_iff.mp second) spells⟩

theorem octets_eq_ok_iff {t : Text} {bytes : Bytes} : octets t = .ok bytes ↔ Spells t bytes := by
  unfold octets
  dsimp only
  constructor
  · intro read
    split at read
    · cases read
    · obtain ⟨more, spells⟩ := spells_of_decodeFrom read
      rw [decodeFrom_of_spells spells] at read
      cases read
      exact spells
  · intro spells
    have ascii : t.takeWhile (fun c : CodePoint => decide (c.val < 0x80)) = t :=
      List.takeWhile_eq_self_iff.mpr fun c inside => decide_eq_true (spells.ascii c inside)
    rw [ascii, if_neg (Nat.lt_irrefl _)]
    exact decodeFrom_of_spells spells 0 []

/-- A text is read just when digits spell the octets that its reading is written as. -/
theorem decode_eq_ok_iff {x t : Text} :
    decode x = .ok t ↔ ∃ bytes, Spells x bytes ∧ Utf8.encode t = .ok bytes := by
  unfold decode
  constructor
  · intro read
    cases digits : octets x with
    | error position =>
      rw [digits] at read
      cases read
    | ok bytes =>
      rw [digits] at read
      have written := Outcome.mapError_eq_ok_iff.mp read
      exact ⟨bytes, octets_eq_ok_iff.mp digits, Utf8.decode_eq_ok_iff.mp written⟩
  · rintro ⟨bytes, spells, written⟩
    rw [octets_eq_ok_iff.mpr spells]
    exact Outcome.mapError_eq_ok_iff.mpr (Utf8.decode_eq_ok_iff.mpr written)

/-! ## What is written -/

theorem isDigit_lower {value : Nat} (small : value < 16) : IsDigit (CodePoint.ofHexValue value) value :=
  isDigit_iff.mpr ⟨small, .inl rfl⟩

theorem spells_hex (bytes : Bytes) : Spells (Text.hex bytes) bytes := by
  induction bytes with
  | nil => exact .nothing
  | cons b rest ih =>
    have small : b.toNat < 256 := b.toNat_lt
    have high : b.toNat / 16 < 16 := by omega
    have low : b.toNat % 16 < 16 := by omega
    have pair := Spells.pair (isDigit_lower high) (isDigit_lower low) ih
    rw [Utf8.octet_eq (b := b) (by omega)] at pair
    exact pair

theorem mem_lowerDigits_of_mem_hex {bytes : Bytes} {c : CodePoint} (member : c ∈ Text.hex bytes) :
    c ∈ lowerDigits := by
  obtain ⟨b, -, inside⟩ := List.mem_flatMap.mp member
  have small : b.toNat < 256 := b.toNat_lt
  rw [lowerDigits_eq]
  simp only [Text.hexByte, List.mem_cons, List.not_mem_nil, or_false] at inside
  rcases inside with rfl | rfl
  · exact List.mem_map_of_mem (List.mem_range.mpr (by omega))
  · exact List.mem_map_of_mem (List.mem_range.mpr (by omega))

end PolicyHost.Hex
