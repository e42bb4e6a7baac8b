import PolicyHost.Proofs.Json.Lexemes

/-!
# Strings in ASCII

A string may be written with nothing but printable ASCII: all else is escaped by 16-bit units, two of them
above U+FFFF. A reader recovers each scalar value from what it is written as, since the two halves of a pair
are joined again. A surrogate would be joined with one behind it.

* `ofPair_pair`: the halves of a pair spell what they were made of.
* `recoversAt_asciiPoint`: what is recovered; `isAscii_asciiPoint`: what is written.
-/

namespace PolicyHost

namespace CodePoint

variable {c : CodePoint}

theorem ofNat_val (c : CodePoint) : Fin.ofNat 0x110000 c.val = c := Fin.ext (Nat.mod_eq_of_lt c.isLt)

theorem pair_val (astral : 0x10000 ≤ c.val) :
    c.pair.1.val = 0xD800 + (c.val - 0x10000) / 0x400 ∧ c.pair.2.val = 0xDC00 + (c.val - 0x10000) % 0x400 := by
  have bound := c.isLt
  exact ⟨Nat.mod_eq_of_lt (by omega), Nat.mod_eq_of_lt (by omega)⟩

/-- The first of the two units is one that waits for a second one. -/
theorem halves_pair (astral : 0x10000 ≤ c.val) : c.pair.1.isHigh = true ∧ c.pair.2.isLow = true := by
  obtain ⟨high, low⟩ := pair_val astral
  have bound := c.isLt
  rw [isHigh, isLow, high, low]
  simp only [Bool.and_eq_true, decide_eq_true_eq]
  omega

theorem ofPair_pair (astral : 0x10000 ≤ c.val) : ofPair c.pair.1 c.pair.2 = c := by
  obtain ⟨high, low⟩ := pair_val astral
  refine Fin.ext ?_
  rw [ofPair, high, low]
  have bound := c.isLt
  exact (Nat.mod_eq_of_lt (by omega)).trans (by omega)

end CodePoint

namespace Json

open CodePoint

variable {c : CodePoint}

/-- Two escaped halves of a pair are joined. -/
theorem scanString_pairEscape [Room] {high low : CodePoint} (first : high.isHigh = true)
    (second : low.isLow = true)
    (opening offset : Nat) (acc : Text) {rest : Text} (more : rest ≠ []) :
    scanString opening offset acc false (unitEscape high.val ++ unitEscape low.val ++ rest) =
      scanString opening (offset + 6 + 6) (ofPair high low :: acc) false rest := by
  have waits : pushUnit high false acc = (high :: acc, true) := by simp [pushUnit, first]
  have joins : pushUnit low true (high :: acc) = (ofPair high low :: acc, false) := by simp [pushUnit, second]
  simp only [isHigh, Bool.and_eq_true, decide_eq_true_eq] at first
  simp only [isLow, Bool.and_eq_true, decide_eq_true_eq] at second
  rw [List.append_assoc, scanString_unitEscape opening offset acc false (by omega) (by simp [more]), ofNat_val,
    waits, scanString_unitEscape opening _ _ true (by omega) more, ofNat_val, joins]

/-- A scalar value is recovered from what it is written as. -/
theorem recoversAt_asciiPoint [Room] (scalar : c.isSurrogate = false) : RecoversAt asciiPoint c := by
  intro opening offset acc rest more
  unfold asciiPoint
  split
  · next escape short =>
    obtain ⟨e, rfl, other, value⟩ := shortEscape?_eq_some short
    exact ⟨offset + 2, scanString_escape opening offset acc false value other rest⟩
  · next long =>
    obtain ⟨mark, escape⟩ := shortEscape?_eq_none long
    split
    · next visible => exact ⟨offset + 1, scanString_plain opening offset acc false mark escape visible.1 rest⟩
    · split
      · next unit =>
        have high : c.isHigh = false := by
          simp only [isSurrogate, Bool.and_eq_false_iff, decide_eq_false_iff_not] at scalar
          simp only [isHigh, Bool.and_eq_false_iff, decide_eq_false_iff_not]
          omega
        refine ⟨offset + 6, ?_⟩
        rw [scanString_unitEscape opening offset acc false unit more, ofNat_val]
        simp [pushUnit, high]
      · next astral =>
        have beyond : 0x10000 ≤ c.val := Nat.le_of_not_lt astral
        obtain ⟨high, low⟩ := halves_pair beyond
        refine ⟨offset + 6 + 6, ?_⟩
        rw [scanString_pairEscape high low opening offset acc more, ofPair_pair beyond]

theorem begins_quoteWith_ascii [Room] {t : Text} (scalar : ∀ c ∈ t, c.isSurrogate = false) (tail : Text) :
    Begins (quoteWith asciiPoint t ++ tail) (.string t) tail :=
  begins_quoteWith (fun c inside => recoversAt_asciiPoint (scalar c inside)) tail

/-! ## What is written -/

def IsAscii (t : Text) : Prop := ∀ c ∈ t, c.val < 0x80

theorem isAscii_of_all {t : Text} (all : t.all (fun c => decide (c.val < 0x80)) = true) : IsAscii t :=
  fun c member => of_decide_eq_true (List.all_eq_true.mp all c member)

theorem IsAscii.append {t u : Text} (first : IsAscii t) (second : IsAscii u) : IsAscii (t ++ u) :=
  List.forall_mem_append.mpr ⟨first, second⟩

theorem isAscii_hexDigits (width n : Nat) : IsAscii (Text.hexDigits width n) := by
  induction width generalizing n with
  | zero => exact nofun
  | succ width ih =>
    have digit : ∀ d < 16, (ofHexValue d).val < 0x80 := by decide
    exact (ih _).append (List.forall_mem_singleton.mpr (digit _ (Nat.mod_lt _ (by decide))))

theorem isAscii_unitEscape (n : Nat) : IsAscii (unitEscape n) :=
  IsAscii.append (isAscii_of_all (by decide)) (isAscii_hexDigits 4 n)

theorem isAscii_asciiPoint (c : CodePoint) : IsAscii (asciiPoint c) := by
  unfold asciiPoint
  split
  · next escape short =>
    unfold shortEscape? at short
    repeat' split at short
    all_goals cases short
    all_goals exact isAscii_of_all (by decide)
  · split
    · next visible => exact List.forall_mem_singleton.mpr (by omega)
    · split
      · exact isAscii_unitEscape _
      · exact (isAscii_unitEscape _).append (isAscii_unitEscape _)

theorem isAscii_quoteWith (t : Text) : IsAscii (quoteWith asciiPoint t) := by
  have body : IsAscii (t.flatMap asciiPoint) := by
    intro d inside
    obtain ⟨c, -, written⟩ := List.mem_flatMap.mp inside
    exact isAscii_asciiPoint c d written
  have quote : IsAscii "\"" := isAscii_of_all (by decide)
  exact (quote.append body).append quote

end Json

end PolicyHost
