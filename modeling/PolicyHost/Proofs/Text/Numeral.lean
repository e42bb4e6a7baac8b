import PolicyHost.Text.Numeral

/-!
# Numerals of digits alone

A text of decimal digits, of whatever scripts, is read as the number that they spell, unless there are
too many of them.
-/

namespace PolicyHost

namespace CodePoint

/-- A decimal digit lies in one of the runs of ten. -/
theorem exists_zero_of_isDecimal {c : CodePoint} (decimal : c.isDecimal = true) :
    ∃ start ∈ digitZeros, start ≤ c.val ∧ c.val < start + 10 := by
  unfold isDecimal decimal? at decimal
  split at decimal
  · split at decimal
    · next digit =>
      simp only [isDigit, Bool.and_eq_true, decide_eq_true_eq] at digit
      exact ⟨0x30, List.mem_cons_self, digit.1, Nat.lt_succ_of_le digit.2⟩
    · exact absurd decimal Bool.false_ne_true
  · rw [Option.isSome_map, List.find?_isSome] at decimal
    obtain ⟨start, member, within⟩ := decimal
    rw [Bool.and_eq_true, decide_eq_true_eq, decide_eq_true_eq] at within
    exact ⟨start, member, within⟩

/-- No run of digits meets a range of blanks. -/
theorem digits_apart_from_blanks :
    ∀ start ∈ digitZeros, ∀ range ∈ blankRanges, start + 10 ≤ range.1 ∨ range.2 < start := by
  decide

theorem not_isNumeralBlank_of_isDecimal {c : CodePoint} (decimal : c.isDecimal = true) :
    c.isNumeralBlank = false := by
  obtain ⟨start, run, within⟩ := exists_zero_of_isDecimal decimal
  have unblank : c.isBlank = false := by
    refine List.any_eq_false.mpr fun range member => ?_
    rw [Bool.and_eq_true, decide_eq_true_eq, decide_eq_true_eq]
    have apart := digits_apart_from_blanks start run range member
    omega
  rw [isNumeralBlank, unblank, Bool.false_and]

end CodePoint

namespace Numeral

/-- The number that the decimal digits in a text spell. -/
def spelled (t : Text) : Nat := value (t.filterMap CodePoint.decimal?)

theorem spanDigits_cons {c : CodePoint} (decimal : c.isDecimal = true) (acc : List Nat) (gap : Bool)
    (rest : Text) :
    ∃ digit, c.decimal? = some digit ∧
      spanDigits acc gap (c :: rest) = spanDigits (digit :: acc) false rest := by
  obtain ⟨digit, found⟩ := Option.isSome_iff_exists.mp decimal
  have apart : c ≠ '_' := fun same => absurd (same ▸ decimal) (by decide)
  refine ⟨digit, found, ?_⟩
  rw [spanDigits, if_neg apart, found]

theorem spanDigits_decimals {t : Text} (digits : ∀ c ∈ t, c.isDecimal = true) (acc : List Nat) :
    spanDigits acc false t = ((t.filterMap CodePoint.decimal?).reverse ++ acc, false, []) := by
  induction t generalizing acc with
  | nil => rfl
  | cons c rest ih =>
    obtain ⟨digit, found, step⟩ := spanDigits_cons (digits c List.mem_cons_self) acc false rest
    rw [step, ih fun c inside => digits c (List.mem_cons_of_mem _ inside), List.filterMap_cons_some found,
      List.reverse_cons, List.append_assoc]
    rfl

theorem length_filterMap_decimal? {t : Text} (digits : ∀ c ∈ t, c.isDecimal = true) :
    (t.filterMap CodePoint.decimal?).length = t.length := by
  induction t with
  | nil => rfl
  | cons c rest ih =>
    obtain ⟨digit, found⟩ := Option.isSome_iff_exists.mp (digits c List.mem_cons_self)
    rw [List.filterMap_cons_some found, List.length_cons, List.length_cons,
      ih fun c inside => digits c (List.mem_cons_of_mem _ inside)]

/-- A numeral of digits alone is read unless it is too long. -/
theorem read_decimals {t : Text} (nonempty : t ≠ []) (digits : ∀ c ∈ t, c.isDecimal = true) :
    read t = if maxDigits < t.length then .error (.long t.length) else .ok (spelled t) := by
  obtain ⟨first, rest, rfl⟩ := List.exists_cons_of_ne_nil nonempty
  have leads := digits first List.mem_cons_self
  have body : (first :: rest).dropWhile CodePoint.isNumeralBlank = first :: rest :=
    List.dropWhile_cons_of_neg (Bool.not_eq_true _ ▸ CodePoint.not_isNumeralBlank_of_isDecimal leads)
  have unsigned : first ≠ '-' ∧ first ≠ '+' :=
    ⟨fun same => absurd (same ▸ leads) (by decide), fun same => absurd (same ▸ leads) (by decide)⟩
  obtain ⟨digit, found, step⟩ := spanDigits_cons leads [] true rest
  have scan : spanDigits [] true (first :: rest) =
      (((first :: rest).filterMap CodePoint.decimal?).reverse, false, []) := by
    rw [step, spanDigits_decimals fun c inside => digits c (List.mem_cons_of_mem _ inside),
      List.filterMap_cons_some found, List.reverse_cons]
  have counted : ((first :: rest).filterMap CodePoint.decimal?).reverse.isEmpty = false := by
    simp [List.filterMap_cons_some found]
  unfold read
  simp only [body, if_neg unsigned.1, if_neg unsigned.2, scan, counted, Bool.or_false, Bool.false_eq_true,
    if_false, List.length_reverse, length_filterMap_decimal? digits, List.reverse_reverse, List.all_nil,
    if_true]
  rfl

end Numeral

end PolicyHost
