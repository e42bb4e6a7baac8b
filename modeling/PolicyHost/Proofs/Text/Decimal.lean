import PolicyHost.Text.Basic

/-!
# Decimal numerals of natural numbers

The numeral of a natural number consists of digits, starts with a zero only if it is zero, and has
the value of the number.
-/

namespace PolicyHost.Text

theorem ofNat_eq (n : Nat) : ofNat n = (Nat.toDigits 10 n).map CodePoint.ofChar := by
  unfold ofNat ofString
  rw [Nat.toList_repr]

theorem isDigit_ofChar {c : Char} (digit : c.isDigit = true) : (CodePoint.ofChar c).isDigit = true := by
  have bounds : 48 ≤ c.toNat ∧ c.toNat ≤ 57 := by
    simpa [Char.isDigit, UInt32.le_iff_toNat_le] using digit
  unfold CodePoint.isDigit
  rw [Bool.and_eq_true, decide_eq_true_eq, decide_eq_true_eq]
  exact bounds

theorem isDigit_of_mem_ofNat {n : Nat} {c : CodePoint} (member : c ∈ ofNat n) : c.isDigit = true := by
  rw [ofNat_eq] at member
  obtain ⟨digit, inside, rfl⟩ := List.mem_map.mp member
  exact isDigit_ofChar (Nat.isDigit_of_mem_toDigits (by decide) (by decide) inside)

theorem ofNat_ne_nil (n : Nat) : ofNat n ≠ [] := by
  simp [ofNat_eq]

/-- Only zero has a numeral that starts with a zero. -/
theorem head?_ofNat_ne_zero {n : Nat} (positive : 0 < n) : (ofNat n).head? ≠ some ('0' : CodePoint) := by
  induction n using Nat.strongRecOn with
  | ind n ih =>
    rw [ofNat_eq, Nat.toDigits_eq_if (by decide)]
    split
    · next small =>
      intro zero
      have digit : (Nat.digitChar n).toNat = 48 := congrArg Fin.val (Option.some.inj zero)
      rw [Nat.toNat_digitChar_of_lt_ten small] at digit
      omega
    · have higher := ih (n / 10) (by omega) (by omega)
      rw [List.map_append, ← ofNat_eq, List.head?_append]
      cases first : (ofNat (n / 10)).head? with
      | none => exact absurd (List.head?_eq_none_iff.mp first) (ofNat_ne_nil _)
      | some c =>
        rw [first] at higher
        exact higher

theorem digitsValue_ofNat (n : Nat) : digitsValue (ofNat n) = n := by
  have value := Nat.ofDigitChars_ten_toDigits (n := n)
  rw [Nat.ofDigitChars_eq_foldl] at value
  rw [ofNat_eq, digitsValue, List.foldl_map]
  simpa [CodePoint.ofChar, Nat.mul_comm] using value

theorem length_ofNat_le_iff {n k : Nat} (positive : 0 < k) : (ofNat n).length ≤ k ↔ n < 10 ^ k := by
  rw [ofNat_eq, List.length_map]
  exact Nat.length_toDigits_le_iff (by decide) positive

end PolicyHost.Text
