import Mathlib.Data.List.TakeWhile
import PolicyHost.Proofs.Json.Numerals
import PolicyHost.Proofs.Text.Decimal

/-!
# Numbers as they are written

An integer is written as a numeral whose value it is. Of a floating-point number no more is known
than that its text consists of numeral points; if the text is read as the number, it is one numeral.

* `spells_ofInt`, `value_ofInt`: integers.
* `ReadsBack`, `ReadsBack.spells`: floating-point numbers that are read as they are written.
-/

namespace PolicyHost.Json

/-! ## Integers -/

theorem numeric_ofNat (n : Nat) : Numeric (Text.ofNat n) := fun _ member =>
  isNumeralPoint_of_isDigit (Text.isDigit_of_mem_ofNat member)

theorem numeric_cons {c : CodePoint} {t : Text} (first : isNumeralPoint c = true) (rest : Numeric t) :
    Numeric (c :: t) := List.forall_mem_cons.mpr ⟨first, rest⟩

theorem Numeric.append {t u : Text} (first : Numeric t) (rest : Numeric u) : Numeric (t ++ u) :=
  List.forall_mem_append.mpr ⟨first, rest⟩

theorem numeric_ofInt (n : Int) : Numeric (Text.ofInt n) := by
  cases n with
  | ofNat n => exact numeric_ofNat n
  | negSucc n => exact numeric_cons (by decide) (numeric_ofNat (n + 1))

theorem scanWhole_digits {t : Text} (digits : ∀ c ∈ t, c.isDigit = true)
    (first : t.head? ≠ some ('0' : CodePoint)) : scanWhole t = (t, []) := by
  cases t with
  | nil => rfl
  | cons c rest =>
    have other : c ≠ '0' := fun same => first (congrArg some same)
    rw [scanWhole, if_neg other, spanDigits, List.takeWhile_eq_self_iff.mpr digits,
      List.dropWhile_eq_nil_iff.mpr digits]

/-- Digits that do not start with a zero are a numeral. -/
theorem spells_digits {t : Text} (digits : ∀ c ∈ t, c.isDigit = true)
    (nonempty : t ≠ []) (first : t.head? ≠ some ('0' : CodePoint)) : Spells t ⟨false, t, [], none⟩ := by
  have unsigned : splitMinus t = (false, t) := by
    obtain ⟨c, rest, rfl⟩ := List.exists_cons_of_ne_nil nonempty
    refine if_neg ?_
    rintro rfl
    cases digits _ List.mem_cons_self
  unfold Spells
  rw [scanNumeral_eq, unsigned]
  dsimp only
  rw [scanWhole_digits digits first, if_neg nonempty]
  exact ⟨_, rfl⟩

theorem scanWhole_ofNat (n : Nat) : scanWhole (Text.ofNat n) = (Text.ofNat n, []) := by
  rcases Nat.eq_zero_or_pos n with rfl | positive
  · rfl
  · exact scanWhole_digits (fun _ => Text.isDigit_of_mem_ofNat) (Text.head?_ofNat_ne_zero positive)

/-- The numeral of an integer. -/
theorem spells_ofInt (n : Int) :
    Spells (Text.ofInt n) ⟨decide (n < 0), Text.ofNat n.natAbs, [], none⟩ := by
  have nonneg (n : Nat) : splitMinus (Text.ofNat n) = (false, Text.ofNat n) := by
    obtain ⟨c, rest, cut⟩ := List.exists_cons_of_ne_nil (Text.ofNat_ne_nil n)
    have digit : c.isDigit = true := Text.isDigit_of_mem_ofNat (cut ▸ List.mem_cons_self)
    have other : c ≠ ('-' : CodePoint) := by
      rintro rfl
      cases digit
    rw [cut]
    exact if_neg other
  have minus (t : Text) : splitMinus (('-' : CodePoint) :: t) = (true, t) := rfl
  cases n with
  | ofNat n =>
    unfold Spells
    rw [scanNumeral_eq, Text.ofInt, nonneg]
    dsimp only
    rw [scanWhole_ofNat, if_neg (Text.ofNat_ne_nil n)]
    exact ⟨_, rfl⟩
  | negSucc n =>
    unfold Spells
    rw [scanNumeral_eq, Text.ofInt, minus, decide_eq_true (Int.negSucc_lt_zero n)]
    dsimp only
    rw [scanWhole_ofNat, if_neg (Text.ofNat_ne_nil (n + 1))]
    exact ⟨_, rfl⟩

theorem value_ofInt {n : Int} (short : n.natAbs < 10 ^ maxDigits) :
    Numeral.value ⟨decide (n < 0), Text.ofNat n.natAbs, [], none⟩ = .ok (.int n) := by
  have length := (Text.length_ofNat_le_iff (show 0 < maxDigits by decide)).mpr short
  simp only [Numeral.value]
  rw [if_neg (Nat.not_lt.mpr length), Text.digitsValue_ofNat]
  refine congrArg (fun value => Except.ok (Json.int value)) ?_
  split
  · next negative =>
    have := of_decide_eq_true negative
    omega
  · next nonneg =>
    have := of_decide_eq_false (Bool.eq_false_iff.mpr nonneg)
    omega

/-- The numeral of too many digits has no value. -/
theorem value_digits {t : Text} (long : maxDigits < t.length) :
    Numeral.value ⟨false, t, [], none⟩ = .error (.longInteger t.length) :=
  if_pos long

/-! ## Floating-point numbers -/

/-- A floating-point number is read as it is written. -/
def ReadsBack [Room] (x : Float) : Prop := read (Decimal.ofFloat writtenSpecials x) = .ok (.float x)

theorem numeric_replicate (n : Nat) {c : CodePoint} (numeric : isNumeralPoint c = true) :
    Numeric (List.replicate n c) := fun _ member => List.eq_of_mem_replicate member ▸ numeric

theorem numeric_padded (width n : Nat) : Numeric (Text.padded width n) :=
  (numeric_replicate _ (by decide)).append (numeric_ofNat n)

theorem numeric_of_all {t : Text} (all : t.all isNumeralPoint = true) : Numeric t :=
  List.all_eq_true.mp all

theorem numeric_positional {digits : Text} (numeric : Numeric digits) (point : Int) :
    Numeric (Decimal.positional digits point) := by
  have zeros (n : Nat) := numeric_replicate n (c := '0') (by decide)
  unfold Decimal.positional
  split
  · exact ((numeric_of_all (by decide)).append (zeros _)).append numeric
  · split
    · exact (numeric.append (zeros _)).append (numeric_of_all (by decide))
    · have before : Numeric (digits.take point.toNat) := fun c member =>
        numeric c (List.mem_of_mem_take member)
      have behind : Numeric (digits.drop point.toNat) := fun c member =>
        numeric c (List.mem_of_mem_drop member)
      exact (before.append (numeric_of_all (by decide))).append behind

theorem numeric_scientific {digits : Text} (numeric : Numeric digits) (exponent : Int) :
    Numeric (Decimal.scientific digits exponent) := by
  unfold Decimal.scientific
  refine Numeric.append (Numeric.append ?_ ?_) (numeric_padded _ _)
  · split
    · exact numeric
    · exact numeric
    · obtain ⟨first, rest⟩ := List.forall_mem_cons.mp numeric
      exact numeric_cons first (numeric_cons (by decide) rest)
  · split <;> exact numeric_of_all (by decide)

theorem isNaN_isInf_of_isFinite {x : Float} (finite : x.isFinite = true) :
    x.isNaN = false ∧ x.isInf = false := by
  unfold Float.isFinite Float.Model.isFinite at finite
  unfold Float.isNaN Float.isInf Float.Model.isNaN Float.Model.isInf
  generalize x.toModel.unpack = unpacked at finite ⊢
  cases unpacked <;> first | exact ⟨rfl, rfl⟩ | cases finite

theorem numeric_ofFloat {x : Float} (finite : x.isFinite = true) :
    Numeric (Decimal.ofFloat writtenSpecials x) := by
  obtain ⟨number, bounded⟩ := isNaN_isInf_of_isFinite finite
  unfold Decimal.ofFloat
  rw [if_neg (Bool.eq_false_iff.mp number), if_neg (Bool.eq_false_iff.mp bounded)]
  have sign (negative : Prop) [Decidable negative] :
      Numeric (if negative then ("-" : Text) else []) := by
    split
    · exact numeric_of_all (by decide)
    · exact nofun
  dsimp only
  split
  · exact (sign _).append (numeric_of_all (by decide))
  · refine (sign _).append ?_
    unfold Decimal.Scaled.layout
    dsimp only
    split
    · exact numeric_positional (numeric_ofNat _) _
    · exact numeric_scientific (numeric_ofNat _) _

theorem Numeric.scanAt {c : CodePoint} {rest : Text} (numeric : Numeric (c :: rest)) (offset : Nat) :
    scanAt offset c rest =
      match scanNumeral (c :: rest) with
      | some (value, width, tail) => ⟨.numeral value, offset + width, tail⟩
      | none => ⟨.stray, offset, []⟩ :=
  scanAt_numeral (numeric c List.mem_cons_self)
    (fun _ d _ behind => numeric d (by simp [behind])) offset

theorem Numeric.lexemesFrom_cons [Room] {c : CodePoint} {rest : Text} (numeric : Numeric (c :: rest))
    (steps offset : Nat) :
    lexemesFrom offset [] (steps + 1) (c :: rest) =
      ⟨offset, (Json.scanAt offset c rest).token⟩ ::
        lexemesFrom (Json.scanAt offset c rest).offset [] steps (Json.scanAt offset c rest).rest :=
  Json.lexemesFrom_cons (isGap_of_isNumeralPoint (numeric c List.mem_cons_self)) steps offset rest

/-- Nothing but the end may follow a value that nothing encloses, least of all another numeral. -/
theorem Numeric.nil_of_after [Room] {t : Text} (numeric : Numeric t) {value : Json} {steps offset : Nat}
    (enough : t.length ≤ steps) {last : Reader}
    (done : (lexemesFrom offset [] steps t).foldlM Reader.step ⟨[], .after value⟩ = .ok last) :
    t = [] ∧ last = ⟨[], .finished value⟩ := by
  cases t with
  | nil =>
    cases steps <;> cases done <;> exact ⟨rfl, rfl⟩
  | cons c rest =>
    obtain ⟨more, rfl⟩ : ∃ more, steps = more + 1 := ⟨steps - 1, by simp at enough; omega⟩
    rw [numeric.lexemesFrom_cons, numeric.scanAt, List.foldlM_cons] at done
    cases found : scanNumeral (c :: rest) <;> rw [found] at done <;> cases done

theorem foldlM_of_read [Room] {t : Text} {value : Json} (done : read t = .ok value) :
    ∃ stack, (lexemes t).foldlM Reader.step ⟨[], .value false⟩ = .ok ⟨stack, .finished value⟩ := by
  unfold read at done
  split at done
  · next stack held found =>
    cases done
    exact ⟨stack, found⟩
  all_goals cases done

/-- A text of numeral points that is read as a value is one numeral, which has that value. -/
theorem Numeric.spells_of_read [Room] {t : Text} (numeric : Numeric t) {value : Json}
    (done : read t = .ok value) : ∃ n, Spells t n ∧ n.value = .ok value := by
  obtain ⟨stack, steps⟩ := foldlM_of_read done
  cases t with
  | nil => cases steps
  | cons c rest =>
    rw [lexemes, List.length_cons, numeric.lexemesFrom_cons, numeric.scanAt, List.foldlM_cons] at steps
    cases found : scanNumeral (c :: rest) with
    | none =>
      rw [found] at steps
      cases steps
    | some scanned =>
      obtain ⟨n, width, tail⟩ := scanned
      obtain ⟨suffix, shorter⟩ := scanNumeral_suffix found
      -- What the numeral leaves consists of numeral points as well, so it would begin another one.
      have behind : Numeric tail := fun d member => numeric d (suffix.mem member)
      have first : Reader.step ⟨[], .value false⟩ ⟨0, .numeral n⟩ =
          n.value.map fun held => ⟨[], .after held⟩ := rfl
      rw [found] at steps
      dsimp only at steps
      rw [first] at steps
      cases valued : n.value with
      | error halt =>
        rw [valued] at steps
        cases steps
      | ok held =>
        rw [valued] at steps
        obtain ⟨rfl, ended⟩ := behind.nil_of_after (Nat.lt_succ_iff.mp shorter) steps
        cases ended
        exact ⟨n, ⟨width, found⟩, valued⟩

theorem ReadsBack.spells [Room] {x : Float} (back : ReadsBack x) (finite : x.isFinite = true) :
    ∃ n, Spells (Decimal.ofFloat writtenSpecials x) n ∧ n.value = .ok (.float x) :=
  (numeric_ofFloat finite).spells_of_read back

end PolicyHost.Json
