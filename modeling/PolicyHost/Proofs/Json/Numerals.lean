import PolicyHost.Proofs.Json.Lexemes

/-!
# Numerals in front of a text

A text that is one numeral stays one if something follows that no numeral could go on with.

* `isNumeralPoint`, `Apart`: what numerals consist of, and what may follow them.
* `scanNumeral_append`, `scanNumeral_suffix`: the frame of a numeral.
* `Spells`, `begins_numeral`: a text that is one numeral, and the lexeme it is.
-/

namespace PolicyHost.Json

def isNumeralPoint (c : CodePoint) : Bool :=
  c.isDigit || c == '-' || c == '+' || c == '.' || c == 'e' || c == 'E'

/-- A text of such code points only. -/
def Numeric (t : Text) : Prop := ∀ c ∈ t, isNumeralPoint c = true

/-- A text that no numeral could go on with. -/
def Apart (t : Text) : Prop := ∀ c rest, t = c :: rest → isNumeralPoint c = false

theorem apart_nil : Apart [] := nofun

theorem apart_cons {c : CodePoint} (other : isNumeralPoint c = false) (rest : Text) :
    Apart (c :: rest) := by
  rintro _ _ ⟨⟩
  exact other

theorem isNumeralPoint_of_isDigit {c : CodePoint} (digit : c.isDigit = true) :
    isNumeralPoint c = true := by
  simp [isNumeralPoint, digit]

/-- Points of numerals are ASCII, and none of the control characters. -/
theorem bounds_of_isNumeralPoint {c : CodePoint} (point : isNumeralPoint c = true) :
    0x20 ≤ c.val ∧ c.val < 0x80 := by
  simp only [isNumeralPoint, CodePoint.isDigit, Bool.or_eq_true, Bool.and_eq_true, decide_eq_true_eq,
    beq_iff_eq] at point
  rcases point with ((((digit | rfl) | rfl) | rfl) | rfl) | rfl
  · omega
  all_goals decide

/-! ## Parts of a numeral -/

/-- A minus in front of a text, and what follows it. -/
def splitMinus (t : Text) : Bool × Text :=
  match t with
  | c :: rest => if c = '-' then (true, rest) else (false, t)
  | [] => (false, t)

/-- The integer digits in front of a text, and what follows them. -/
def scanWhole (t : Text) : Text × Text :=
  match t with
  | c :: rest => if c = '0' then ([c], rest) else spanDigits t
  | [] => ([], [])

/-- A sign in front of a text, its width, and what follows it. -/
def splitSign (t : Text) : Bool × Nat × Text :=
  match t with
  | s :: more => if s = '-' then (true, 1, more) else if s = '+' then (false, 1, more) else (false, 0, t)
  | [] => (false, 0, t)

theorem scanExponent_cons (e : CodePoint) (rest : Text) :
    scanExponent (e :: rest) =
      if e = 'e' ∨ e = 'E' then
        let signed := splitSign rest
        let digits := spanDigits signed.2.2
        if digits.1 = [] then (none, 0, e :: rest)
        else
          let value : Int := Text.digitsValue digits.1
          (some (if signed.1 then -value else value), 1 + signed.2.1 + digits.1.length, digits.2)
      else (none, 0, e :: rest) := rfl

theorem scanNumeral_eq (t : Text) :
    scanNumeral t =
      let unsigned := splitMinus t
      let whole := scanWhole unsigned.2
      let fraction := scanFraction whole.2
      let exponent := scanExponent fraction.2
      let width := (if unsigned.1 then 1 else 0) + whole.1.length
        + (if fraction.1 = [] then 0 else fraction.1.length + 1) + exponent.2.1
      if whole.1 = [] then none
      else some (⟨unsigned.1, whole.1, fraction.1, exponent.1⟩, width, exponent.2.2) := rfl

/-! ## What follows a numeral -/

variable {rest : Text}

theorem spanDigits_append (apart : Apart rest) (t : Text) :
    spanDigits (t ++ rest) = ((spanDigits t).1, (spanDigits t).2 ++ rest) := by
  unfold spanDigits
  induction t with
  | nil =>
    cases rest with
    | nil => rfl
    | cons c rest =>
      have other : c.isDigit = false := by
        have outside := apart c rest rfl
        simp only [isNumeralPoint, Bool.or_eq_false_iff] at outside
        exact outside.1.1.1.1.1
      simp [other]
  | cons c t ih =>
    cases digit : c.isDigit <;> simp_all

theorem splitMinus_append {t : Text} (nonempty : t ≠ []) :
    splitMinus (t ++ rest) = ((splitMinus t).1, (splitMinus t).2 ++ rest) := by
  obtain ⟨c, t, rfl⟩ := List.exists_cons_of_ne_nil nonempty
  simp only [splitMinus, List.cons_append]
  split <;> rfl

theorem Apart.ne (apart : Apart rest) {c d : CodePoint} {more : Text} (first : rest = c :: more)
    (numeric : isNumeralPoint d = true) : c ≠ d := by
  rintro rfl
  rw [apart c more first] at numeric
  cases numeric

theorem scanWhole_append (apart : Apart rest) (t : Text) :
    scanWhole (t ++ rest) = ((scanWhole t).1, (scanWhole t).2 ++ rest) := by
  cases t with
  | nil =>
    cases rest with
    | nil => rfl
    | cons c rest =>
      have other : c ≠ ('0' : CodePoint) := apart.ne rfl (by decide)
      have none := spanDigits_append apart []
      simp only [scanWhole, List.nil_append, other, if_false] at none ⊢
      exact none
  | cons c t =>
    simp only [scanWhole, List.cons_append]
    split
    · rfl
    · exact spanDigits_append apart (c :: t)

theorem scanFraction_append (apart : Apart rest) (t : Text) :
    scanFraction (t ++ rest) = ((scanFraction t).1, (scanFraction t).2 ++ rest) := by
  cases t with
  | nil =>
    cases rest with
    | nil => rfl
    | cons c rest =>
      have other : c ≠ ('.' : CodePoint) := apart.ne rfl (by decide)
      simp [scanFraction, other]
  | cons c t =>
    simp only [scanFraction, List.cons_append, spanDigits_append apart]
    split <;> rfl

theorem splitSign_append {t : Text} (nonempty : t ≠ []) :
    splitSign (t ++ rest) = ((splitSign t).1, (splitSign t).2.1, (splitSign t).2.2 ++ rest) := by
  obtain ⟨c, t, rfl⟩ := List.exists_cons_of_ne_nil nonempty
  simp only [splitSign, List.cons_append]
  split
  · rfl
  · split <;> rfl

/-- An exponent that takes up a text does so in front of another text as well. One that does not is
left standing, and nothing is known of it: it might be complete with what follows. -/
theorem scanExponent_append (apart : Apart rest) {t : Text} (ended : (scanExponent t).2.2 = []) :
    scanExponent (t ++ rest) = ((scanExponent t).1, (scanExponent t).2.1, rest) := by
  cases t with
  | nil =>
    cases rest with
    | nil => rfl
    | cons c rest =>
      have small : c ≠ ('e' : CodePoint) := apart.ne rfl (by decide)
      have large : c ≠ ('E' : CodePoint) := apart.ne rfl (by decide)
      simp [scanExponent, small, large]
  | cons e t =>
    rw [scanExponent_cons] at ended
    rw [List.cons_append, scanExponent_cons, scanExponent_cons]
    dsimp only at ended ⊢
    split at ended
    · next marked =>
      rw [if_pos marked, if_pos marked]
      split at ended
      · cases ended
      · next digits =>
        have nonempty : t ≠ [] := by
          rintro rfl
          exact digits rfl
        rw [splitSign_append nonempty, spanDigits_append apart]
        dsimp only
        rw [if_neg digits, if_neg digits, ended, List.nil_append]
    · cases ended

theorem scanNumeral_append (apart : Apart rest) {t : Text} {n : Numeral} {width : Nat}
    (spelled : scanNumeral t = some (n, width, [])) :
    scanNumeral (t ++ rest) = some (n, width, rest) := by
  have nonempty : t ≠ [] := by
    rintro rfl
    cases spelled
  rw [scanNumeral_eq] at spelled ⊢
  dsimp only at spelled ⊢
  split at spelled
  · cases spelled
  · next digits =>
    simp only [Option.some.injEq, Prod.mk.injEq] at spelled
    obtain ⟨rfl, rfl, ended⟩ := spelled
    rw [splitMinus_append nonempty]
    dsimp only
    rw [scanWhole_append apart]
    dsimp only
    rw [scanFraction_append apart]
    dsimp only
    rw [scanExponent_append apart ended, if_neg digits]

/-! ## What a numeral leaves -/

theorem splitMinus_suffix (t : Text) : (splitMinus t).2 <:+ t := by
  cases t with
  | nil => exact List.suffix_refl []
  | cons c rest =>
    simp only [splitMinus]
    split
    · exact List.suffix_cons c rest
    · exact List.suffix_refl _

theorem scanWhole_suffix (t : Text) : (scanWhole t).2 <:+ t := by
  cases t with
  | nil => exact List.suffix_refl []
  | cons c rest =>
    simp only [scanWhole]
    split
    · exact List.suffix_cons c rest
    · exact List.dropWhile_suffix _

theorem scanWhole_shorter {t : Text} (digits : (scanWhole t).1 ≠ []) :
    (scanWhole t).2.length < t.length := by
  cases t with
  | nil => exact absurd rfl digits
  | cons c rest =>
    simp only [scanWhole] at digits ⊢
    split at digits
    · next zero => simp [zero]
    · next other =>
      rw [if_neg other]
      have parts := congrArg List.length
        (List.takeWhile_append_dropWhile (p := CodePoint.isDigit) (l := c :: rest))
      have positive := List.length_pos_iff.mpr digits
      simp only [spanDigits, List.length_append] at parts positive ⊢
      omega

theorem scanFraction_suffix (t : Text) : (scanFraction t).2 <:+ t := by
  cases t with
  | nil => exact List.suffix_refl []
  | cons c rest =>
    simp only [scanFraction]
    split
    · exact (List.dropWhile_suffix _).trans (List.suffix_cons c rest)
    · exact List.suffix_refl _

theorem splitSign_suffix (t : Text) : (splitSign t).2.2 <:+ t := by
  cases t with
  | nil => exact List.suffix_refl []
  | cons c rest =>
    simp only [splitSign]
    split
    · exact List.suffix_cons c rest
    · split
      · exact List.suffix_cons c rest
      · exact List.suffix_refl _

theorem scanExponent_suffix (t : Text) : (scanExponent t).2.2 <:+ t := by
  cases t with
  | nil => exact List.suffix_refl []
  | cons e rest =>
    rw [scanExponent_cons]
    dsimp only
    split
    · split
      · exact List.suffix_refl _
      · exact (List.dropWhile_suffix _).trans ((splitSign_suffix rest).trans (List.suffix_cons e rest))
    · exact List.suffix_refl _

/-- What follows the numeral in front of a text is a shorter end of the text. -/
theorem scanNumeral_suffix {t tail : Text} {n : Numeral} {width : Nat}
    (found : scanNumeral t = some (n, width, tail)) : tail <:+ t ∧ tail.length < t.length := by
  rw [scanNumeral_eq] at found
  dsimp only at found
  split at found
  · cases found
  · next digits =>
    simp only [Option.some.injEq, Prod.mk.injEq] at found
    obtain ⟨-, -, rfl⟩ := found
    have unsigned := splitMinus_suffix t
    have behind := (scanExponent_suffix _).trans
      (scanFraction_suffix (scanWhole (splitMinus t).2).2)
    refine ⟨behind.trans ((scanWhole_suffix _).trans unsigned), ?_⟩
    calc _ ≤ (scanWhole (splitMinus t).2).2.length := behind.length_le
      _ < (splitMinus t).2.length := scanWhole_shorter digits
      _ ≤ t.length := unsigned.length_le

/-! ## Numerals as lexemes -/

def Spells (t : Text) (n : Numeral) : Prop := ∃ width, scanNumeral t = some (n, width, [])

/-- No word in front of a text consists of numeral points only; a minus may be in front. -/
theorem words_head : ∀ word ∈ words, ∃ a more, word.1 = a :: more ∧
    (isNumeralPoint a = false ∨
      a = '-' ∧ ∃ d behind, more = d :: behind ∧ isNumeralPoint d = false) := by
  simp only [words, List.forall_mem_cons]
  exact ⟨⟨_, _, rfl, .inl (by decide)⟩, ⟨_, _, rfl, .inl (by decide)⟩, ⟨_, _, rfl, .inl (by decide)⟩,
    ⟨_, _, rfl, .inl (by decide)⟩, ⟨_, _, rfl, .inl (by decide)⟩,
    ⟨_, _, rfl, .inr ⟨rfl, _, _, rfl, by decide⟩⟩, nofun⟩

theorem find?_words {c : CodePoint} {rest : Text} (numeric : isNumeralPoint c = true)
    (second : c = '-' → ∀ d more, rest = d :: more → isNumeralPoint d = true) :
    words.find? (fun word => Text.startsWith (c :: rest) word.1) = none := by
  rw [List.find?_eq_none]
  intro word member starts
  obtain ⟨a, more, spelled, other⟩ := words_head word member
  rw [spelled, Text.startsWith, List.isPrefixOf_iff_prefix, List.cons_prefix_cons] at starts
  obtain ⟨rfl, starts⟩ := starts
  rcases other with other | ⟨minus, d, behind, rfl, other⟩
  · rw [numeric] at other
    cases other
  · obtain ⟨later, rfl⟩ := starts
    rw [second minus d (behind ++ later) rfl] at other
    cases other

theorem scanAt_numeral {c : CodePoint} {rest : Text} (numeric : isNumeralPoint c = true)
    (second : c = '-' → ∀ d more, rest = d :: more → isNumeralPoint d = true) (offset : Nat) :
    scanAt offset c rest =
      match scanNumeral (c :: rest) with
      | some (value, width, tail) => ⟨.numeral value, offset + width, tail⟩
      | none => ⟨.stray, offset, []⟩ := by
  have marks {d : CodePoint} (other : isNumeralPoint d = false) : c ≠ d := by
    rintro rfl
    rw [numeric] at other
    cases other
  have braces : c.val ≠ 0x7B ∧ c.val ≠ 0x7D :=
    ⟨fun same => marks (d := 0x7B) (by decide) (Fin.ext same),
      fun same => marks (d := 0x7D) (by decide) (Fin.ext same)⟩
  unfold scanAt scanPlain
  rw [if_neg (marks (by decide))]
  dsimp only
  rewrite [if_neg (marks (by decide)), if_neg (marks (by decide)), if_neg braces.1,
    if_neg braces.2, if_neg (marks (by decide)), if_neg (marks (by decide)),
    find?_words numeric second]
  rfl

theorem isGap_of_isNumeralPoint {c : CodePoint} (numeric : isNumeralPoint c = true) :
    isGap c = false := by
  cases gap : isGap c with
  | false => rfl
  | true =>
    simp only [isGap, Bool.or_eq_true, beq_iff_eq] at gap
    rcases gap with ((rfl | rfl) | rfl) | rfl <;> cases numeric

/-- A text that is one numeral is one lexeme, whatever follows it. -/
theorem begins_numeral {t tail : Text} {n : Numeral} (spells : Spells t n)
    (points : Numeric t) (apart : Apart tail) :
    Begins (t ++ tail) (.numeral n) tail := by
  obtain ⟨width, spelled⟩ := spells
  have scanned := scanNumeral_append apart spelled
  cases t with
  | nil => cases spelled
  | cons c t =>
    have numeric := points c List.mem_cons_self
    refine ⟨c, t ++ tail, rfl, isGap_of_isNumeralPoint numeric, by simp, fun offset =>
      ⟨offset + width, ?_⟩⟩
    rw [scanAt_numeral numeric, ← List.cons_append, scanned]
    intro minus d more behind
    cases t with
    | nil =>
      -- A minus alone is no numeral.
      subst minus
      cases spelled
    | cons e t =>
      cases behind
      exact points d (List.mem_cons_of_mem _ List.mem_cons_self)

end PolicyHost.Json
