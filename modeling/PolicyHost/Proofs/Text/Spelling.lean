import Mathlib.Data.List.TakeWhile
import Mathlib.Data.Nat.Digits.Defs
import Mathlib.Tactic.Ring
import PolicyHost.Proofs.Text.Numeral

/-!
# The integers that texts spell

An integer is read just from the texts that spell it: blanks, perhaps a sign, digits of any scripts with
single underscores between them, and blanks again; and there are not too many digits.

* `Groups`, `Sign`, `Spells`: how integers are spelled.
* `spanDigits_groups`, `groups_of_spanDigits`: the digits that a reader takes.
* `read_eq_ok_iff`: what is read.
-/

namespace PolicyHost.Numeral

/-- Digits with single underscores between them, and their values, the first one first. -/
inductive Groups : Text → List Nat → Prop
  | one {c : CodePoint} {digit : Nat} : c.decimal? = some digit → Groups [c] [digit]
  | digit {c : CodePoint} {digit : Nat} {t : Text} {digits : List Nat} :
      c.decimal? = some digit → Groups t digits → Groups (c :: t) (digit :: digits)
  | gap {c : CodePoint} {digit : Nat} {t : Text} {digits : List Nat} :
      c.decimal? = some digit → Groups t digits → Groups (c :: '_' :: t) (digit :: digits)

/-- What may stand in front of digits, and what they are to be multiplied by for it. -/
inductive Sign : Text → Int → Prop
  | none : Sign [] 1
  | plus : Sign "+" 1
  | minus : Sign "-" (-1)

def Blanks (t : Text) : Prop := ∀ c ∈ t, c.isNumeralBlank = true

/-- A text spells an integer. -/
inductive Spells : Text → Int → Prop
  | intro {before sign body after : Text} {unit : Int} {digits : List Nat} :
      Blanks before → Sign sign unit → Groups body digits → digits.length ≤ maxDigits → Blanks after →
      Spells (before ++ (sign ++ (body ++ after))) (unit * (Nat.ofDigits 10 digits.reverse : Nat))

theorem value_eq_ofDigits (digits : List Nat) : value digits = Nat.ofDigits 10 digits.reverse := by
  rw [value, Nat.ofDigits_eq_foldr, List.foldr_reverse]
  refine congrArg (fun step => digits.foldl step 0) (funext fun n => funext fun digit => ?_)
  rw [Nat.cast_id]
  ring

/-! ## Digits -/

theorem Groups.ne_nil {t : Text} {digits : List Nat} (groups : Groups t digits) : digits ≠ [] := by
  cases groups <;> exact List.cons_ne_nil _ _

/-- Digits begin with a digit. -/
theorem Groups.exists_cons {t : Text} {digits : List Nat} (groups : Groups t digits) :
    ∃ c rest, t = c :: rest ∧ c.isDecimal = true := by
  cases groups with
  | one found | digit found | gap found =>
    exact ⟨_, _, rfl, Option.isSome_iff_exists.mpr ⟨_, found⟩⟩

theorem spanDigits_digit {c : CodePoint} {digit : Nat} (found : c.decimal? = some digit) (acc : List Nat)
    (gap : Bool) (rest : Text) :
    spanDigits acc gap (c :: rest) = spanDigits (digit :: acc) false rest := by
  obtain ⟨other, found', step⟩ := spanDigits_cons (Option.isSome_iff_exists.mpr ⟨digit, found⟩) acc gap rest
  rw [step, Option.some.inj (found.symm.trans found')]

theorem spanDigits_blanks {t : Text} (blanks : Blanks t) (acc : List Nat) (gap : Bool) :
    spanDigits acc gap t = (acc, gap, t) := by
  cases t with
  | nil => rfl
  | cons c rest =>
    have blank := blanks c List.mem_cons_self
    have apart : c ≠ '_' := fun same => absurd (same ▸ blank) (by decide)
    have other : c.decimal? = none := by
      by_contra digit
      have decimal : c.isDecimal = true := Option.isSome_iff_ne_none.mpr digit
      exact absurd blank (Bool.not_eq_true _ ▸ CodePoint.not_isNumeralBlank_of_isDecimal decimal)
    rw [spanDigits, if_neg apart, other]

/-- Digits in front of blanks are taken as a whole. -/
theorem spanDigits_groups {body after : Text} {digits : List Nat} (groups : Groups body digits)
    (blanks : Blanks after) (acc : List Nat) (gap : Bool) :
    spanDigits acc gap (body ++ after) = (digits.reverse ++ acc, false, after) := by
  induction groups generalizing acc gap with
  | one found => rw [List.singleton_append, spanDigits_digit found, spanDigits_blanks blanks]; rfl
  | digit found _ ih => rw [List.cons_append, spanDigits_digit found, ih, List.reverse_cons, List.append_assoc]; rfl
  | gap found _ ih =>
    rw [List.cons_append, spanDigits_digit found, List.cons_append, spanDigits, if_pos rfl,
      if_neg Bool.false_ne_true, ih, List.reverse_cons, List.append_assoc]
    rfl

/-- What is taken without an underscore at its end is nothing, or digits, perhaps behind an underscore
where one may stand: by induction over the text. -/
theorem groups_of_spanDigits {t rest : Text} {acc found : List Nat} {gap : Bool}
    (taken : spanDigits acc gap t = (found, false, rest)) :
    (gap = false ∧ t = rest ∧ found = acc) ∨
      ∃ lead body digits, t = lead ++ (body ++ rest) ∧ Groups body digits ∧
        found = digits.reverse ++ acc ∧ (lead = [] ∨ gap = false ∧ lead = [('_' : CodePoint)]) := by
  induction t generalizing acc gap with
  | nil =>
    cases taken
    exact .inl ⟨rfl, rfl, rfl⟩
  | cons c t ih =>
    rw [spanDigits] at taken
    split at taken
    · next underscore =>
      subst underscore
      cases gap with
      | true => cases taken
      | false =>
        rcases ih taken with ⟨impossible, -⟩ | ⟨lead, body, digits, rfl, groups, rfl, rfl | ⟨impossible, -⟩⟩
        · cases impossible
        · exact .inr ⟨[('_' : CodePoint)], body, digits, rfl, groups, rfl, .inr ⟨rfl, rfl⟩⟩
        · cases impossible
    · split at taken
      · next digit decimal =>
        refine .inr ⟨[], ?_⟩
        rcases ih taken with ⟨-, rfl, rfl⟩ | ⟨lead, body, digits, rfl, groups, rfl, rfl | ⟨-, rfl⟩⟩
        · exact ⟨[c], [digit], rfl, .one decimal, rfl, .inl rfl⟩
        · refine ⟨c :: body, digit :: digits, rfl, .digit decimal groups, ?_, .inl rfl⟩
          rw [List.reverse_cons, List.append_assoc]
          rfl
        · refine ⟨c :: '_' :: body, digit :: digits, rfl, .gap decimal groups, ?_, .inl rfl⟩
          rw [List.reverse_cons, List.append_assoc]
          rfl
      · cases taken
        exact .inl ⟨rfl, rfl, rfl⟩

/-! ## Integers -/

/-- The sign in front of a text, as a reader takes it. -/
def cutSign (t : Text) : Bool × Text :=
  match t with
  | c :: rest => if c = '-' then (true, rest) else if c = '+' then (false, rest) else (false, t)
  | [] => (false, t)

def unitOf (negative : Bool) : Int := if negative then -1 else 1

theorem sign_of_cutSign (t : Text) : ∃ sign, Sign sign (unitOf (cutSign t).1) ∧ t = sign ++ (cutSign t).2 := by
  unfold cutSign
  split
  · split
    · next minus => exact ⟨_, .minus, minus ▸ rfl⟩
    · split
      · next plus => exact ⟨_, .plus, plus ▸ rfl⟩
      · exact ⟨_, .none, rfl⟩
  · exact ⟨_, .none, rfl⟩

theorem cutSign_append {sign : Text} {unit : Int} (signed : Sign sign unit) {c : CodePoint}
    (decimal : c.isDecimal = true) (rest : Text) :
    unitOf (cutSign (sign ++ c :: rest)).1 = unit ∧ (cutSign (sign ++ c :: rest)).2 = c :: rest := by
  cases signed with
  | none =>
    have minus : c ≠ '-' := fun same => absurd (same ▸ decimal) (by decide)
    have plus : c ≠ '+' := fun same => absurd (same ▸ decimal) (by decide)
    rw [List.nil_append, cutSign, if_neg minus, if_neg plus]
    exact ⟨rfl, rfl⟩
  | plus => exact ⟨rfl, rfl⟩
  | minus => exact ⟨rfl, rfl⟩

theorem read_eq (t : Text) :
    read t =
      let cut := cutSign (t.dropWhile CodePoint.isNumeralBlank)
      let taken := spanDigits [] true cut.2
      if taken.1.isEmpty || taken.2.1 then .error (.invalid t)
      else if maxDigits < taken.1.length then .error (.long taken.1.length)
      else if taken.2.2.all CodePoint.isNumeralBlank then
        .ok (unitOf cut.1 * (Nat.ofDigits 10 taken.1 : Nat))
      else .error (.invalid t) := by
  have signed (negative : Bool) (digits : List Nat) :
      (if negative then -(value digits.reverse : Int) else value digits.reverse) =
        unitOf negative * (Nat.ofDigits 10 digits : Nat) := by
    rw [value_eq_ofDigits, List.reverse_reverse]
    cases negative <;> simp [unitOf]
  dsimp only
  rw [← signed]
  rfl

/-- What is no blank stays behind the blanks in front of it. -/
theorem dropWhile_blanks {before : Text} (blanks : Blanks before) {sign : Text} {unit : Int}
    (signed : Sign sign unit) {c : CodePoint} {rest : Text} (decimal : c.isDecimal = true) :
    (before ++ (sign ++ c :: rest)).dropWhile CodePoint.isNumeralBlank = sign ++ c :: rest := by
  rw [List.dropWhile_append_of_pos blanks]
  cases signed with
  | none =>
    have visible := CodePoint.not_isNumeralBlank_of_isDecimal decimal
    exact List.dropWhile_cons_of_neg (Bool.eq_false_iff.mp visible)
  | plus => exact List.dropWhile_cons_of_neg (by decide)
  | minus => exact List.dropWhile_cons_of_neg (by decide)

theorem Spells.read_eq {t : Text} {n : Int} (spells : Spells t n) : read t = .ok n := by
  obtain @⟨before, sign, body, after, unit, digits, blanks, signed, groups, short, blanks'⟩ := spells
  have taken := spanDigits_groups groups blanks' [] true
  obtain ⟨c, rest, rfl, decimal⟩ := groups.exists_cons
  obtain ⟨factor, unsigned⟩ := cutSign_append signed decimal (rest ++ after)
  have some : digits.reverse ≠ [] := List.reverse_eq_nil_iff.not.mpr groups.ne_nil
  rw [Numeral.read_eq, List.cons_append, dropWhile_blanks blanks signed decimal]
  dsimp only
  rw [unsigned, factor, ← List.cons_append, taken]
  simp only [List.append_nil, List.isEmpty_eq_false_iff.mpr some, Bool.or_false, Bool.false_eq_true, if_false,
    List.length_reverse, if_neg (Nat.not_lt.mpr short), List.all_eq_true.mpr blanks', if_true]

theorem spells_of_read_eq {t : Text} {n : Int} (read : read t = .ok n) : Spells t n := by
  rw [read_eq] at read
  dsimp only at read
  obtain ⟨sign, signed, cut⟩ := sign_of_cutSign (t.dropWhile CodePoint.isNumeralBlank)
  rcases taken : spanDigits [] true (cutSign (t.dropWhile CodePoint.isNumeralBlank)).2 with
    ⟨found, gap, rest⟩
  rw [taken] at read
  split at read
  · cases read
  · next enough =>
    split at read
    · cases read
    · next short =>
      split at read
      · next blanks =>
        obtain ⟨-, rfl⟩ := Bool.or_eq_false_iff.mp (Bool.eq_false_iff.mpr enough)
        rcases groups_of_spanDigits taken with ⟨impossible, -⟩ |
          ⟨lead, body, digits, unsigned, groups, rfl, rfl | ⟨impossible, -⟩⟩
        · cases impossible
        · cases read
          have whole : t.takeWhile CodePoint.isNumeralBlank ++ (sign ++ (body ++ rest)) = t := by
            have behind := cut.trans (congrArg (sign ++ ·) unsigned)
            rw [List.nil_append] at behind
            rw [← behind, List.takeWhile_append_dropWhile]
          rw [List.append_nil, List.length_reverse, Nat.not_lt] at short
          have front : Blanks (t.takeWhile CodePoint.isNumeralBlank) := fun _ => List.mem_takeWhile_imp
          have spelled := Spells.intro front signed groups short (List.all_eq_true.mp blanks)
          rwa [whole, ← List.append_nil digits.reverse] at spelled
        · cases impossible
      · cases read

/-- An integer is read just from the texts that spell it. -/
theorem read_eq_ok_iff {t : Text} {n : Int} : read t = .ok n ↔ Spells t n :=
  ⟨spells_of_read_eq, Spells.read_eq⟩

end PolicyHost.Numeral
