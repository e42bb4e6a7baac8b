import Mathlib.Algebra.Order.Group.Unbundled.Int
import Mathlib.Data.List.Lex
import Mathlib.Data.Prod.Lex
import Mathlib.Data.Sum.Order
import Mathlib.Order.Fin.Basic
import Mathlib.Order.WithBot
import PolicyHost.Proofs.Builtin.VersionGrammar
import PolicyHost.Proofs.Outcome
import PolicyHost.Proofs.Text.Numeral

/-!
# The precedence of versions

Every version has a rank in a linear order that is put together from known ones, and versions compare
as their ranks do.

* `Semver.rank`: the three numbers, then the identifiers of the prerelease, whose absence is on top.
* `Semver.Comparable.compareFrom_compares`: comparing versions is comparing ranks.
* `Semver.Comparable`: texts that are read as versions, with numbers that are short enough to be read.
* `Builtin.compareVersions_preorder`: the comparison of texts is a total preorder, and builds do not
  count.
-/

namespace PolicyHost

/-! ## Orders put together -/

section Orders

variable {α β : Type} {first rest : Ordering}

theorem compares_cons [LinearOrder α] {a b : α} {as bs : List α} (head : first.Compares a b)
    (tail : rest.Compares as bs) : (first.then rest).Compares (a :: as) (b :: bs) := by
  cases first with
  | lt => exact List.cons_lt_cons_iff.mpr (.inl head)
  | gt => exact List.cons_lt_cons_iff.mpr (.inl head)
  | eq =>
    cases (head : a = b)
    cases rest with
    | lt => exact List.cons_lt_cons_iff.mpr (.inr ⟨rfl, tail⟩)
    | eq => exact congrArg (List.cons a) tail
    | gt => exact List.cons_lt_cons_iff.mpr (.inr ⟨rfl, tail⟩)

theorem compares_toLex [LinearOrder α] [LinearOrder β] {a b : α} {c d : β} (left : first.Compares a b)
    (right : rest.Compares c d) : (first.then rest).Compares (toLex (a, c)) (toLex (b, d)) := by
  cases first with
  | lt => exact Prod.Lex.toLex_lt_toLex.mpr (.inl left)
  | gt => exact Prod.Lex.toLex_lt_toLex.mpr (.inl left)
  | eq =>
    cases (left : a = b)
    cases rest with
    | lt => exact Prod.Lex.toLex_lt_toLex.mpr (.inr ⟨rfl, right⟩)
    | eq => exact congrArg (fun x => toLex (a, x)) right
    | gt => exact Prod.Lex.toLex_lt_toLex.mpr (.inr ⟨rfl, right⟩)

theorem compareOfLessAndEq_compares [LinearOrder α] [DecidableEq α] (a b : α) [Decidable (a < b)] :
    (compareOfLessAndEq a b).Compares a b := by
  rcases lt_trichotomy a b with less | rfl | more
  · rw [compareOfLessAndEq, if_pos less]
    exact less
  · rw [compareOfLessAndEq, if_neg (lt_irrefl a), if_pos rfl]
    rfl
  · rw [compareOfLessAndEq, if_neg more.asymm, if_neg more.ne']
    exact more

end Orders

namespace Semver

/-! ## The rank of a version -/

/-- The rank of an identifier: a number has that of its value, below all words; words go by code
points. -/
def identifierRank (identifier : Text) : ℕ ⊕ₗ List CodePoint :=
  if isNumeric identifier then toLex (.inl (Numeral.spelled identifier)) else toLex (.inr identifier)

/-- The rank of a prerelease: identifier by identifier, a list below those that it begins. No prerelease
is above all of them. -/
def prereleaseRank : List Text → WithTop (List (ℕ ⊕ₗ List CodePoint))
  | [] => ⊤
  | identifiers => ↑(identifiers.map identifierRank)

/-- The values of the three numbers, the first of which counts most. -/
def coreRank (v : Semver) : ℕ ×ₗ ℕ ×ₗ ℕ :=
  toLex (Numeral.spelled v.major, toLex (Numeral.spelled v.minor, Numeral.spelled v.patch))

/-- The rank of a version: the three numbers, then the prerelease. -/
def rank (v : Semver) : (ℕ ×ₗ ℕ ×ₗ ℕ) ×ₗ WithTop (List (ℕ ⊕ₗ List CodePoint)) :=
  toLex (v.coreRank, prereleaseRank v.prerelease)

/-- The fields of a version that are numbers. -/
def numerals (v : Semver) : List Text := [v.major, v.minor, v.patch] ++ v.prerelease.filter isNumeric

/-! ## Comparing is comparing ranks -/

theorem read_numeric {identifier : Text} (numeric : isNumeric identifier = true)
    (short : identifier.length ≤ Numeral.maxDigits) :
    Numeral.read identifier = .ok (Numeral.spelled identifier) := by
  rw [isNumeric, Bool.and_eq_true, Bool.not_eq_true', List.isEmpty_eq_false_iff, List.all_eq_true] at numeric
  rw [Numeral.read_decimals numeric.1 numeric.2, if_neg (Nat.not_lt.mpr short)]

theorem isNumeric_of_isNumber {t : Text} (number : IsNumber CodePoint.isDecimal t) :
    isNumeric t = true := by
  rw [isNumeric, Bool.and_eq_true, Bool.not_eq_true', List.isEmpty_eq_false_iff, List.all_eq_true]
  refine ⟨?_, fun c inside => (number.written inside).elim id CodePoint.isDecimal_of_isDigit⟩
  cases number with
  | zero => exact List.cons_ne_nil _ _
  | digits first rest leads more => exact List.cons_ne_nil _ _

def Short (identifiers : List Text) : Prop :=
  ∀ identifier ∈ identifiers, isNumeric identifier = true → identifier.length ≤ Numeral.maxDigits

theorem identifierRank_numeric {identifier : Text} (numeric : isNumeric identifier = true) :
    identifierRank identifier = toLex (.inl (Numeral.spelled identifier)) := if_pos numeric

theorem identifierRank_word {identifier : Text} (word : isNumeric identifier = false) :
    identifierRank identifier = toLex (.inr identifier) := if_neg (Bool.not_eq_true _ ▸ word)

theorem compareText_compares (a b : Text) :
    (compareText a b).Compares (a : List CodePoint) (b : List CodePoint) := by
  rcases lt_trichotomy (a : List CodePoint) b with less | rfl | more
  · rw [compareText, if_pos less]
    exact less
  · rw [compareText, if_neg (lt_irrefl (a : List CodePoint)), if_neg (lt_irrefl (a : List CodePoint))]
    rfl
  · rw [compareText, if_neg more.asymm, if_pos more]
    exact more

/-- Numbers that are read compare as what is spelled. -/
theorem compareSpelled_compares (a b : Text) :
    (compareOfLessAndEq (Numeral.spelled a : Int) (Numeral.spelled b)).Compares (Numeral.spelled a)
      (Numeral.spelled b) :=
  Int.natCast_strictMono.compares.mp (compareOfLessAndEq_compares _ _)

theorem compareIdentifiers_compares {a b : Text}
    (shortA : isNumeric a = true → a.length ≤ Numeral.maxDigits)
    (shortB : isNumeric b = true → b.length ≤ Numeral.maxDigits) :
    ∃ order, compareIdentifiers a b = .ok order ∧ order.Compares (identifierRank a) (identifierRank b) := by
  unfold compareIdentifiers
  cases kindA : isNumeric a <;> cases kindB : isNumeric b
  · rw [identifierRank_word kindA, identifierRank_word kindB]
    have mono : StrictMono fun t : List CodePoint => (toLex (.inr t) : ℕ ⊕ₗ List CodePoint) :=
      Sum.Lex.inr_strictMono
    exact ⟨_, rfl, mono.compares.mpr (compareText_compares a b)⟩
  · rw [identifierRank_word kindA, identifierRank_numeric kindB]
    exact ⟨.gt, rfl, Sum.Lex.inl_lt_inr _ _⟩
  · rw [identifierRank_numeric kindA, identifierRank_word kindB]
    exact ⟨.lt, rfl, Sum.Lex.inl_lt_inr _ _⟩
  · rw [identifierRank_numeric kindA, identifierRank_numeric kindB]
    dsimp only
    rw [read_numeric kindA (shortA kindA), read_numeric kindB (shortB kindB)]
    have mono : StrictMono fun n : ℕ => (toLex (.inl n) : ℕ ⊕ₗ List CodePoint) := Sum.Lex.inl_strictMono
    exact ⟨_, rfl, mono.compares.mpr (compareSpelled_compares a b)⟩

theorem compareLists_compares {as bs : List Text} (shortA : Short as) (shortB : Short bs) :
    ∃ order, compareLists as bs = .ok order ∧
      order.Compares (as.map identifierRank) (bs.map identifierRank) := by
  induction as generalizing bs with
  | nil =>
    cases bs with
    | nil => exact ⟨.eq, rfl, rfl⟩
    | cons b bs => exact ⟨.lt, rfl, List.nil_lt_cons _ _⟩
  | cons a as ih =>
    cases bs with
    | nil => exact ⟨.gt, rfl, List.nil_lt_cons _ _⟩
    | cons b bs =>
      obtain ⟨head, decided, compared⟩ :=
        compareIdentifiers_compares (shortA a List.mem_cons_self) (shortB b List.mem_cons_self)
      obtain ⟨tail, later, follows⟩ := ih (fun i member => shortA i (List.mem_cons_of_mem a member))
        (fun i member => shortB i (List.mem_cons_of_mem b member))
      refine ⟨head.then tail, ?_, compares_cons compared follows⟩
      rw [compareLists, decided]
      cases head with
      | lt => rfl
      | eq => exact later
      | gt => rfl

theorem comparePrereleases_compares {as bs : List Text} (shortA : Short as) (shortB : Short bs) :
    ∃ order, comparePrereleases as bs = .ok order ∧
      order.Compares (prereleaseRank as) (prereleaseRank bs) := by
  cases as with
  | nil =>
    cases bs with
    | nil => exact ⟨.eq, rfl, rfl⟩
    | cons b bs => exact ⟨.gt, rfl, WithTop.coe_lt_top _⟩
  | cons a as =>
    cases bs with
    | nil => exact ⟨.lt, rfl, WithTop.coe_lt_top _⟩
    | cons b bs =>
      obtain ⟨order, decided, compared⟩ := compareLists_compares shortA shortB
      have present := WithTop.coe_strictMono.compares.mpr compared
      exact ⟨order, decided, present⟩

/-- Three numbers as a list of integers. -/
def listing (n : ℕ ×ₗ ℕ ×ₗ ℕ) : List Int :=
  [((ofLex n).1 : Int), (ofLex (ofLex n).2).1, (ofLex (ofLex n).2).2]

theorem listing_strictMono : StrictMono listing := by
  intro m n less
  rcases Prod.Lex.lt_iff.mp less with first | ⟨same, later⟩
  · exact List.cons_lt_cons_iff.mpr (.inl (Int.ofNat_lt.mpr first))
  · refine List.cons_lt_cons_iff.mpr (.inr ⟨congrArg _ same, ?_⟩)
    rcases Prod.Lex.lt_iff.mp later with second | ⟨same, third⟩
    · exact List.cons_lt_cons_iff.mpr (.inl (Int.ofNat_lt.mpr second))
    · refine List.cons_lt_cons_iff.mpr (.inr ⟨congrArg _ same, ?_⟩)
      exact List.cons_lt_cons_iff.mpr (.inl (Int.ofNat_lt.mpr third))

/-- A text that is read as a version, and the numbers in which are not too long to be read. -/
structure Comparable where
  text : Text
  version : Semver
  parsed : parse? text = some version
  short : ∀ numeral ∈ version.numerals, numeral.length ≤ Numeral.maxDigits

namespace Comparable

variable (a b : Comparable)

def rank : (ℕ ×ₗ ℕ ×ₗ ℕ) ×ₗ WithTop (List (ℕ ⊕ₗ List CodePoint)) := a.version.rank

theorem core_eq : a.version.core = .ok (listing a.version.coreRank) := by
  obtain ⟨s, spelled, -⟩ := parse?_eq_some_iff.mp a.parsed
  have read : ∀ numeral ∈ [a.version.major, a.version.minor, a.version.patch],
      Numeral.read numeral = .ok (Numeral.spelled numeral) := fun numeral member =>
    read_numeric (isNumeric_of_isNumber (s.numbers numeral (spelled ▸ member)))
      (a.short numeral (List.mem_append_left _ member))
  simp only [core, List.mapM_cons, List.mapM_nil, read _ (by simp : a.version.major ∈ _),
    read _ (by simp : a.version.minor ∈ _), read _ (by simp : a.version.patch ∈ _)]
  rfl

theorem short_prerelease : Short a.version.prerelease := fun identifier member numeric =>
  a.short identifier (List.mem_append_right _ (List.mem_filter.mpr ⟨member, numeric⟩))

/-- Versions compare as their ranks do. -/
theorem compareFrom_compares :
    ∃ order, compareFrom a.version b.version (listing a.version.coreRank) (listing b.version.coreRank) = .ok order ∧
      order.Compares a.rank b.rank := by
  have numbers := listing_strictMono.compares.mp
    (compareOfLessAndEq_compares (listing a.version.coreRank) (listing b.version.coreRank))
  obtain ⟨order, decided, compared⟩ := comparePrereleases_compares a.short_prerelease b.short_prerelease
  refine ⟨_, ?_, compares_toLex numbers compared⟩
  rw [compareFrom]
  cases compareOfLessAndEq (listing a.version.coreRank) (listing b.version.coreRank) with
  | lt => rfl
  | eq => exact decided
  | gt => rfl

end Comparable

theorem sign_nonpos_iff {a b : Comparable} : sign (cmp a.rank b.rank) ≤ 0 ↔ a.rank ≤ b.rank := by
  rw [← not_lt (a := b.rank), ← cmp_eq_gt_iff a.rank]
  cases cmp a.rank b.rank <;> decide

theorem sign_swap (order : Ordering) : sign order.swap = -sign order := by
  cases order <;> rfl

end Semver

namespace Builtin

open Semver

/-- What the comparison of two texts comes to, and the context that it leaves behind. -/
def comparison (context : Context) (left right : Text) : Except Failure Value × Context :=
  (Registry.standard.call "semver.compare" [.string left, .string right]).run context

/-- The comparison gives a number and leaves the context as it is. -/
def Gives (context : Context) (left right : Text) (n : Int) : Prop :=
  comparison context left right = (.ok (.int n), context)

/-- The comparison of two versions. -/
def precedence (v w : Semver) : Action Value := do
  let left ← readable v.core
  let right ← readable w.core
  return .int (sign (← readable (compareFrom v w left right)))

theorem version_of_parsed {t : Text} {v : Semver} (parsed : parse? t = some v) :
    version (.string t) = do return (v, ← readable v.core) := by
  have operand : text "semver.compare" (.string t) = pure t := rfl
  rw [version, operand, pure_bind, parsed]

/-- A text counts by the version that it is read as. -/
theorem comparison_of_parsed {left right : Text} {v w : Semver} (context : Context)
    (leftParsed : parse? left = some v) (rightParsed : parse? right = some w) :
    comparison context left right = (precedence v w).run context := by
  change ExceptT.run (version (.string left) >>= fun first => version (.string right) >>= fun second =>
    (do return Value.int (sign (← readable (compareFrom first.1 second.1 first.2 second.2))) :
      Action Value)) context = _
  rw [version_of_parsed leftParsed, version_of_parsed rightParsed]
  simp only [bind_assoc, pure_bind]
  rfl

theorem comparison_eq (context : Context) (a b : Comparable) :
    Gives context a.text b.text (sign (cmp a.rank b.rank)) := by
  obtain ⟨order, decided, compared⟩ := a.compareFrom_compares b
  rw [Gives, comparison_of_parsed context a.parsed b.parsed, compared.cmp_eq, precedence, a.core_eq,
    b.core_eq]
  change ((do return .int (sign (← readable (compareFrom a.version b.version _ _)))) : Action Value).run
    context = _
  rw [decided]
  rfl

theorem Gives.eq {context : Context} {a b : Comparable} {n : Int} (given : Gives context a.text b.text n) :
    n = sign (cmp a.rank b.rank) := by
  have same := given.symm.trans (comparison_eq context a b)
  exact Value.int.inj (Except.ok.inj (congrArg Prod.fst same))

/-- The comparison of texts that are versions, with numbers that are not too long to be read, gives -1, 0
or 1 as the rank of the first is below, the same as or above that of the second. So it is a total
preorder. Texts that are versions compare alike if they differ only in their builds. -/
theorem compareVersions_preorder (context : Context) :
    (∀ a b : Comparable, ∃ n, Gives context a.text b.text n ∧
      (n = -1 ∧ a.rank < b.rank ∨ n = 0 ∧ a.rank = b.rank ∨ n = 1 ∧ b.rank < a.rank)) ∧
    (∀ a : Comparable, Gives context a.text a.text 0) ∧
    (∀ (a b : Comparable) (n : Int), Gives context a.text b.text n → Gives context b.text a.text (-n)) ∧
    (∀ (a b c : Comparable) (m n : Int), Gives context a.text b.text m → Gives context b.text c.text n →
      m ≤ 0 → n ≤ 0 → ∃ k ≤ 0, Gives context a.text c.text k) ∧
    (∀ (s s' r r' : Spelling CodePoint.isDecimal) (left left' right right' : Text),
      s.version = s'.version → r.version = r'.version → s.ReadFrom left → s'.ReadFrom left' →
      r.ReadFrom right → r'.ReadFrom right' →
      comparison context left right = comparison context left' right') := by
  refine ⟨fun a b => ?_, fun a => ?_, fun a b n given => ?_, fun a b c m n first second below under => ?_,
    fun s s' r r' left left' right right' sameLeft sameRight first first' second second' => ?_⟩
  · refine ⟨_, comparison_eq context a b, ?_⟩
    rcases lt_trichotomy a.rank b.rank with less | same | more
    · rw [(cmp_eq_lt_iff _ _).mpr less]
      exact .inl ⟨rfl, less⟩
    · rw [(cmp_eq_eq_iff _ _).mpr same]
      exact .inr (.inl ⟨rfl, same⟩)
    · rw [(cmp_eq_gt_iff _ _).mpr more]
      exact .inr (.inr ⟨rfl, more⟩)
  · have given := comparison_eq context a a
    rwa [cmp_self_eq_eq] at given
  · rw [given.eq, ← sign_swap, cmp_swap]
    exact comparison_eq context b a
  · rw [first.eq, sign_nonpos_iff] at below
    rw [second.eq, sign_nonpos_iff] at under
    refine ⟨_, ?_, comparison_eq context a c⟩
    exact sign_nonpos_iff.mpr (below.trans under)
  · have read {v : Semver} {x : Spelling CodePoint.isDecimal} {t : Text} (same : x.version = v)
        (spelled : x.ReadFrom t) : parse? t = some v := parse?_eq_some_iff.mpr ⟨x, same, spelled⟩
    rw [comparison_of_parsed context (read sameLeft first) (read sameRight second),
      comparison_of_parsed context (read rfl first') (read rfl second')]

/-- Two candidates and the release: the number in a candidate counts by its value, and the release comes
last. -/
theorem candidates_inOrder :
    ∃ k ≤ 0, Gives (.fresh ⟨0, ⟨0, 0⟩⟩) "1.0.0-rc.2" "1.0.0+build.7" k := by
  let second : Comparable := ⟨"1.0.0-rc.2", ⟨"1", "0", "0", ["rc", "2"]⟩, rfl, by decide⟩
  let eleventh : Comparable := ⟨"1.0.0-rc.11", ⟨"1", "0", "0", ["rc", "11"]⟩, rfl, by decide⟩
  let release : Comparable := ⟨"1.0.0+build.7", ⟨"1", "0", "0", []⟩, rfl, by decide⟩
  have transitive := (compareVersions_preorder (.fresh ⟨0, ⟨0, 0⟩⟩)).2.2.2.1
  exact transitive second eleventh release (-1) (-1) rfl rfl (by decide) (by decide)

end Builtin

end PolicyHost
