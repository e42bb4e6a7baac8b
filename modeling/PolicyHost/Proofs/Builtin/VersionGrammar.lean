import PolicyHost.Builtin.Standard
import PolicyHost.Proofs.Text.Pieces

/-!
# The grammar of versions

What a version is made of, and how its text is put together, said without a reader. The reader takes a
class of digits that is wider than the one of the grammar, and a line break behind the version.

* `Semver.Spelling`: the parts of a version, each as the grammar has it, and `Spelling.text`, the text
  made of them. The class of digits is a parameter: the grammar knows those of ASCII, the reader
  those of every script.
* `Semver.isIdentifier_isDigit_iff`: with the digits of ASCII, identifiers are what one expects.
* `Semver.cut_eq_iff`: a text is cut where it was put together.
* `Semver.parse?_eq_some_iff`: which texts are read, and as which version.
* `Builtin.isVersion_verdict`: the verdict of the builtin on every text.
-/

namespace PolicyHost

namespace CodePoint

/-- Among the code points of ASCII no others are decimal digits. -/
theorem isDecimal_iff_isDigit {c : CodePoint} (ascii : c.val < 0x80) :
    c.isDecimal = true ↔ c.isDigit = true := by
  unfold isDecimal decimal?
  rw [if_pos ascii]
  by_cases digit : c.isDigit = true <;> simp [digit]

theorem ascii_of_isDigit {c : CodePoint} (digit : c.isDigit = true) : c.val < 0x80 := by
  simp only [isDigit, Bool.and_eq_true, decide_eq_true_eq] at digit
  omega

theorem isDecimal_of_isDigit {c : CodePoint} (digit : c.isDigit = true) : c.isDecimal = true :=
  (isDecimal_iff_isDigit (ascii_of_isDigit digit)).mpr digit

end CodePoint

namespace Semver

variable {digit digit' : CodePoint → Bool}

/-! ## The grammar -/

/-- A number: a zero, or another digit of ASCII and digits of the class behind it. -/
inductive IsNumber (digit : CodePoint → Bool) : Text → Prop
  | zero : IsNumber digit ['0']
  | digits (first : CodePoint) (rest : Text) (leads : first.isDigit = true ∧ first ≠ '0')
      (more : ∀ c ∈ rest, digit c = true) : IsNumber digit (first :: rest)

/-- A word: letters, digits and hyphens, at least one. -/
def IsWord (t : Text) : Prop := t ≠ [] ∧ ∀ c ∈ t, isWordMark c = true

/-- An identifier of a prerelease: a number, or perhaps digits of the class, then a letter or a hyphen,
then perhaps letters, digits and hyphens. -/
inductive IsIdentifier (digit : CodePoint → Bool) : Text → Prop
  | number (t : Text) (number : IsNumber digit t) : IsIdentifier digit t
  | word (front : Text) (mark : CodePoint) (rest : Text) (digits : ∀ c ∈ front, digit c = true)
      (apart : mark.isLetter = true ∨ mark = '-') (more : ∀ c ∈ rest, isWordMark c = true) :
      IsIdentifier digit (front ++ mark :: rest)

/-- A mark and what stands behind it, if anything does. -/
def behindMark (mark : CodePoint) : Option Text → Text
  | none => []
  | some t => mark :: t

/-- A mark and identifiers behind it with full stops between them; nothing if there are none. -/
def listed (mark : CodePoint) : List Text → Text
  | [] => []
  | first :: rest => mark :: Text.joinWith ['.'] (first :: rest)

/-- A version and the identifiers of its build, all of them as the grammar has them. -/
structure Spelling (digit : CodePoint → Bool) where
  version : Semver
  build : List Text
  numbers : ∀ number ∈ [version.major, version.minor, version.patch], IsNumber digit number
  identifiers : ∀ identifier ∈ version.prerelease, IsIdentifier digit identifier
  words : ∀ word ∈ build, IsWord word

namespace Spelling

/-- The three numbers with full stops between them. -/
def core (s : Spelling digit) : Text :=
  Text.joinWith ['.'] [s.version.major, s.version.minor, s.version.patch]

/-- The numbers, a hyphen and the identifiers of the prerelease, a plus sign and those of the build. -/
def text (s : Spelling digit) : Text :=
  s.core ++ listed '-' s.version.prerelease ++ listed '+' s.build

/-- The texts that the reader takes for the version: the one of the grammar, and the same with a line
break behind it. -/
def ReadFrom (s : Spelling digit) (t : Text) : Prop := t = s.text ∨ t = s.text ++ (['\n'] : Text)

end Spelling

theorem IsNumber.recast {t : Text} (number : IsNumber digit t)
    (same : ∀ c ∈ t, digit c = true → digit' c = true) : IsNumber digit' t := by
  cases number with
  | zero => exact .zero
  | digits first rest leads more =>
    exact .digits first rest leads fun c inside => same c (List.mem_cons_of_mem first inside) (more c inside)

theorem IsIdentifier.recast {t : Text} (identifier : IsIdentifier digit t)
    (same : ∀ c ∈ t, digit c = true → digit' c = true) : IsIdentifier digit' t := by
  cases identifier with
  | number _ number => exact .number t (number.recast same)
  | word front mark rest digits apart more =>
    exact .word front mark rest
      (fun c inside => same c (List.mem_append_left _ inside) (digits c inside)) apart more

/-! ## The reader of the parts -/

theorem isNumber_iff {t : Text} : isNumber t = true ↔ IsNumber CodePoint.isDecimal t := by
  constructor
  · intro number
    cases t with
    | nil => exact absurd number Bool.false_ne_true
    | cons first rest =>
      rw [isNumber] at number
      split at number
      · next zero =>
        rw [List.isEmpty_iff.mp number, zero]
        exact .zero
      · next nonzero =>
        rw [Bool.and_eq_true, List.all_eq_true] at number
        exact .digits first rest ⟨number.1, nonzero⟩ number.2
  · rintro (_ | ⟨first, rest, ⟨leads, nonzero⟩, more⟩)
    · rfl
    · rw [isNumber, if_neg nonzero, Bool.and_eq_true, List.all_eq_true]
      exact ⟨leads, more⟩

theorem isWord_iff {t : Text} : isWord t = true ↔ IsWord t := by
  simp [isWord, IsWord]

theorem isWordMark_iff {c : CodePoint} :
    isWordMark c = true ↔ c.isDigit = true ∨ c.isLetter = true ∨ c = '-' := by
  rw [isWordMark, Bool.or_eq_true, Bool.or_eq_true, beq_iff_eq, or_assoc, or_left_comm]

theorem ascii_of_isWordMark {c : CodePoint} (mark : isWordMark c = true) : c.val < 0x80 := by
  rcases isWordMark_iff.mp mark with digit | letter | rfl
  · exact CodePoint.ascii_of_isDigit digit
  · simp only [CodePoint.isLetter, Bool.or_eq_true, Bool.and_eq_true, decide_eq_true_eq] at letter
    omega
  · decide

theorem not_isDecimal_of_apart {mark : CodePoint} (apart : mark.isLetter = true ∨ mark = '-') :
    ¬ mark.isDecimal = true := by
  rw [CodePoint.isDecimal_iff_isDigit (ascii_of_isWordMark (isWordMark_iff.mpr (.inr apart)))]
  rcases apart with letter | rfl
  · simp only [CodePoint.isLetter, Bool.or_eq_true, Bool.and_eq_true, decide_eq_true_eq] at letter
    simp only [CodePoint.isDigit, Bool.and_eq_true, decide_eq_true_eq]
    omega
  · decide

theorem isIdentifier_iff {t : Text} :
    isIdentifier t = true ↔ IsIdentifier CodePoint.isDecimal t := by
  rw [isIdentifier, Bool.or_eq_true, isNumber_iff]
  constructor
  · rintro (number | word)
    · exact .number t number
    · split at word
      · exact absurd word Bool.false_ne_true
      · next nonempty =>
        -- The first code point that is no decimal digit is a letter or a hyphen.
        obtain ⟨mark, rest, behind⟩ := List.exists_cons_of_ne_nil nonempty
        have stops : ¬ mark.isDecimal = true := by
          have head := List.head_dropWhile_not CodePoint.isDecimal nonempty
          simpa [behind] using head
        rw [behind, List.all_eq_true] at word
        have apart : mark.isLetter = true ∨ mark = '-' :=
          (isWordMark_iff.mp (word mark List.mem_cons_self)).resolve_left fun digit =>
            stops (CodePoint.isDecimal_of_isDigit digit)
        rw [← List.takeWhile_append_dropWhile (p := CodePoint.isDecimal) (l := t), behind]
        exact .word _ mark rest (List.all_eq_true.mp List.all_takeWhile) apart
          fun c inside => word c (List.mem_cons_of_mem mark inside)
  · rintro (⟨_, number⟩ | ⟨front, mark, rest, digits, apart, more⟩)
    · exact .inl number
    · refine .inr ?_
      rw [List.dropWhile_append_of_pos digits, List.dropWhile_cons_of_neg (not_isDecimal_of_apart apart)]
      simpa using ⟨isWordMark_iff.mpr (.inr apart), more⟩

/-- With the digits of ASCII, an identifier that is no number is any word but one of digits alone. -/
theorem isIdentifier_isDigit_iff {t : Text} :
    IsIdentifier CodePoint.isDigit t ↔
      IsNumber CodePoint.isDigit t ∨ IsWord t ∧ ∃ c ∈ t, ¬ c.isDigit = true := by
  constructor
  · rintro (⟨_, number⟩ | ⟨front, mark, rest, digits, apart, more⟩)
    · exact .inl number
    · have here : mark ∈ front ++ mark :: rest := List.mem_append_right front List.mem_cons_self
      refine .inr ⟨⟨List.ne_nil_of_mem here, fun c inside => ?_⟩, mark, here, fun digit => ?_⟩
      · rcases List.mem_append.mp inside with before | behind
        · exact isWordMark_iff.mpr (.inl (digits c before))
        · rcases List.mem_cons.mp behind with rfl | later
          · exact isWordMark_iff.mpr (.inr apart)
          · exact more c later
      · exact not_isDecimal_of_apart apart (CodePoint.isDecimal_of_isDigit digit)
  · rintro (number | ⟨word, c, inside, other⟩)
    · exact .number t number
    · have ascii : ∀ c ∈ t, c.isDecimal = true → c.isDigit = true := fun c inside =>
        (CodePoint.isDecimal_iff_isDigit (ascii_of_isWordMark (word.2 c inside))).mp
      have sound : isIdentifier t = true := by
        rw [isIdentifier, Bool.or_eq_true]
        refine .inr ?_
        split
        · next digits =>
          rw [← List.takeWhile_append_dropWhile (p := CodePoint.isDecimal) (l := t), digits,
            List.append_nil] at inside
          have decimal := List.all_eq_true.mp List.all_takeWhile c inside
          exact absurd (ascii c (List.takeWhile_subset _ inside) decimal) other
        · exact List.all_eq_true.mpr fun c behind => word.2 c (List.dropWhile_subset _ behind)
      exact (isIdentifier_iff.mp sound).recast ascii

/-! ## What a version is written with -/

theorem IsNumber.written {t : Text} (number : IsNumber digit t) {c : CodePoint} (inside : c ∈ t) :
    digit c = true ∨ c.isDigit = true := by
  cases number with
  | zero =>
    rw [List.mem_singleton.mp inside]
    exact .inr (by decide)
  | digits first rest leads more =>
    rcases List.mem_cons.mp inside with rfl | later
    · exact .inr leads.1
    · exact .inl (more c later)

theorem IsIdentifier.written {t : Text} (identifier : IsIdentifier digit t) {c : CodePoint}
    (inside : c ∈ t) : digit c = true ∨ isWordMark c = true := by
  cases identifier with
  | number _ number =>
    exact (number.written inside).imp_right fun plain => isWordMark_iff.mpr (.inl plain)
  | word front mark rest digits apart more =>
    rcases List.mem_append.mp inside with before | behind
    · exact .inl (digits c before)
    · rcases List.mem_cons.mp behind with rfl | later
      · exact .inr (isWordMark_iff.mpr (.inr apart))
      · exact .inr (more c later)

theorem mem_listed {mark : CodePoint} {pieces : List Text} {c : CodePoint}
    (member : c ∈ listed mark pieces) : c = mark ∨ c = '.' ∨ ∃ piece ∈ pieces, c ∈ piece := by
  cases pieces with
  | nil => exact absurd member List.not_mem_nil
  | cons first rest =>
    refine (List.mem_cons.mp member).imp_right fun joined => ?_
    exact (Text.mem_joinWith joined).imp_left List.mem_singleton.mp

theorem mem_listed_of_mem {mark : CodePoint} {pieces : List Text} {piece : Text} {c : CodePoint}
    (member : piece ∈ pieces) (inside : c ∈ piece) : c ∈ listed mark pieces := by
  cases pieces with
  | nil => exact absurd member List.not_mem_nil
  | cons first rest => exact List.mem_cons_of_mem mark (Text.mem_joinWith_of_mem member inside)

namespace Spelling

variable (s : Spelling digit)

theorem written_core {c : CodePoint} (inside : c ∈ s.core) :
    c = '.' ∨ digit c = true ∨ c.isDigit = true := by
  rcases Text.mem_joinWith inside with stop | ⟨number, member, inside⟩
  · exact .inl (List.mem_singleton.mp stop)
  · exact .inr ((s.numbers number member).written inside)

theorem written_prerelease {c : CodePoint} (inside : c ∈ listed '-' s.version.prerelease) :
    c = '.' ∨ digit c = true ∨ isWordMark c = true := by
  rcases mem_listed inside with rfl | stop | ⟨identifier, member, inside⟩
  · exact .inr (.inr (by decide))
  · exact .inl stop
  · exact .inr ((s.identifiers identifier member).written inside)

theorem written {c : CodePoint} (inside : c ∈ s.text) :
    c = '+' ∨ c = '.' ∨ digit c = true ∨ isWordMark c = true := by
  rcases List.mem_append.mp inside with before | build
  · rcases List.mem_append.mp before with core | prerelease
    · refine .inr ((s.written_core core).imp_right (Or.imp_right fun plain => ?_))
      exact isWordMark_iff.mpr (.inl plain)
    · exact .inr (s.written_prerelease prerelease)
  · rcases mem_listed build with plus | stop | ⟨word, member, inside⟩
    · exact .inl plus
    · exact .inr (.inl stop)
    · exact .inr (.inr (.inr ((s.words word member).2 c inside)))

end Spelling

/-- A version with another class of digits, which the digits in its text belong to as well. -/
def Spelling.recast (s : Spelling digit) (same : ∀ c ∈ s.text, digit c = true → digit' c = true) :
    Spelling digit' where
  version := s.version
  build := s.build
  numbers number member :=
    (s.numbers number member).recast fun c inside =>
      same c (List.mem_append_left _ (List.mem_append_left _ (Text.mem_joinWith_of_mem member inside)))
  identifiers identifier member :=
    (s.identifiers identifier member).recast fun c inside =>
      same c (List.mem_append_left _ (List.mem_append_right _ (mem_listed_of_mem member inside)))
  words := s.words

/-! ## The reader -/

theorem cut_append {mark : CodePoint} {before : Text} (absent : mark ∉ before) (behind : Option Text) :
    cut mark (before ++ behindMark mark behind) = (before, behind) := by
  have front : (before ++ behindMark mark behind).takeWhile (fun c => c != mark) = before := by
    have passed : ∀ c ∈ before, (c != mark) = true := fun c inside =>
      bne_iff_ne.mpr fun same => absent (same ▸ inside)
    rw [List.takeWhile_append_of_pos passed]
    cases behind <;> simp [behindMark]
  rw [cut, front]
  simp only [List.drop_left]
  cases behind <;> rfl

theorem exists_append (mark : CodePoint) (t : Text) :
    ∃ before behind, mark ∉ before ∧ t = before ++ behindMark mark behind := by
  induction t with
  | nil => exact ⟨[], none, List.not_mem_nil, rfl⟩
  | cons c rest ih =>
    by_cases here : c = mark
    · exact ⟨[], some rest, List.not_mem_nil, by rw [here]; rfl⟩
    · obtain ⟨before, behind, absent, rfl⟩ := ih
      refine ⟨c :: before, behind, ?_, rfl⟩
      rw [List.mem_cons, not_or]
      exact ⟨Ne.symm here, absent⟩

theorem cut_eq_iff {mark : CodePoint} {t before : Text} {behind : Option Text} :
    cut mark t = (before, behind) ↔ mark ∉ before ∧ t = before ++ behindMark mark behind := by
  constructor
  · intro done
    obtain ⟨front, back, absent, rfl⟩ := exists_append mark t
    rw [cut_append absent] at done
    cases done
    exact ⟨absent, rfl⟩
  · rintro ⟨absent, rfl⟩
    exact cut_append absent behind

/-- The identifiers in what stands behind a mark, if anything does. -/
def pieces (behind : Option Text) : List Text := (behind.map (Text.split '.')).getD []

theorem listed_pieces (mark : CodePoint) (behind : Option Text) :
    listed mark (pieces behind) = behindMark mark behind := by
  cases behind with
  | none => rfl
  | some t => exact congrArg (List.cons mark) (Text.joinWith_split '.' t)

theorem exists_pieces {identifiers : List Text}
    (absent : ∀ identifier ∈ identifiers, ('.' : CodePoint) ∉ identifier) :
    ∃ behind, pieces behind = identifiers := by
  cases identifiers with
  | nil => exact ⟨none, rfl⟩
  | cons first rest =>
    exact ⟨some (Text.joinWith ['.'] (first :: rest)), Text.split_joinWith (List.cons_ne_nil _ _) absent⟩

theorem dropLineBreak_of_not_mem {t : Text} (absent : ('\n' : CodePoint) ∉ t) : dropLineBreak t = t :=
  if_neg fun last => absent (List.mem_of_getLast? last)

theorem dropLineBreak_append (t : Text) : dropLineBreak (t ++ (['\n'] : Text)) = t := by
  simp [dropLineBreak]

theorem eq_dropLineBreak (t : Text) : t = dropLineBreak t ∨ t = dropLineBreak t ++ (['\n'] : Text) := by
  by_cases last : t.getLast? = some (CodePoint.ofChar '\n')
  · obtain ⟨before, rfl⟩ := List.getLast?_eq_some_iff.mp last
    exact .inr (congrArg (· ++ _) (dropLineBreak_append before).symm)
  · exact .inl (if_neg last).symm

/-- The parts are read one by one once the text is cut. -/
theorem parse?_of_cut {t version core : Text} {build prerelease : Option Text}
    (outer : cut '+' (dropLineBreak t) = (version, build))
    (inner : cut '-' version = (core, prerelease)) :
    parse? t = match Text.split '.' core with
      | [major, minor, patch] =>
        if [major, minor, patch].all isNumber && (pieces prerelease).all isIdentifier &&
          (pieces build).all isWord then some ⟨major, minor, patch, pieces prerelease⟩
        else none
      | _ => none := by
  rw [parse?, outer]
  simp only [inner]
  rfl

/-- What is read is a version as the grammar has it, with decimal digits of any script, and perhaps a
line break behind it; and every such text is read. -/
theorem parse?_eq_some_iff {t : Text} {v : Semver} :
    parse? t = some v ↔
      ∃ s : Spelling CodePoint.isDecimal, s.version = v ∧ s.ReadFrom t := by
  constructor
  · intro done
    rcases outer : cut '+' (dropLineBreak t) with ⟨version, build⟩
    rcases inner : cut '-' version with ⟨core, prerelease⟩
    rw [parse?_of_cut outer inner] at done
    split at done
    · next major minor patch fields =>
      split at done
      · next sound =>
        cases done
        simp only [Bool.and_eq_true, List.all_eq_true, isNumber_iff, isIdentifier_iff, isWord_iff] at sound
        let s : Spelling CodePoint.isDecimal :=
          ⟨⟨major, minor, patch, pieces prerelease⟩, pieces build, sound.1.1, sound.1.2, sound.2⟩
        have whole : dropLineBreak t = s.text := by
          have numbers : core = s.core := by
            rw [← Text.joinWith_split '.' core, fields]
            rfl
          rw [(cut_eq_iff.mp outer).2, (cut_eq_iff.mp inner).2, numbers, ← listed_pieces '-', ← listed_pieces '+']
          rfl
        refine ⟨s, rfl, ?_⟩
        rw [Spelling.ReadFrom, ← whole]
        exact eq_dropLineBreak t
      · exact absurd done (Option.some_ne_none v).symm
    · exact absurd done (Option.some_ne_none v).symm
  · rintro ⟨s, rfl, spelled⟩
    have unbroken : dropLineBreak t = s.text := by
      rcases spelled with rfl | rfl
      · exact dropLineBreak_of_not_mem fun inside => absurd (s.written inside) (by decide)
      · exact dropLineBreak_append s.text
    obtain ⟨prerelease, identifiers⟩ := exists_pieces fun identifier member inside =>
      absurd ((s.identifiers identifier member).written inside) (by decide)
    obtain ⟨build, words⟩ := exists_pieces fun word member inside =>
      absurd ((s.words word member).2 _ inside) (by decide)
    have inner : cut '-' (s.core ++ listed '-' s.version.prerelease) = (s.core, prerelease) := by
      refine cut_eq_iff.mpr ⟨fun inside => absurd (s.written_core inside) (by decide), ?_⟩
      rw [← identifiers, listed_pieces]
    have outer : cut '+' (dropLineBreak t) = (s.core ++ listed '-' s.version.prerelease, build) := by
      refine cut_eq_iff.mpr ⟨fun inside => ?_, ?_⟩
      · rcases List.mem_append.mp inside with core | behind
        · exact absurd (s.written_core core) (by decide)
        · exact absurd (s.written_prerelease behind) (by decide)
      · rw [unbroken, ← listed_pieces, words]
        rfl
    have fields : Text.split '.' s.core = [s.version.major, s.version.minor, s.version.patch] :=
      Text.split_joinWith (List.cons_ne_nil _ _) fun number member inside =>
        absurd ((s.numbers number member).written inside) (by decide)
    rw [parse?_of_cut outer inner, fields, identifiers, words]
    refine if_pos ?_
    simp only [Bool.and_eq_true, List.all_eq_true, isNumber_iff, isIdentifier_iff, isWord_iff]
    exact ⟨⟨s.numbers, s.identifiers⟩, s.words⟩

end Semver

namespace Builtin

/-- The verdict on a text. What is accepted is a version with decimal digits of any script, and perhaps
a line break behind it. So the versions of the grammar are the texts that are accepted, have no
digits but those of ASCII and do not end in a line break. -/
theorem isVersion_verdict (t : Text) (context : Context) :
    ∃ verdict : Bool,
      (Registry.standard.call "semver.is_valid" [.string t]).run context = (.ok (.bool verdict), context) ∧
      (verdict = true ↔ ∃ s : Semver.Spelling CodePoint.isDecimal, s.ReadFrom t) ∧
      ((∃ s : Semver.Spelling CodePoint.isDigit, t = s.text) ↔
        verdict = true ∧ (∀ c ∈ t, c.isDecimal = true → c.isDigit = true) ∧
          t.getLast? ≠ some ('\n' : CodePoint)) := by
  have accepted : Semver.isValid t = true ↔
      ∃ s : Semver.Spelling CodePoint.isDecimal, s.ReadFrom t := by
    rw [Semver.isValid, Option.isSome_iff_exists]
    constructor
    · rintro ⟨v, done⟩
      obtain ⟨s, -, spelled⟩ := Semver.parse?_eq_some_iff.mp done
      exact ⟨s, spelled⟩
    · rintro ⟨s, spelled⟩
      exact ⟨s.version, Semver.parse?_eq_some_iff.mpr ⟨s, rfl, spelled⟩⟩
  refine ⟨Semver.isValid t, rfl, accepted, ?_, ?_⟩
  · rintro ⟨s, rfl⟩
    have ascii : ∀ c ∈ s.text, c.isDecimal = true → c.isDigit = true := by
      intro c inside
      refine (CodePoint.isDecimal_iff_isDigit ?_).mp
      rcases s.written inside with rfl | rfl | digit | mark
      · decide
      · decide
      · exact CodePoint.ascii_of_isDigit digit
      · exact Semver.ascii_of_isWordMark mark
    refine ⟨accepted.mpr ⟨s.recast fun c _ => CodePoint.isDecimal_of_isDigit, .inl rfl⟩, ascii, fun last => ?_⟩
    exact absurd (s.written (List.mem_of_getLast? last)) (by decide)
  · rintro ⟨valid, ascii, unbroken⟩
    obtain ⟨s, rfl | rfl⟩ := accepted.mp valid
    · exact ⟨s.recast ascii, rfl⟩
    · exact absurd List.getLast?_concat unbroken

/-- A line break behind a version, and a digit of another script in it: both are accepted, and neither
text is a version of the grammar. -/
theorem accepted_outside_grammar :
    (((Registry.standard.call "semver.is_valid" [.string "1.0.0\n"]).run (.fresh ⟨0, ⟨0, 0⟩⟩)).1 =
        .ok (.bool true) ∧
      ¬ ∃ s : Semver.Spelling CodePoint.isDigit, Text.ofString "1.0.0\n" = s.text) ∧
    ((Registry.standard.call "semver.is_valid" [.string "1.0.1\u0661"]).run (.fresh ⟨0, ⟨0, 0⟩⟩)).1 =
        .ok (.bool true) ∧
      ¬ ∃ s : Semver.Spelling CodePoint.isDigit, Text.ofString "1.0.1\u0661" = s.text := by
  refine ⟨⟨rfl, ?_⟩, rfl, ?_⟩
  · rintro ⟨s, spelled⟩
    have inside : ('\n' : CodePoint) ∈ s.text := spelled ▸ by decide
    exact absurd (s.written inside) (by decide)
  · rintro ⟨s, spelled⟩
    have inside : ('\u0661' : CodePoint) ∈ s.text := spelled ▸ by decide
    exact absurd (s.written inside) (by decide)

end Builtin

end PolicyHost
