import PolicyHost.Json.Reader
import PolicyHost.Json.Writer

/-!
# Texts read lexeme by lexeme

A reader that reads a text to its end takes the lexeme in front of it and reads what follows. Where a
lexeme stands does not matter to a reader that succeeds.

* `Begins`: the lexeme in front of a text, and what follows it.
* `ComesTo`, `ComesTo.lexeme`, `ComesTo.halt`: reading, lexeme by lexeme.
* `ReadsTo`, `ReadsTo.stop`: reading to the end.
* `Recovers`, `begins_quoteWith`: a string between quotation marks, however its code points are
  written.
-/

namespace PolicyHost.Json

/-! ## Lexemes -/

/-- The lexeme in front of a text that starts with no blank. -/
def scanAt (offset : Nat) (c : CodePoint) (rest : Text) : Scanned :=
  if c = '"' then scanString offset (offset + 1) [] false rest else scanPlain offset c rest

/-- A text starts with a lexeme, and `tail` follows it. -/
def Begins (t : Text) (token : Token) (tail : Text) : Prop :=
  ∃ c rest, t = c :: rest ∧ isGap c = false ∧ tail.length ≤ rest.length ∧
    ∀ offset, ∃ stop, scanAt offset c rest = ⟨token, stop, tail⟩

/-- What reading a text comes to, wherever the text stands. -/
def ComesTo [Room] (s : Reader) (t : Text) (result : Except Halt Reader) : Prop :=
  ∀ offset steps, t.length ≤ steps →
    (lexemesFrom offset [] steps t).foldlM Reader.step s = result

/-- A reader that reads a text to its end comes to `last`. -/
def ReadsTo [Room] (s : Reader) (t : Text) (last : Reader) : Prop := ComesTo s t (.ok last)

theorem lexemesFrom_eq_append (steps offset : Nat) (acc : List Lexeme) (t : Text) :
    lexemesFrom offset acc steps t = acc.reverse ++ lexemesFrom offset [] steps t := by
  induction steps generalizing offset acc t with
  | zero => simp [lexemesFrom]
  | succ steps ih =>
    cases t with
    | nil => simp [lexemesFrom]
    | cons c rest =>
      simp only [lexemesFrom]
      split
      · exact ih _ _ _
      · rw [ih _ (_ :: acc), ih _ [_]]
        simp

theorem lexemesFrom_cons {c : CodePoint} (solid : isGap c = false) (steps offset : Nat) (rest : Text) :
    lexemesFrom offset [] (steps + 1) (c :: rest) =
      ⟨offset, (scanAt offset c rest).token⟩ ::
        lexemesFrom (scanAt offset c rest).offset [] steps (scanAt offset c rest).rest := by
  rw [lexemesFrom, solid, if_neg Bool.false_ne_true, lexemesFrom_eq_append]
  rfl

/-- A reader takes the lexeme in front of a text and reads what follows. -/
theorem ComesTo.lexeme [Room] {s next : Reader} {t tail : Text} {token : Token} {result : Except Halt Reader}
    (begins : Begins t token tail) (stepped : ∀ start, s.step ⟨start, token⟩ = .ok next)
    (rest : ComesTo next tail result) : ComesTo s t result := by
  obtain ⟨c, behind, rfl, solid, shorter, scanned⟩ := begins
  intro offset steps enough
  obtain ⟨stop, found⟩ := scanned offset
  obtain ⟨more, rfl⟩ : ∃ more, steps = more + 1 := ⟨steps - 1, by simp at enough; omega⟩
  rw [lexemesFrom_cons solid, found, List.foldlM_cons, stepped]
  exact rest stop more (by simp at enough; omega)

/-- A reader that the lexeme in front of a text stops reads no further. -/
theorem ComesTo.halt [Room] {s : Reader} {t tail : Text} {token : Token} {halt : Halt}
    (begins : Begins t token tail) (stopped : ∀ start, s.step ⟨start, token⟩ = .error halt) :
    ComesTo s t (.error halt) := by
  obtain ⟨c, behind, rfl, solid, -, scanned⟩ := begins
  intro offset steps enough
  obtain ⟨stop, found⟩ := scanned offset
  obtain ⟨more, rfl⟩ : ∃ more, steps = more + 1 := ⟨steps - 1, by simp at enough; omega⟩
  rw [lexemesFrom_cons solid, found, List.foldlM_cons, stopped]
  rfl

theorem ReadsTo.lexeme [Room] {s next last : Reader} {t tail : Text} {token : Token}
    (begins : Begins t token tail) (stepped : ∀ start, s.step ⟨start, token⟩ = .ok next)
    (rest : ReadsTo next tail last) : ReadsTo s t last :=
  ComesTo.lexeme begins stepped rest

/-- A text ends behind the value that nothing encloses. -/
theorem ReadsTo.stop [Room] (value : Json) : ReadsTo ⟨[], .after value⟩ [] ⟨[], .finished value⟩ := by
  intro offset steps enough
  cases steps <;> rfl

theorem read_of_readsTo [Room] {t : Text} {value : Json}
    (reads : ReadsTo ⟨[], .value false⟩ t ⟨[], .finished value⟩) : read t = .ok value := by
  unfold read lexemes
  rw [reads 0 t.length (Nat.le_refl _)]

theorem begins_mark {c : CodePoint} {token : Token} (rest : Text) (solid : isGap c = false)
    (scanned : ∀ offset, scanAt offset c rest = ⟨token, offset + 1, rest⟩) :
    Begins (c :: rest) token rest :=
  ⟨c, rest, rfl, solid, Nat.le_refl _, fun offset => ⟨offset + 1, scanned offset⟩⟩

/-! ## Strings -/

variable (opening offset : Nat) (acc : Text) (half : Bool)

theorem scanString_plain {c : CodePoint} (mark : c ≠ '"') (escape : c ≠ '\\') (visible : 0x20 ≤ c.val)
    (rest : Text) :
    scanString opening offset acc half (c :: rest) =
      scanString opening (offset + 1) (c :: acc) false rest := by
  rw [scanString.eq_def]
  simp only [mark, escape, if_false]
  rw [if_neg (by omega)]

theorem scanString_escape {e value : CodePoint} (short : escaped? e = some value) (other : e ≠ 'u')
    (rest : Text) :
    scanString opening offset acc half ('\\' :: e :: rest) =
      scanString opening (offset + 2) (value :: acc) false rest := by
  rw [scanString.eq_def]
  dsimp only
  rw [if_neg (by decide), if_pos rfl, if_neg other, short]

theorem hexValue?_ofHexValue {n : Nat} (small : n < 16) : (CodePoint.ofHexValue n).hexValue? = some n := by
  decide +revert

/-- An escaped unit is read as the unit it spells, if something follows. -/
theorem scanString_unitEscape {n : Nat} (small : n < 0x10000) {rest : Text} (more : rest ≠ []) :
    scanString opening offset acc half (unitEscape n ++ rest) =
      scanString opening (offset + 6) (pushUnit (Fin.ofNat 0x110000 n) half acc).1
        (pushUnit (Fin.ofNat 0x110000 n) half acc).2 rest := by
  obtain ⟨next, behind, rfl⟩ := List.exists_cons_of_ne_nil more
  have unit : unit? (CodePoint.ofHexValue (n / 16 / 16 / 16 % 16))
      (CodePoint.ofHexValue (n / 16 / 16 % 16)) (CodePoint.ofHexValue (n / 16 % 16))
      (CodePoint.ofHexValue (n % 16)) = some (Fin.ofNat 0x110000 n) := by
    unfold unit?
    rw [hexValue?_ofHexValue (by omega), hexValue?_ofHexValue (by omega),
      hexValue?_ofHexValue (by omega), hexValue?_ofHexValue (by omega)]
    simp only [Option.bind_eq_bind, Option.bind_some, Option.pure_def, Option.some.injEq]
    congr 1
    omega
  have cut : unitEscape n ++ next :: behind =
      ('\\' : CodePoint) :: ('u' : CodePoint) :: CodePoint.ofHexValue (n / 16 / 16 / 16 % 16) ::
        CodePoint.ofHexValue (n / 16 / 16 % 16) :: CodePoint.ofHexValue (n / 16 % 16) ::
        CodePoint.ofHexValue (n % 16) :: next :: behind := rfl
  rw [cut, scanString.eq_def]
  dsimp only
  rw [if_neg (by decide), if_pos rfl, if_pos rfl, unit]

/-- The short escapes stand for what they are written for. -/
theorem shortEscape?_eq_some {c : CodePoint} {escape : Text} (short : shortEscape? c = some escape) :
    ∃ e : CodePoint, escape = [('\\' : CodePoint), e] ∧ e ≠ 'u' ∧ escaped? e = some c := by
  unfold shortEscape? at short
  repeat' split at short
  all_goals cases short
  · next same => exact ⟨('"' : CodePoint), rfl, by decide, congrArg some same.symm⟩
  · next same => exact ⟨('\\' : CodePoint), rfl, by decide, congrArg some same.symm⟩
  · next same => exact ⟨('n' : CodePoint), rfl, by decide, congrArg some (Fin.ext same.symm)⟩
  · next same => exact ⟨('r' : CodePoint), rfl, by decide, congrArg some (Fin.ext same.symm)⟩
  · next same => exact ⟨('t' : CodePoint), rfl, by decide, congrArg some (Fin.ext same.symm)⟩
  · next same => exact ⟨('f' : CodePoint), rfl, by decide, congrArg some (Fin.ext same.symm)⟩
  · next same => exact ⟨('b' : CodePoint), rfl, by decide, congrArg some (Fin.ext same.symm)⟩

theorem shortEscape?_eq_none {c : CodePoint} (long : shortEscape? c = none) : c ≠ '"' ∧ c ≠ '\\' := by
  constructor <;> rintro rfl <;> cases long

/-- A string is written so that a reader recovers each code point. -/
def Recovers (point : CodePoint → Text) : Prop :=
  ∀ c opening offset acc rest, rest ≠ [] → ∃ stop,
    scanString opening offset acc false (point c ++ rest) = scanString opening stop (c :: acc) false rest

theorem recovers_plainPoint : Recovers plainPoint := by
  intro c opening offset acc rest more
  unfold plainPoint
  split
  · next escape short =>
    obtain ⟨e, rfl, other, value⟩ := shortEscape?_eq_some short
    exact ⟨offset + 2, scanString_escape opening offset acc false value other rest⟩
  · next long =>
    split
    · next control =>
      refine ⟨offset + 6, ?_⟩
      have whole : Fin.ofNat 0x110000 c.val = c := Fin.ext (Nat.mod_eq_of_lt c.isLt)
      have high : c.isHigh = false := by
        simp [CodePoint.isHigh]
        omega
      rw [scanString_unitEscape opening offset acc false (by omega) more, whole]
      simp [pushUnit, high]
    · next visible =>
      obtain ⟨mark, escape⟩ := shortEscape?_eq_none long
      exact ⟨offset + 1, scanString_plain opening offset acc false mark escape (by omega) rest⟩

/-- One code point is written so that a reader recovers it. -/
def RecoversAt (point : CodePoint → Text) (c : CodePoint) : Prop :=
  ∀ opening offset acc rest, rest ≠ [] → ∃ stop,
    scanString opening offset acc false (point c ++ rest) = scanString opening stop (c :: acc) false rest

theorem scanString_flatMap {point : CodePoint → Text} {t : Text} (recovers : ∀ c ∈ t, RecoversAt point c)
    (rest : Text) :
    ∃ stop, scanString opening offset acc false (t.flatMap point ++ ('"' : CodePoint) :: rest) =
      ⟨.string (acc.reverse ++ t), stop, rest⟩ := by
  induction t generalizing offset acc with
  | nil =>
    refine ⟨offset + 1, ?_⟩
    rw [List.flatMap_nil, List.nil_append, List.append_nil, scanString.eq_def]
    exact if_pos rfl
  | cons c t ih =>
    rw [List.flatMap_cons, List.append_assoc]
    obtain ⟨here, others⟩ := List.forall_mem_cons.mp recovers
    obtain ⟨middle, first⟩ := here opening offset acc (t.flatMap point ++ ('"' : CodePoint) :: rest) (by simp)
    obtain ⟨stop, later⟩ := ih middle (c :: acc) others
    exact ⟨stop, by rw [first, later, List.reverse_cons, List.append_assoc, List.singleton_append]⟩

/-- A string between quotation marks is one lexeme. -/
theorem begins_quoteWith {point : CodePoint → Text} {t : Text} (recovers : ∀ c ∈ t, RecoversAt point c)
    (tail : Text) :
    Begins (quoteWith point t ++ tail) (.string t) tail := by
  have cut : quoteWith point t ++ tail =
      ('"' : CodePoint) :: (t.flatMap point ++ ('"' : CodePoint) :: tail) := by
    change ((('"' : CodePoint) :: t.flatMap point) ++ [('"' : CodePoint)]) ++ tail = _
    simp
  refine ⟨_, _, cut, rfl, by simp; omega, fun offset => ?_⟩
  obtain ⟨stop, scanned⟩ := scanString_flatMap offset (offset + 1) [] recovers tail
  exact ⟨stop, scanned⟩

end PolicyHost.Json
