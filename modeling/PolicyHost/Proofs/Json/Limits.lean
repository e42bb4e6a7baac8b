import PolicyHost.Json.Octets
import PolicyHost.Proofs.Outcome

/-!
# Limits of the reader

A text that is not read is malformed, or lies beyond one of two limits: it spells an integer of too many
digits, or too many arrays and objects are open at once. What is read lies within both.

* `SpellsInteger`, `NestsBeyond`: what lies beyond the limits, said of the lexemes alone.
* `Reader.depth`: how many arrays and objects are open for a reader.
* `Moves`, `step_moves`: what one lexeme does to a reader, as far as the limits go.
* `steps_within`, `steps_longInteger`, `steps_tooDeep`: lexemes one after another.
* `read_limits`: a text that is read, and a text at which a limit stops the reader.
-/

namespace PolicyHost.Json

def Token.opens : Token → Bool
  | .openBracket | .openBrace => true
  | _ => false

def Token.closes : Token → Bool
  | .closeBracket | .closeBrace => true
  | _ => false

def Token.IsInteger (token : Token) (digits : Nat) : Prop :=
  ∃ n : Numeral, token = .numeral n ∧ n.fraction = [] ∧ n.exponent = none ∧ n.whole.length = digits

variable [Room]

/-- With so many arrays and objects open in front of some tokens, more are open behind some of them
than may be. -/
def TooManyOpen (depth : Nat) (tokens : List Token) : Prop :=
  ∃ before, before <+: tokens ∧
    Room.documents + before.countP Token.closes < depth + before.countP Token.opens

def tokens (t : Text) : List Token := (lexemes t).map Lexeme.token

/-- A text spells an integer of so many digits. -/
def SpellsInteger (t : Text) (digits : Nat) : Prop := ∃ token ∈ tokens t, token.IsInteger digits

/-- Somewhere in a text more arrays and objects are open than may be. -/
def NestsBeyond (t : Text) : Prop := TooManyOpen 0 (tokens t)

/-! ## One lexeme -/

/-- The number of arrays and objects that are open. An object at one of its names has no frame. -/
def Reader.depth (s : Reader) : Nat :=
  match s.goal with
  | .name _ _ | .colon _ _ => s.stack.length + 1
  | _ => s.stack.length

/-- What a token does to a reader, as far as the limits go.

* `problem`: the text is malformed;
* `long`: the token is an integer of too many digits;
* `full`: the token would open one array or object too many;
* `opened`, `closed`: one more is open, or one less;
* `level`: neither. -/
inductive Moves (s : Reader) (token : Token) : Except Halt Reader → Prop
  | problem {what : Problem} {offset : Nat} : Moves s token (.error (.problem what offset))
  | long {digits : Nat} : token.IsInteger digits → maxDigits < digits →
      Moves s token (.error (.longInteger digits))
  | full : token.opens = true → token.closes = false → Room.documents ≤ s.depth →
      Moves s token (.error .tooDeep)
  | opened {next : Reader} : token.opens = true → token.closes = false → s.depth < Room.documents →
      next.depth = s.depth + 1 → Moves s token (.ok next)
  | closed {next : Reader} : token.opens = false → token.closes = true →
      next.depth + 1 = s.depth → Moves s token (.ok next)
  | level {next : Reader} : token.opens = false → token.closes = false →
      next.depth = s.depth → Moves s token (.ok next)

variable {s : Reader} {lexeme : Lexeme}

omit [Room] in
/-- A numeral is read unless it is an integer of too many digits. -/
theorem Numeral.value_cases (n : Numeral) :
    (∃ value, n.value = .ok value ∧
      (n.fraction = [] → n.exponent = none → n.whole.length ≤ maxDigits)) ∨
      (n.fraction = [] ∧ n.exponent = none ∧ maxDigits < n.whole.length ∧
        n.value = .error (.longInteger n.whole.length)) := by
  unfold Numeral.value
  split
  · next whole plain =>
    split
    · next beyond => exact .inr ⟨whole, plain, beyond, rfl⟩
    · next within => exact .inl ⟨_, rfl, fun _ _ => Nat.le_of_not_lt within⟩
  · next other => exact .inl ⟨_, rfl, fun whole plain => (other whole plain).elim⟩

theorem stepValue_moves {first : Bool} (goal : s.goal = .value first) :
    Moves s lexeme.token (s.stepValue first lexeme) := by
  have depth : s.depth = s.stack.length := by rw [Reader.depth, goal]
  unfold Reader.stepValue
  split
  · next token => exact .level (token ▸ rfl) (token ▸ rfl) depth.symm
  · next token => exact .level (token ▸ rfl) (token ▸ rfl) depth.symm
  · next n token =>
    rcases n.value_cases with ⟨value, read, -⟩ | ⟨whole, plain, beyond, stopped⟩
    · rw [read]
      exact .level (token ▸ rfl) (token ▸ rfl) depth.symm
    · rw [stopped]
      exact .long ⟨n, token, whole, plain, rfl⟩ beyond
  · next token =>
    unfold Reader.enter
    split
    · next enough => exact .full (token ▸ rfl) (token ▸ rfl) (depth ▸ enough)
    · next room =>
      rw [← depth] at room
      exact .opened (token ▸ rfl) (token ▸ rfl) (Nat.lt_of_not_le room) (congrArg (· + 1) depth.symm)
  · next token =>
    unfold Reader.enter
    split
    · next enough => exact .full (token ▸ rfl) (token ▸ rfl) (depth ▸ enough)
    · next room =>
      rw [← depth] at room
      exact .opened (token ▸ rfl) (token ▸ rfl) (Nat.lt_of_not_le room) (congrArg (· + 1) depth.symm)
  · next token =>
    split
    · next stacked =>
      rw [stacked] at depth
      exact .closed (token ▸ rfl) (token ▸ rfl) depth.symm
    · exact .problem
  · exact .problem
  · exact .problem

theorem stepName_moves {done : Members} {first : Bool} (goal : s.goal = .name done first) :
    Moves s lexeme.token (s.stepName done first lexeme) := by
  have depth : s.depth = s.stack.length + 1 := by rw [Reader.depth, goal]
  unfold Reader.stepName
  split
  · next token => exact .level (token ▸ rfl) (token ▸ rfl) depth.symm
  · next token => exact .closed (token ▸ rfl) (token ▸ rfl) depth.symm
  · exact .problem
  · exact .problem

theorem stepAfter_moves {value : Json} (goal : s.goal = .after value) :
    Moves s lexeme.token (s.stepAfter value lexeme) := by
  have depth : s.depth = s.stack.length := by rw [Reader.depth, goal]
  unfold Reader.stepAfter
  split
  all_goals try exact .problem
  all_goals
    next stacked token =>
    rw [stacked] at depth
    first
      | exact .level (token ▸ rfl) (token ▸ rfl) depth.symm
      | exact .closed (token ▸ rfl) (token ▸ rfl) depth.symm

theorem step_moves (s : Reader) (lexeme : Lexeme) : Moves s lexeme.token (s.step lexeme) := by
  unfold Reader.step
  split
  · next goal => exact stepValue_moves goal
  · next goal => exact stepName_moves goal
  · next goal =>
    split
    · next token =>
      refine .level (token ▸ rfl) (token ▸ rfl) ?_
      rw [Reader.depth, Reader.depth, goal]
      rfl
    · exact .problem
  · next goal => exact stepAfter_moves goal
  · exact .problem

/-- A reader that goes on counts what is open, and has no more open than may be. -/
theorem Moves.balance {token : Token} {next : Reader} (moves : Moves s token (.ok next)) :
    next.depth + (if token.closes then 1 else 0) = s.depth + (if token.opens then 1 else 0) ∧
      (s.depth ≤ Room.documents → next.depth ≤ Room.documents) := by
  cases moves with
  | opened opens closes room moved =>
    rw [opens, closes]
    exact ⟨moved, fun _ => moved ▸ room⟩
  | closed opens closes moved =>
    rw [opens, closes]
    exact ⟨moved, fun within => Nat.le_of_succ_le (Nat.le_trans (Nat.le_of_eq moved) within)⟩
  | level opens closes moved =>
    rw [opens, closes]
    exact ⟨moved, fun within => moved ▸ within⟩

/-- A reader goes on behind an integer only if it has no more digits than it may have. -/
theorem step_integer {next : Reader} {digits : Nat} (integer : lexeme.token.IsInteger digits)
    (stepped : s.step lexeme = .ok next) : digits ≤ maxDigits := by
  obtain ⟨n, token, whole, plain, rfl⟩ := integer
  unfold Reader.step at stepped
  split at stepped
  · simp only [Reader.stepValue, token, Outcome.map_eq_ok_iff] at stepped
    obtain ⟨value, read, -⟩ := stepped
    rcases n.value_cases with ⟨_, -, short⟩ | ⟨-, -, -, stopped⟩
    · exact short whole plain
    · rw [stopped] at read
      cases read
  · simp only [Reader.stepName, token, reduceCtorEq] at stepped
  · simp only [token, reduceCtorEq] at stepped
  · simp only [Reader.stepAfter, token] at stepped
    split at stepped
    all_goals contradiction
  · cases stepped

/-! ## Lexemes one after another -/

theorem tooManyOpen_nil {depth : Nat} : TooManyOpen depth [] ↔ Room.documents < depth := by
  constructor
  · rintro ⟨before, start, beyond⟩
    rw [List.prefix_nil.mp start] at beyond
    exact beyond
  · exact fun beyond => ⟨[], List.nil_prefix, beyond⟩

/-- Too many are open in front of the first token, or at some place behind it. -/
theorem tooManyOpen_cons {depth next : Nat} {token : Token} {rest : List Token}
    (balance : next + (if token.closes then 1 else 0) = depth + (if token.opens then 1 else 0)) :
    TooManyOpen depth (token :: rest) ↔ Room.documents < depth ∨ TooManyOpen next rest := by
  constructor
  · rintro ⟨before, start, beyond⟩
    rcases List.prefix_cons_iff.mp start with rfl | ⟨more, rfl, onward⟩
    · exact .inl beyond
    · rw [List.countP_cons, List.countP_cons] at beyond
      exact .inr ⟨more, onward, by omega⟩
  · rintro (beyond | ⟨more, start, beyond⟩)
    · exact ⟨[], List.nil_prefix, beyond⟩
    · refine ⟨token :: more, (List.prefix_cons_inj token).mpr start, ?_⟩
      rw [List.countP_cons, List.countP_cons]
      omega

/-- What a reader gets through lies within both limits. -/
theorem steps_within {lexemes : List Lexeme} {s final : Reader}
    (done : lexemes.foldlM Reader.step s = .ok final) (within : s.depth ≤ Room.documents) :
    (∀ token ∈ lexemes.map Lexeme.token, ∀ digits, token.IsInteger digits → digits ≤ maxDigits) ∧
      ¬ TooManyOpen s.depth (lexemes.map Lexeme.token) := by
  induction lexemes generalizing s with
  | nil => exact ⟨nofun, fun many => Nat.not_lt.mpr within (tooManyOpen_nil.mp many)⟩
  | cons lexeme rest ih =>
    obtain ⟨next, stepped, done⟩ := Outcome.bind_eq_ok_iff.mp done
    have moves := step_moves s lexeme
    rw [stepped] at moves
    obtain ⟨short, shallow⟩ := ih done (moves.balance.2 within)
    refine ⟨List.forall_mem_cons.mpr ⟨fun digits integer => step_integer integer stepped, short⟩, ?_⟩
    rw [List.map_cons, tooManyOpen_cons moves.balance.1]
    exact not_or.mpr ⟨Nat.not_lt.mpr within, shallow⟩

/-- A reader that stops at an integer has met one of so many digits, and those are too many. -/
theorem steps_longInteger {lexemes : List Lexeme} {s : Reader} {digits : Nat}
    (stopped : lexemes.foldlM Reader.step s = .error (.longInteger digits)) :
    maxDigits < digits ∧ ∃ token ∈ lexemes.map Lexeme.token, token.IsInteger digits := by
  induction lexemes generalizing s with
  | nil => cases stopped
  | cons lexeme rest ih =>
    have moves := step_moves s lexeme
    rw [List.foldlM_cons] at stopped
    cases stepped : s.step lexeme with
    | error halt =>
      rw [stepped] at stopped moves
      cases stopped
      cases moves with
      | long integer beyond => exact ⟨beyond, _, List.mem_cons_self, integer⟩
    | ok next =>
      rw [stepped] at stopped
      obtain ⟨beyond, token, met, integer⟩ := ih stopped
      exact ⟨beyond, token, List.mem_cons_of_mem _ met, integer⟩

/-- A reader that stops at the depth has met more openings than may be. -/
theorem steps_tooDeep {lexemes : List Lexeme} {s : Reader}
    (stopped : lexemes.foldlM Reader.step s = .error .tooDeep) :
    TooManyOpen s.depth (lexemes.map Lexeme.token) := by
  induction lexemes generalizing s with
  | nil => cases stopped
  | cons lexeme rest ih =>
    have moves := step_moves s lexeme
    rw [List.foldlM_cons] at stopped
    cases stepped : s.step lexeme with
    | error halt =>
      rw [stepped] at stopped moves
      cases stopped
      cases moves with
      | full opens closes enough =>
        refine ⟨[lexeme.token], List.prefix_append _ _, ?_⟩
        rw [List.countP_singleton, List.countP_singleton, opens, closes]
        exact Nat.lt_succ_of_le enough
    | ok next =>
      rw [stepped] at stopped moves
      exact (tooManyOpen_cons moves.balance.1).mpr (.inr (ih stopped))

/-! ## Texts -/

/-- A text that is read lies within both limits; one at which a limit stops the reader does not. -/
theorem read_limits (t : Text) :
    match read t with
    | .ok _ => (∀ digits, SpellsInteger t digits → digits ≤ maxDigits) ∧ ¬ NestsBeyond t
    | .error (.malformed ..) => True
    | .error (.longInteger digits) => maxDigits < digits ∧ SpellsInteger t digits
    | .error .tooDeep => NestsBeyond t := by
  unfold read
  cases done : (lexemes t).foldlM Reader.step ⟨[], .value false⟩ with
  | ok final =>
    obtain ⟨short, shallow⟩ := steps_within done (Nat.zero_le _)
    obtain ⟨stack, goal⟩ := final
    cases goal with
    | finished value =>
      exact ⟨fun digits ⟨token, met, integer⟩ => short token met digits integer, shallow⟩
    | _ => trivial
  | error halt =>
    cases halt with
    | problem what offset => trivial
    | longInteger digits => exact steps_longInteger done
    | tooDeep => exact steps_tooDeep done

end PolicyHost.Json
