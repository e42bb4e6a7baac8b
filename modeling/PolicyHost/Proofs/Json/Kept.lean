import PolicyHost.Json.Octets
import PolicyHost.Proofs.Json.Numerals
import PolicyHost.Proofs.Outcome

/-!
# What a reader keeps

A property of values that literals, strings and numbers have, and that arrays and objects have if their
parts do, is one of everything that is read: the reader has it in the middle of a text, and one lexeme
keeps it.

* `Kept`: such a property.
* `Reader.Holds`: it holds of all that a reader has in hand; `Holds.step` for one lexeme, `Holds.steps`
  for lexemes one after another.
* `Kept.of_read`, `Kept.of_readOctets`: whole texts.
-/

namespace PolicyHost.Json

/-- A property of values that is built up as the reader builds up values. -/
structure Kept (property : Json → Prop) : Prop where
  literal : ∀ word ∈ words, property word.2
  string : ∀ t, property (.string t)
  numeral : ∀ n : Numeral, (∀ c ∈ n.whole, c.isDigit = true) → ∀ value, n.value = .ok value →
    property value
  array : ∀ items, (∀ item ∈ items, property item) → property (.array items)
  empty : property (.object [])
  put : ∀ members : Members, property (.object members) → ∀ name value, property value →
    property (.object (members.put name value))

variable {property : Json → Prop}

/-! ## Lexemes -/

/-- The value that a lexeme stands for by itself, if there is one, has the property. -/
def Token.Holds (property : Json → Prop) : Token → Prop
  | .literal value => property value
  | .numeral n => ∀ value, n.value = .ok value → property value
  | _ => True

theorem isDigit_of_mem_scanWhole {t : Text} {c : CodePoint} (member : c ∈ (scanWhole t).1) :
    c.isDigit = true := by
  unfold scanWhole at member
  split at member
  · split at member
    · next zero =>
      rw [List.mem_singleton.mp member, zero]
      rfl
    · exact List.all_eq_true.mp List.all_takeWhile c member
  · cases member

theorem scanString_holds (opening offset : Nat) (acc : Text) (half : Bool) (t : Text) :
    (scanString opening offset acc half t).token.Holds property := by
  fun_induction scanString opening offset acc half t <;> first | exact trivial | assumption

def LexemesHold (property : Json → Prop) (lexemes : List Lexeme) : Prop :=
  ∀ lexeme ∈ lexemes, lexeme.token.Holds property

theorem LexemesHold.cons {lexemes : List Lexeme} (rest : LexemesHold property lexemes)
    (lexeme : Lexeme) (first : lexeme.token.Holds property) : LexemesHold property (lexeme :: lexemes) :=
  List.forall_mem_cons.mpr ⟨first, rest⟩

theorem LexemesHold.reverse {lexemes : List Lexeme} (all : LexemesHold property lexemes) :
    LexemesHold property lexemes.reverse :=
  fun lexeme member => all lexeme (List.mem_reverse.mp member)

section

variable (literal : ∀ word ∈ words, property word.2)
variable (numeral : ∀ n : Numeral, (∀ c ∈ n.whole, c.isDigit = true) → ∀ value, n.value = .ok value →
  property value)

include literal numeral

theorem scanPlain_holds (offset : Nat) (c : CodePoint) (rest : Text) :
    (scanPlain offset c rest).token.Holds property := by
  unfold scanPlain
  repeat' split
  all_goals first
    | exact trivial
    | next found => exact literal _ (List.mem_of_find?_eq_some found)
    | skip
  next n width tail scanned =>
    refine numeral n fun c member => ?_
    rw [scanNumeral_eq] at scanned
    dsimp only at scanned
    split at scanned
    · cases scanned
    · cases scanned
      exact isDigit_of_mem_scanWhole member

theorem lexemesFrom_hold (steps offset : Nat) (acc : List Lexeme) (t : Text)
    (done : LexemesHold property acc) : LexemesHold property (lexemesFrom offset acc steps t) := by
  fun_induction lexemesFrom offset acc steps t with
  | case1 | case2 => exact (done.cons ⟨_, .stop⟩ trivial).reverse
  | case3 _ _ _ _ _ _ ih => exact ih done
  | case4 _ _ _ c rest _ scanned ih =>
    refine ih (done.cons _ ?_)
    change scanned.token.Holds property
    unfold scanned
    split
    · exact scanString_holds _ _ _ _ _
    · exact scanPlain_holds literal numeral _ _ _

end

/-! ## Readers -/

def Frame.Holds (property : Json → Prop) : Frame → Prop
  | .items done => ∀ item ∈ done, property item
  | .member done _ => property (.object done)

def Goal.Holds (property : Json → Prop) : Goal → Prop
  | .value _ => True
  | .name done _ | .colon done _ => property (.object done)
  | .after held | .finished held => property held

/-- What a reader holds has the property. -/
structure Reader.Holds (property : Json → Prop) (s : Reader) : Prop where
  stack : ∀ frame ∈ s.stack, frame.Holds property
  goal : s.goal.Holds property

namespace Reader

theorem Holds.enter [Room] {s next : Reader} (holds : s.Holds property) (goal : Goal)
    (new : goal.Holds property) (entered : s.enter goal = .ok next) : next.Holds property := by
  unfold Reader.enter at entered
  split at entered
  · cases entered
  · cases entered
    exact ⟨holds.stack, new⟩

theorem Holds.stepValue [Room] (kept : Kept property) {s next : Reader} (holds : s.Holds property)
    {lexeme : Lexeme} (token : lexeme.token.Holds property) {first : Bool}
    (stepped : s.stepValue first lexeme = .ok next) : next.Holds property := by
  unfold Reader.stepValue at stepped
  split at stepped
  · next value literal =>
    cases stepped
    rw [literal] at token
    exact ⟨holds.stack, token⟩
  · cases stepped
    exact ⟨holds.stack, kept.string _⟩
  · next numeral named =>
    rw [named] at token
    cases read : numeral.value with
    | error halt => simp [read, Except.map] at stepped
    | ok value =>
      simp only [read, Except.map, Except.ok.injEq] at stepped
      subst stepped
      exact ⟨holds.stack, token value read⟩
  · cases entered : s.enter (.value true) with
    | error halt => simp [entered, Except.map] at stepped
    | ok inner =>
      simp only [entered, Except.map, Except.ok.injEq] at stepped
      subst stepped
      have inside := holds.enter (.value true) trivial entered
      exact ⟨List.forall_mem_cons.mpr ⟨by simp [Frame.Holds], inside.stack⟩, inside.goal⟩
  · exact holds.enter (.name [] true) kept.empty stepped
  · split at stepped
    · next done stack stacked =>
      cases stepped
      have frames := holds.stack
      rw [stacked, List.forall_mem_cons] at frames
      exact ⟨frames.2, kept.array _ fun item member => frames.1 item (List.mem_reverse.mp member)⟩
    · cases stepped
  · cases stepped
  · cases stepped

theorem Holds.stepName {s next : Reader} (holds : s.Holds property) {lexeme : Lexeme}
    {done : Members} (held : property (.object done)) {first : Bool}
    (stepped : s.stepName done first lexeme = .ok next) : next.Holds property := by
  unfold Reader.stepName at stepped
  split at stepped
  · cases stepped
    exact ⟨holds.stack, held⟩
  · cases stepped
    exact ⟨holds.stack, held⟩
  · cases stepped
  · cases stepped

theorem Holds.stepAfter (kept : Kept property) {s next : Reader} (holds : s.Holds property)
    {lexeme : Lexeme} {value : Json} (held : property value)
    (stepped : s.stepAfter value lexeme = .ok next) : next.Holds property := by
  have frames := holds.stack
  unfold Reader.stepAfter at stepped
  split at stepped
  · cases stepped
    exact ⟨by simp, held⟩
  · cases stepped
  · next done stack stacked _ =>
    cases stepped
    rw [stacked, List.forall_mem_cons] at frames
    exact ⟨List.forall_mem_cons.mpr ⟨List.forall_mem_cons.mpr ⟨held, frames.1⟩, frames.2⟩, trivial⟩
  · next done stack stacked _ =>
    cases stepped
    rw [stacked, List.forall_mem_cons] at frames
    refine ⟨frames.2, kept.array _ fun item member => ?_⟩
    rcases List.mem_cons.mp (List.mem_reverse.mp member) with last | earlier
    · rw [last]
      exact held
    · exact frames.1 item earlier
  · next done name stack stacked _ =>
    cases stepped
    rw [stacked, List.forall_mem_cons] at frames
    exact ⟨frames.2, kept.put done frames.1 name value held⟩
  · next done name stack stacked _ =>
    cases stepped
    rw [stacked, List.forall_mem_cons] at frames
    exact ⟨frames.2, kept.put done frames.1 name value held⟩
  · cases stepped

/-- One lexeme keeps what holds of a reader. -/
theorem Holds.step [Room] (kept : Kept property) {s next : Reader} (holds : s.Holds property)
    {lexeme : Lexeme} (token : lexeme.token.Holds property) (stepped : s.step lexeme = .ok next) :
    next.Holds property := by
  have goal := holds.goal
  unfold Reader.step at stepped
  split at stepped
  · exact holds.stepValue kept token stepped
  · next named =>
    rw [named] at goal
    exact holds.stepName goal stepped
  · next named =>
    rw [named] at goal
    split at stepped
    · cases stepped
      exact ⟨List.forall_mem_cons.mpr ⟨goal, holds.stack⟩, trivial⟩
    · cases stepped
  · next ended =>
    rw [ended] at goal
    exact holds.stepAfter kept goal stepped
  · cases stepped

theorem Holds.steps [Room] (kept : Kept property) {s last : Reader} (holds : s.Holds property)
    {lexemes : List Lexeme} (tokens : LexemesHold property lexemes)
    (stepped : lexemes.foldlM Reader.step s = .ok last) : last.Holds property := by
  induction lexemes generalizing s with
  | nil =>
    cases stepped
    exact holds
  | cons lexeme rest ih =>
    rw [List.foldlM_cons] at stepped
    cases first : s.step lexeme with
    | error halt =>
      rw [first] at stepped
      cases stepped
    | ok next =>
      rw [first] at stepped
      have tokens := List.forall_mem_cons.mp tokens
      exact ih (holds.step kept tokens.1 first) tokens.2 stepped

end Reader

/-! ## Texts -/

/-- What is read from a text has the property. -/
theorem Kept.of_read [Room] (kept : Kept property) {t : Text} {value : Json} (done : read t = .ok value) :
    property value := by
  unfold read at done
  split at done
  · next steps =>
    cases done
    have start : (⟨[], .value false⟩ : Reader).Holds property := ⟨by simp, trivial⟩
    have tokens := lexemesFrom_hold kept.literal kept.numeral t.length 0 [] t fun _ member => nomatch member
    exact (start.steps kept tokens steps).goal
  all_goals cases done

theorem Kept.of_readOctets [Room] (kept : Kept property) {bytes : Bytes} {value : Json}
    (done : readOctets bytes = .ok value) : property value := by
  obtain ⟨t, -, read⟩ := Outcome.bind_eq_ok_iff.mp done
  exact kept.of_read (Outcome.mapError_eq_ok_iff.mp read)

end PolicyHost.Json
