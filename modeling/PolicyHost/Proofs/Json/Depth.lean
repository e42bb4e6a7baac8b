import PolicyHost.Proofs.Json.Compact
import PolicyHost.Proofs.Json.Kept

/-!
# How deep values lie that are read

A reader opens no more arrays and objects inside each other than may be open, so no value that it reads is
nested deeper.

* `Fits`: a value may stand where so many arrays and objects are open.
* `Reader.Fits`: all that a reader has in hand may stand where it is; `step_fits` for one lexeme.
* `nesting_le_of_readOctets`: whole documents.
-/

namespace PolicyHost.Json

variable [Room]

/-- A value may stand where so many arrays and objects are open. -/
def Fits (depth : Nat) (value : Json) : Prop := depth + value.nesting ≤ Room.documents

theorem fits_array_iff {depth : Nat} {items : List Json} :
    Fits depth (.array items) ↔ depth < Room.documents ∧ ∀ item ∈ items, Fits (depth + 1) item := by
  unfold Fits
  rw [nesting]
  constructor
  · intro fits
    have each := itemsNesting_le_iff.mp (Nat.le_refl (itemsNesting items))
    refine ⟨by omega, fun item member => ?_⟩
    have below := each item member
    omega
  · rintro ⟨room, each⟩
    have below : itemsNesting items ≤ Room.documents - (depth + 1) := itemsNesting_le_iff.mpr fun item member => by
      have fits := each item member
      omega
    omega

theorem fits_object_iff {depth : Nat} {members : Members} :
    Fits depth (.object members) ↔ depth < Room.documents ∧ ∀ member ∈ members, Fits (depth + 1) member.2 := by
  unfold Fits
  rw [nesting]
  constructor
  · intro fits
    have each := membersNesting_le_iff.mp (Nat.le_refl (membersNesting members))
    refine ⟨by omega, fun member inside => ?_⟩
    have below := each member inside
    omega
  · rintro ⟨room, each⟩
    have below : membersNesting members ≤ Room.documents - (depth + 1) :=
      membersNesting_le_iff.mpr fun member inside => by
        have fits := each member inside
        omega
    omega

theorem Fits.put {depth : Nat} {members : Members} (base : Fits depth (.object members)) {value : Json}
    (new : Fits (depth + 1) value) (name : Text) : Fits depth (.object (members.put name value)) := by
  rw [fits_object_iff] at base ⊢
  refine ⟨base.1, fun member inside => ?_⟩
  rcases Table.mem_put inside with old | rfl
  · exact base.2 member old
  · exact new

theorem Fits.items {depth : Nat} {done : List Json} (base : Fits depth (.array done)) {value : Json}
    (new : Fits (depth + 1) value) : Fits depth (.array (value :: done)) := by
  rw [fits_array_iff] at base ⊢
  exact ⟨base.1, List.forall_mem_cons.mpr ⟨new, base.2⟩⟩

theorem Fits.reverse {depth : Nat} {done : List Json} (base : Fits depth (.array done)) :
    Fits depth (.array done.reverse) := by
  rw [fits_array_iff] at base ⊢
  exact ⟨base.1, fun item member => base.2 item (List.mem_reverse.mp member)⟩

/-! ## Readers -/

/-- What a frame holds may stand where so many others are open. -/
def Frame.Fits (depth : Nat) : Frame → Prop
  | .items done => Json.Fits depth (.array done)
  | .member done _ => Json.Fits depth (.object done)

/-- Each frame may stand where it does. -/
def StackFits : List Frame → Prop
  | [] => True
  | frame :: rest => frame.Fits rest.length ∧ StackFits rest

/-- What a goal holds may stand where so many frames are open. -/
def Goal.Fits (depth : Nat) : Goal → Prop
  | .value _ => depth ≤ Room.documents
  | .name done _ | .colon done _ => Json.Fits depth (.object done)
  | .after held | .finished held => Json.Fits depth held

/-- What a reader holds may stand where it is. -/
structure Reader.Fits (s : Reader) : Prop where
  stack : StackFits s.stack
  goal : s.goal.Fits s.stack.length

/-- A token stands for nothing that is nested, unless it opens something. -/
def Token.Flat (token : Token) : Prop := token.Holds fun value => value.nesting = 0

variable {s next : Reader} {lexeme : Lexeme}

theorem stepValue_fits (stack : StackFits s.stack) (room : s.stack.length ≤ Room.documents)
    (flat : lexeme.token.Flat)
    {first : Bool} (stepped : s.stepValue first lexeme = .ok next) : next.Fits := by
  have leaf {value : Json} (zero : value.nesting = 0) : Fits s.stack.length value := by
    rw [Fits, zero]
    exact room
  unfold Reader.stepValue at stepped
  split at stepped
  · next value literal =>
    cases stepped
    rw [literal] at flat
    exact ⟨stack, leaf flat⟩
  · cases stepped
    exact ⟨stack, leaf rfl⟩
  · next numeral named =>
    rw [named] at flat
    obtain ⟨value, read, rfl⟩ := Outcome.map_eq_ok_iff.mp stepped
    exact ⟨stack, leaf (flat value read)⟩
  · obtain ⟨inner, entered, rfl⟩ := Outcome.map_eq_ok_iff.mp stepped
    unfold Reader.enter at entered
    split at entered
    · cases entered
    · next within =>
      cases entered
      exact ⟨⟨fits_array_iff.mpr ⟨Nat.lt_of_not_le within, nofun⟩, stack⟩, Nat.lt_of_not_le within⟩
  · unfold Reader.enter at stepped
    split at stepped
    · cases stepped
    · next within =>
      cases stepped
      exact ⟨stack, fits_object_iff.mpr ⟨Nat.lt_of_not_le within, nofun⟩⟩
  · split at stepped
    · next done rest stacked =>
      cases stepped
      rw [stacked] at stack
      exact ⟨stack.2, Fits.reverse stack.1⟩
    · cases stepped
  · cases stepped
  · cases stepped

theorem stepName_fits (stack : StackFits s.stack) {done : Members} (held : Fits s.stack.length (.object done))
    {first : Bool} (stepped : s.stepName done first lexeme = .ok next) : next.Fits := by
  unfold Reader.stepName at stepped
  split at stepped
  · cases stepped
    exact ⟨stack, held⟩
  · cases stepped
    exact ⟨stack, held⟩
  · cases stepped
  · cases stepped

theorem stepAfter_fits (stack : StackFits s.stack) {value : Json} (held : Fits s.stack.length value)
    (stepped : s.stepAfter value lexeme = .ok next) : next.Fits := by
  unfold Reader.stepAfter at stepped
  split at stepped
  · next stacked _ =>
    cases stepped
    rw [stacked] at held
    exact ⟨trivial, held⟩
  · cases stepped
  · next done rest stacked _ =>
    cases stepped
    rw [stacked] at stack held
    exact ⟨⟨Fits.items stack.1 held, stack.2⟩, (fits_array_iff.mp stack.1).1⟩
  · next done rest stacked _ =>
    cases stepped
    rw [stacked] at stack held
    exact ⟨stack.2, (Fits.items stack.1 held).reverse⟩
  · next done name rest stacked _ =>
    cases stepped
    rw [stacked] at stack held
    exact ⟨stack.2, Fits.put stack.1 held name⟩
  · next done name rest stacked _ =>
    cases stepped
    rw [stacked] at stack held
    exact ⟨stack.2, Fits.put stack.1 held name⟩
  · cases stepped

/-- One lexeme leaves a reader whose values may stand where it is. -/
theorem step_fits (fits : s.Fits) (flat : lexeme.token.Flat) (stepped : s.step lexeme = .ok next) :
    next.Fits := by
  obtain ⟨stack, goal⟩ := fits
  unfold Reader.step at stepped
  split at stepped
  · next named =>
    rw [named] at goal
    exact stepValue_fits stack goal flat stepped
  · next named =>
    rw [named] at goal
    exact stepName_fits stack goal stepped
  · next named =>
    rw [named] at goal
    split at stepped
    · cases stepped
      exact ⟨⟨goal, stack⟩, (fits_object_iff.mp goal).1⟩
    · cases stepped
  · next named =>
    rw [named] at goal
    exact stepAfter_fits stack goal stepped
  · cases stepped

theorem steps_fits {last : Reader} {lexemes : List Lexeme} (fits : s.Fits)
    (flat : ∀ lexeme ∈ lexemes, lexeme.token.Flat) (stepped : lexemes.foldlM Reader.step s = .ok last) :
    last.Fits := by
  induction lexemes generalizing s with
  | nil =>
    cases stepped
    exact fits
  | cons lexeme rest ih =>
    obtain ⟨middle, first, later⟩ := Outcome.bind_eq_ok_iff.mp stepped
    obtain ⟨here, others⟩ := List.forall_mem_cons.mp flat
    exact ih (step_fits fits here first) others later

/-! ## Texts -/

omit [Room] in
theorem flat_lexemes (t : Text) : ∀ lexeme ∈ lexemes t, lexeme.token.Flat := by
  refine lexemesFrom_hold (by simp [words, nesting]) (fun n _ value read => ?_) t.length 0 [] t nofun
  unfold Numeral.value at read
  split at read
  · split at read
    · cases read
    · cases read
      rfl
  · cases read
    rfl

theorem nesting_le_of_read {t : Text} {value : Json} (done : read t = .ok value) :
    value.nesting ≤ Room.documents := by
  unfold read at done
  split at done
  · next steps =>
    cases done
    have start : (⟨[], .value false⟩ : Reader).Fits := ⟨trivial, Nat.zero_le _⟩
    have fits := (steps_fits start (flat_lexemes t) steps).goal
    exact Nat.le_trans (Nat.le_add_left _ _) fits
  all_goals cases done

/-- No value that is read from octets is nested deeper than may be. -/
theorem nesting_le_of_readOctets {bytes : Bytes} {value : Json} (done : readOctets bytes = .ok value) :
    value.nesting ≤ Room.documents := by
  obtain ⟨t, -, read⟩ := Outcome.bind_eq_ok_iff.mp done
  exact nesting_le_of_read (Outcome.mapError_eq_ok_iff.mp read)

end PolicyHost.Json
