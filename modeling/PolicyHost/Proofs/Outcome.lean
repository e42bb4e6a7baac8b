import PolicyHost.Error

/-!
# Steps that succeed

A chain of steps succeeds when each of them does, and stops where the first of them does.
-/

namespace PolicyHost.Outcome

variable {ε α β γ : Type}

theorem bind_eq_ok_iff {first : Except ε α} {next : α → Except ε β} {result : β} :
    (first >>= next) = .ok result ↔ ∃ value, first = .ok value ∧ next value = .ok result := by
  cases first with
  | error cause => exact ⟨nofun, nofun⟩
  | ok value =>
    constructor
    · exact fun done => ⟨value, rfl, done⟩
    · rintro ⟨_, ⟨⟩, done⟩
      exact done

theorem bind_eq_error_iff {first : Except ε α} {next : α → Except ε β} {cause : ε} :
    (first >>= next) = .error cause ↔
      first = .error cause ∨ ∃ value, first = .ok value ∧ next value = .error cause := by
  cases first with
  | error other =>
    constructor
    · rintro ⟨⟩
      exact .inl rfl
    · rintro (⟨⟨⟩⟩ | ⟨_, ⟨⟩, -⟩)
      rfl
  | ok value =>
    constructor
    · exact fun stopped => .inr ⟨value, rfl, stopped⟩
    · rintro (⟨⟨⟩⟩ | ⟨_, ⟨⟩, stopped⟩)
      exact stopped

/-- Steps for several items stop where the step for one of them does. -/
theorem mapM_eq_error {step : α → Except ε β} {items : List α} {cause : ε}
    (stopped : items.mapM step = .error cause) : ∃ item ∈ items, step item = .error cause := by
  induction items with
  | nil => cases stopped
  | cons item rest ih =>
    rw [List.mapM_cons] at stopped
    rcases bind_eq_error_iff.mp stopped with first | ⟨value, -, stopped⟩
    · exact ⟨item, List.mem_cons_self, first⟩
    · rcases bind_eq_error_iff.mp stopped with others | ⟨values, -, ⟨⟩⟩
      obtain ⟨culprit, member, failed⟩ := ih others
      exact ⟨culprit, List.mem_cons_of_mem _ member, failed⟩

/-- Steps one after another stop at the first that fails. -/
theorem foldlM_eq_error {step : β → α → Except ε β} {items : List α} {start : β} {cause : ε}
    (stopped : items.foldlM step start = .error cause) :
    ∃ before item after reached, items = before ++ item :: after ∧
      before.foldlM step start = .ok reached ∧ step reached item = .error cause := by
  induction items generalizing start with
  | nil => cases stopped
  | cons item rest ih =>
    rw [List.foldlM_cons] at stopped
    rcases bind_eq_error_iff.mp stopped with here | ⟨next, done, later⟩
    · exact ⟨[], item, rest, start, rfl, rfl, here⟩
    · obtain ⟨before, culprit, after, reached, rfl, taken, failed⟩ := ih later
      refine ⟨item :: before, culprit, after, reached, rfl, ?_, failed⟩
      rw [List.foldlM_cons]
      exact bind_eq_ok_iff.mpr ⟨next, done, taken⟩

/-- Steps one after another succeed only if each of them does. -/
theorem foldlM_eq_ok {step : β → α → Except ε β} {items : List α} {start final : β}
    (done : items.foldlM step start = .ok final) :
    ∀ item ∈ items, ∃ reached next, step reached item = .ok next := by
  induction items generalizing start with
  | nil => exact fun item member => absurd member List.not_mem_nil
  | cons item rest ih =>
    rw [List.foldlM_cons] at done
    obtain ⟨next, first, later⟩ := bind_eq_ok_iff.mp done
    intro other member
    rcases List.mem_cons.mp member with rfl | behind
    · exact ⟨start, next, first⟩
    · exact ih later other behind

theorem map_eq_ok_iff {first : Except ε α} {change : α → β} {result : β} :
    first.map change = .ok result ↔ ∃ value, first = .ok value ∧ change value = result := by
  cases first with
  | error cause => exact ⟨nofun, nofun⟩
  | ok value =>
    constructor
    · intro done
      cases done
      exact ⟨value, rfl, rfl⟩
    · rintro ⟨_, ⟨⟩, done⟩
      exact congrArg Except.ok done

theorem map_eq_error_iff {first : Except ε α} {change : α → β} {cause : ε} :
    first.map change = .error cause ↔ first = .error cause := by
  cases first with
  | error other => exact ⟨fun stopped => by cases stopped; rfl, fun stopped => by cases stopped; rfl⟩
  | ok value => exact ⟨nofun, nofun⟩

theorem mapError_eq_ok_iff {δ : Type} {first : Except ε α} {change : ε → δ} {value : α} :
    first.mapError change = .ok value ↔ first = .ok value := by
  cases first with
  | error cause => exact ⟨nofun, nofun⟩
  | ok other => exact ⟨fun done => by cases done; rfl, fun done => by cases done; rfl⟩

theorem mapError_eq_error_iff {δ : Type} {first : Except ε α} {change : ε → δ} {cause : δ} :
    first.mapError change = .error cause ↔ ∃ reason, first = .error reason ∧ change reason = cause := by
  cases first with
  | error reason =>
    constructor
    · intro stopped
      cases stopped
      exact ⟨reason, rfl, rfl⟩
    · rintro ⟨_, ⟨⟩, stopped⟩
      exact congrArg Except.error stopped
  | ok value => exact ⟨nofun, nofun⟩

theorem map_map (first : Except ε α) (change : α → β) (after : β → γ) :
    (first.map change).map after = first.map fun value => after (change value) := by
  cases first <;> rfl

end PolicyHost.Outcome
