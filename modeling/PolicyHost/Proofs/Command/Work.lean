import PolicyHost.Command.Run
import PolicyHost.Proofs.Outcome

/-!
# What ends a run early

A run takes place in surroundings: a state that every operation may change as it likes. A step of a run
gives a value or stops, and the first step that stops ends the run.

* `Work.outcome`: what a step comes to; `outcome_bind`: the first stop ends the run.
* `Met`, `Looks`: the worlds that are met by looking, and the operations that only look.
* `Ends`: the values that a step may give and the reasons for which it may stop, in the worlds that are met,
  and how they add up along a chain of steps.
-/

namespace PolicyHost.Command

variable {σ α β : Type}

/-- What a step comes to behind some notes, in a world: its value or its stop, and the notes and the world
that it leaves behind. -/
def Work.outcome (step : Work (StateM σ) α) (notes : List Note) (world : σ) :
    (Except Stop α × List Note) × σ :=
  (step.run.run notes).run world

open Work

theorem outcome_bind (step : Work (StateM σ) α) (next : α → Work (StateM σ) β) (notes : List Note)
    (world : σ) :
    outcome (step >>= next) notes world =
      match outcome step notes world with
      | ((.ok value, later), after) => outcome (next value) later after
      | ((.error stop, later), after) => ((.error stop, later), after) := by
  change (match outcome step notes world with
    | ((result, later), after) => ((ExceptT.bindCont next result).run later).run after) = _
  rcases outcome step notes world with ⟨⟨_ | _, _⟩, _⟩ <;> rfl

theorem outcome_bind_of_ok {step : Work (StateM σ) α} {notes later : List Note} {world after : σ} {value : α}
    (done : outcome step notes world = ((.ok value, later), after)) (next : α → Work (StateM σ) β) :
    outcome (step >>= next) notes world = outcome (next value) later after := by
  rw [outcome_bind, done]

theorem outcome_bind_of_error {step : Work (StateM σ) α} {notes : List Note} {world : σ} {stop : Stop}
    (stopped : (outcome step notes world).1.1 = .error stop) (next : α → Work (StateM σ) β) :
    (outcome (step >>= next) notes world).1.1 = .error stop := by
  rw [outcome_bind]
  rcases ended : outcome step notes world with ⟨⟨_ | _, later⟩, after⟩
  all_goals
    rw [ended] at stopped
    cases stopped
  rfl

/-- A chain of two steps stops at its first step, or behind it at its second. -/
theorem outcome_bind_error {step : Work (StateM σ) α} {next : α → Work (StateM σ) β} {notes : List Note}
    {world : σ} {stop : Stop} (stopped : (outcome (step >>= next) notes world).1.1 = .error stop) :
    (outcome step notes world).1.1 = .error stop ∨
      ∃ value later after, outcome step notes world = ((.ok value, later), after) ∧
        (outcome (next value) later after).1.1 = .error stop := by
  rw [outcome_bind] at stopped
  rcases done : outcome step notes world with ⟨⟨other | value, later⟩, after⟩
  · rw [done] at stopped
    cases stopped
    exact .inl rfl
  · rw [done] at stopped
    exact .inr ⟨value, later, after, rfl, stopped⟩

/-- Two operations of the surroundings, one after the other. -/
theorem then_apply (first : StateM σ α) (next : α → StateM σ β) (world : σ) :
    (first >>= next) world = next (first world).1 (first world).2 := rfl

/-- A step of the surroundings, and what comes after it. -/
theorem outcome_lift_bind (step : StateM σ α) (next : α → Work (StateM σ) β) (notes : List Note)
    (world : σ) :
    outcome (Work.lift step >>= next) notes world = outcome (next (step world).1) notes (step world).2 :=
  rfl

/-- What an attempt comes to. -/
theorem outcome_attempt (step : StateM σ (Except Fault α)) (notes : List Note) (world : σ) :
    outcome (Work.attempt step) notes world =
      (((step world).1.mapError fun fault => .failure (.fault fault), notes), (step world).2) := by
  rw [Work.attempt, outcome_lift_bind]
  cases (step world).1 <;> rfl

/-! ## Worlds -/

section Worlds

variable [Surroundings (StateM σ)] {start world : σ}

/-- The worlds that are met from a start by looking: no file is written and no directory is made. -/
inductive Met (start : σ) : σ → Prop
  | start : Met start start
  | kind {world : σ} (path : Path) : Met start world → Met start (Files.kind (m := StateM σ) path world).2
  | read {world : σ} (path : Path) : Met start world → Met start (Files.read (m := StateM σ) path world).2
  | ambient {world : σ} : Met start world → Met start (Surroundings.ambient (m := StateM σ) world).2

def Looks (step : StateM σ α) : Prop := ∀ start world, Met start world → Met start (step world).2

theorem Looks.pure (value : α) : Looks (pure value : StateM σ α) := fun _ _ met => met

theorem Looks.bind {first : StateM σ α} {next : α → StateM σ β} (looks : Looks first)
    (later : ∀ value, Looks (next value)) : Looks (first >>= next) :=
  fun start world met => later _ start _ (looks start world met)

theorem looks_kind (path : Path) : Looks (Files.kind (m := StateM σ) path) := fun _ _ => .kind path

theorem looks_read (path : Path) : Looks (Files.read (m := StateM σ) path) := fun _ _ => .read path

theorem looks_ambient : Looks (Surroundings.ambient (m := StateM σ)) := fun _ _ => .ambient

theorem looks_exists? (path : Path) : Looks (Files.exists? (m := StateM σ) path) := by
  refine (looks_kind path).bind fun found => ?_
  split <;> exact .pure _

theorem looks_contents (path : Path) : Looks (Files.contents (m := StateM σ) path) := by
  refine (looks_read path).bind fun read => ?_
  split <;> exact .pure _

theorem looks_contentsAt (path : Path) : Looks (Config.contentsAt (m := StateM σ) path) := by
  refine (looks_exists? path).bind fun found => ?_
  split
  · exact .pure _
  · exact .pure _
  · refine (looks_read path).bind fun read => ?_
    split <;> exact .pure _

theorem looks_load [Room] (env : Environment) (vars : Variables) (config : Option Path) :
    Looks (Config.load (m := StateM σ) env vars config) := by
  refine (looks_contentsAt _).bind fun contents => ?_
  split <;> exact .pure _

/-! ## Steps -/

/-- In the worlds that are met from a start, a step gives one of these values, or it stops for one of these
reasons; it only looks. -/
def Ends (start : σ) (values : α → Prop) (reasons : Stop → Prop) (step : Work (StateM σ) α) : Prop :=
  ∀ notes world, Met start world →
    match outcome step notes world with
    | ((.ok value, _), after) => Met start after ∧ values value
    | ((.error stop, _), _) => reasons stop

variable {values : α → Prop} {others : β → Prop} {reasons : Stop → Prop}

theorem Ends.stops {step : Work (StateM σ) α} (ends : Ends start values reasons step) (met : Met start world)
    {notes : List Note} {stop : Stop} (stopped : (outcome step notes world).1.1 = .error stop) :
    reasons stop := by
  have here := ends notes world met
  rcases done : outcome step notes world with ⟨⟨other | value, later⟩, after⟩
  all_goals
    rw [done] at here stopped
    cases stopped
  exact here

theorem Ends.bind {step : Work (StateM σ) α} {next : α → Work (StateM σ) β}
    (first : Ends start values reasons step)
    (later : ∀ value, values value → Ends start others reasons (next value)) :
    Ends start others reasons (step >>= next) := by
  intro notes world met
  have here := first notes world met
  rw [outcome_bind]
  rcases done : outcome step notes world with ⟨⟨stop | value, kept⟩, after⟩
  · rw [done] at here
    exact here
  · rw [done] at here
    exact later value here.2 kept after here.1

theorem Ends.pure {value : α} (allowed : values value) :
    Ends start values reasons (pure value : Work (StateM σ) α) :=
  fun _ _ met => ⟨met, allowed⟩

theorem Ends.throw {stop : Stop} (allowed : reasons stop) :
    Ends start values reasons (throw stop : Work (StateM σ) α) :=
  fun _ _ _ => allowed

/-- A step that only looks gives what it gives in a world that is met. -/
theorem Ends.lift {step : StateM σ α} (looks : Looks step) :
    Ends start (fun value => ∃ world, Met start world ∧ (step world).1 = value) reasons (Work.lift step) :=
  fun _ world met => ⟨looks start world met, world, met, rfl⟩

theorem Ends.keep (notes : List Note) :
    Ends start (fun _ => True) reasons (Work.keep notes : Work (StateM σ) Unit) :=
  fun _ _ met => ⟨met, trivial⟩

theorem Ends.ofExcept {result : Except Failure α} (done : ∀ value, result = .ok value → values value)
    (failed : ∀ failure, result = .error failure → reasons (.failure failure)) :
    Ends start values reasons (Work.ofExcept result : Work (StateM σ) α) := by
  cases result with
  | ok value => exact .pure (done value rfl)
  | error failure => exact .throw (failed failure rfl)

theorem Ends.noted {result : Except Failure α × List Note}
    (done : ∀ value, result.1 = .ok value → values value)
    (failed : ∀ failure, result.1 = .error failure → reasons (.failure failure)) :
    Ends start values reasons (Work.noted result : Work (StateM σ) α) :=
  (Ends.keep result.2).bind fun _ _ => .ofExcept done failed

end Worlds

end PolicyHost.Command
