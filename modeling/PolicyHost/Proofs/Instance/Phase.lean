import PolicyHost.Instance

/-!
# The phases of an instance

The lock of an instance does not by itself keep calls apart: a call that is cancelled gives the lock
up while the sandbox still runs it. What keeps them apart is the lock together with the state.

* `Leads`: what an event leads to, case by case; `step_leads` says that nothing else happens.
* `Phase`: how lock, state and running calls go together. Every step keeps it (`Phase.step`), so
  every run does (`Phase.run`).
* `Reaction.andThen`: reactions one after another.
-/

namespace PolicyHost

variable {σ : Type}

/-- A reaction, and what comes of its instance afterwards. -/
def Reaction.andThen (first : Reaction σ) (next : Instance σ → Reaction σ) : Reaction σ :=
  let later := next first.result
  ⟨later.result, first.outcomes ++ later.outcomes, first.notes ++ later.notes⟩

namespace Instance

def finished [Platform] (i : Instance σ) (call : Call) (registry : Registry) (ambient : Ambient) :
    Instance σ :=
  let (result, _, sandbox) := i.sandbox.evaluate registry ambient call.id call.payload
  { i with
    sandbox
    holder := i.holder.map fun h => if h.call.number = call.number then { h with result } else h
    running := i.running.filter fun other => other.number ≠ call.number }

/-! ## What an event leads to -/

/-- What an event leads to.

* `refused`: a question is not accepted;
* `entered`, `queued`: a question is accepted and finds the lock free, or waits;
* `woken`: the first call that waits gets the lock;
* `done`: the sandbox is done with a call that runs;
* `returned`, `faulted`, `failed`: the call that has the lock takes its result, which is octets, a
  failure of execution, or another failure;
* `dropped`: the call that has the lock is given up;
* `withdrawn`: calls that wait are given up;
* `nothing`: the event finds nothing to do. -/
inductive Leads [Platform] (i : Instance σ) : Event → Reaction σ → Prop
  | refused {number : Nat} {q : Question} {failure : Failure} :
      i.accept number q = .error failure →
      Leads i (.arrive number q) ⟨i, [(number, .failed failure)], []⟩
  | entered {number : Nat} {q : Question} {call : Call} :
      i.accept number q = .ok call → i.holder = none → i.waiting = [] →
      Leads i (.arrive number q) (i.enter call)
  | queued {number : Nat} {q : Question} {call : Call} :
      i.accept number q = .ok call → ¬ (i.holder = none ∧ i.waiting = []) →
      Leads i (.arrive number q) (still { i with waiting := i.waiting ++ [call] })
  | woken {call : Call} {rest : List Call} :
      i.holder = none → i.waiting = call :: rest →
      Leads i .wake ({ i with waiting := rest }.enter call)
  | done {number : Nat} {registry : Registry} {ambient : Ambient} {call : Call} {notes : List Note} :
      call ∈ i.running → call.number = number →
      Leads i (.finish number registry ambient) ⟨i.finished call registry ambient, [], notes⟩
  | returned {call : Call} {raw : Bytes} {notes : List Note} :
      i.holder = some ⟨call, some (.ok raw)⟩ →
      Leads i .resume ⟨{ i with holder := none, state := .built },
        [(call.number, .ofExcept (decodeResult raw call.shape))], notes⟩
  | faulted {call : Call} {cause : PolicyError} {notes : List Note} :
      i.holder = some ⟨call, some (.error (.error cause))⟩ → cause.kind.isExecution = true →
      Leads i .resume ⟨{ i with holder := none, state := .faulted },
        [(call.number, .failed (.error cause))], notes⟩
  | failed {call : Call} {failure : Failure} {notes : List Note} :
      i.holder = some ⟨call, some (.error failure)⟩ →
      (∀ cause, failure = .error cause → cause.kind.isExecution = false) →
      Leads i .resume ⟨{ i with holder := none, state := .built },
        [(call.number, .failed failure)], notes⟩
  | dropped {number : Nat} {holder : Holder} {notes : List Note} :
      i.holder = some holder → holder.call.number = number →
      Leads i (.cancel number) ⟨{ i with holder := none, state := .faulted },
        [(number, .cancelled)], notes⟩
  | withdrawn {number : Nat} :
      (∀ holder, i.holder = some holder → holder.call.number ≠ number) →
      Leads i (.cancel number) ⟨{ i with waiting := i.waiting.filter fun call => call.number ≠ number },
        [(number, .cancelled)], []⟩
  | nothing {event : Event} :
      (event = .wake → ¬ (i.holder = none ∧ i.waiting ≠ [])) →
      (∀ number registry ambient, event = .finish number registry ambient →
        ∀ call, call ∈ i.running → call.number ≠ number) →
      (event = .resume → ∀ call result, i.holder ≠ some ⟨call, some result⟩) →
      (∀ number q, event ≠ .arrive number q) →
      Leads i event i.still

theorem arrive_leads [Platform] (i : Instance σ) (number : Nat) (q : Question) :
    Leads i (.arrive number q) (i.arrive number q) := by
  unfold arrive
  cases accepted : i.accept number q with
  | error failure => exact .refused accepted
  | ok call =>
    dsimp only
    split
    · next free =>
      simp only [Bool.and_eq_true, Option.isNone_iff_eq_none, List.isEmpty_iff] at free
      exact .entered accepted free.1 free.2
    · next busy =>
      refine .queued accepted fun free => busy ?_
      simp [free.1, free.2]

theorem wake_leads [Platform] (i : Instance σ) : Leads i .wake i.wake := by
  unfold wake
  split
  · next call rest free waits => exact .woken free waits
  · next stuck =>
    refine .nothing (fun _ idle => ?_) (fun _ _ _ h => nomatch h) (fun h => nomatch h)
      (fun _ _ h => nomatch h)
    obtain ⟨call, rest, waits⟩ := List.exists_cons_of_ne_nil idle.2
    exact stuck call rest idle.1 waits

theorem finish_leads [Platform] (i : Instance σ) (number : Nat) (registry : Registry) (ambient : Ambient) :
    Leads i (.finish number registry ambient) (i.finish number registry ambient) := by
  unfold finish
  split
  · next missing =>
    refine .nothing (fun h => nomatch h) (fun number' _ _ h call member => ?_)
      (fun h => nomatch h) (fun _ _ h => nomatch h)
    cases h
    simpa using List.find?_eq_none.mp missing call member
  · next call found =>
    have same : call.number = number := by simpa using List.find?_some found
    subst same
    exact .done (List.mem_of_find?_eq_some found) rfl

theorem resume_leads [Platform] (i : Instance σ) : Leads i .resume i.resume := by
  unfold resume
  split
  · next call result held =>
    split
    · next raw => exact .returned held
    · next cause =>
      split
      · next execution => exact .faulted held execution
      · next other =>
        refine .failed held fun cause' same => ?_
        cases same
        simpa using other
    · next cause => exact .failed held fun _ h => nomatch h
  · next idle =>
    exact .nothing (fun h => nomatch h) (fun _ _ _ h => nomatch h)
      (fun _ call result held => idle call result held) (fun _ _ h => nomatch h)

theorem cancel_leads [Platform] (i : Instance σ) (number : Nat) :
    Leads i (.cancel number) (i.cancel number) := by
  have giveUp : (∀ holder, i.holder = some holder → holder.call.number ≠ number) →
      Leads i (.cancel number) (cancel.giveUp i number) := by
    intro other
    unfold cancel.giveUp
    split
    · exact .withdrawn other
    · exact .nothing (fun h => nomatch h) (fun _ _ _ h => nomatch h) (fun h => nomatch h)
        (fun _ _ h => nomatch h)
  unfold cancel
  split
  · next holder held =>
    split
    · next same => exact .dropped held same
    · next other =>
      refine giveUp fun holder' held' => ?_
      rw [held] at held'
      cases held'
      exact other
  · next free => exact giveUp fun holder held => by rw [free] at held; cases held

/-- An event leads to nothing but these cases. -/
theorem step_leads [Platform] (i : Instance σ) (event : Event) : Leads i event (i.step event) := by
  cases event with
  | arrive number q => exact arrive_leads i number q
  | wake => exact wake_leads i
  | finish number registry ambient => exact finish_leads i number registry ambient
  | resume => exact resume_leads i
  | cancel number => exact cancel_leads i number

@[simp] theorem run_nil [Platform] (i : Instance σ) : i.run [] = i.still := rfl

theorem run_cons [Platform] (i : Instance σ) (event : Event) (rest : List Event) :
    i.run (event :: rest) = (i.step event).andThen fun next => next.run rest := rfl

/-! ## Phases -/

/-- How lock, state and running calls go together.

* `idle`: nothing has the lock and nothing runs;
* `abandoned`: the call that runs has given up the lock, and the instance is faulted;
* `inside`: the call that has the lock runs;
* `ready`: the call that has the lock waits for nothing but to take its result. -/
inductive Phase (i : Instance σ) : Prop
  | idle : i.holder = none → i.state ≠ .evaluating → i.running = [] → Phase i
  | abandoned {call : Call} :
      i.holder = none → i.state = .faulted → i.running = [call] → Phase i
  | inside {call : Call} :
      i.holder = some ⟨call, none⟩ → i.state = .evaluating → i.running = [call] → Phase i
  | ready {call : Call} {result : Except Failure Bytes} :
      i.holder = some ⟨call, some result⟩ → i.state = .evaluating → i.running = [] → Phase i

theorem Phase.ofSandbox (sandbox : Sandbox σ) (registry : Nat) (hasData : Bool) :
    Phase (Instance.ofSandbox sandbox registry hasData) :=
  .idle rfl (by simp [Instance.ofSandbox]) rfl

theorem Phase.running_length_le_one {i : Instance σ} (phase : Phase i) : i.running.length ≤ 1 := by
  cases phase with
  | idle _ _ empty | ready _ _ empty => simp [empty]
  | abandoned _ _ one | inside _ _ one => simp [one]

/-- Calls that wait have no part in the phase. -/
theorem Phase.of_waiting {i : Instance σ} (phase : Phase i) (waiting : List Call) :
    Phase { i with waiting } := by
  cases phase with
  | idle free state empty => exact .idle free state empty
  | abandoned free state one => exact .abandoned free state one
  | inside held state one => exact .inside held state one
  | ready held state empty => exact .ready held state empty

/-- A call gets the lock only if the instance is not faulted, and then nothing runs. -/
theorem Phase.enter {i : Instance σ} (phase : Phase i) (free : i.holder = none) (call : Call) :
    Phase (i.enter call).result := by
  unfold Instance.enter
  split
  · exact phase
  · next usable =>
    cases phase with
    | idle _ _ empty => exact .inside rfl rfl (by simp [still, empty])
    | abandoned _ faulty _ => exact absurd faulty usable
    | inside held _ _ | ready held _ _ => rw [free] at held; cases held

/-- When the sandbox is done with the call that has the lock, the call has its result. -/
theorem finished_of_inside [Platform] {i : Instance σ} {call : Call}
    (held : i.holder = some ⟨call, none⟩) (one : i.running = [call])
    (registry : Registry) (ambient : Ambient) :
    i.finished call registry ambient =
      { i with
        sandbox := (i.sandbox.evaluate registry ambient call.id call.payload).2.2
        holder := some ⟨call, some (i.sandbox.evaluate registry ambient call.id call.payload).1⟩
        running := [] } := by
  simp [finished, held, one]

/-- When the sandbox is done with a call that nobody waits for, only its effects remain. -/
theorem finished_of_abandoned [Platform] {i : Instance σ} {call : Call}
    (free : i.holder = none) (one : i.running = [call])
    (registry : Registry) (ambient : Ambient) :
    i.finished call registry ambient =
      { i with
        sandbox := (i.sandbox.evaluate registry ambient call.id call.payload).2.2
        running := [] } := by
  simp [finished, free, one]

theorem Phase.finished [Platform] {i : Instance σ} {call : Call} (phase : Phase i) (runs : call ∈ i.running)
    (registry : Registry) (ambient : Ambient) : Phase (i.finished call registry ambient) := by
  cases phase with
  | idle _ _ empty | ready _ _ empty => simp [empty] at runs
  | abandoned free faulty one =>
    simp only [one, List.mem_singleton] at runs
    subst runs
    rw [finished_of_abandoned free one]
    exact .idle free (by simp [faulty]) rfl
  | inside held state one =>
    simp only [one, List.mem_singleton] at runs
    subst runs
    rw [finished_of_inside held one]
    exact .ready rfl state rfl

/-- Every step keeps lock, state and running calls together. -/
theorem Phase.step [Platform] {i : Instance σ} (phase : Phase i) (event : Event) :
    Phase (i.step event).result := by
  have leads := step_leads i event
  generalize i.step event = reaction at leads
  cases leads with
  | refused _ | nothing _ _ _ _ => exact phase
  | entered _ free _ => exact phase.enter free _
  | queued _ _ | withdrawn _ => exact phase.of_waiting _
  | @woken call rest free _ => exact (phase.of_waiting rest).enter free call
  | done runs _ => exact phase.finished runs _ _
  | returned held | faulted held _ | failed held _ =>
    cases phase with
    | idle free _ _ | abandoned free _ _ => rw [free] at held; cases held
    | inside waits _ _ => rw [waits] at held; cases held
    | ready _ _ empty => exact .idle rfl (by simp) empty
  | dropped held _ =>
    cases phase with
    | idle free _ _ | abandoned free _ _ => rw [free] at held; cases held
    -- The sandbox goes on with the call; being faulted keeps the next one out.
    | inside _ _ one => exact .abandoned rfl rfl one
    | ready _ _ empty => exact .idle rfl (by simp) empty

theorem Phase.run [Platform] {i : Instance σ} (phase : Phase i) (events : List Event) :
    Phase (i.run events).result := by
  induction events generalizing i with
  | nil => exact phase
  | cons event rest ih => exact ih (phase.step event)

end Instance

end PolicyHost
