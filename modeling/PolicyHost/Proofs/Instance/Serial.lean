import PolicyHost.Deployment.Standard
import Mathlib.Data.List.Forall2
import PolicyHost.Proofs.Instance.Phase

/-!
# Interleaved calls and calls in turn

Calls of one instance may arrive, wait, run and end in any order of steps. What comes of them is what
comes of the same calls one after another, in the order in which they got the lock.

* `granted`: the calls in the order in which they get the lock.
* `settled`: the outcomes of the calls that had the lock, in their order.
* `inTurn`: calls from arrival to outcome, one after another.
* `catchUp`: the call that has the lock, brought to its end before its time. An interleaved run and
  the calls in turn meet wherever this is done (`inTurn_granted`).
* `running_exclusive_serial`: at most one call runs at a time, and a run in which nothing is
  cancelled ends as the calls in turn do.
-/

namespace PolicyHost

variable {σ : Type}

def Event.isCancel : Event → Bool
  | .cancel _ => true
  | _ => false

def Event.isArrival : Event → Bool
  | .arrive _ _ => true
  | _ => false

/-- What surrounds the evaluation of a call: what surrounds the first event that finishes it. -/
def surroundings? (number : Nat) : List Event → Option (Registry × Ambient)
  | [] => none
  | .finish finished registry ambient :: rest =>
    if finished = number then some (registry, ambient) else surroundings? number rest
  | _ :: rest => surroundings? number rest

/-- A question with its number, and what surrounds its evaluation if the sandbox gets done with
it. -/
structure Turn where
  number : Nat
  question : Question
  surroundings : Option (Registry × Ambient)

namespace Instance

/-! ## What a run does for the calls that get the lock -/

section

variable [Platform]

def granted? (i : Instance σ) : Event → Option Call
  | .arrive number q =>
    match i.accept number q with
    | .ok call => if i.holder.isNone && i.waiting.isEmpty then some call else none
    | .error _ => none
  | .wake => if i.holder.isNone then i.waiting.head? else none
  | _ => none

/-- The calls in the order in which they get the lock, each with what surrounds its evaluation. -/
def granted (i : Instance σ) : List Event → List (Call × Option (Registry × Ambient))
  | [] => []
  | event :: rest =>
    (i.granted? event).toList.map (fun call => (call, surroundings? call.number rest))
      ++ (i.step event).result.granted rest

/-- The outcomes that an event brings to calls that have got the lock. A question that comes in has
an outcome at once only if it is not accepted. -/
def settledBy (i : Instance σ) (event : Event) : List (Nat × Outcome) :=
  if event.isArrival then [] else (i.step event).outcomes

/-- The outcomes of the calls that have got the lock, in their order. -/
def settled (i : Instance σ) : List Event → List (Nat × Outcome)
  | [] => []
  | event :: rest => i.settledBy event ++ (i.step event).result.settled rest

/-! ## Calls in turn -/

/-- A question from its arrival to its outcome, or into the sandbox if that never gets done with
it. -/
def takeTurn (i : Instance σ) (t : Turn) : Reaction σ :=
  match t.surroundings with
  | some (registry, ambient) => i.eval registry ambient t.number t.question
  | none => i.step (.arrive t.number t.question)

/-- Questions one after another. -/
def inTurn (i : Instance σ) : List Turn → Reaction σ
  | [] => i.still
  | t :: rest => (i.takeTurn t).andThen fun next => next.inTurn rest

/-- The question of a turn comes in with the events and becomes the call, which is evaluated in the
surroundings of the turn. -/
def Serves (i : Instance σ) (events : List Event) (t : Turn)
    (granted : Call × Option (Registry × Ambient)) : Prop :=
  .arrive t.number t.question ∈ events ∧ i.accept t.number t.question = .ok granted.1 ∧
    t.surroundings = granted.2

def alone (i : Instance σ) : Instance σ := { i with waiting := [] }

/-- What the events come to is what the calls come to in turn, in the order in which they got the
lock. The sandbox is the same. The outcomes are the same and in the same order; only that of a call
which still has the lock is missing. Once the lock is free, the instances are the same but for calls
that wait. -/
def RunsInTurn (fresh : Instance σ) (events : List Event) : Prop :=
  ∃ turns, List.Forall₂ (fresh.Serves events) turns (fresh.granted events) ∧
    (fresh.inTurn turns).result.sandbox = (fresh.run events).result.sandbox ∧
    fresh.settled events <+: (fresh.inTurn turns).outcomes ∧
    ((fresh.run events).result.holder = none →
      (fresh.inTurn turns).outcomes = fresh.settled events ∧
        (fresh.inTurn turns).result = (fresh.run events).result.alone)

/-- The instance without the calls that wait, and with the call that has the lock brought to the end
that later events bring it to. -/
def catchUp (i : Instance σ) (events : List Event) : Reaction σ :=
  match i.holder with
  | none => i.alone.still
  | some ⟨_, some _⟩ => i.alone.run [.resume]
  | some ⟨call, none⟩ =>
    match surroundings? call.number events with
    | none => i.alone.still
    | some (registry, ambient) => i.alone.run [.finish call.number registry ambient, .resume]

/-! ## Questions and calls -/

/-- The call is the question, checked and encoded. -/
def Asks (entrypoints : Table Text Int) (number : Nat) (q : Question) (call : Call) : Prop :=
  ∃ id payload, Table.get? q.entrypoint entrypoints = some id ∧ Conversion.encode q.input = .ok payload ∧
    call = ⟨number, q.entrypoint, id, payload, q.shape⟩

theorem accept_of_faulted {i : Instance σ} (faulty : i.state = .faulted) (number : Nat)
    (q : Question) : i.accept number q = .error (.error .instanceFaulted) := by
  simp [accept, faulty]

theorem accept_eq_ok_iff {i : Instance σ} {number : Nat} {q : Question} {call : Call} :
    i.accept number q = .ok call ↔
      i.state ≠ .faulted ∧ Asks i.sandbox.entrypoints number q call := by
  by_cases faulty : i.state = .faulted
  · simp [accept_of_faulted faulty, faulty]
  · simp only [accept, faulty, if_false, Asks, ne_eq, not_false_eq_true, true_and]
    cases found : Table.get? q.entrypoint i.sandbox.entrypoints with
    | none => simp
    | some id =>
      cases encoded : Conversion.encode q.input with
      | error failure => simp [bind, Except.bind]
      | ok payload => simp [bind, Except.bind, pure, Except.pure, eq_comm]

theorem Asks.number_eq {entrypoints : Table Text Int} {number : Nat} {q : Question} {call : Call}
    (asks : Asks entrypoints number q call) : call.number = number := by
  obtain ⟨id, payload, -, -, rfl⟩ := asks
  rfl

/-- Evaluating changes the store of a sandbox, and no entrypoint. -/
theorem step_entrypoints (i : Instance σ) (event : Event) :
    (i.step event).result.sandbox.entrypoints = i.sandbox.entrypoints := by
  have leads := step_leads i event
  generalize i.step event = reaction at leads
  cases leads with
  | entered _ _ _ | woken _ _ =>
    unfold enter
    split <;> rfl
  | _ => rfl

/-! ## One step -/

/-- An instance of which no call has been cancelled: when the lock is free, nothing runs, and every
call that waits is a question that came in with `events`. -/
structure Calm (events : List Event) (i : Instance σ) : Prop where
  phase : Phase i
  quiet : i.holder = none → i.running = []
  asked : ∀ call ∈ i.waiting, ∃ q, .arrive call.number q ∈ events ∧
    Asks i.sandbox.entrypoints call.number q call

theorem Calm.ofSandbox (events : List Event) (sandbox : Sandbox σ) (registry : Nat)
    (hasData : Bool) : Calm events (Instance.ofSandbox sandbox registry hasData) where
  phase := .ofSandbox sandbox registry hasData
  quiet _ := rfl
  asked _ member := nomatch member

omit [Platform] in
/-- A call that gets the lock runs, or is refused by a faulted instance. -/
theorem quiet_enter {i : Instance σ} (quiet : i.running = []) (call : Call) :
    (i.enter call).result.holder = none → (i.enter call).result.running = [] := by
  unfold enter
  split
  · exact fun _ => quiet
  · exact fun held => nomatch held

omit [Platform] in
theorem waiting_enter (i : Instance σ) (call : Call) :
    (i.enter call).result.waiting = i.waiting := by
  unfold enter
  split <;> rfl

theorem Calm.step {events : List Event} {i : Instance σ} (calm : Calm events i) {event : Event}
    (member : event ∈ events) (kept : event.isCancel = false) :
    Calm events (i.step event).result := by
  refine ⟨calm.phase.step event, ?_, ?_⟩
  · have leads := step_leads i event
    generalize i.step event = reaction at leads
    cases leads with
    | refused _ | nothing _ _ _ _ | queued _ _ => exact calm.quiet
    | entered _ free _ => exact quiet_enter (calm.quiet free) _
    | @woken call rest free _ =>
      exact quiet_enter (i := { i with waiting := rest }) (calm.quiet free) call
    | @done _ registry ambient call _ runs _ =>
      intro free
      have idle : i.holder = none := by simpa [finished] using free
      rw [calm.quiet idle] at runs
      cases runs
    | returned held | faulted held _ | failed held _ =>
      intro _
      cases calm.phase with
      | idle free _ _ | abandoned free _ _ => rw [free] at held; cases held
      | inside waits _ _ => rw [waits] at held; cases held
      | ready _ _ empty => exact empty
    | dropped _ _ | withdrawn _ => cases kept
  · rw [step_entrypoints]
    have leads := step_leads i event
    generalize i.step event = reaction at leads
    cases leads with
    | entered _ _ _ => rw [waiting_enter]; exact calm.asked
    | @queued number q call accepted _ =>
      intro other waits
      rcases List.mem_append.mp waits with earlier | last
      · exact calm.asked other earlier
      · have asks := (accept_eq_ok_iff.mp accepted).2
        rw [List.mem_singleton.mp last, asks.number_eq]
        exact ⟨q, member, asks⟩
    | woken _ waits =>
      rw [waiting_enter]
      intro other later
      exact calm.asked other (by rw [waits]; exact List.mem_cons_of_mem _ later)
    | dropped _ _ | withdrawn _ => cases kept
    | _ => exact calm.asked

/-- A reaction that ends as a later one does, with outcomes in front. -/
structure Extends (whole : Reaction σ) (outcomes : List (Nat × Outcome)) (later : Reaction σ) :
    Prop where
  result : whole.result = later.result
  outcomes : whole.outcomes = outcomes ++ later.outcomes

theorem catchUp_of_free {i : Instance σ} (free : i.holder = none) (events : List Event) :
    i.catchUp events = i.alone.still := by
  simp [catchUp, free]

theorem catchUp_of_ready {i : Instance σ} {call : Call} {result : Except Failure Bytes}
    (held : i.holder = some ⟨call, some result⟩) (events : List Event) :
    i.catchUp events = i.alone.run [.resume] := by
  simp [catchUp, held]

theorem catchUp_of_inside {i : Instance σ} {call : Call} (held : i.holder = some ⟨call, none⟩)
    (events : List Event) :
    i.catchUp events =
      match surroundings? call.number events with
      | none => i.alone.still
      | some (registry, ambient) => i.alone.run [.finish call.number registry ambient, .resume] := by
  simp [catchUp, held]

/-- A faulted instance refuses a question in turn as it refuses the call that waited. -/
theorem takeTurn_of_faulted {i : Instance σ} (faulty : i.state = .faulted) (free : i.holder = none)
    (quiet : i.running = []) (t : Turn) :
    Extends (i.alone.takeTurn t) [(t.number, .failed (.error .instanceFaulted))] i.alone.still := by
  have refused : i.alone.step (.arrive t.number t.question) =
      ⟨i.alone, [(t.number, .failed (.error .instanceFaulted))], []⟩ := by
    simp [step, arrive, accept_of_faulted (i := i.alone) faulty]
  unfold takeTurn
  split
  · have finish : ∀ registry ambient, i.alone.step (.finish t.number registry ambient) =
        i.alone.still := by
      simp [step, Instance.finish, alone, quiet, still]
    have resume : i.alone.step .resume = i.alone.still := by
      simp [step, Instance.resume, alone, free]
    constructor <;>
      simp [Instance.eval, run_cons, Reaction.andThen, refused, finish, resume, still]
  · constructor <;> simp [refused, still]

/-- A question in turn goes the way that its call goes once it has the lock. -/
theorem takeTurn_of_enter {i : Instance σ} (free : i.holder = none) (quiet : i.running = [])
    {q : Question} {call : Call} (asks : Asks i.sandbox.entrypoints call.number q call)
    (later : List Event) :
    Extends (i.alone.takeTurn ⟨call.number, q, surroundings? call.number later⟩)
      (i.enter call).outcomes ((i.enter call).result.catchUp later) := by
  by_cases faulty : i.state = .faulted
  · have refused : i.enter call = ⟨i, [(call.number, .failed (.error .instanceFaulted))], []⟩ := by
      simp [enter, faulty]
    rw [refused, catchUp_of_free free]
    exact takeTurn_of_faulted faulty free quiet _
  · have accepted : i.alone.accept call.number q = .ok call := accept_eq_ok_iff.mpr ⟨faulty, asks⟩
    have arrives : i.alone.step (.arrive call.number q) = (i.enter call).result.alone.still := by
      simp only [step, arrive, accepted]
      simp [alone, free, enter, faulty, still]
    have entered : (i.enter call).outcomes = [] := by simp [enter, faulty, still]
    have inside : (i.enter call).result.holder = some ⟨call, none⟩ := by
      simp [enter, faulty, still]
    rw [entered, catchUp_of_inside inside]
    unfold takeTurn
    cases surroundings? call.number later with
    | none => constructor <;> simp [arrives, still]
    | some pair =>
      constructor <;> simp [Instance.eval, run_cons, Reaction.andThen, arrives, still]

omit [Platform] in
theorem Extends.refl (r : Reaction σ) : Extends r [] r := ⟨rfl, rfl⟩

/-- Only the event that finishes a call changes what later events do for it. -/
theorem catchUp_cons {event : Event} (other : ∀ number registry ambient,
    event ≠ .finish number registry ambient) (i : Instance σ) (rest : List Event) :
    i.catchUp (event :: rest) = i.catchUp rest := by
  have skip : ∀ number, surroundings? number (event :: rest) = surroundings? number rest := by
    intro number
    cases event with
    | finish number' registry ambient => exact absurd rfl (other number' registry ambient)
    | _ => rfl
  simp only [catchUp, skip]

theorem resume_alone (i : Instance σ) :
    i.alone.step .resume =
      ⟨(i.step .resume).result.alone, (i.step .resume).outcomes, (i.step .resume).notes⟩ := by
  obtain ⟨sandbox, registry, hasData, state, holder, waiting, running⟩ := i
  rcases holder with _ | ⟨call, _ | (cause | cause) | raw⟩
  · rfl
  · rfl
  · simp only [step, Instance.resume, alone]
    split <;> rfl
  · rfl
  · rfl

theorem catchUp_resume (i : Instance σ) (rest : List Event) :
    Extends (i.catchUp (.resume :: rest)) (i.settledBy .resume)
      ((i.step .resume).result.catchUp rest) := by
  have leads := resume_leads i
  have free : (∃ call result, i.holder = some ⟨call, some result⟩) →
      (i.step .resume).result.holder = none := by
    rintro ⟨call, result, held⟩
    change i.resume.result.holder = none
    generalize i.resume = reaction at leads
    cases leads with
    | returned _ | faulted _ _ | failed _ _ => rfl
    | nothing _ _ idle _ => exact absurd held (idle rfl call result)
  by_cases ready : ∃ call result, i.holder = some ⟨call, some result⟩
  · rw [catchUp_of_free (free ready)]
    obtain ⟨call, result, held⟩ := ready
    rw [catchUp_of_ready held, run_cons, resume_alone]
    constructor <;> simp [Reaction.andThen, still, settledBy, Event.isArrival]
  · have idle : i.step .resume = i.still := by
      change i.resume = i.still
      unfold Instance.resume
      split
      · next call result held => exact absurd ⟨call, result, held⟩ ready
      · rfl
    rw [catchUp_cons (fun _ _ _ h => by cases h)]
    simp only [settledBy, idle]
    exact .refl _

/-- The event that finishes the call with the lock is the one that catching up runs ahead to. -/
theorem catchUp_finish {events : List Event} {i : Instance σ} (calm : Calm events i) (number : Nat)
    (registry : Registry) (ambient : Ambient) (rest : List Event) :
    Extends (i.catchUp (.finish number registry ambient :: rest))
      (i.settledBy (.finish number registry ambient))
      ((i.step (.finish number registry ambient)).result.catchUp rest) := by
  have skip : (∀ call ∈ i.running, call.number ≠ number) →
      i.catchUp (.finish number registry ambient :: rest) = i.catchUp rest := by
    intro other
    cases calm.phase with
    | idle free _ _ | abandoned free _ _ => rw [catchUp_of_free free, catchUp_of_free free]
    | ready held _ _ => rw [catchUp_of_ready held, catchUp_of_ready held]
    | @inside call held _ one =>
      have differ : number ≠ call.number := (other call (by simp [one])).symm
      rw [catchUp_of_inside held, catchUp_of_inside held]
      simp [surroundings?, differ]
  have leads := step_leads i (.finish number registry ambient)
  unfold settledBy
  generalize i.step (.finish number registry ambient) = reaction at leads ⊢
  cases leads with
  | nothing _ missing _ _ =>
    rw [skip (missing number registry ambient rfl)]
    exact .refl _
  | @done _ _ _ call notes runs same =>
    subst same
    cases calm.phase with
    | idle _ _ empty | ready _ _ empty => rw [empty] at runs; cases runs
    | abandoned free _ _ => rw [calm.quiet free] at runs; cases runs
    | @inside holder held _ one =>
      rw [one, List.mem_singleton] at runs
      subst runs
      rw [finished_of_inside held one, catchUp_of_inside held]
      simp only [surroundings?, if_true, run_cons]
      rw [catchUp_of_ready rfl]
      have finishes : (i.alone.step (.finish call.number registry ambient)).result =
          (finished i call registry ambient).alone ∧
            (i.alone.step (.finish call.number registry ambient)).outcomes = [] := by
        simp [step, Instance.finish, alone, one, finished, held]
      rw [finished_of_inside held one] at finishes
      constructor <;> simp [run_cons, Reaction.andThen, finishes.1, finishes.2, Event.isArrival]

/-- An event by which no call gets the lock takes the call that has it no further than catching up
does. -/
theorem catchUp_of_not_granted {events : List Event} {i : Instance σ} (calm : Calm events i)
    {event : Event} (kept : event.isCancel = false) (none : i.granted? event = none)
    (rest : List Event) :
    Extends (i.catchUp (event :: rest)) (i.settledBy event)
      ((i.step event).result.catchUp rest) := by
  cases event with
  | finish number registry ambient => exact catchUp_finish calm number registry ambient rest
  | resume => exact catchUp_resume i rest
  | cancel number => cases kept
  | arrive number q =>
    rw [catchUp_cons (fun _ _ _ h => by cases h)]
    have leads := step_leads i (.arrive number q)
    simp only [settledBy, Event.isArrival, if_true]
    generalize i.step (.arrive number q) = reaction at leads ⊢
    cases leads with
    | refused _ | queued _ _ => exact .refl _
    | entered accepted free empty => simp [granted?, accepted, free, empty] at none
    | nothing _ _ _ other => exact absurd rfl (other number q)
  | wake =>
    rw [catchUp_cons (fun _ _ _ h => by cases h)]
    have leads := step_leads i .wake
    unfold settledBy
    generalize i.step .wake = reaction at leads ⊢
    cases leads with
    | woken free waits => simp [granted?, free, waits] at none
    | nothing _ _ _ _ => exact .refl _

/-- A call that gets the lock goes the way of its question in turn. -/
theorem takeTurn_of_granted {events : List Event} {i : Instance σ} (calm : Calm events i)
    {event : Event} (member : event ∈ events) {call : Call} (granted : i.granted? event = some call)
    (rest : List Event) :
    i.holder = none ∧ ∃ q, .arrive call.number q ∈ events ∧
      Asks i.sandbox.entrypoints call.number q call ∧
      Extends (i.alone.takeTurn ⟨call.number, q, surroundings? call.number rest⟩)
        (i.settledBy event) ((i.step event).result.catchUp rest) := by
  have leads := step_leads i event
  unfold settledBy
  generalize i.step event = reaction at leads ⊢
  cases leads with
  | refused accepted => simp [granted?, accepted] at granted
  | @entered number q first accepted free empty =>
    simp only [granted?, accepted, free, empty, Option.isNone_none, List.isEmpty_nil, Bool.and_self,
      if_true, Option.some.injEq] at granted
    subst granted
    obtain ⟨usable, asks⟩ := accept_eq_ok_iff.mp accepted
    have number_eq := asks.number_eq
    subst number_eq
    have turn := takeTurn_of_enter free (calm.quiet free) asks rest
    have entered : (i.enter first).outcomes = [] := by simp [enter, usable, still]
    rw [entered] at turn
    exact ⟨free, q, member, asks, turn⟩
  | queued accepted busy =>
    simp only [granted?, accepted, Option.ite_none_right_eq_some, Bool.and_eq_true,
      Option.isNone_iff_eq_none, List.isEmpty_iff] at granted
    exact absurd granted.1 busy
  | @woken next later free waits =>
    simp only [granted?, free, waits, Option.isNone_none, if_true, List.head?_cons,
      Option.some.injEq] at granted
    subst granted
    obtain ⟨q, arrives, asks⟩ := calm.asked next (by simp [waits])
    have turn := takeTurn_of_enter (i := { i with waiting := later }) free (calm.quiet free) asks rest
    exact ⟨free, q, arrives, asks, turn⟩
  | nothing wakes _ _ other =>
    cases event with
    | arrive number q => exact absurd rfl (other number q)
    | wake =>
      simp only [granted?, Option.ite_none_right_eq_some, Option.isNone_iff_eq_none] at granted
      refine absurd ⟨granted.1, fun empty => ?_⟩ (wakes rfl)
      simp [empty] at granted
    | _ => cases granted
  | _ => cases granted

/-! ## Runs -/

/-- From a calm instance on, a run and the calls in turn come to the same: the calls in turn start
from the instance in which the call that has the lock has been brought to its end. -/
theorem inTurn_granted (fresh : Instance σ) {all : List Event} (usable : fresh.state ≠ .faulted)
    (events : List Event) {i : Instance σ} (calm : Calm all i)
    (same : i.sandbox.entrypoints = fresh.sandbox.entrypoints)
    (members : ∀ event ∈ events, event ∈ all)
    (kept : ∀ event ∈ events, event.isCancel = false) :
    ∃ turns, List.Forall₂ (fresh.Serves all) turns (i.granted events) ∧
      Extends ((i.catchUp events).andThen fun next => next.inTurn turns) (i.settled events)
        ((i.run events).result.catchUp []) := by
  induction events generalizing i with
  | nil => exact ⟨[], .nil, by constructor <;> simp [Reaction.andThen, inTurn, settled, still]⟩
  | cons event rest ih =>
    have member := members event List.mem_cons_self
    have entrypoints := (step_entrypoints i event).trans same
    obtain ⟨turns, serves, meets⟩ := ih (calm.step member (kept event List.mem_cons_self)) entrypoints
      (fun other later => members other (List.mem_cons_of_mem _ later))
      (fun other later => kept other (List.mem_cons_of_mem _ later))
    -- A call that gets the lock opens a turn; any other event goes on with the turn that is open.
    cases granted : i.granted? event with
    | none =>
      have ahead := catchUp_of_not_granted calm (kept event List.mem_cons_self) granted rest
      refine ⟨turns, by simpa [Instance.granted, granted] using serves, ?_, ?_⟩
      · simp only [Reaction.andThen, ahead.result]
        exact meets.result
      · have outcomes := meets.outcomes
        simp only [Reaction.andThen, ahead.result, ahead.outcomes, settled, List.append_assoc]
          at outcomes ⊢
        rw [outcomes]
        rfl
    | some call =>
      obtain ⟨free, q, arrives, asks, turn⟩ := takeTurn_of_granted calm member granted rest
      have accepted : fresh.accept call.number q = .ok call := by
        rw [accept_eq_ok_iff, ← same]
        exact ⟨usable, asks⟩
      refine ⟨⟨call.number, q, surroundings? call.number rest⟩ :: turns, ?_, ?_⟩
      · simp only [Instance.granted, granted, Option.toList_some, List.map_cons, List.map_nil,
          List.singleton_append]
        exact .cons ⟨arrives, accepted, rfl⟩ serves
      · rw [catchUp_of_free free]
        have outcomes := meets.outcomes
        have result := meets.result
        simp only [Reaction.andThen] at outcomes result
        constructor
        · simp only [Reaction.andThen, inTurn, still, turn.result]
          exact result
        · simp only [Reaction.andThen, inTurn, still, turn.result, turn.outcomes, settled,
            List.nil_append, List.append_assoc, outcomes]
          rfl

theorem catchUp_sandbox (i : Instance σ) : (i.catchUp []).result.sandbox = i.sandbox := by
  obtain ⟨sandbox, registry, hasData, state, holder, waiting, running⟩ := i
  rcases holder with _ | ⟨call, _ | result⟩
  · rfl
  · rfl
  · rw [catchUp_of_ready rfl, run_cons, resume_alone]
    rcases result with (cause | cause) | raw
    · simp only [Reaction.andThen, step, Instance.resume]
      split <;> rfl
    · rfl
    · rfl

/-- At most one call of an instance runs at any time, counting calls that have been cancelled while
they ran. When nothing is cancelled, calls come to what they come to in turn. -/
theorem running_exclusive_serial (sandbox : Sandbox σ) (registry : Nat) (hasData : Bool)
    (events : List Event) :
    ((ofSandbox sandbox registry hasData).run events).result.running.length ≤ 1 ∧
      ((∀ event ∈ events, event.isCancel = false) →
        (ofSandbox sandbox registry hasData).RunsInTurn events) := by
  constructor
  · exact ((Phase.ofSandbox sandbox registry hasData).run events).running_length_le_one
  · intro kept
    obtain ⟨turns, serves, meets⟩ := inTurn_granted (ofSandbox sandbox registry hasData)
      (by simp [ofSandbox]) events (.ofSandbox events sandbox registry hasData) rfl
      (fun _ member => member) kept
    rw [show (ofSandbox sandbox registry hasData).catchUp events =
      (ofSandbox sandbox registry hasData).still from rfl] at meets
    have outcomes := meets.outcomes
    have result := meets.result
    simp only [Reaction.andThen, still, List.nil_append] at outcomes result
    refine ⟨turns, serves, ?_, ?_, fun free => ?_⟩
    · rw [result, catchUp_sandbox]
    · rw [outcomes]
      exact List.prefix_append _ _
    · rw [catchUp_of_free free] at outcomes result
      exact ⟨by simpa [still] using outcomes, result⟩

end

/-- A sandbox whose guest counts how often it has been called, and answers with the count. -/
def tally : Sandbox Nat where
  guest :=
    { demand := .memory
      start := .ok (.returned none 0)
      memory := fun count => ⟨#[count.toUInt8 + 48], 1, 1, by simp [pageSize]⟩
      setMemory := fun _ count => count
      refuel := id
      provides := fun _ => true
      global? := fun _ _ => none
      call := fun _ _ count => .returned (some 0) (count + 1) }
  version := ⟨1, 2⟩
  builtins := []
  entrypoints := [("count", 0)]
  dataAddress := 0
  heapMark := 8
  store := 0

/-- Two calls of which the second waits until the first has taken its result. -/
def twoCalls : List Event :=
  let count : Question := ⟨"count", .null, none⟩
  [.arrive 0 count, .arrive 1 count, .finish 0 .empty ⟨0, ⟨1, 0⟩⟩, .resume, .wake,
    .finish 1 .empty ⟨0, ⟨2, 0⟩⟩, .resume]

attribute [local instance] Deployment.platform in
theorem twoCalls_runsInTurn : (∀ event ∈ twoCalls, event.isCancel = false) ∧
    ((ofSandbox tally 0 false).run twoCalls).result.running.length ≤ 1 ∧
    (ofSandbox tally 0 false).RunsInTurn twoCalls := by
  have kept : ∀ event ∈ twoCalls, event.isCancel = false := by simp [twoCalls, Event.isCancel]
  obtain ⟨exclusive, serial⟩ := running_exclusive_serial tally 0 false twoCalls
  exact ⟨kept, exclusive, serial kept⟩

end Instance

end PolicyHost
