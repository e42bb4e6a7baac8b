import PolicyHost.Deployment.Standard
import PolicyHost.Proofs.Instance.Refusal

/-!
# Calls that leave no trace

A call that fails before the sandbox does no more than wait, and the shape that a question asks for is
looked at only when its call takes its result. So the same events can be told without such calls, and
without shapes, and nothing else is different. What makes this more than a remark on single calls is
that calls wait for each other: a call may be left out only because it is known to be refused later,
and until then it stands in the way of others.

* `Edit`, `edited`, `editEvents`: what is left out of a question, of an instance and of events.
* `Viewed`, `Told`: how outcomes and reactions go with those of the events as they were.
* `Foreseen`: what is left out will be refused. Every step keeps it (`Foreseen.step`).
* `told_step`, `told_run`: what edited events come to.
* `edits_leave_no_trace`: this from a new instance on.
-/

namespace PolicyHost

variable {σ : Type}

/-- What becomes of a call when events are told again: it is told as it was, without the shape it
asked for, or not at all. -/
inductive Edit
  | kept
  | unshaped
  | omitted
deriving DecidableEq

def Edit.question : Edit → Question → Question
  | .unshaped, q => { q with shape := none }
  | _, q => q

def Call.edited (edit : Nat → Edit) (call : Call) : Call :=
  match edit call.number with
  | .unshaped => { call with shape := none }
  | _ => call

variable {edit : Nat → Edit}

@[simp] theorem Call.edited_number (call : Call) : (call.edited edit).number = call.number := by
  unfold Call.edited
  split <;> rfl

@[simp] theorem Call.edited_entrypoint (call : Call) :
    (call.edited edit).entrypoint = call.entrypoint := by
  unfold Call.edited
  split <;> rfl

@[simp] theorem Call.edited_id (call : Call) : (call.edited edit).id = call.id := by
  unfold Call.edited
  split <;> rfl

@[simp] theorem Call.edited_payload (call : Call) : (call.edited edit).payload = call.payload := by
  unfold Call.edited
  split <;> rfl

/-- Who has the lock, as it is told. -/
def Holder.edited (edit : Nat → Edit) (holder : Holder) : Holder :=
  { holder with call := holder.call.edited edit }

@[simp] theorem Holder.edited_call (holder : Holder) :
    (holder.edited edit).call = holder.call.edited edit := rfl

@[simp] theorem Holder.edited_mk (call : Call) (result : Option (Except Failure Bytes)) :
    Holder.edited edit ⟨call, result⟩ = ⟨call.edited edit, result⟩ := rfl

section

variable [Platform]

/-- How an outcome goes with the outcome as it was: it is the same, or it is what the same octets read
as without a shape. -/
inductive Viewed (edit : Nat → Edit) : Nat × Outcome → Nat × Outcome → Prop
  | same {number : Nat} {outcome : Outcome} : Viewed edit (number, outcome) (number, outcome)
  | reread {number : Nat} {raw : Bytes} {shape : Option Shape} :
      edit number = .unshaped →
      Viewed edit (number, .ofExcept (decodeResult raw none))
        (number, .ofExcept (decodeResult raw shape))

theorem viewed_decoded (call : Call) (raw : Bytes) :
    Viewed edit (call.number, .ofExcept (decodeResult raw (call.edited edit).shape))
      (call.number, .ofExcept (decodeResult raw call.shape)) := by
  unfold Call.edited
  split
  · next unshaped => exact .reread unshaped
  · exact .same

def toldOutcomes (edit : Nat → Edit) (outcomes : List (Nat × Outcome)) : List (Nat × Outcome) :=
  outcomes.filter fun o => edit o.1 ≠ .omitted

def keptOutcomes (edit : Nat → Edit) (outcomes : List (Nat × Outcome)) : List (Nat × Outcome) :=
  outcomes.filter fun o => edit o.1 = .kept

/-- Outcomes of calls that are told as they were are the same. -/
theorem keptOutcomes_eq {again outcomes : List (Nat × Outcome)}
    (viewed : List.Forall₂ (Viewed edit) again (toldOutcomes edit outcomes)) :
    keptOutcomes edit again = keptOutcomes edit outcomes := by
  have both : keptOutcomes edit again = keptOutcomes edit (toldOutcomes edit outcomes) := by
    generalize toldOutcomes edit outcomes = original at viewed
    induction viewed with
    | nil => rfl
    | cons one _ ih =>
      unfold keptOutcomes at ih ⊢
      cases one with
      | same => simp only [List.filter_cons, ih]
      | reread unshaped => simp [unshaped, ih]
  rw [both]
  unfold keptOutcomes toldOutcomes
  rw [List.filter_filter]
  refine List.filter_congr fun o _ => ?_
  by_cases kept : edit o.1 = .kept <;> simp [kept]

end

namespace Instance

section

variable [Platform]

/-- An instance as it is told: without the calls that are omitted, and without the shapes that are
left out. -/
def edited (edit : Nat → Edit) (i : Instance σ) : Instance σ :=
  { i with
    holder := i.holder.map (Holder.edited edit)
    waiting := (i.waiting.filter fun call => edit call.number ≠ .omitted).map (Call.edited edit)
    running := i.running.map (Call.edited edit) }

/-- What is told of an event: nothing if it brings in a question that is omitted or wakes its call. -/
def editEvent (edit : Nat → Edit) (i : Instance σ) : Event → List Event
  | .arrive number q =>
    if edit number = .omitted then [] else [.arrive number ((edit number).question q)]
  | .wake =>
    if i.holder.isNone && i.waiting.head?.any fun call => edit call.number = .omitted then []
    else [.wake]
  | event => [event]

def editEvents (edit : Nat → Edit) (i : Instance σ) : List Event → List Event
  | [] => []
  | event :: rest => i.editEvent edit event ++ (i.step event).result.editEvents edit rest

theorem editEvents_append (i : Instance σ) (before after : List Event) :
    i.editEvents edit (before ++ after) =
      i.editEvents edit before ++ (i.run before).result.editEvents edit after := by
  induction before generalizing i with
  | nil => rfl
  | cons event rest ih =>
    simp only [List.cons_append, editEvents, ih, List.append_assoc]
    rfl

theorem run_append (i : Instance σ) (before after : List Event) :
    i.run (before ++ after) = (i.run before).andThen fun next => next.run after := by
  induction before generalizing i with
  | nil => simp [Reaction.andThen, still]
  | cons event rest ih =>
    simp only [List.cons_append, run_cons, ih, Reaction.andThen, List.append_assoc]

theorem run_one (i : Instance σ) (event : Event) : i.run [event] = i.step event := by
  simp [run_cons, Reaction.andThen, still]

/-- How a reaction goes with the reaction as it was. -/
structure Told (edit : Nat → Edit) (again original : Reaction σ) : Prop where
  result : again.result = original.result.edited edit
  outcomes : List.Forall₂ (Viewed edit) again.outcomes (toldOutcomes edit original.outcomes)
  notes : again.notes = original.notes

/-- Nothing comes to its end. -/
theorem Told.quiet (i : Instance σ) (notes : List Note) :
    Told edit ⟨i.edited edit, [], notes⟩ ⟨i, [], notes⟩ := ⟨rfl, .nil, rfl⟩

/-- A call that is told comes to its end. -/
theorem Told.one {number : Nat} (shown : edit number ≠ .omitted) {outcome again : Outcome}
    (viewed : Viewed edit (number, again) (number, outcome)) (i : Instance σ) (notes : List Note) :
    Told edit ⟨i.edited edit, [(number, again)], notes⟩ ⟨i, [(number, outcome)], notes⟩ :=
  ⟨rfl, by simpa [toldOutcomes, shown] using viewed, rfl⟩

/-- A call that is omitted comes to its end. -/
theorem Told.unseen {number : Nat} (omitted : edit number = .omitted) (outcome : Outcome)
    (i : Instance σ) : Told edit ⟨i.edited edit, [], []⟩ ⟨i, [(number, outcome)], []⟩ :=
  ⟨rfl, by simp [toldOutcomes, omitted], rfl⟩

theorem Told.andThen {again original : Reaction σ} (first : Told edit again original)
    {later later' : Instance σ → Reaction σ}
    (next : Told edit (later again.result) (later' original.result)) :
    Told edit (again.andThen later) (original.andThen later') where
  result := next.result
  outcomes := by
    simp only [Reaction.andThen, toldOutcomes, List.filter_append]
    exact List.rel_append first.outcomes next.outcomes
  notes := by simp only [Reaction.andThen, first.notes, next.notes]

/-! ## What will be refused -/

/-- Every call that is omitted is one that the events to come refuse.

* `distinct`: calls that wait and calls to come have numbers of their own;
* `held`: the call that has the lock is not omitted;
* `waits`: a call that waits and is omitted will be refused;
* `comes`: so will a question that is still to come in, unless its input has no encoding. -/
structure Foreseen (edit : Nat → Edit) (i : Instance σ) (events : List Event) : Prop where
  phase : Phase i
  sourced : FromSandbox i
  distinct : (i.pending events).Nodup
  held : ∀ holder, i.holder = some holder → edit holder.call.number ≠ .omitted
  waits : ∀ call ∈ i.waiting, edit call.number = .omitted → Refused call.number (i.run events).outcomes
  comes : ∀ number q, .arrive number q ∈ events → edit number = .omitted →
    (∃ failure, Conversion.encode q.input = .error failure) ∨ Refused number (i.run events).outcomes

/-- A call that is omitted gets its turn only on a faulted instance. -/
theorem Foreseen.faulted {i : Instance σ} {events : List Event} (foreseen : Foreseen edit i events)
    (free : i.holder = none) {call : Call} {rest : List Call} (waits : i.waiting = call :: rest)
    (omitted : edit call.number = .omitted) : i.state = .faulted := by
  by_contra usable
  have distinct := foreseen.distinct
  simp only [pending, waits, List.map_cons, List.cons_append, List.nodup_cons, List.mem_append,
    List.mem_map, not_or, not_exists, not_and] at distinct
  have admitted : Admitted call.number i := .next free usable waits distinct.1.1
  exact admitted.not_refused foreseen.phase foreseen.sourced distinct.1.2
    (foreseen.waits call (by simp [waits]) omitted)

/-- A question that is omitted although it is accepted will be refused. -/
theorem Foreseen.refused {i : Instance σ} {rest : List Event} {number : Nat} {q : Question}
    (foreseen : Foreseen edit i (.arrive number q :: rest)) {call : Call}
    (accepted : i.accept number q = .ok call) (omitted : edit number = .omitted) :
    Refused number (i.run (.arrive number q :: rest)).outcomes := by
  obtain ⟨-, _, payload, -, encoded, -⟩ := accept_eq_ok_iff.mp accepted
  rcases foreseen.comes number q List.mem_cons_self omitted with ⟨failure, unencodable⟩ | refused
  · rw [unencodable] at encoded
    cases encoded
  · exact refused

/-- A question that comes in and gets the lock is not omitted. -/
theorem Foreseen.shown {i : Instance σ} {rest : List Event} {number : Nat} {q : Question}
    (foreseen : Foreseen edit i (.arrive number q :: rest)) {call : Call}
    (accepted : i.accept number q = .ok call) (free : i.holder = none) (empty : i.waiting = []) :
    edit number ≠ .omitted := by
  intro omitted
  have enters : i.step (.arrive number q) = i.enter call := by
    simp [step, arrive, accepted, free, empty]
  have refused := foreseen.refused accepted omitted
  rw [run_cons] at refused
  rcases refused_append.mp refused with now | later
  · rw [enters, enter_of_usable (accept_eq_ok_iff.mp accepted).1] at now
    obtain ⟨_, ends, -⟩ := now
    cases ends
  · have distinct : (number :: arrivals rest).Nodup := by
      simpa [pending, empty] using foreseen.distinct
    have admitted : Admitted number (i.step (.arrive number q)).result := by
      rw [enters]
      exact .absent (by simp [waiting_enter, empty])
    exact admitted.not_refused (foreseen.phase.step _) (foreseen.sourced.step foreseen.phase _)
      (List.nodup_cons.mp distinct).1 later

theorem Foreseen.step {i : Instance σ} {event : Event} {rest : List Event}
    (foreseen : Foreseen edit i (event :: rest)) : Foreseen edit (i.step event).result rest := by
  -- Who is refused now is not pending any more, so whoever is pending is refused later.
  have later : ∀ number ∈ (i.step event).result.pending rest,
      Refused number (i.run (event :: rest)).outcomes →
        Refused number ((i.step event).result.run rest).outcomes := by
    intro number member refused
    rw [run_cons] at refused
    rcases refused_append.mp refused with now | then_
    · exact absurd member (not_pending_of_refused foreseen.sourced foreseen.distinct now)
    · exact then_
  refine ⟨foreseen.phase.step event, foreseen.sourced.step foreseen.phase event,
    foreseen.distinct.sublist (pending_step i event rest), fun holder held => ?_,
    fun call waits omitted => ?_, fun number q arrives omitted => ?_⟩
  · rcases holder_step held with ⟨before, held', same⟩ | ⟨free, usable, others, waits⟩ |
      ⟨free, empty, q, rfl, accepted⟩
    · rw [← same]
      exact foreseen.held before held'
    · exact fun omitted => usable (foreseen.faulted free waits omitted)
    · exact foreseen.shown accepted free empty
  · refine later call.number (List.mem_append_left _ (List.mem_map_of_mem waits)) ?_
    rcases mem_waiting_step waits with before | ⟨q, rfl, accepted⟩
    · exact foreseen.waits call before omitted
    · exact foreseen.refused accepted omitted
  · refine (foreseen.comes number q (List.mem_cons_of_mem _ arrives) omitted).imp_right
      (later number ?_)
    exact List.mem_append_right _ (List.mem_filterMap.mpr ⟨_, arrives, rfl⟩)

/-! ## What edited events come to -/

/-- A question that is told is accepted as it was. -/
theorem accept_edited (i : Instance σ) (number : Nat) (q : Question) :
    (i.edited edit).accept number ((edit number).question q) =
      (i.accept number q).map (Call.edited edit) := by
  have entrypoint : ((edit number).question q).entrypoint = q.entrypoint := by
    cases edit number <;> rfl
  have input : ((edit number).question q).input = q.input := by cases edit number <;> rfl
  unfold accept
  rw [entrypoint, input]
  by_cases faulty : i.state = .faulted
  · simp [edited, faulty, Except.map]
  · simp only [edited, faulty, if_false]
    cases Table.get? q.entrypoint i.sandbox.entrypoints with
    | none => rfl
    | some id =>
      cases Conversion.encode q.input with
      | error failure => rfl
      | ok payload =>
        simp only [bind, Except.bind, pure, Except.pure, Except.map, Call.edited]
        cases edit number <;> rfl

theorem told_enter {call : Call} (shown : edit call.number ≠ .omitted) (i : Instance σ) :
    Told edit ((i.edited edit).enter (call.edited edit)) (i.enter call) := by
  by_cases faulty : i.state = .faulted
  · rw [enter_of_faulted faulty, enter_of_faulted (i := i.edited edit) faulty, Call.edited_number]
    exact .one shown .same i []
  · rw [enter_of_usable faulty, enter_of_usable (i := i.edited edit) faulty]
    refine ⟨?_, .nil, rfl⟩
    simp [still, edited]

/-- A question that is accepted finds the lock free in the one case if it does so in the other. -/
theorem Foreseen.idle_edited {i : Instance σ} {events : List Event} (foreseen : Foreseen edit i events)
    (usable : i.state ≠ .faulted) :
    ((i.edited edit).holder.isNone && (i.edited edit).waiting.isEmpty) =
      (i.holder.isNone && i.waiting.isEmpty) := by
  cases free : i.holder with
  | some holder => simp [edited, free]
  | none =>
    cases waits : i.waiting with
    | nil => simp [edited, free, waits]
    | cons next others =>
      have kept : edit next.number ≠ .omitted :=
        fun omitted => usable (foreseen.faulted free waits omitted)
      simp [edited, free, waits, kept]

/-- A question that is omitted is refused or waits. -/
theorem told_arrive_omitted {i : Instance σ} {number : Nat} {q : Question} {rest : List Event}
    (foreseen : Foreseen edit i (.arrive number q :: rest)) (omitted : edit number = .omitted) :
    Told edit (i.edited edit).still (i.arrive number q) := by
  unfold arrive
  cases accepted : i.accept number q with
  | error failure => exact .unseen omitted _ i
  | ok call =>
    have number_eq := (accept_eq_ok_iff.mp accepted).2.number_eq
    dsimp only
    split
    · next idle =>
      simp only [Bool.and_eq_true, Option.isNone_iff_eq_none, List.isEmpty_iff] at idle
      exact absurd omitted (foreseen.shown accepted idle.1 idle.2)
    · refine ⟨?_, .nil, rfl⟩
      simp [still, edited, number_eq, omitted]

theorem told_arrive {i : Instance σ} {number : Nat} {q : Question} {rest : List Event}
    (foreseen : Foreseen edit i (.arrive number q :: rest)) :
    Told edit ((i.edited edit).run (i.editEvent edit (.arrive number q))) (i.arrive number q) := by
  by_cases omitted : edit number = .omitted
  · rw [editEvent, if_pos omitted, run_nil]
    exact told_arrive_omitted foreseen omitted
  · rw [editEvent, if_neg omitted, run_one]
    show Told edit ((i.edited edit).arrive number ((edit number).question q)) _
    unfold arrive
    rw [accept_edited]
    cases accepted : i.accept number q with
    | error failure => exact .one omitted .same i []
    | ok call =>
      obtain ⟨usable, asks⟩ := accept_eq_ok_iff.mp accepted
      have shown : edit call.number ≠ .omitted := by rwa [asks.number_eq]
      simp only [Except.map, foreseen.idle_edited usable]
      split
      · exact told_enter shown i
      · refine ⟨?_, .nil, rfl⟩
        simp [still, edited, shown]

theorem told_wake {i : Instance σ} {rest : List Event} (foreseen : Foreseen edit i (.wake :: rest)) :
    Told edit ((i.edited edit).run (i.editEvent edit .wake)) i.wake := by
  unfold wake
  split
  · next call others free waits =>
    by_cases omitted : edit call.number = .omitted
    · have faulty := foreseen.faulted free waits omitted
      have dropped : i.editEvent edit .wake = [] := by simp [editEvent, free, waits, omitted]
      rw [dropped, run_nil, enter_of_faulted (i := { i with waiting := others }) faulty]
      refine ⟨?_, by simp [still, toldOutcomes, omitted], rfl⟩
      simp [still, edited, waits, omitted]
    · have shown : i.editEvent edit .wake = [.wake] := by simp [editEvent, free, waits, omitted]
      have woken : (i.edited edit).wake =
          (edited edit { i with waiting := others }).enter (call.edited edit) := by
        simp [wake, edited, free, waits, omitted]
      rw [shown, run_one]
      show Told edit (i.edited edit).wake _
      rw [woken]
      exact told_enter omitted { i with waiting := others }
  · next idle =>
    have shown : i.editEvent edit .wake = [.wake] ∧ (i.edited edit).wake = (i.edited edit).still := by
      cases held : i.holder with
      | some holder => simp [editEvent, wake, edited, held]
      | none =>
        cases waits : i.waiting with
        | nil => simp [editEvent, wake, edited, held, waits]
        | cons call others => exact absurd waits (idle call others held)
    rw [shown.1, run_one]
    show Told edit (i.edited edit).wake _
    rw [shown.2]
    exact .quiet i []

theorem told_finish (i : Instance σ) (number : Nat) (registry : Registry) (ambient : Ambient) :
    Told edit ((i.edited edit).finish number registry ambient)
      (i.finish number registry ambient) := by
  have found : ((i.edited edit).running.find? fun call => call.number = number) =
      (i.running.find? fun call => call.number = number).map (Call.edited edit) := by
    have numbers : (fun call : Call => decide (call.number = number)) ∘ Call.edited edit =
        fun call => decide (call.number = number) := by
      funext call
      rw [Function.comp_apply, Call.edited_number]
    show (i.running.map (Call.edited edit)).find? _ = _
    rw [List.find?_map, numbers]
  unfold Instance.finish
  rw [found]
  cases i.running.find? fun call => call.number = number with
  | none => exact .quiet i []
  | some call =>
    simp only [Option.map_some, Call.edited_id, Call.edited_payload]
    refine ⟨?_, .nil, rfl⟩
    -- It does not matter whether a result is handed over before or after a shape is left out.
    have handedOver : ∀ (result : Option (Except Failure Bytes)) (h : Holder),
        (if h.call.number = number then ⟨h.call.edited edit, result⟩ else h.edited edit) =
          (if h.call.number = number then { h with result } else h).edited edit := by
      intro result h
      split <;> rfl
    simp [edited, handedOver, List.filter_map, Function.comp_def]

theorem told_resume {i : Instance σ}
    (shown : ∀ holder, i.holder = some holder → edit holder.call.number ≠ .omitted) :
    Told edit (i.edited edit).resume i.resume := by
  obtain ⟨sandbox, registry, hasData, state, holder, waiting, running⟩ := i
  rcases holder with _ | ⟨call, _ | (cause | cause) | raw⟩
  · exact .quiet _ []
  · exact .quiet _ []
  all_goals
    have call_shown : edit call.number ≠ .omitted := shown _ rfl
    simp only [Instance.resume, edited, Option.map_some, Holder.edited_mk, Call.edited_number,
      Call.edited_entrypoint]
  · by_cases execution : cause.kind.isExecution = true
    · simp only [execution, if_true]
      exact .one call_shown .same ⟨sandbox, registry, hasData, .faulted, none, waiting, running⟩ _
    · simp only [execution]
      exact .one call_shown .same ⟨sandbox, registry, hasData, .built, none, waiting, running⟩ []
  · exact .one call_shown .same ⟨sandbox, registry, hasData, .built, none, waiting, running⟩ []
  · exact .one call_shown (viewed_decoded call raw)
      ⟨sandbox, registry, hasData, .built, none, waiting, running⟩ _

omit [Platform] in
theorem edited_withdrawn (i : Instance σ) (number : Nat) :
    edited edit { i with waiting := i.waiting.filter fun call => call.number ≠ number } =
      { i.edited edit with
        waiting := (i.edited edit).waiting.filter fun call => call.number ≠ number } := by
  simp [edited, List.filter_map, List.filter_filter, Function.comp_def, Bool.and_comm]

omit [Platform] in
theorem waits_edited_iff (i : Instance σ) (number : Nat) :
    ((i.edited edit).waiting.any fun call => call.number = number) = true ↔
      edit number ≠ .omitted ∧ (i.waiting.any fun call => call.number = number) = true := by
  simp only [edited, List.any_map, List.any_eq_true, List.mem_filter, Function.comp_apply,
    Call.edited_number, decide_eq_true_eq]
  constructor
  · rintro ⟨call, ⟨member, shown⟩, rfl⟩
    exact ⟨shown, call, member, rfl⟩
  · rintro ⟨shown, call, member, rfl⟩
    exact ⟨call, ⟨member, shown⟩, rfl⟩

/-- A call that waits is given up in the same way, and if it is omitted there is nothing to give
up. -/
theorem told_giveUp (i : Instance σ) (number : Nat) :
    Told edit (cancel.giveUp (i.edited edit) number) (cancel.giveUp i number) := by
  unfold cancel.giveUp
  by_cases waits : (i.waiting.any fun call => call.number = number) = true
  · rw [if_pos waits]
    by_cases omitted : edit number = .omitted
    · have nobody : ¬ ((i.edited edit).waiting.any fun call => call.number = number) = true :=
        fun found => ((waits_edited_iff i number).mp found).1 omitted
      rw [if_neg nobody]
      refine ⟨?_, by simp [still, toldOutcomes, omitted], rfl⟩
      have unchanged : (i.edited edit).waiting.filter (fun call => call.number ≠ number) =
          (i.edited edit).waiting := List.filter_eq_self.mpr (by simpa using nobody)
      rw [edited_withdrawn, unchanged]
      rfl
    · rw [if_pos ((waits_edited_iff i number).mpr ⟨omitted, waits⟩), ← edited_withdrawn]
      exact .one omitted .same _ []
  · rw [if_neg waits, if_neg fun found => waits ((waits_edited_iff i number).mp found).2]
    exact .quiet i []

theorem told_cancel {i : Instance σ}
    (shown : ∀ holder, i.holder = some holder → edit holder.call.number ≠ .omitted) (number : Nat) :
    Told edit ((i.edited edit).cancel number) (i.cancel number) := by
  unfold cancel
  cases held : i.holder with
  | none =>
    have free : (i.edited edit).holder = none := by simp [edited, held]
    rw [free]
    exact told_giveUp i number
  | some holder =>
    have held' : (i.edited edit).holder = some (holder.edited edit) := by
      simp [edited, held]
    rw [held']
    dsimp only
    rw [Holder.edited_call, Call.edited_number, Call.edited_entrypoint]
    split
    · next same =>
      exact .one (same ▸ shown holder held) .same { i with holder := none, state := .faulted } _
    · exact told_giveUp i number

/-- What is told of an event comes to what the event comes to. -/
theorem told_step {i : Instance σ} {event : Event} {rest : List Event}
    (foreseen : Foreseen edit i (event :: rest)) :
    Told edit ((i.edited edit).run (i.editEvent edit event)) (i.step event) := by
  cases event with
  | arrive number q => exact told_arrive foreseen
  | wake => exact told_wake foreseen
  | finish number registry ambient =>
    show Told edit ((i.edited edit).run [.finish number registry ambient]) _
    rw [run_one]
    exact told_finish i number registry ambient
  | resume =>
    show Told edit ((i.edited edit).run [.resume]) _
    rw [run_one]
    exact told_resume foreseen.held
  | cancel number =>
    show Told edit ((i.edited edit).run [.cancel number]) _
    rw [run_one]
    exact told_cancel foreseen.held number

/-- What is told of events comes to what the events come to, also while others are still to come. -/
theorem told_run {i : Instance σ} {events later : List Event}
    (foreseen : Foreseen edit i (events ++ later)) :
    Told edit ((i.edited edit).run (i.editEvents edit events)) (i.run events) := by
  induction events generalizing i with
  | nil => exact .quiet i []
  | cons event rest ih =>
    have first := told_step foreseen
    rw [editEvents, run_append, run_cons]
    refine first.andThen ?_
    rw [first.result]
    exact ih foreseen.step

/-! ## From a new instance on -/

/-- A call that is omitted leaves no trace, and neither does a shape that is left out.

* `state`, `sandbox`: the instance is in the same state, and its sandbox has the same store;
* `kept`: calls that are told as they were have the same outcomes. -/
structure NoTrace (edit : Nat → Edit) (again original : Reaction σ) : Prop
    extends Told edit again original where
  state : again.result.state = original.result.state
  sandbox : again.result.sandbox = original.result.sandbox
  kept : keptOutcomes edit again.outcomes = keptOutcomes edit original.outcomes

theorem Told.noTrace {again original : Reaction σ} (given : Told edit again original) :
    NoTrace edit again original where
  toTold := given
  state := by rw [given.result]; rfl
  sandbox := by rw [given.result]; rfl
  kept := keptOutcomes_eq given.outcomes

theorem Foreseen.ofSandbox {sandbox : Sandbox σ} {registry : Nat} {hasData : Bool}
    {events : List Event} (distinct : (arrivals events).Nodup)
    (comes : ∀ number q, .arrive number q ∈ events → edit number = .omitted →
      (∃ failure, Conversion.encode q.input = .error failure) ∨
        Refused number ((Instance.ofSandbox sandbox registry hasData).run events).outcomes) :
    Foreseen edit (Instance.ofSandbox sandbox registry hasData) events where
  phase := .ofSandbox sandbox registry hasData
  sourced := .of_no_result fun _ _ => nofun
  distinct := distinct
  held := nofun
  waits := nofun
  comes := comes

/-- Leave out of what happens to an instance any calls that are refused, or whose input has no
encoding, and the shapes of any others. At every point the state, the store and what has been noted are
as they were, and so are the outcomes of the calls that are told; only where a shape has been left out,
the octets of the result are read without it. -/
theorem edits_leave_no_trace (sandbox : Sandbox σ) (registry : Nat) (hasData : Bool)
    (events : List Event) (distinct : (arrivals events).Nodup) (edit : Nat → Edit)
    (failing : ∀ number q, .arrive number q ∈ events → edit number = .omitted →
      (∃ failure, Conversion.encode q.input = .error failure) ∨
        Refused number ((ofSandbox sandbox registry hasData).run events).outcomes)
    (before after : List Event) (split : events = before ++ after) :
    let fresh := ofSandbox sandbox registry hasData
    fresh.editEvents edit before <+: fresh.editEvents edit events ∧
      NoTrace edit (fresh.run (fresh.editEvents edit before)) (fresh.run before) := by
  subst split
  intro fresh
  constructor
  · rw [editEvents_append]
    exact List.prefix_append _ _
  · have foreseen : Foreseen edit fresh (before ++ after) := .ofSandbox distinct failing
    exact (told_run foreseen).noTrace

end

/-- A question for an unknown entrypoint, and two that are answered, the first in a shape. -/
def threeQuestions : List Event :=
  [.arrive 0 ⟨"unknown", .null, none⟩,
    .arrive 1 ⟨"count", .null, some .text⟩, .finish 1 .empty ⟨0, ⟨1, 0⟩⟩, .resume,
    .arrive 2 ⟨"count", .null, none⟩, .finish 2 .empty ⟨0, ⟨2, 0⟩⟩, .resume]

/-- Omits the first question, and the shape of the second. -/
def withoutFailure : Nat → Edit
  | 0 => .omitted
  | 1 => .unshaped
  | _ => .kept

attribute [local instance] Deployment.platform in
theorem threeQuestions_no_trace :
    let fresh := ofSandbox tally 0 false
    (arrivals threeQuestions).Nodup ∧
      Refused 0 (fresh.run threeQuestions).outcomes ∧
      fresh.editEvents withoutFailure threeQuestions =
        [.arrive 1 ⟨"count", .null, none⟩, .finish 1 .empty ⟨0, ⟨1, 0⟩⟩, .resume,
          .arrive 2 ⟨"count", .null, none⟩, .finish 2 .empty ⟨0, ⟨2, 0⟩⟩, .resume] ∧
      NoTrace withoutFailure (fresh.run (fresh.editEvents withoutFailure threeQuestions))
        (fresh.run threeQuestions) := by
  intro fresh
  have distinct : (arrivals threeQuestions).Nodup := by decide
  have refused : Refused 0 (fresh.run threeQuestions).outcomes :=
    ⟨_, List.mem_append_left _ (List.mem_singleton.mpr rfl), rfl⟩
  refine ⟨distinct, refused, rfl, ?_⟩
  refine (edits_leave_no_trace tally 0 false threeQuestions distinct withoutFailure ?_ threeQuestions []
    (List.append_nil _).symm).2
  intro number q _ omitted
  rcases number with _ | _ | number
  · exact .inr refused
  · cases omitted
  · cases omitted

end Instance

end PolicyHost
