import PolicyHost.Proofs.Builtin.Memo
import PolicyHost.Proofs.Sandbox.Paths
import PolicyHost.Proofs.Sandbox.Stops

/-!
# Evaluations that are taken down

During an evaluation the host takes down every call of a builtin, and every failure of its own in an
answer to the guest, at whatever depth. A failure unwinds the guest and comes out behind it as itself or
as a trap; a trap that comes out of the evaluation is reported as the failure taken down last.

* `Entry`, `Record`, `Record.Traces`: what is taken down, and calls that follow each other in a context.
* `Passage`: how failures come out of the guest.
* `recordedRespond`, `recordedEvaluate`: answers and evaluations that are taken down.
* `Matches`, `Follows`: what is taken down changes nothing else, and the failures taken down are those
  that come out (`respond_follows`, `drive_follows`).
* `recordedEvaluate_recorded`: the same for an evaluation as a whole.
-/

namespace PolicyHost

open Builtin (Invocation Context)

variable {σ α β : Type}

/-- What the host takes down: a call of a builtin with what it came to, or a failure of its own. -/
inductive Entry
  | called (call : Invocation) (result : Except Failure Value)
  | failed (cause : PolicyError)

/-- What has been taken down, first things first. -/
abbrev Record := List Entry

namespace Record

def failure? : Entry → Option PolicyError
  | .called .. => none
  | .failed cause => some cause

def failures (record : Record) : List PolicyError := record.filterMap failure?

/-- The calls were made one after another, in a context at first and in another one behind them. -/
def Traces (registry : Registry) (context : Context) : Record → Context → Prop
  | [], last => last = context
  | .called call result :: rest, last =>
    (call.run registry context).1 = result ∧ Traces registry (call.run registry context).2 rest last
  | .failed _ :: rest, last => Traces registry context rest last

theorem failures_append (first second : Record) :
    failures (first ++ second) = failures first ++ failures second := List.filterMap_append

theorem Traces.append {registry : Registry} {context middle last : Context} {first second : Record}
    (one : Traces registry context first middle) (two : Traces registry middle second last) :
    Traces registry context (first ++ second) last := by
  induction first generalizing context with
  | nil =>
    cases one
    exact two
  | cons entry rest ih =>
    cases entry with
    | called call result => exact ⟨one.1, ih one.2⟩
    | failed cause => exact ih one

/-- The calls that were taken down. -/
def calls (record : Record) : List Invocation :=
  record.filterMap fun
    | .called call _ => some call
    | .failed _ => none

/-- A call came to what it comes to behind the calls that were taken down before. -/
theorem Traces.called {registry : Registry} {context last : Context} {before later : Record}
    {call : Invocation} {result : Except Failure Value}
    (traces : Traces registry context (before ++ .called call result :: later) last) :
    (call.run registry (context.after registry (calls before))).1 = result := by
  induction before generalizing context with
  | nil => exact traces.1
  | cons entry rest ih =>
    cases entry with
    | called first came => exact ih traces.2
    | failed cause => exact ih traces

end Record

/-! ## Guests with a record -/

/-- An activity in whose store something is carried along that it never touches. -/
def Activity.carrying {ρ : Type} (carried : ρ) : Activity σ → Activity (σ × ρ)
  | .returned result store => .returned result (store, carried)
  | .trapped trap => .trapped trap
  | .asked request store resume =>
    .asked request (store, carried) fun number after => carrying after.2 (resume number after.1)

/-- A guest in whose store a record is carried along. -/
def Guest.carrying (guest : Guest σ) : Guest (σ × Record) where
  demand := guest.demand
  start := guest.start.map (Activity.carrying [])
  memory store := guest.memory store.1
  setMemory memory store := (guest.setMemory memory store.1, store.2)
  refuel store := (guest.refuel store.1, store.2)
  provides := guest.provides
  global? name store := guest.global? name store.1
  call name args store := (guest.call name args store.1).carrying store.2

namespace Sandbox

/-- A host whose guest carries a record along. -/
def Host.carrying (host : Host σ) : Host (σ × Record) :=
  ⟨host.guest.carrying, host.registry, host.builtins⟩

/-- The session without the record. -/
def Session.bare (session : Session (σ × Record)) : Session σ :=
  ⟨session.store.1, session.context, session.notes⟩

/-! ## The host takes down what it does -/

def takeDown (entry : Entry) : Run (σ × Record) Unit :=
  modify fun s => { s with store := (s.store.1, s.store.2 ++ [entry]) }

def failRecorded (cause : PolicyError) : Run (σ × Record) α := do
  takeDown (.failed cause)
  fail cause

/-- How a failure of the host comes out behind the guest that asked: as a trap or, if there is none, as
itself. -/
abbrev Passage (σ : Type) := Session (σ × Record) → Request → Failure → Option Trap

/-- Lets failures of an answer pass the guest. -/
def pass (passage : Passage σ) (request : Request) (answer : Run (σ × Record) Int) :
    Run (σ × Record) Int :=
  tryCatch answer fun
    | .failure cause => do
      match passage (← get) request cause with
      | some trap => throw (.trap trap)
      | none => throw (.failure cause)
    | stop => throw stop

/-- Calls a builtin and takes down the call, and its failure if it fails. -/
def Host.recordedBuiltin [Platform] (host : Host σ) (name : Text) (args : List Json) :
    Run (σ × Record) Bytes := do
  let (result, context) := (host.registry.call name args).run (← get).context
  modify fun s => { s with context }
  takeDown (.called ⟨name, args⟩ result)
  match result >>= Conversion.encode with
  | .ok document => return document
  | .error failure => failRecorded (wrapFailure name failure)

/-- Hands the result of a builtin over to the guest, and takes it down if the guest rejects it. -/
def Host.recordedHandOver (host : Host σ) (answer : Request → Run (σ × Record) Int) (name : Text)
    (document : Bytes) : Run (σ × Record) Int :=
  tryCatch (host.carrying.loadJson answer document) fun
    | .failure (.error cause) =>
      if cause.kind = .serialize then failRecorded (.builtinRejected name) else fail cause
    | stop => throw stop

/-- The answer to a request, which is taken down and passes the guest if it fails. -/
def Host.recordedRespond [Platform] (host : Host σ) (passage : Passage σ) :
    (depth : Nat) → Request → Run (σ × Record) Int
  | 0, request => pass passage request (fault .tooDeep)
  | _ + 1, .abort address => pass passage (.abort address) do
    let message := Utf8.decodeLossy (← host.carrying.cString address)
    note (.aborted message)
    failRecorded (.aborted message)
  | _ + 1, .println address => pass passage (.println address) do
    note (.printed (Utf8.decodeLossy (← host.carrying.cString address)))
    return 0
  | depth + 1, .builtin id context args => pass passage (.builtin id context args) do
    match host.builtins.get? id with
    | none => failRecorded (.builtinUnknown id)
    | some name =>
      let answer := host.recordedRespond passage depth
      let documents ← args.mapM (host.carrying.dumpJson answer)
      let document ← host.recordedBuiltin name documents
      host.recordedHandOver answer name document

def fastSteps (host : Host σ) (answer : Request → Run σ Int) (mark data id : Int) (payload : Bytes) :
    Run σ Bytes := do
  let heap := mark + payload.length
  ensureCapacity host heap
  host.place mark payload
  let result ← host.call answer fastExport [0, id, data, mark, payload.length, heap, 0]
  host.cString result

def contextSteps (host : Host σ) (answer : Request → Run σ Int) (mark data id : Int) (payload : Bytes) :
    Run σ Bytes := do
  let _ ← host.call? answer "opa_heap_ptr_set" [mark]
  let input ← host.loadJson answer payload
  let outcome ← evaluationCode host answer data id input
  readResult host answer outcome.2 outcome.1

/-- The steps of an evaluation of a sandbox, for whichever path it takes. -/
def steps (sandbox : Sandbox σ) {τ : Type} (host : Host τ) (answer : Request → Run τ Int) (id : Int)
    (payload : Bytes) : Run τ Bytes :=
  if isFast sandbox.guest sandbox.version then
    fastSteps host answer sandbox.heapMark sandbox.dataAddress id payload
  else contextSteps host answer sandbox.heapMark sandbox.dataAddress id payload

/-- Reports a trap as the failure that was taken down last, if there is one. -/
def reportTrap (step : Run (σ × Record) α) : Run (σ × Record) α :=
  tryCatch step fun
    | .trap trap => do
      match (Record.failures (← get).store.2).getLast? with
      | some cause => fail cause
      | none => fail (.trapped trap)
    | stop => throw stop

def forget : Run (σ × Record) Unit := modify fun s => { s with store := (s.store.1, []) }

/-- An evaluation that is taken down: what it comes to, and the record that it leaves. `left` is the
record from before. -/
def recordedEvaluate [Platform] (sandbox : Sandbox σ) (passage : Passage σ) (left : Record)
    (registry : Registry)
    (ambient : Ambient) (id : Int) (payload : Bytes) : Except Failure Bytes × Record :=
  let host : Host σ := ⟨sandbox.guest, registry, sandbox.builtins⟩
  let start : Session (σ × Record) := ⟨(sandbox.guest.refuel sandbox.store, left), .fresh ambient, []⟩
  let answer := host.recordedRespond passage Room.requests
  let evaluation : Run (σ × Record) Bytes := do
    forget
    reportTrap (sandbox.steps host.carrying answer id payload)
  let (result, session) := evaluation.run start
  (result.mapError Stop.toFailure, session.store.2)

theorem runEvaluation_eq [Platform] (sandbox : Sandbox σ) (host : Host σ) (id : Int) (payload : Bytes) :
    runEvaluation sandbox host id payload =
      onStop (fun cause => cause) .trapped (sandbox.steps host host.answer id payload) := by
  unfold runEvaluation steps
  rw [contextEvaluate_eq]
  rfl

/-! ## Steps that are taken down and steps that are not -/

/-- Failures of the host in an answer to the guest. -/
def Reported (cause : PolicyError) : Prop := cause.kind = .abort ∨ cause.kind = .builtin

instance (cause : PolicyError) : Decidable (Reported cause) := instDecidableOr

def reportedIn : Except Failure α → List PolicyError
  | .error (.error cause) => if Reported cause then [cause] else []
  | _ => []

def reported (result : Except Stop α) : List PolicyError := reportedIn (result.mapError Stop.toFailure)

/-- What a step comes to, and what it comes to where failures pass the guest: the same, unless a failure
passed as a trap. -/
inductive Agree (passage : Passage σ) : Except Stop α → Except Stop α → Prop
  | same (result : Except Stop α) : Agree passage result result
  | passed {session : Session (σ × Record)} {request : Request} {cause : Failure} {trap : Trap} :
    passage session request cause = some trap → Inside (.failure cause) →
    Agree passage (.error (.failure cause)) (.error (.trap trap))

/-- What a step leads to from a session, and what it leads to where it is taken down.

* `result`, `session`: they come to the same, and leave the same session but for the record;
* `record`: calls that follow each other, and the failure that comes out, have joined the record. -/
structure Matches (passage : Passage σ) (registry : Registry) (start : Session (σ × Record))
    (plain : Except Stop α × Session σ) (recorded : Except Stop α × Session (σ × Record)) : Prop where
  result : Agree passage plain.1 recorded.1
  session : recorded.2.bare = plain.2
  record : ∃ new, recorded.2.store.2 = start.store.2 ++ new ∧
    Record.Traces registry start.context new recorded.2.context ∧ Record.failures new = reported plain.1

/-- A step is the same as another one, and is taken down. -/
def Follows (passage : Passage σ) (registry : Registry) (recorded : Run (σ × Record) α) (plain : Run σ α) :
    Prop :=
  ∀ session, Matches passage registry session (plain.run session.bare) (recorded.run session)

variable {passage : Passage σ} {registry : Registry}

/-- Steps in which nothing is taken down. -/
theorem Matches.quiet {start : Session (σ × Record)} {result : Except Stop α} {after : Session σ}
    (same : after.context = start.context) (unreported : reported result = []) :
    Matches passage registry start (result, after)
      (result, ⟨(after.store, start.store.2), after.context, after.notes⟩) :=
  ⟨.same result, rfl, [], (List.append_nil _).symm, same, unreported.symm⟩

theorem Follows.pure (value : α) :
    Follows passage registry (pure value : Run (σ × Record) α) (pure value) :=
  fun _ => .quiet rfl rfl

theorem Follows.throw {stop : Stop} (unreported : reported (.error stop : Except Stop α) = []) :
    Follows passage registry (throw stop : Run (σ × Record) α) (throw stop) :=
  fun _ => .quiet rfl unreported

theorem reported_error (stop : Stop) :
    reported (.error stop : Except Stop α) = reported (.error stop : Except Stop β) := by
  rcases stop with (_ | _) | _ <;> rfl

/-- Of the session at the start only the record and the context count. -/
theorem Matches.of_start {start other : Session (σ × Record)} {plain : Except Stop α × Session σ}
    {recorded : Except Stop α × Session (σ × Record)}
    (matched : Matches passage registry start plain recorded)
    (record : start.store.2 = other.store.2) (context : start.context = other.context) :
    Matches passage registry other plain recorded :=
  ⟨matched.result, matched.session, record ▸ context ▸ matched.record⟩

/-- Steps one after another, from one session. -/
theorem Matches.bind {recorded : Run (σ × Record) α} {plain : Run σ α} {next : α → Run (σ × Record) β}
    {next' : α → Run σ β} {start : Session (σ × Record)}
    (first : Matches passage registry start (plain.run start.bare) (recorded.run start))
    (later : ∀ value session,
      Matches passage registry session ((next' value).run session.bare) ((next value).run session)) :
    Matches passage registry start ((plain >>= next').run start.bare) ((recorded >>= next).run start) := by
  rw [run_bind, run_bind]
  generalize plain.run start.bare = one at first ⊢
  generalize recorded.run start = other at first ⊢
  obtain ⟨result, after⟩ := one
  obtain ⟨result', session⟩ := other
  obtain ⟨agree, rfl, new, joined, traces, failures⟩ := first
  dsimp only at agree joined traces failures
  cases agree with
  | passed passed inside =>
    exact ⟨.passed passed inside, rfl, new, joined, traces, failures.trans (reported_error _)⟩
  | same =>
    cases result with
    | error stop => exact ⟨.same _, rfl, new, joined, traces, failures.trans (reported_error _)⟩
    | ok value =>
      obtain ⟨agree', session', new', joined', traces', failures'⟩ := later value session
      refine ⟨agree', session', new ++ new', ?_, traces.append traces', ?_⟩
      · rw [joined', joined, List.append_assoc]
      · rw [Record.failures_append, failures, failures']
        rfl

theorem Follows.bind {recorded : Run (σ × Record) α} {plain : Run σ α} {next : α → Run (σ × Record) β}
    {next' : α → Run σ β} (first : Follows passage registry recorded plain)
    (later : ∀ value, Follows passage registry (next value) (next' value)) :
    Follows passage registry (recorded >>= next) (plain >>= next') :=
  fun session => (first session).bind fun value => later value

theorem Follows.mapM {step : β → Run (σ × Record) α} {step' : β → Run σ α}
    (each : ∀ item, Follows passage registry (step item) (step' item)) (items : List β) :
    Follows passage registry (items.mapM step) (items.mapM step') := by
  induction items with
  | nil => exact .pure []
  | cons item rest ih =>
    rw [List.mapM_cons, List.mapM_cons]
    exact (each item).bind fun _ => ih.bind fun _ => .pure _

/-- A failure that is taken down comes out. -/
theorem failRecorded_follows {cause : PolicyError} (counts : Reported cause) :
    Follows passage registry (failRecorded cause : Run (σ × Record) α) (fail cause) :=
  fun _ => ⟨.same _, rfl, [.failed cause], rfl, rfl, (if_pos counts).symm⟩

/-! ## The host's dealings with the guest -/

variable {host : Host σ} {answer : Request → Run σ Int} {answer' : Request → Run (σ × Record) Int}

theorem note_follows (n : Note) : Follows passage registry (note n : Run (σ × Record) Unit) (note n) :=
  fun _ => .quiet rfl rfl

theorem memory_follows : Follows passage registry host.carrying.memory host.memory :=
  fun _ => .quiet rfl rfl

/-- Puts a memory into the store of the guest. -/
theorem setMemory_follows (memory : Memory) :
    Follows passage registry
      (modify fun s => { s with store := host.carrying.guest.setMemory memory s.store } :
        Run (σ × Record) Unit)
      (modify fun s => { s with store := host.guest.setMemory memory s.store }) :=
  fun _ => .quiet rfl rfl

theorem place_follows (start : Int) (data : Bytes) :
    Follows passage registry (host.carrying.place start data) (host.place start data) := by
  refine memory_follows.bind fun memory => ?_
  cases memory.place? start data with
  | none => exact .throw rfl
  | some written => exact setMemory_follows written

theorem cString_follows (address : Int) :
    Follows passage registry (host.carrying.cString address) (host.cString address) := by
  refine memory_follows.bind fun memory => ?_
  cases memory.cString? address with
  | none => exact .throw rfl
  | some text => exact .pure text

theorem ensureCapacity_follows (stop : Int) :
    Follows passage registry (ensureCapacity host.carrying stop) (ensureCapacity host stop) := by
  refine memory_follows.bind fun memory => ?_
  split
  · exact .pure ()
  · dsimp only
    split
    · exact setMemory_follows _
    · exact .throw rfl

/-- The record that an activity carries along is the one of the session. By induction on the activity. -/
theorem drive_follows (answers : ∀ request, Follows passage registry (answer' request) (answer request))
    (activity : Activity σ) (session : Session (σ × Record)) :
    Matches passage registry session ((drive answer activity).run session.bare)
      ((drive answer' (activity.carrying session.store.2)).run session) := by
  induction activity generalizing session with
  | returned result store => exact .quiet rfl rfl
  | trapped trap => exact .quiet rfl rfl
  | asked request store resume ih =>
    have later : Matches passage registry { session with store := (store, session.store.2) }
        ((answer request >>= fun number => do
          drive answer (resume number (← get).store)).run { session.bare with store })
        ((answer' request >>= fun number => do
          let after := (← get).store
          drive answer' ((resume number after.1).carrying after.2)).run
            { session with store := (store, session.store.2) }) :=
      .bind (answers request { session with store := (store, session.store.2) })
        fun number after => ih number after.store.1 after
    exact later.of_start rfl rfl

theorem call?_follows (answers : ∀ request, Follows passage registry (answer' request) (answer request))
    (name : Text) (args : List Int) :
    Follows passage registry (host.carrying.call? answer' name args) (host.call? answer name args) :=
  fun session => drive_follows answers (host.guest.call name args session.store.1) session

theorem call_follows (answers : ∀ request, Follows passage registry (answer' request) (answer request))
    (name : Text) (args : List Int) :
    Follows passage registry (host.carrying.call answer' name args) (host.call answer name args) := by
  refine (call?_follows answers name args).bind fun result => ?_
  cases result with
  | none => exact .throw rfl
  | some number => exact .pure number

theorem loadJson_follows (answers : ∀ request, Follows passage registry (answer' request) (answer request))
    (document : Bytes) :
    Follows passage registry (host.carrying.loadJson answer' document) (host.loadJson answer document) := by
  refine (call_follows answers _ _).bind fun address => ?_
  refine (place_follows address document).bind fun _ => ?_
  refine (call?_follows answers _ _).bind fun result => ?_
  split
  · exact .throw rfl
  · exact .throw rfl
  · exact .pure _

theorem dumpText_follows (answers : ∀ request, Follows passage registry (answer' request) (answer request))
    (value : Int) :
    Follows passage registry (host.carrying.dumpText answer' value) (host.dumpText answer value) :=
  (call_follows answers _ _).bind fun address => cString_follows address

theorem reported_guestJson (flaw : Json.OctetFault) :
    reported (.error (.failure (flaw.failure .guestJson)) : Except Stop α) = [] := by
  unfold Json.OctetFault.failure
  split <;> rfl

theorem dumpJson_follows [Platform]
    (answers : ∀ request, Follows passage registry (answer' request) (answer request))
    (value : Int) :
    Follows passage registry (host.carrying.dumpJson answer' value) (host.dumpJson answer value) := by
  refine (dumpText_follows answers value).bind fun text => ?_
  cases Json.readOctets text with
  | error flaw => exact .throw (reported_guestJson flaw)
  | ok document => exact .pure document

/-! ## Answers to requests -/

theorem wrapFailure_reported (name : Text) (failure : Failure) : Reported (wrapFailure name failure) := by
  cases failure with
  | fault cause => exact .inr rfl
  | error cause =>
    simp only [wrapFailure]
    split
    · next own => exact .inr own
    · exact .inr rfl

/-- A call of a builtin is taken down with what it came to. -/
theorem recordedBuiltin_follows [Platform] (name : Text) (args : List Json) :
    Follows passage host.registry (host.recordedBuiltin name args) (host.callBuiltin name args) := by
  intro session
  let call : Invocation := ⟨name, args⟩
  have outcome : Matches passage host.registry session
      ((match (call.run host.registry session.context).1 >>= Conversion.encode with
        | .ok document => Pure.pure document
        | .error failure => fail (wrapFailure name failure) : Run σ Bytes).run
          { session.bare with context := (call.run host.registry session.context).2 })
      ((match (call.run host.registry session.context).1 >>= Conversion.encode with
        | .ok document => Pure.pure document
        | .error failure => failRecorded (wrapFailure name failure) : Run (σ × Record) Bytes).run
          { session with
            store := (session.store.1,
              session.store.2 ++ [.called call (call.run host.registry session.context).1])
            context := (call.run host.registry session.context).2 }) := by
    cases (call.run host.registry session.context).1 >>= Conversion.encode with
    | ok document => exact ⟨.same _, rfl, _, rfl, ⟨rfl, rfl⟩, rfl⟩
    | error failure =>
      refine ⟨.same _, rfl, [.called call _, .failed (wrapFailure name failure)], ?_, ⟨rfl, rfl⟩,
        (if_pos (wrapFailure_reported name failure)).symm⟩
      exact List.append_assoc _ [_] [_]
  exact outcome

/-- No failure of the host is taken for one of the document that it hands over. -/
theorem recordedHandOver_follows
    (answers : ∀ request, Follows passage registry (answer' request) (answer request)) (name : Text)
    (document : Bytes) :
    Follows passage registry (host.recordedHandOver answer' name document)
      (host.handOver answer name document) := by
  intro session
  unfold Host.recordedHandOver Host.handOver
  rw [run_tryCatch, run_tryCatch]
  have loaded : Matches passage registry session ((host.loadJson answer document).run session.bare)
      ((host.carrying.loadJson answer' document).run session) := loadJson_follows answers document session
  generalize (host.loadJson answer document).run session.bare = plain at loaded ⊢
  generalize (host.carrying.loadJson answer' document).run session = recorded at loaded ⊢
  obtain ⟨result, after⟩ := plain
  obtain ⟨result', last⟩ := recorded
  obtain ⟨agree, rfl, new, joined, traces, failures⟩ := loaded
  dsimp only at agree joined traces failures
  cases agree with
  | passed passed inside =>
    cases inside with
    | fault known => exact ⟨.passed passed (.fault known), rfl, new, joined, traces, failures⟩
    | @execution cause execution =>
      have other : cause.kind ≠ .serialize := fun same => by
        rw [same] at execution
        cases execution
      dsimp only
      rw [if_neg other]
      exact ⟨.passed passed (.execution execution), rfl, new, joined, traces, failures⟩
  | same =>
    rcases result with ((cause | cause) | trap) | value
    · dsimp only
      by_cases rejected : cause.kind = .serialize
      · have unreported : ¬Reported cause := fun counts => by
          rcases counts with kind | kind <;> cases rejected.symm.trans kind
        rw [if_pos rejected, if_pos rejected]
        refine ⟨.same _, rfl, new ++ [Entry.failed (.builtinRejected name)], ?_, traces.append rfl, ?_⟩
        · exact (congrArg (· ++ [_]) joined).trans (List.append_assoc _ _ _)
        · rw [Record.failures_append, failures]
          exact congrArg (· ++ [_]) (if_neg unreported)
      · rw [if_neg rejected, if_neg rejected]
        exact ⟨.same _, rfl, new, joined, traces, failures⟩
    · exact ⟨.same _, rfl, new, joined, traces, failures⟩
    · exact ⟨.same _, rfl, new, joined, traces, failures⟩
    · exact ⟨.same _, rfl, new, joined, traces, failures⟩

/-- Failures may pass as traps, and nothing else changes. -/
theorem Follows.pass {recorded : Run (σ × Record) Int} {plain : Run σ Int}
    (follows : Follows passage registry recorded plain) (stops : Stops Inside plain) (request : Request) :
    Follows passage registry (pass passage request recorded) plain := by
  intro session
  unfold Sandbox.pass
  rw [run_tryCatch]
  have matched := follows session
  rcases stopped : plain.run session.bare with ⟨result, after⟩
  rw [stopped] at matched
  generalize recorded.run session = outcome at matched ⊢
  obtain ⟨result', last⟩ := outcome
  obtain ⟨agree, rfl, new, joined, traces, failures⟩ := matched
  dsimp only at agree joined traces failures
  cases agree with
  | passed passed inside => exact ⟨.passed passed inside, rfl, new, joined, traces, failures⟩
  | same =>
    rcases result with (cause | trap) | value
    · have inside : Inside (.failure cause) := stops _ _ _ stopped
      have caught : Matches passage registry session (.error (.failure cause), last.bare)
          ((match passage last request cause with
            | some trap => MonadExcept.throw (.trap trap)
            | none => MonadExcept.throw (.failure cause) : Run (σ × Record) Int).run last) := by
        cases delivered : passage last request cause with
        | none => exact ⟨.same _, rfl, new, joined, traces, failures⟩
        | some trap => exact ⟨.passed delivered inside, rfl, new, joined, traces, failures⟩
      exact caught
    · exact ⟨.same _, rfl, new, joined, traces, failures⟩
    · exact ⟨.same _, rfl, new, joined, traces, failures⟩

/-- Answers are taken down and change nothing else, by induction on how deep they may lie. -/
theorem respond_follows [Platform] (host : Host σ) (depth : Nat) (request : Request) :
    Follows passage host.registry (host.recordedRespond passage depth request)
      (host.respond depth request) := by
  have stops := respond_stops host depth request
  induction depth generalizing request with
  | zero => exact Follows.pass (Follows.throw rfl) stops request
  | succ depth ih =>
    have deeper : ∀ request, Follows passage host.registry (host.recordedRespond passage depth request)
        (host.respond depth request) := fun request => ih request (respond_stops host depth request)
    cases request with
    | abort address =>
      refine Follows.pass ((cString_follows address).bind fun text => ?_) stops _
      exact (note_follows _).bind fun _ => failRecorded_follows (.inl rfl)
    | println address =>
      refine Follows.pass ((cString_follows address).bind fun text => ?_) stops _
      exact (note_follows _).bind fun _ => .pure 0
    | builtin id context args =>
      refine Follows.pass ?_ stops _
      unfold Host.respond
      cases host.builtins.get? id with
      | none => exact failRecorded_follows (.inr rfl)
      | some name =>
        exact (Follows.mapM (dumpJson_follows deeper) args).bind fun documents =>
          (recordedBuiltin_follows name documents).bind fun document =>
            recordedHandOver_follows deeper name document

/-! ## Evaluations -/

theorem evaluationCode_follows
    (answers : ∀ request, Follows passage registry (answer' request) (answer request)) (data id input : Int) :
    Follows passage registry (evaluationCode host.carrying answer' data id input)
      (evaluationCode host answer data id input) := by
  refine (call_follows answers _ _).bind fun context => ?_
  refine (call?_follows answers _ _).bind fun _ => (call?_follows answers _ _).bind fun _ => ?_
  exact (call?_follows answers _ _).bind fun _ => (call?_follows answers _ _).bind fun _ => .pure _

theorem readResult_follows
    (answers : ∀ request, Follows passage registry (answer' request) (answer request)) (context : Int)
    (code : Option Int) :
    Follows passage registry (readResult host.carrying answer' context code)
      (readResult host answer context code) := by
  have finish : Follows passage registry
      (host.carrying.call answer' "opa_eval_ctx_get_result" [context] >>= host.carrying.dumpText answer')
      (host.call answer "opa_eval_ctx_get_result" [context] >>= host.dumpText answer) :=
    (call_follows answers _ _).bind fun value => dumpText_follows answers value
  unfold readResult
  split
  · exact finish
  · exact finish
  · exact .throw rfl

theorem steps_follows (answers : ∀ request, Follows passage registry (answer' request) (answer request))
    (sandbox : Sandbox σ) (id : Int) (payload : Bytes) :
    Follows passage registry (sandbox.steps host.carrying answer' id payload)
      (sandbox.steps host answer id payload) := by
  unfold steps
  split
  · exact (ensureCapacity_follows _).bind fun _ => (place_follows _ _).bind fun _ =>
      (call_follows answers _ _).bind fun result => cString_follows result
  · exact (call?_follows answers _ _).bind fun _ => (loadJson_follows answers payload).bind fun input =>
      (evaluationCode_follows answers _ id input).bind fun outcome =>
        readResult_follows answers outcome.2 outcome.1

def reportedAs (record : Record) : Except Stop α → Except Failure α
  | .ok value => .ok value
  | .error (.failure cause) => .error cause
  | .error (.trap trap) => .error (.error ((Record.failures record).getLast?.getD (.trapped trap)))

theorem reportTrap_run (step : Run (σ × Record) α) (session : Session (σ × Record)) :
    ((reportTrap step).run session).1.mapError Stop.toFailure =
        reportedAs (step.run session).2.store.2 (step.run session).1 ∧
      ((reportTrap step).run session).2 = (step.run session).2 := by
  unfold reportTrap
  rw [run_tryCatch]
  generalize step.run session = outcome
  obtain ⟨(cause | trap) | value, last⟩ := outcome
  · exact ⟨rfl, rfl⟩
  · have caught : ∀ found : Option PolicyError, (match found with
        | some cause => fail cause
        | none => fail (.trapped trap) : Run (σ × Record) α).run last =
          (.error (.failure (.error (found.getD (.trapped trap)))), last) := by
      rintro (_ | cause) <;> rfl
    have known := caught (Record.failures last.store.2).getLast?
    have stays := congrArg Prod.snd known
    exact ⟨congrArg (fun outcome => outcome.1.mapError Stop.toFailure) known, stays⟩
  · exact ⟨rfl, rfl⟩

/-- A trap that ends an evaluation is the same failure whether it is caught or not. -/
theorem onStop_toFailure (step : Run σ α) (session : Session σ) :
    ((onStop (fun cause => cause) PolicyError.trapped step).run session).1.mapError Stop.toFailure =
      (step.run session).1.mapError Stop.toFailure := by
  unfold onStop
  rw [run_tryCatch]
  generalize step.run session = outcome
  obtain ⟨((cause | cause) | trap) | value, last⟩ := outcome <;> rfl

/-- What an evaluation that is taken down has to do with the evaluation.

* `traces`: its record traces calls from a fresh context;
* `failures`: it holds the failure that comes out of the evaluation;
* `result`: both come to the same if a failure has been taken down, or none passes as a trap. -/
structure Recorded (passage : Passage σ) (registry : Registry) (ambient : Ambient)
    (outcome : Except Failure Bytes × Record) (result : Except Failure Bytes) : Prop where
  traces : ∃ last, Record.Traces registry (.fresh ambient) outcome.2 last
  failures : Record.failures outcome.2 = reportedIn result
  result : Record.failures outcome.2 ≠ [] ∨ (∀ session request cause, passage session request cause = none) →
    outcome.1 = result

theorem recordedEvaluate_recorded [Platform] (sandbox : Sandbox σ) (passage : Passage σ) (left : Record)
    (registry : Registry) (ambient : Ambient) (id : Int) (payload : Bytes) :
    Recorded passage registry ambient
      (sandbox.recordedEvaluate passage left registry ambient id payload)
      (sandbox.evaluate registry ambient id payload).1 := by
  let host : Host σ := ⟨sandbox.guest, registry, sandbox.builtins⟩
  let begun : Session (σ × Record) := ⟨(sandbox.guest.refuel sandbox.store, []), .fresh ambient, []⟩
  let plain := sandbox.steps host host.answer id payload
  let taken := sandbox.steps host.carrying (host.recordedRespond passage Room.requests) id payload
  have matched : Matches passage registry begun (plain.run begun.bare) (taken.run begun) :=
    steps_follows (respond_follows host Room.requests) sandbox id payload begun
  have evaluated : (sandbox.evaluate registry ambient id payload).1 =
      (plain.run begun.bare).1.mapError Stop.toFailure := by
    rw [← onStop_toFailure, ← runEvaluation_eq]
    rfl
  have reports := reportTrap_run taken begun
  have recorded : sandbox.recordedEvaluate passage left registry ambient id payload =
      (reportedAs (taken.run begun).2.store.2 (taken.run begun).1, (taken.run begun).2.store.2) := by
    rw [← reports.1, ← reports.2]
    rfl
  rw [evaluated, recorded]
  generalize plain.run begun.bare = one at matched
  generalize taken.run begun = other at matched
  obtain ⟨agree, -, new, joined, traces, failures⟩ := matched
  rw [joined, List.nil_append]
  refine ⟨⟨_, traces⟩, failures, fun counts => ?_⟩
  obtain ⟨one, after⟩ := one
  obtain ⟨other, last⟩ := other
  dsimp only at agree failures counts ⊢
  cases agree with
  | same =>
    rcases one with (cause | trap) | value
    · rfl
    · unfold reportedAs
      rw [failures]
      rfl
    · rfl
  | @passed _ _ cause trap passed inside =>
    rcases counts with some | never
    · rcases cause with cause | cause
      · by_cases known : Reported cause
        · have only : Record.failures new = [cause] := failures.trans (if_pos known)
          unfold reportedAs
          rw [only]
          rfl
        · exact absurd (failures.trans (if_neg known)) some
      · exact absurd failures some
    · cases passed.symm.trans (never _ _ _)

end Sandbox

end PolicyHost
