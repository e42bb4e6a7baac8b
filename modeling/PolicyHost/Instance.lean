import PolicyHost.Sandbox.Basic

/-!
# Policy instances

An instance is a sandbox with a lock. A question is first checked and encoded; then its call waits
for the lock, runs in the sandbox and takes its result. Between these steps other calls may take
theirs, and a call may be cancelled. A call that is cancelled while it runs gives up the lock, but
the sandbox goes on until it is done. A failure of execution or a cancellation of a running call
faults the instance: it then runs no further call.

* `Instance.step`: what one event does.
* `Instance.eval`: one call from its arrival to its outcome.
* `Question`, `decodeResult`: what is asked, and how the octets of a result are read.
-/

namespace PolicyHost

/-- What an instance is fit for. -/
inductive InstanceState
  | built
  | evaluating
  | faulted
deriving DecidableEq, Repr

/-- What is asked of an instance: an entrypoint, an input, and the shape that the result should
have. -/
structure Question where
  entrypoint : Text
  input : Value
  shape : Option Shape

/-- A question that has been checked and encoded. -/
structure Call where
  number : Nat
  entrypoint : Text
  id : Int
  payload : Bytes
  shape : Option Shape

/-- What becomes of a call. -/
inductive Outcome
  | returned (value : Value)
  | failed (failure : Failure)
  | cancelled

/-- The call that has the lock, and its result once the sandbox is done with it. -/
structure Holder where
  call : Call
  result : Option (Except Failure Bytes)

/-- A sandbox with a lock: the calls that wait for it in order of arrival, and the calls that run in
the sandbox, whether or not somebody still waits for them. `registry` is the number of the registry
whose builtins it calls. -/
structure Instance (σ : Type) where
  sandbox : Sandbox σ
  registry : Nat
  hasData : Bool
  state : InstanceState
  holder : Option Holder
  waiting : List Call
  running : List Call

/-- What may happen next.

* `arrive`: a question comes in under a number of its own;
* `wake`: the first call that waits finds the lock free;
* `finish`: the sandbox is done with a call;
* `resume`: the call that has the lock takes its result;
* `cancel`: a call is given up. -/
inductive Event
  | arrive (number : Nat) (question : Question)
  | wake
  | finish (number : Nat) (registry : Registry) (ambient : Ambient)
  | resume
  | cancel (number : Nat)

/-- What an event leads to: the instance afterwards, the calls that end with their outcomes, and
notes. -/
structure Reaction (σ : Type) where
  result : Instance σ
  outcomes : List (Nat × Outcome)
  notes : List Note

variable [Platform]

/-- Reads the octets of a result, in a shape if there is one. -/
def decodeResult (raw : Bytes) (shape : Option Shape) : Except Failure Value :=
  match Json.readOctets raw with
  | .error flaw => .error (flaw.failure .resultJson)
  | .ok json =>
    match shape with
    | none => .ok (.ofJson json)
    | some shape =>
      match Platform.fit shape json with
      | .ok value => .ok value
      | .error .mismatch => .error (Failure.error .resultMismatch)
      | .error (.fault fault) => .error (.fault fault)

def Outcome.ofExcept : Except Failure Value → Outcome
  | .ok value => .returned value
  | .error failure => .failed failure

namespace Instance

variable {σ : Type}

def ofSandbox (sandbox : Sandbox σ) (registry : Nat) (hasData : Bool) : Instance σ :=
  ⟨sandbox, registry, hasData, .built, none, [], []⟩

def entrypoints (i : Instance σ) : List Text := i.sandbox.entrypoints.map Prod.fst

def defaultEntrypoint? (i : Instance σ) : Option Text :=
  (i.sandbox.entrypoints.find? fun entry => entry.2 = 0).map Prod.fst

def accept (i : Instance σ) (number : Nat) (q : Question) : Except Failure Call :=
  if i.state = .faulted then .error (Failure.error .instanceFaulted)
  else
    match Table.get? q.entrypoint i.sandbox.entrypoints with
    | none => .error (Failure.error (.entrypointNotFound q.entrypoint i.entrypoints))
    | some id => do
      let payload ← Conversion.encode q.input
      return ⟨number, q.entrypoint, id, payload, q.shape⟩

/-- Nothing happens. -/
def still (i : Instance σ) : Reaction σ := ⟨i, [], []⟩

/-- A call gets the lock. If the instance has been faulted meanwhile, it fails and the lock is free
again. -/
def enter (i : Instance σ) (call : Call) : Reaction σ :=
  if i.state = .faulted then
    ⟨i, [(call.number, .failed (.error .instanceFaulted))], []⟩
  else
    still { i with
      state := .evaluating
      holder := some ⟨call, none⟩
      running := i.running ++ [call] }

/-- A question comes in: it fails, gets the lock, or waits. -/
def arrive (i : Instance σ) (number : Nat) (q : Question) : Reaction σ :=
  match i.accept number q with
  | .error failure => ⟨i, [(number, .failed failure)], []⟩
  | .ok call =>
    if i.holder.isNone && i.waiting.isEmpty then i.enter call
    else still { i with waiting := i.waiting ++ [call] }

/-- The first call that waits gets the lock if it is free. -/
def wake (i : Instance σ) : Reaction σ :=
  match i.holder, i.waiting with
  | none, call :: rest => { i with waiting := rest }.enter call
  | _, _ => i.still

/-- The sandbox is done with a call. -/
def finish (i : Instance σ) (number : Nat) (registry : Registry) (ambient : Ambient) : Reaction σ :=
  match i.running.find? fun call => call.number = number with
  | none => i.still
  | some call =>
    let (result, notes, sandbox) := i.sandbox.evaluate registry ambient call.id call.payload
    let holder := i.holder.map fun h => if h.call.number = number then { h with result } else h
    let running := i.running.filter fun other => other.number ≠ number
    ⟨{ i with sandbox, holder, running }, [], notes⟩

/-- The call that has the lock takes its result and gives up the lock. -/
def resume (i : Instance σ) : Reaction σ :=
  match i.holder with
  | some ⟨call, some result⟩ =>
    let free := { i with holder := none }
    match result with
    | .ok raw =>
      ⟨{ free with state := .built },
        [(call.number, .ofExcept (decodeResult raw call.shape))],
        [.evaluated call.entrypoint raw.length]⟩
    | .error (.error cause) =>
      if cause.kind.isExecution then
        ⟨{ free with state := .faulted }, [(call.number, .failed (.error cause))],
          [.evaluationFailed call.entrypoint cause]⟩
      else ⟨{ free with state := .built }, [(call.number, .failed (.error cause))], []⟩
    | .error (.fault cause) =>
      ⟨{ free with state := .built }, [(call.number, .failed (.fault cause))], []⟩
  | _ => i.still

/-- A call is given up. If it has the lock, the instance is faulted and the lock is free. -/
def cancel (i : Instance σ) (number : Nat) : Reaction σ :=
  match i.holder with
  | some holder =>
    if holder.call.number = number then
      ⟨{ i with holder := none, state := .faulted }, [(number, .cancelled)],
        [.evaluationCancelled holder.call.entrypoint]⟩
    else giveUp
  | none => giveUp
where
  /-- A call that waits waits no more. -/
  giveUp : Reaction σ :=
    if i.waiting.any fun call => call.number = number then
      ⟨{ i with waiting := i.waiting.filter fun call => call.number ≠ number },
        [(number, .cancelled)], []⟩
    else i.still

def step (i : Instance σ) : Event → Reaction σ
  | .arrive number q => i.arrive number q
  | .wake => i.wake
  | .finish number registry ambient => i.finish number registry ambient
  | .resume => i.resume
  | .cancel number => i.cancel number

def run (i : Instance σ) : List Event → Reaction σ
  | [] => i.still
  | event :: rest =>
    let first := i.step event
    let later := first.result.run rest
    ⟨later.result, first.outcomes ++ later.outcomes, first.notes ++ later.notes⟩

/-- One call from its arrival to its outcome, with nothing in between. -/
def eval (i : Instance σ) (registry : Registry) (ambient : Ambient) (number : Nat) (q : Question) :
    Reaction σ :=
  i.run [.arrive number q, .finish number registry ambient, .resume]

end Instance

end PolicyHost
