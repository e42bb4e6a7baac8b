import PolicyHost.Builtin.Registry
import PolicyHost.Note
import PolicyHost.Platform
import PolicyHost.Sandbox.Access

/-!
# The host of a guest

The host answers what a guest asks for while it runs: it prints, it aborts the run, and it calls
builtins. Documents cross the border as JSON text in the memory of the guest. To read the arguments
of a builtin and to hand over its result the host calls the guest again, which may ask again.

* `Session`, `Run`: what changes during a run, and steps of the host. What happened before a failure
  stays.
* `drive`: runs an activity and answers its requests.
* `respond`: the answer to a request.
* `call`, `loadJson`, `dumpJson`: the host's own dealings with the guest.
-/

namespace PolicyHost.Sandbox

/-- Why a run ends without a result: a failure of the host, or a trap of the guest. -/
inductive Stop
  | failure (failure : Failure)
  | trap (trap : Trap)

/-- What stays the same during a run: the guest, the registry, and the names of the builtins by the
numbers that the guest uses. -/
structure Host (σ : Type) where
  guest : Guest σ
  registry : Registry
  builtins : Table Int Text

/-- What changes during a run: the store of the guest, the context of the builtins, and the notes so
far, last first. -/
structure Session (σ : Type) where
  store : σ
  context : Builtin.Context
  notes : List Note

abbrev Run (σ : Type) := ExceptT Stop (StateM (Session σ))

variable {σ : Type}

def fail {α : Type} (cause : PolicyError) : Run σ α := throw (.failure (.error cause))

def fault {α : Type} (cause : Fault) : Run σ α := throw (.failure (.fault cause))

def note (n : Note) : Run σ Unit := modify fun s => { s with notes := n :: s.notes }

def Host.memory (host : Host σ) : Run σ Memory := do return host.guest.memory (← get).store

/-- Puts octets into the memory of the guest. -/
def Host.place (host : Host σ) (start : Int) (data : Bytes) : Run σ Unit := do
  match (← host.memory).place? start data with
  | some memory => modify fun s => { s with store := host.guest.setMemory memory s.store }
  | none => fault .memoryRange

def Host.cString (host : Host σ) (address : Int) : Run σ Bytes := do
  match (← host.memory).cString? address with
  | some bytes => return bytes
  | none => fail (.unterminated address)

def drive (answer : Request → Run σ Int) : Activity σ → Run σ (Option Int)
  | .returned result store => do
    modify fun s => { s with store }
    return result
  | .trapped trap => throw (.trap trap)
  | .asked request store resume => do
    modify fun s => { s with store }
    let number ← answer request
    drive answer (resume number (← get).store)

/-- Calls a function of the guest, which may give no result. -/
def Host.call? (host : Host σ) (answer : Request → Run σ Int) (name : Text) (args : List Int) :
    Run σ (Option Int) := do
  drive answer (host.guest.call name args (← get).store)

/-- Calls a function of the guest that has to give a result. -/
def Host.call (host : Host σ) (answer : Request → Run σ Int) (name : Text) (args : List Int) :
    Run σ Int := do
  match ← host.call? answer name args with
  | some number => return number
  | none => fault .noResult

/-- Hands a document over to the guest: the address of the value that the guest makes of it. -/
def Host.loadJson (host : Host σ) (answer : Request → Run σ Int) (document : Bytes) : Run σ Int := do
  let address ← host.call answer "opa_malloc" [document.length]
  host.place address document
  match ← host.call? answer "opa_json_parse" [address, document.length] with
  | none | some 0 => fail .documentRejected
  | some value => return value

def Host.dumpText (host : Host σ) (answer : Request → Run σ Int) (value : Int) : Run σ Bytes := do
  host.cString (← host.call answer "opa_json_dump" [value])

variable [Platform]

def Host.dumpJson (host : Host σ) (answer : Request → Run σ Int) (value : Int) : Run σ Json := do
  match Json.readOctets (← host.dumpText answer value) with
  | .ok document => return document
  | .error flaw => throw (.failure (flaw.failure .guestJson))

/-- What a failure of a builtin becomes: errors of builtins stay as they are. -/
def wrapFailure (name : Text) : Failure → PolicyError
  | .error cause => if cause.kind = .builtin then cause else .builtinFailed name cause
  | .fault cause => .builtinFaulted name cause

/-- Calls a builtin: the octets of its result. -/
def Host.callBuiltin (host : Host σ) (name : Text) (args : List Json) : Run σ Bytes := do
  let (result, context) := (host.registry.call name args).run (← get).context
  modify fun s => { s with context }
  match result >>= Conversion.encode with
  | .ok document => return document
  | .error failure => fail (wrapFailure name failure)

/-- Hands the result of a builtin over to the guest. -/
def Host.handOver (host : Host σ) (answer : Request → Run σ Int) (name : Text) (document : Bytes) :
    Run σ Int :=
  tryCatch (host.loadJson answer document) fun
    | .failure (.error cause) =>
      if cause.kind = .serialize then fail (.builtinRejected name) else fail cause
    | stop => throw stop

/-- The answer to a request. The first argument bounds how deep requests lie inside each other. -/
def Host.respond (host : Host σ) : (depth : Nat) → Request → Run σ Int
  | 0, _ => fault .tooDeep
  | _ + 1, .abort address => do
    let message := Utf8.decodeLossy (← host.cString address)
    note (.aborted message)
    fail (.aborted message)
  | _ + 1, .println address => do
    note (.printed (Utf8.decodeLossy (← host.cString address)))
    return 0
  | depth + 1, .builtin id _ args => do
    match host.builtins.get? id with
    | none => fail (.builtinUnknown id)
    | some name =>
      let answer := host.respond depth
      let documents ← args.mapM (host.dumpJson answer)
      let document ← host.callBuiltin name documents
      host.handOver answer name document

/-- The answer to a request from a guest that the host has called. -/
def Host.answer (host : Host σ) : Request → Run σ Int := host.respond Room.requests

end PolicyHost.Sandbox
