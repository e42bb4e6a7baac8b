import PolicyHost.Sandbox.Host

/-!
# Sandboxes

A sandbox is a guest in a store of its own with a data document bound. To evaluate, the host writes
the input behind the data and calls the guest: in one call if the guest knows how, otherwise through
a context that it fills step by step. The heap starts behind the data again each time.

* `instantiate`: links a guest, reads its tables, checks what it needs and binds the data.
* `evaluate`: runs an entrypoint on an input and gives the octets of the result.
-/

namespace PolicyHost

/-- A guest with data bound: the version it follows, the names of the builtins by its numbers, its
entrypoints, the address of the data, where the heap starts behind them, and its store. -/
structure Sandbox (σ : Type) where
  guest : Guest σ
  version : AbiVersion
  builtins : Table Int Text
  entrypoints : Table Text Int
  dataAddress : Int
  heapMark : Int
  store : σ

namespace Sandbox

variable {σ : Type}

/-- Functions that every guest has to offer. -/
def requiredExports : List Text :=
  ["opa_malloc", "opa_json_parse", "opa_json_dump", "opa_heap_ptr_get", "opa_heap_ptr_set",
   "builtins", "entrypoints"]

/-- Functions that a guest has to offer if it does not evaluate in one call. -/
def contextExports : List Text :=
  ["opa_eval_ctx_new", "opa_eval_ctx_set_input", "opa_eval_ctx_set_data",
   "opa_eval_ctx_set_entrypoint", "opa_eval_ctx_get_result", "eval"]

/-- The function that evaluates in one call. -/
def fastExport : Text := "opa_eval"

def isFast (guest : Guest σ) (version : AbiVersion) : Bool :=
  version.supportsFastEval && guest.provides fastExport

def missingExports (guest : Guest σ) (version : AbiVersion) : List Text :=
  let needed := if isFast guest version then requiredExports else requiredExports ++ contextExports
  needed.filter fun name => !guest.provides name

/-- Gives errors and traps of a step another cause. Faults stay as they are. -/
def onStop {α : Type} (error : PolicyError → PolicyError) (trap : Trap → PolicyError)
    (step : Run σ α) : Run σ α :=
  tryCatch step fun
    | .failure (.error cause) => fail (error cause)
    | .trap cause => fail (trap cause)
    | stop => throw stop

def wholePart (x : Float) : Except Fault Int :=
  if x.isNaN then .error .nanNumber
  else if x.isInf then .error .infiniteNumber
  else .ok (Json.truncate x)

/-- The integer that the value of a global stands for. -/
def globalInt : Scalar → Except Fault Int
  | .int n => .ok n
  | .float x => wholePart x
  | .other type => .error (.notNumber type)

/-- The version that a guest says it follows, if it says so. -/
def readVersion (guest : Guest σ) (store : σ) : Except Fault (Option AbiVersion) :=
  match guest.global? "opa_wasm_abi_version" store with
  | none => .ok none
  | some major => do
    let minor := (guest.global? "opa_wasm_abi_minor_version" store).getD (.int 0)
    return some ⟨← globalInt major, ← globalInt minor⟩

def lift {α : Type} : Except Fault α → Run σ α
  | .ok value => return value
  | .error cause => fault cause

/-- The version of the guest and its exports are what the host needs. -/
def checkGuest (guest : Guest σ) : Run σ AbiVersion := do
  match ← lift (readVersion guest (← get).store) with
  | none => fail .versionMissing
  | some version =>
    if version.major ≠ AbiVersion.supportedMajor then fail (.versionUnsupported version.toText)
    else
      let missing := missingExports guest version
      if missing.isEmpty then return version else fail (.exportsMissing missing)

/-- The integer that a number in a table of the guest stands for. -/
def identifier : Json → Except Fault Int
  | .bool b => .ok (if b then 1 else 0)
  | .int n => .ok n
  | .float x => wholePart x
  | .string t => (Numeral.read t).mapError .numeral
  | other => .error (.notNumber other.kindName)

/-- The names of a table with their numbers. -/
def identifiers (members : Json.Members) : Except Fault (List (Text × Int)) :=
  members.mapM fun member => (identifier member.2).map fun id => (member.1, id)

variable [Platform]

def readTable (host : Host σ) (name : Text) : Run σ Json := do
  host.dumpJson host.answer (← host.call host.answer name [])

/-- Reads both tables of the guest: builtins and entrypoints. -/
def readTables (host : Host σ) : Run σ (Json.Members × Json.Members) := do
  let builtins ← onStop .tablesUnreadable .tablesTrapped (readTable host "builtins")
  let entrypoints ← onStop .tablesUnreadable .tablesTrapped (readTable host "entrypoints")
  match builtins, entrypoints with
  | .object b, .object e => return (b, e)
  | _, _ => fail .tablesNotObjects

/-- Names that are not registered, in ascending order. -/
def unavailable (registry : Registry) (names : List Text) : List Text :=
  Text.sort (names.filter fun name => !registry.contains name)

/-- Reads both tables, and checks that the builtins by which the guest's numbers go are registered.
A number that comes twice goes by the later name. -/
def resolveTables (host : Host σ) : Run σ (Table Int Text × Table Text Int) := do
  let (builtinMembers, entrypointMembers) ← readTables host
  let ids ← lift (identifiers builtinMembers)
  let builtins : Table Int Text := Table.ofList (ids.map fun entry => (entry.2, entry.1))
  let missing := unavailable host.registry (builtins.map Prod.snd)
  if missing.isEmpty then
    let entrypoints ← lift (identifiers entrypointMembers)
    return (builtins, entrypoints)
  else fail (.builtinsUnavailable missing)

/-- Hands the data over to the guest: their address, and where the heap starts behind them. -/
def bindData (host : Host σ) (data : Bytes) : Run σ (Int × Int) :=
  onStop id .dataTrapped do
    let address ← host.loadJson host.answer data
    let mark ← host.call host.answer "opa_heap_ptr_get" []
    return (address, mark)

/-- What is done with a guest whose store is fresh. -/
def setUp (guest : Guest σ) (registry : Registry) (activity : Activity σ) (data : Bytes) :
    Run σ (Sandbox σ) := do
  let unnamed : Host σ := ⟨guest, registry, []⟩
  let _ ← onStop .startFailed .notInstantiable (drive unnamed.answer activity)
  let version ← checkGuest guest
  let (builtins, entrypoints) ← resolveTables unnamed
  note (.instantiated version entrypoints.length builtins.length)
  let host : Host σ := ⟨guest, registry, builtins⟩
  let (dataAddress, heapMark) ← bindData host data
  return ⟨guest, version, builtins, entrypoints, dataAddress, heapMark, (← get).store⟩

/-- The store in which an activity comes to its first pause. -/
def firstStore : Activity σ → Except Trap σ
  | .returned _ store | .asked _ store _ => .ok store
  | .trapped trap => .error trap

def Stop.toFailure : Stop → Failure
  | .failure cause => cause
  | .trap cause => .error (.trapped cause)

/-- Links a guest into a fresh store and binds data. -/
def instantiate (guest : Guest σ) (registry : Registry) (ambient : Ambient) (data : Bytes) :
    Except Failure (Sandbox σ) × List Note :=
  match guest.demand with
  | .missing => (.error (.error .memoryMissing), [])
  | .otherKind => (.error (.error .memoryOtherKind), [])
  | .memory =>
    match guest.start with
    | .error trap => (.error (.error (.notInstantiable trap)), [])
    | .ok activity =>
      match firstStore activity with
      | .error trap => (.error (.error (.notInstantiable trap)), [])
      | .ok store =>
        let (result, session) :=
          (setUp guest registry activity data).run ⟨store, .fresh ambient, []⟩
        (result.mapError Stop.toFailure, session.notes.reverse)

/-- Pages that a stretch of so many octets takes. -/
def pagesFor (octets : Nat) : Nat := (octets + (pageSize - 1)) / pageSize

/-- Grows the memory of the guest until `stop` lies inside or at its end. -/
def ensureCapacity (host : Host σ) (stop : Int) : Run σ Unit := do
  let memory ← host.memory
  if stop ≤ memory.size then return
  else
    let pages := pagesFor (stop - memory.size).toNat
    match memory.grow? pages with
    | some grown => modify fun s => { s with store := host.guest.setMemory grown s.store }
    | none => fail (.growthFailed pages)

def fastEvaluate (sandbox : Sandbox σ) (host : Host σ) (id : Int) (payload : Bytes) :
    Run σ Bytes := do
  let input := sandbox.heapMark
  let heap := input + payload.length
  ensureCapacity host heap
  host.place input payload
  let result ← host.call host.answer fastExport
    [0, id, sandbox.dataAddress, input, payload.length, heap, 0]
  host.cString result

def contextEvaluate (sandbox : Sandbox σ) (host : Host σ) (id : Int) (payload : Bytes) :
    Run σ Bytes := do
  let answer := host.answer
  let _ ← host.call? answer "opa_heap_ptr_set" [sandbox.heapMark]
  let input ← host.loadJson answer payload
  let context ← host.call answer "opa_eval_ctx_new" []
  let _ ← host.call? answer "opa_eval_ctx_set_input" [context, input]
  let _ ← host.call? answer "opa_eval_ctx_set_data" [context, sandbox.dataAddress]
  let _ ← host.call? answer "opa_eval_ctx_set_entrypoint" [context, id]
  match ← host.call? answer "eval" [context] with
  | none | some 0 =>
    let result ← host.call answer "opa_eval_ctx_get_result" [context]
    host.dumpText answer result
  | some code => fail (.errorCode code)

/-- Evaluates with a full supply of fuel and a fresh context of builtins. -/
def runEvaluation (sandbox : Sandbox σ) (host : Host σ) (id : Int) (payload : Bytes) :
    Run σ Bytes :=
  onStop (fun cause => cause) .trapped
    (if isFast sandbox.guest sandbox.version then fastEvaluate sandbox host id payload
      else contextEvaluate sandbox host id payload)

/-- Runs an entrypoint on an input: the octets of the result, the notes, and the sandbox afterwards. -/
def evaluate (sandbox : Sandbox σ) (registry : Registry) (ambient : Ambient) (id : Int)
    (payload : Bytes) : Except Failure Bytes × List Note × Sandbox σ :=
  let host : Host σ := ⟨sandbox.guest, registry, sandbox.builtins⟩
  let start : Session σ := ⟨sandbox.guest.refuel sandbox.store, .fresh ambient, []⟩
  let (result, session) := (runEvaluation sandbox host id payload).run start
  (result.mapError Stop.toFailure, session.notes.reverse, { sandbox with store := session.store })

end Sandbox

end PolicyHost
