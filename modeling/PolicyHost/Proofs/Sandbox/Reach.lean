import PolicyHost.Proofs.Sandbox.Record

/-!
# The functions that a guest reaches

The host knows builtins by the numbers of the guest, and looks for the function of a name each time it calls
one. What a guest comes to therefore depends on a registry only by the functions behind the names in its
table, as they are when they are called.

* `loadJson_of_guest` and others: what a host does with its guest, it does whatever its registry is.
* `callFunction`: a call of a function that is at hand.
* `respondBy`, `evaluateBy`: answers and evaluations where the function behind a name is given for every
  session, so that it may become another one meanwhile.
* `respond_eq_respondBy`, `evaluate_eq_evaluateBy`: those of a host are of this kind.
* `respondBy_congr`: nothing but the functions behind the names in the table counts.
-/

namespace PolicyHost.Sandbox

variable {σ : Type}

/-! ## Dealings with a guest

Hosts of one guest deal with it in the same way, whatever builtins they know. -/

section

variable {host other : Host σ} (same : host.guest = other.guest)

include same

theorem cString_of_guest : host.cString = other.cString := by
  unfold Host.cString Host.memory
  rw [same]

theorem place_of_guest : host.place = other.place := by
  unfold Host.place Host.memory
  rw [same]

theorem call?_of_guest : host.call? = other.call? := by
  unfold Host.call?
  rw [same]

theorem call_of_guest : host.call = other.call := by
  unfold Host.call
  rw [call?_of_guest same]

theorem loadJson_of_guest : host.loadJson = other.loadJson := by
  unfold Host.loadJson
  rw [call_of_guest same, call?_of_guest same, place_of_guest same]

theorem dumpText_of_guest : host.dumpText = other.dumpText := by
  unfold Host.dumpText
  rw [call_of_guest same, cString_of_guest same]

theorem dumpJson_of_guest [Platform] : host.dumpJson = other.dumpJson := by
  unfold Host.dumpJson
  rw [dumpText_of_guest same]

theorem handOver_of_guest : host.handOver = other.handOver := by
  unfold Host.handOver
  rw [loadJson_of_guest same]

theorem steps_of_guest (sandbox : Sandbox σ) (answer : Request → Run σ Int) (id : Int) (payload : Bytes) :
    sandbox.steps host answer id payload = sandbox.steps other answer id payload := by
  unfold steps fastSteps contextSteps evaluationCode readResult ensureCapacity Host.memory
  rw [same, call_of_guest same, call?_of_guest same, place_of_guest same, loadJson_of_guest same,
    dumpText_of_guest same, cString_of_guest same]

end

/-! ## Answers by functions that are at hand -/

/-- A host of a guest that knows no builtins. -/
def Host.bare (guest : Guest σ) : Host σ := ⟨guest, .empty, []⟩

/-- Calls a function that goes by a name: the octets of its result. -/
def callFunction [Platform] (name : Text) (function : Builtin.Function) (args : List Json) : Run σ Bytes := do
  let (result, context) := (function args).run (← get).context
  modify fun s => { s with context }
  match result >>= Conversion.encode with
  | .ok document => return document
  | .error failure => fail (wrapFailure name failure)

/-- The functions behind names, which may change from session to session. -/
abbrev Reach (σ : Type) := Session σ → Text → Builtin.Function

/-- The answer to a request of a guest, by the names of its numbers and the functions behind the names. -/
def respondBy [Platform] (guest : Guest σ) (builtins : Table Int Text) (reach : Reach σ) :
    (depth : Nat) → Request → Run σ Int
  | 0, _ => fault .tooDeep
  | _ + 1, .abort address => do
    let message := Utf8.decodeLossy (← (Host.bare guest).cString address)
    note (.aborted message)
    fail (.aborted message)
  | _ + 1, .println address => do
    note (.printed (Utf8.decodeLossy (← (Host.bare guest).cString address)))
    return 0
  | depth + 1, .builtin id _ args => do
    match builtins.get? id with
    | none => fail (.builtinUnknown id)
    | some name =>
      let answer := respondBy guest builtins reach depth
      let documents ← args.mapM ((Host.bare guest).dumpJson answer)
      let function := reach (← get) name
      let document ← callFunction name function documents
      (Host.bare guest).handOver answer name document

/-- An evaluation with answers of whatever kind. -/
def evaluateBy (sandbox : Sandbox σ) (answer : Request → Run σ Int) (ambient : Ambient) (id : Int)
    (payload : Bytes) : Except Failure Bytes × List Note × Sandbox σ :=
  let start : Session σ := ⟨sandbox.guest.refuel sandbox.store, .fresh ambient, []⟩
  let evaluation := onStop (fun cause => cause) .trapped (sandbox.steps (.bare sandbox.guest) answer id payload)
  let ended := evaluation.run start
  (ended.1.mapError Stop.toFailure, ended.2.notes.reverse, { sandbox with store := ended.2.store })

/-- A host answers by what its registry does when it calls names, also those that it does not hold. -/
theorem respond_eq_respondBy [Platform] (host : Host σ) (depth : Nat) :
    host.respond depth = respondBy host.guest host.builtins (fun _ => host.registry.call) depth := by
  have bare : host.guest = (Host.bare host.guest).guest := rfl
  induction depth with
  | zero => rfl
  | succ depth ih =>
    funext request
    cases request with
    | abort address =>
      unfold Host.respond respondBy
      rw [cString_of_guest bare]
    | println address =>
      unfold Host.respond respondBy
      rw [cString_of_guest bare]
    | builtin id context args =>
      unfold Host.respond respondBy
      cases host.builtins.get? id with
      | none => rfl
      | some name =>
        dsimp only
        rw [ih, dumpJson_of_guest bare, handOver_of_guest bare]
        rfl

theorem evaluate_eq_evaluateBy [Platform] (sandbox : Sandbox σ) (registry : Registry) (ambient : Ambient)
    (id : Int)
    (payload : Bytes) :
    sandbox.evaluate registry ambient id payload =
      sandbox.evaluateBy (respondBy sandbox.guest sandbox.builtins (fun _ => registry.call) Room.requests) ambient
        id payload := by
  let host : Host σ := ⟨sandbox.guest, registry, sandbox.builtins⟩
  have answers : host.answer = respondBy sandbox.guest sandbox.builtins (fun _ => registry.call) Room.requests :=
    respond_eq_respondBy host Room.requests
  have bare : host.guest = (Host.bare sandbox.guest).guest := rfl
  unfold evaluate evaluateBy
  dsimp only
  rw [runEvaluation_eq, answers, steps_of_guest bare]
  rfl

/-- Answers differ in nothing if the functions behind the names in the table do not differ. -/
theorem respondBy_congr [Platform] {guest : Guest σ} {builtins : Table Int Text} {reach other : Reach σ}
    (same : ∀ id name, builtins.get? id = some name → ∀ session, reach session name = other session name)
    (depth : Nat) : respondBy guest builtins reach depth = respondBy guest builtins other depth := by
  induction depth with
  | zero => rfl
  | succ depth ih =>
    funext request
    cases request with
    | abort address => rfl
    | println address => rfl
    | builtin id context args =>
      unfold respondBy
      cases named : builtins.get? id with
      | none => rfl
      | some name => simp only [ih, same id name named]

end PolicyHost.Sandbox
