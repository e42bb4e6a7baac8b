import PolicyHost.Deployment.Standard
import PolicyHost.Proofs.Sandbox.Drive
import PolicyHost.Sandbox.Basic

/-!
# Two paths to one result

A guest evaluates in one call or through a context. If the one call does inside the guest what the
host does through a context, both paths come to the same.

* `BumpHeap`: a heap that is no more than a pointer.
* `composed`, `EvaluatesInOneCall`: what the one call does.
* `fastEvaluate_coincides`: both paths have the same result and leave the same store.
-/

namespace PolicyHost

namespace Sandbox

variable {σ : Type}

/-! ## Guests that know both paths -/

/-- A heap that is no more than a pointer into memory: setting and allocating only move it. It is not
kept in the memory from `mark` on, so that it does not matter whether the host writes there before or
after it moves. -/
structure BumpHeap (guest : Guest σ) (mark : Int) where
  pointer : σ → Int
  set : Int → σ → σ
  pointer_set : ∀ p store, 0 ≤ p → p < 2 ^ 31 → pointer (set p store) = p
  set_set : ∀ p q store, set p (set q store) = set p store
  place_set : ∀ p store start data written, mark ≤ start →
    (guest.memory store).place? start data = some written →
    ∃ moved, (guest.memory (set p store)).place? start data = some moved ∧
      guest.setMemory moved (set p store) = set p (guest.setMemory written store)
  setCall : ∀ p store, guest.call "opa_heap_ptr_set" [p] store = .returned none (set p store)
  mallocCall : ∀ n store,
    guest.call "opa_malloc" [n] store = .returned (some (pointer store)) (set (pointer store + n) store)

/-- Goes on with the value that a call gives. -/
def withValue (next : Int → σ → Activity σ) : Option Int → σ → Activity σ
  | some value, store => next value store
  | none, _ => .trapped .illTyped

/-- Parses an input, evaluates it through a context, and gives the address of the result. -/
def composed (call : Text → List Int → σ → Activity σ) (id data address length : Int) (store : σ) :
    Activity σ :=
  (call "opa_json_parse" [address, length] store).andThen <| withValue fun input store =>
  (call "opa_eval_ctx_new" [] store).andThen <| withValue fun context store =>
  (call "opa_eval_ctx_set_input" [context, input] store).andThen fun _ store =>
  (call "opa_eval_ctx_set_data" [context, data] store).andThen fun _ store =>
  (call "opa_eval_ctx_set_entrypoint" [context, id] store).andThen fun _ store =>
  (call "eval" [context] store).andThen fun _ store =>
  (call "opa_eval_ctx_get_result" [context] store).andThen <| withValue fun result store =>
  call "opa_json_dump" [result] store

def valued : List Text :=
  ["opa_json_parse", "opa_eval_ctx_new", "opa_eval_ctx_get_result", "opa_json_dump"]

/-- The guest evaluates in one call as it does through a context, after it has set its heap. -/
structure EvaluatesInOneCall (guest : Guest σ) {mark : Int} (heap : BumpHeap guest mark) : Prop where
  evalCall : ∀ id data address length pointer store,
    guest.call fastExport [0, id, data, address, length, pointer, 0] store =
      composed guest.call id data address length (heap.set pointer store)
  givesValue : ∀ name ∈ valued, ∀ args store, (guest.call name args store).GivesValue

/-! ## Calls of the host and calls inside the guest -/

variable (host : Host σ) (answer : Request → Run σ Int)

theorem call?_run (name : Text) (args : List Int) (session : Session σ) :
    (host.call? answer name args).run session =
      (drive answer (host.guest.call name args session.store)).run session := rfl

/-- What is made of the value that a call may give. -/
def expectValue : Option Int → Run σ Int
  | some number => pure number
  | none => fault .noResult

theorem call_eq (name : Text) (args : List Int) :
    host.call answer name args = host.call? answer name args >>= expectValue := by
  unfold Host.call
  refine congrArg _ (funext fun result => ?_)
  cases result <;> rfl

theorem call?_of_returned {name : Text} {args : List Int} {code : Option Int} {session : Session σ}
    {after : σ} (returns : host.guest.call name args session.store = .returned code after) :
    (host.call? answer name args).run session = (.ok code, { session with store := after }) := by
  rw [call?_run, returns]
  rfl

theorem call_of_returned {name : Text} {args : List Int} {value : Int} {session : Session σ} {after : σ}
    (returns : host.guest.call name args session.store = .returned (some value) after) :
    (host.call answer name args).run session = (.ok value, { session with store := after }) := by
  rw [call_eq, run_bind_ok (call?_of_returned host answer returns)]
  rfl

/-- The host may make the first call of an activity itself. -/
theorem Coincide.call? {α : Type} {name : Text} {args : List Int}
    {next : Option Int → σ → Activity σ} {last : Option Int → Run σ α} {rest : Option Int → Run σ α}
    {session : Session σ}
    (later : ∀ result middle, (host.call? answer name args).run session = (.ok result, middle) →
      Coincide ((drive answer (next result middle.store) >>= last).run middle)
        ((rest result).run middle)) :
    Coincide
      ((drive answer ((host.guest.call name args session.store).andThen next) >>= last).run session)
      ((host.call? answer name args >>= rest).run session) := by
  have split : Coincide
      ((drive answer ((host.guest.call name args session.store).andThen next) >>= last).run session)
      (((host.call? answer name args >>= fun result => do
        drive answer (next result (← get).store)) >>= last).run session) :=
    .bind (drive_andThen answer next _ session) fun _ _ _ => .refl _
  rw [bind_assoc] at split
  exact split.trans (.bind (.refl _) later)

/-- The same for a call that gives a value. -/
theorem Coincide.call {α : Type} {name : Text} {args : List Int} {next : Int → σ → Activity σ}
    {last : Option Int → Run σ α} {rest : Int → Run σ α} {session : Session σ}
    (gives : (host.guest.call name args session.store).GivesValue)
    (later : ∀ value middle, (host.call answer name args).run session = (.ok value, middle) →
      Coincide ((drive answer (next value middle.store) >>= last).run middle)
        ((rest value).run middle)) :
    Coincide
      ((drive answer ((host.guest.call name args session.store).andThen (withValue next)) >>= last).run
        session)
      ((host.call answer name args >>= rest).run session) := by
  rw [call_eq, bind_assoc]
  refine .call? host answer fun result middle done => ?_
  obtain ⟨value, rfl⟩ := drive_givesValue answer gives done
  have called : (host.call answer name args).run session = (.ok value, middle) := by
    rw [call_eq, run_bind_ok done]
    rfl
  exact later value middle called

/-! ## The path through a context -/

/-- Runs an entrypoint on an input that has been parsed, up to the code that the guest gives. -/
def evaluationCode (data id input : Int) : Run σ (Option Int × Int) := do
  let context ← host.call answer "opa_eval_ctx_new" []
  let _ ← host.call? answer "opa_eval_ctx_set_input" [context, input]
  let _ ← host.call? answer "opa_eval_ctx_set_data" [context, data]
  let _ ← host.call? answer "opa_eval_ctx_set_entrypoint" [context, id]
  return (← host.call? answer "eval" [context], context)

/-- What follows on the code of an evaluation. -/
def readResult (context : Int) : Option Int → Run σ Bytes
  | none | some 0 => do
    let result ← host.call answer "opa_eval_ctx_get_result" [context]
    host.dumpText answer result
  | some code => fail (.errorCode code)

/-- What the host makes of the value that a guest parses. -/
def checkParsed : Option Int → Run σ Int
  | none | some 0 => fail .documentRejected
  | some value => pure value

theorem readResult_of_zero (context : Int) {code : Option Int} (zero : code.getD 0 = 0) :
    readResult host answer context code = (do
      let result ← host.call answer "opa_eval_ctx_get_result" [context]
      host.dumpText answer result) := by
  cases code with
  | none => rfl
  | some number =>
    cases zero
    rfl

theorem checkParsed_of_ne_zero {value : Int} (nonzero : value ≠ 0) :
    (checkParsed (some value) : Run σ Int) = pure value := by
  unfold checkParsed
  split
  · next missing => cases missing
  · next zero =>
    cases zero
    exact absurd rfl nonzero
  · next other found =>
    cases found
    rfl

theorem contextEvaluate_eq [Platform] (sandbox : Sandbox σ) (id : Int) (payload : Bytes) :
    contextEvaluate sandbox host id payload =
      host.call? host.answer "opa_heap_ptr_set" [sandbox.heapMark] >>= fun _ =>
        host.loadJson host.answer payload >>= fun input =>
          evaluationCode host host.answer sandbox.dataAddress id input >>= fun outcome =>
            readResult host host.answer outcome.2 outcome.1 := by
  simp only [evaluationCode, bind_assoc, pure_bind]
  rfl

/-- An activity that evaluates an input inside the guest comes to what the host makes of it through a
context, if the guest parses the input and gives no code but zero. Each call of the chain is taken out
of the activity in turn. -/
theorem composed_coincides
    (gives : ∀ name ∈ valued, ∀ args store, (host.guest.call name args store).GivesValue)
    {id data address length : Int} {session : Session σ}
    (parses : ∀ value after,
      (host.call answer "opa_json_parse" [address, length]).run session = (.ok value, after) → value ≠ 0)
    (succeeds : ∀ outcome after,
      (host.call answer "opa_json_parse" [address, length] >>= evaluationCode host answer data id).run
        session = (.ok outcome, after) → outcome.1.getD 0 = 0) :
    Coincide
      ((drive answer (composed host.guest.call id data address length session.store) >>= fun result =>
        expectValue result >>= host.cString).run session)
      (((host.call? answer "opa_json_parse" [address, length] >>= checkParsed) >>= fun input =>
        evaluationCode host answer data id input >>= fun outcome =>
          readResult host answer outcome.2 outcome.1).run session) := by
  rw [bind_assoc]
  refine .call? host answer fun result parsed done => ?_
  obtain ⟨input, rfl⟩ := drive_givesValue answer (gives _ (by simp [valued]) _ _) done
  have called : (host.call answer "opa_json_parse" [address, length]).run session =
      (.ok input, parsed) := by
    rw [call_eq, run_bind_ok done]
    rfl
  rw [checkParsed_of_ne_zero (parses input parsed called), pure_bind]
  unfold evaluationCode
  simp only [bind_assoc, pure_bind]
  refine .call host answer (gives _ (by simp [valued]) _ _) fun context fresh first => ?_
  refine .call? host answer fun _ withInput second => ?_
  refine .call? host answer fun _ withData third => ?_
  refine .call? host answer fun _ withEntrypoint fourth => ?_
  refine .call? host answer fun code evaluated fifth => ?_
  -- The calls that have been taken out so far are those that end in the code.
  have zero : code.getD 0 = 0 := by
    refine succeeds (code, context) evaluated ?_
    unfold evaluationCode
    simp only [run_bind, called, first, second, third, fourth, fifth]
    rfl
  rw [readResult_of_zero host answer context zero]
  refine .call host answer (gives _ (by simp [valued]) _ _) fun result ready _ => ?_
  unfold Host.dumpText
  rw [call_eq, bind_assoc]
  exact .refl _

/-! ## The input behind the data -/

theorem memory_run (session : Session σ) :
    host.memory.run session = (.ok (host.guest.memory session.store), session) := rfl

theorem place_run (session : Session σ) {start : Int} {data : Bytes} {written : Memory}
    (fits : (host.guest.memory session.store).place? start data = some written) :
    (host.place start data).run session =
      (.ok (), { session with store := host.guest.setMemory written session.store }) := by
  unfold Host.place
  rw [run_bind_ok (memory_run host session), fits]
  rfl

theorem ensureCapacity_run {stop : Int} {session : Session σ}
    (room : stop ≤ (host.guest.memory session.store).size) :
    (ensureCapacity host stop).run session = (.ok (), session) := by
  unfold ensureCapacity
  rw [run_bind_ok (memory_run host session), if_pos room]
  rfl

/-- Octets that end inside a memory can be written to it, unless they start at its end. -/
theorem place?_isSome {m : Memory} {start : Int} {data : Bytes} (nonneg : 0 ≤ start)
    (inside : start < m.size) (room : start + data.length ≤ m.size) :
    ∃ written, m.place? start data = some written := by
  have position : Memory.position m.size start = start.toNat := by
    unfold Memory.position
    rw [if_neg (by omega)]
    omega
  unfold Memory.place? Memory.write?
  rw [position]
  dsimp only
  rw [if_neg (by omega), dif_pos]
  · exact ⟨_, rfl⟩
  · change start.toNat + data.length ≤ m.size
    omega

section

variable {host} {sandbox : Sandbox σ} (heap : BumpHeap host.guest sandbox.heapMark)
  {payload : Bytes} {session : Session σ} {written : Memory}

/-- The session in which the guest parses an input: the input stands behind the data, and the heap
starts behind the input. -/
def BumpHeap.prepared (payload : Bytes) (session : Session σ) : Session σ :=
  let memory := host.guest.memory session.store
  let written := (memory.place? sandbox.heapMark payload).getD memory
  { session with
    store := heap.set (sandbox.heapMark + payload.length)
      (host.guest.setMemory written session.store) }

theorem BumpHeap.prepared_eq
    (fits : (host.guest.memory session.store).place? sandbox.heapMark payload = some written) :
    heap.prepared payload session =
      { session with
        store := heap.set (sandbox.heapMark + payload.length)
          (host.guest.setMemory written session.store) } := by
  unfold BumpHeap.prepared
  dsimp only
  rw [fits]
  rfl

theorem fastEvaluate_run [Platform]
    (room : sandbox.heapMark + payload.length ≤ (host.guest.memory session.store).size)
    (fits : (host.guest.memory session.store).place? sandbox.heapMark payload = some written) (id : Int) :
    (fastEvaluate sandbox host id payload).run session =
      (host.call host.answer fastExport
        [0, id, sandbox.dataAddress, sandbox.heapMark, payload.length,
          sandbox.heapMark + payload.length, 0] >>= host.cString).run
        { session with store := host.guest.setMemory written session.store } := by
  unfold fastEvaluate
  rw [run_bind_ok (ensureCapacity_run host room), run_bind_ok (place_run host session fits)]

theorem loadJson_eq (document : Bytes) :
    host.loadJson answer document =
      host.call answer "opa_malloc" [document.length] >>= fun address =>
        host.place address document >>= fun _ =>
          host.call? answer "opa_json_parse" [address, document.length] >>= checkParsed := rfl

/-- The host rewinds the heap, allocates, and writes; the guest is then where it is in one call. -/
theorem loadJson_run [Platform] (nonneg : 0 ≤ sandbox.heapMark) (narrow : sandbox.heapMark < 2 ^ 31)
    (fits : (host.guest.memory session.store).place? sandbox.heapMark payload = some written) :
    (host.call? host.answer "opa_heap_ptr_set" [sandbox.heapMark] >>= fun _ =>
      host.loadJson host.answer payload).run session =
    (host.call? host.answer "opa_json_parse" [sandbox.heapMark, payload.length] >>= checkParsed).run
      (heap.prepared payload session) := by
  have rewound := heap.pointer_set sandbox.heapMark session.store nonneg narrow
  have allocated : (host.call host.answer "opa_malloc" [payload.length]).run
      { session with store := heap.set sandbox.heapMark session.store } =
      (.ok sandbox.heapMark,
        { session with store := heap.set (sandbox.heapMark + payload.length) session.store }) := by
    have called : (host.call? host.answer "opa_malloc" [payload.length]).run
        { session with store := heap.set sandbox.heapMark session.store } =
        (.ok (some sandbox.heapMark),
          { session with store := heap.set (sandbox.heapMark + payload.length) session.store }) := by
      rw [call?_run, heap.mallocCall, rewound, heap.set_set]
      rfl
    rw [call_eq, run_bind_ok called]
    rfl
  obtain ⟨moved, fitsToo, same⟩ := heap.place_set (sandbox.heapMark + payload.length) session.store
    sandbox.heapMark payload written (Int.le_refl _) fits
  have reset : (host.call? host.answer "opa_heap_ptr_set" [sandbox.heapMark]).run session =
      (.ok none, { session with store := heap.set sandbox.heapMark session.store }) := by
    rw [call?_run, heap.setCall]
    rfl
  have placed := place_run host
    { session with store := heap.set (sandbox.heapMark + payload.length) session.store } fitsToo
  rw [run_bind_ok reset, loadJson_eq, run_bind_ok allocated, run_bind_ok placed, same,
    heap.prepared_eq fits]

/-! ## Both paths -/

/-- Both paths come to the same result and leave the same store, except behind a trap, if the input
fits into the memory behind the data, the guest parses it, and evaluation gives no code but zero. -/
theorem fastEvaluate_coincides [Platform] (oneCall : EvaluatesInOneCall host.guest heap)
    (nonneg : 0 ≤ sandbox.heapMark) (narrow : sandbox.heapMark < 2 ^ 31)
    (inside : sandbox.heapMark < (host.guest.memory session.store).size)
    (room : sandbox.heapMark + payload.length ≤ (host.guest.memory session.store).size) (id : Int)
    (parses : ∀ value after,
      (host.call host.answer "opa_json_parse" [sandbox.heapMark, payload.length]).run
        (heap.prepared payload session) = (.ok value, after) → value ≠ 0)
    (succeeds : ∀ outcome after,
      (host.call host.answer "opa_json_parse" [sandbox.heapMark, payload.length] >>=
        evaluationCode host host.answer sandbox.dataAddress id).run
        (heap.prepared payload session) = (.ok outcome, after) → outcome.1.getD 0 = 0) :
    Coincide ((fastEvaluate sandbox host id payload).run session)
      ((contextEvaluate sandbox host id payload).run session) := by
  obtain ⟨written, fits⟩ := place?_isSome nonneg inside room
  have context : (contextEvaluate sandbox host id payload).run session =
      ((host.call? host.answer "opa_json_parse" [sandbox.heapMark, payload.length] >>= checkParsed) >>=
        fun input => evaluationCode host host.answer sandbox.dataAddress id input >>= fun outcome =>
          readResult host host.answer outcome.2 outcome.1).run (heap.prepared payload session) := by
    rw [contextEvaluate_eq, ← bind_assoc, run_bind, loadJson_run heap nonneg narrow fits, ← run_bind]
  -- The one call sets the heap itself, and then it is where the path through a context is.
  have entry : Coincide
      ((host.call? host.answer fastExport
        [0, id, sandbox.dataAddress, sandbox.heapMark, payload.length,
          sandbox.heapMark + payload.length, 0]).run
        { session with store := host.guest.setMemory written session.store })
      ((drive host.answer (composed host.guest.call id sandbox.dataAddress sandbox.heapMark
        payload.length (heap.prepared payload session).store)).run (heap.prepared payload session)) := by
    rw [call?_run, heap.prepared_eq fits]
    dsimp only
    rw [oneCall.evalCall]
    exact drive_store host.answer _ _ _
  rw [fastEvaluate_run room fits, context, call_eq, bind_assoc]
  have chain := composed_coincides host host.answer oneCall.givesValue parses succeeds
  exact (entry.bind fun _ _ _ => .refl _).trans chain

end

/-- The store of a guest that gives its input back: its memory, its heap, and its input. -/
structure Echo where
  memory : Memory
  heap : Int
  input : Int

/-- The functions of a guest that gives its input back. -/
def Echo.call (name : Text) (args : List Int) (store : Echo) : Activity Echo :=
  let first := args.headD 0
  if name = "opa_heap_ptr_set" then .returned none { store with heap := first }
  else if name = "opa_malloc" then .returned (some store.heap) { store with heap := store.heap + first }
  else if name = "opa_json_parse" then .returned (some first) store
  else if name = "opa_eval_ctx_new" then .returned (some 8) store
  else if name = "opa_eval_ctx_set_input" then .returned none { store with input := args.getD 1 0 }
  else if name = "eval" then .returned (some 0) store
  else if name = "opa_eval_ctx_get_result" then .returned (some store.input) store
  else if name = "opa_json_dump" then .returned (some first) store
  else .returned none store

/-- A guest that gives its input back. -/
def Echo.guest : Guest Echo where
  demand := .memory
  start := .error .unreachable
  memory := Echo.memory
  setMemory := fun memory store => { store with memory }
  refuel := id
  provides := fun _ => true
  global? := fun _ _ => none
  call := fun name args store =>
    match decide (name = fastExport), args with
    | true, [_, id, data, address, length, pointer, _] =>
      composed Echo.call id data address length { store with heap := pointer }
    | _, _ => Echo.call name args store

/-- The heap of that guest lies outside of its memory. -/
def Echo.bumpHeap (mark : Int) : BumpHeap Echo.guest mark where
  pointer := Echo.heap
  set := fun p store => { store with heap := p }
  pointer_set := fun _ _ _ _ => rfl
  set_set := fun _ _ _ => rfl
  place_set := fun _ _ _ _ written _ fits => ⟨written, fits, rfl⟩
  setCall := fun _ _ => rfl
  mallocCall := fun _ _ => rfl

/-- That guest with a page of memory, of which the data take sixteen octets. -/
def Echo.sandbox : Sandbox Echo where
  guest := Echo.guest
  version := ⟨1, 2⟩
  builtins := []
  entrypoints := [("echo", 0)]
  dataAddress := 8
  heapMark := 16
  store := ⟨.zeros 1 1, 16, 0⟩

theorem Echo.evaluatesInOneCall : EvaluatesInOneCall Echo.guest (Echo.bumpHeap 16) where
  evalCall := fun _ _ _ _ _ _ => rfl
  givesValue := by
    intro name member args store
    simp only [valued, List.mem_cons, List.not_mem_nil, or_false] at member
    rcases member with rfl | rfl | rfl | rfl <;> exact .returned _ _

attribute [local instance] Deployment.platform in
theorem echo_coincides :
    let host : Host Echo := ⟨Echo.guest, .empty, []⟩
    let session : Session Echo := ⟨Echo.sandbox.store, .fresh ⟨0, ⟨1, 0⟩⟩, []⟩
    Coincide ((fastEvaluate Echo.sandbox host 0 [0x31]).run session)
      ((contextEvaluate Echo.sandbox host 0 [0x31]).run session) := by
  intro host session
  refine fastEvaluate_coincides (Echo.bumpHeap 16) Echo.evaluatesInOneCall ?_ ?_ ?_ ?_ 0 ?_ ?_
  · decide
  · decide
  · decide
  · decide
  · intro value after parsed
    cases parsed
    decide
  · intro outcome after evaluated
    cases evaluated
    rfl

end Sandbox

end PolicyHost
