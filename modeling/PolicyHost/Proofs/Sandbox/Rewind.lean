import PolicyHost.Deployment.Standard
import PolicyHost.Proofs.Sandbox.Reciter

/-!
# Evaluations that leave no trace

The host rewinds the heap of its guest before every evaluation. If all that an evaluation leaves behind
lies on the heap, an evaluation that succeeds gives what it would give on a sandbox that has not been
used, however many evaluations came before it.

* `Ready`: two sessions in which the same evaluation starts.
* `Evaluation.on_used`: one evaluation on a sandbox that has been used.
* `history_independent`: evaluations one after another give what each gives by itself, where the host
  sees addresses as what they are.
* `upper_half_leaves_traces`: they do not where it sees them as negative numbers.
-/

namespace PolicyHost

namespace Sandbox

variable {σ γ α : Type} {sandbox : Sandbox σ} {view : HeapView sandbox.guest γ} {mark limit : Nat}

/-! ## Where an evaluation starts -/

section

variable {base store : σ} (kept : view.Keeps mark base store)

include kept

theorem HeapView.Keeps.refuel : view.Keeps mark base (sandbox.guest.refuel store) where
  memory := by rw [view.memory_refuel]; exact kept.memory
  within := by rw [view.memory_refuel]; exact kept.within
  globals := by rw [view.globals_refuel, view.refilled_refilled, kept.globals]
  above := by rw [view.heap_refuel]; exact kept.above

theorem HeapView.Keeps.setHeap {p : Nat} (above : mark ≤ p) (narrow : p < 2 ^ 32) :
    view.Keeps mark base (view.setHeap p store) where
  memory := by rw [view.memory_setHeap]; exact kept.memory
  within := by rw [view.memory_setHeap]; exact kept.within
  globals := by rw [view.globals_setHeap, kept.globals]
  above := by rw [view.heap_setHeap p store narrow]; exact above

end

/-- Two sessions in which the same evaluation starts. -/
structure Ready (view : HeapView sandbox.guest γ) (mark : Nat) (one other : Session σ) : Prop where
  globals : view.globals one.store = view.globals other.store
  context : one.context = other.context
  one : view.Keeps mark sandbox.store one.store
  other : view.Keeps mark sandbox.store other.store

/-- With a full supply of fuel and a fresh context, an evaluation starts alike wherever nothing but the
heap has changed. -/
theorem Ready.of_keeps {one other : σ} (kept : view.Keeps mark sandbox.store one)
    (kept' : view.Keeps mark sandbox.store other) (ambient : Ambient) :
    Ready view mark ⟨sandbox.guest.refuel one, .fresh ambient, []⟩
      ⟨sandbox.guest.refuel other, .fresh ambient, []⟩ where
  globals := by rw [view.globals_refuel, view.globals_refuel, kept.globals, kept'.globals]
  context := rfl
  one := kept.refuel
  other := kept'.refuel

variable (keeps : KeepsToHeap sandbox view mark limit) {registry : Registry}

include keeps in
/-- The store of the sandbox as it is. -/
theorem KeepsToHeap.base : view.Keeps mark sandbox.store sandbox.store where
  memory := ⟨rfl, Nat.le_refl _, fun _ _ => rfl⟩
  within := keeps.within
  globals := rfl
  above := keeps.above

section

variable {one other last : Session σ} {document : Bytes}

include keeps in
/-- When their heaps have been set to one place, and what stands below it is the same, stores look alike. -/
theorem Ready.pair (ready : Ready view mark one other) {p : Nat} (above : mark ≤ p) (narrow : p < 2 ^ 32)
    (octets : ∀ k, mark ≤ k → k < p →
      (sandbox.guest.memory one.store).byte k = (sandbox.guest.memory other.store).byte k) :
    view.Pair mark sandbox.store [.value sandbox.dataAddress, .text sandbox.heapMark (p - mark)]
      (view.setHeap p one.store) (view.setHeap p other.store) := by
  have first := ready.one.setHeap above narrow
  have second := ready.other.setHeap above narrow
  have heap : view.heap (view.setHeap p one.store) = p := view.heap_setHeap p _ narrow
  have alike := keeps.fresh _ _ first second (heap.trans (view.heap_setHeap p _ narrow).symm) ?_ ?_
  · rw [heap] at alike
    exact ⟨alike, first, second⟩
  · rw [view.globals_setHeap, view.globals_setHeap, ready.globals]
  · intro k below
    rw [heap] at below
    rw [view.memory_setHeap, view.memory_setHeap]
    by_cases data : k < mark
    · rw [ready.one.memory.octets k data, ready.other.memory.octets k data]
    · exact octets k (Nat.le_of_not_lt data) below

include keeps in
/-- A call that starts by setting the heap goes the same way from stores that look alike then. -/
theorem call?_from [Platform] (lower : limit ≤ 2 ^ 31) (use : Use) {p : Nat} {given : List Given}
    (starts : ∀ store, sandbox.guest.call use.name (use.args sandbox) store =
      sandbox.guest.call use.name (use.args sandbox) (view.setHeap p store))
    (pair : view.Pair mark sandbox.store given (view.setHeap p one.store) (view.setHeap p other.store))
    (context : one.context = other.context) (needed : use.needs sandbox ⊆ given) {result : Option Int}
    (done : ((hosted sandbox registry).call? (hosted sandbox registry).answer use.name
      (use.args sandbox)).run one = (.ok result, last)) :
    ∃ last', ((hosted sandbox registry).call? (hosted sandbox registry).answer use.name
        (use.args sandbox)).run other = (.ok result, last') ∧
      Mirror view mark (use.gives result ++ given) last last' := by
  rw [call?_run] at done ⊢
  rw [starts] at done ⊢
  obtain ⟨last', done', called, context⟩ := drive_lockstep (answers_respond keeps lower Room.requests)
    (keeps.calls use given _ _ needed pair) context done
  exact ⟨last', done', called.pair, context⟩

/-! ## Through a context -/

include keeps in
theorem contextEvaluate_mirrors [Platform] (lower : limit ≤ 2 ^ 31) (ready : Ready view mark one other)
    (id : Int)
    (payload : Bytes)
    (done : (contextEvaluate sandbox (hosted sandbox registry) id payload).run one = (.ok document, last)) :
    ∃ last', (contextEvaluate sandbox (hosted sandbox registry) id payload).run other =
        (.ok document, last') ∧ Mirror view mark [] last last' := by
  let host := hosted sandbox registry
  have answers : Answers view mark host.answer := answers_respond keeps lower Room.requests
  have narrow : mark < 2 ^ 32 := (keeps.below.trans_le lower).trans (by decide)
  rw [contextEvaluate_eq] at done ⊢
  rw [run_bind] at done
  rcases ran : (host.call? host.answer "opa_heap_ptr_set" [sandbox.heapMark]).run one with
    ⟨stop | result, between⟩ <;> rw [ran] at done
  · cases done
  · have rewound := ready.pair keeps (Nat.le_refl mark) narrow fun k above below =>
      absurd above (Nat.not_le_of_lt below)
    obtain ⟨between', ran', mirror⟩ :=
      call?_from keeps lower .rewind keeps.rewinds rewound ready.context (List.nil_subset _) ran
    have data : .value sandbox.dataAddress ∈
        Use.rewind.gives result ++ [.value sandbox.dataAddress, .text sandbox.heapMark (mark - mark)] :=
      List.mem_append_right _ List.mem_cons_self
    obtain ⟨last', done', mirror'⟩ := Mirrors.bind keeps (.loadJson keeps answers lower payload)
      (fun input => .bind keeps
        (.evaluationCode keeps answers id (List.mem_append_right _ data) List.mem_cons_self) fun outcome =>
          .readResult keeps answers lower outcome.1 List.mem_cons_self)
      between between' document last mirror done
    exact ⟨last', (run_bind_ok ran' _).trans done', mirror'.less keeps (List.nil_subset _)⟩

/-! ## In one call -/

/-- A memory that has room up to `stop`, or has grown to have it, may be as large as it is. -/
theorem ensureCapacity_eq_ok {host : Host σ} (lawful : Guest.KeepsMemory host.guest) {stop : Int}
    {session after : Session σ} (done : (ensureCapacity host stop).run session = (.ok (), after))
    (within : (host.guest.memory session.store).size ≤
      (host.guest.memory session.store).bound * pageSize) :
    stop ≤ ((host.guest.memory session.store).bound * pageSize : Nat) ∧
      (host.guest.memory after.store).size ≤ (host.guest.memory after.store).bound * pageSize := by
  unfold ensureCapacity at done
  rw [run_bind_ok (memory_run host session)] at done
  generalize memory : host.guest.memory session.store = m at done within ⊢
  split at done
  · cases done
    rw [memory]
    exact ⟨by omega, within⟩
  · dsimp only at done
    split at done
    · next grown grows =>
      cases done
      obtain ⟨room, bound, pages⟩ := Memory.grow?_eq_some grows
      rw [lawful.memory_setMemory]
      simp only [Memory.size, pagesFor, pageSize, bound, pages] at room within ⊢
      omega
    · cases done

/-- If the input has been brought in once, there is room for it, and the memory stays as large as it may
be. -/
theorem bringInput_eq_ok {host : Host σ} (lawful : Guest.KeepsMemory host.guest) {stop : Int}
    {start : Nat} {payload : Bytes} {session after : Session σ}
    (done : (ensureCapacity host stop >>= fun _ => host.place start payload).run session = (.ok (), after))
    (within : (host.guest.memory session.store).size ≤
      (host.guest.memory session.store).bound * pageSize) :
    stop ≤ ((host.guest.memory session.store).bound * pageSize : Nat) ∧
      (host.guest.memory after.store).size ≤ (host.guest.memory after.store).bound * pageSize := by
  rw [run_bind] at done
  rcases ran : (ensureCapacity host stop).run session with ⟨reason | _, between⟩ <;> rw [ran] at done
  · cases done
  · obtain ⟨room, within⟩ := ensureCapacity_eq_ok lawful ran within
    obtain ⟨written, placed, rfl⟩ := place_eq_ok done
    refine ⟨room, ?_⟩
    rw [lawful.memory_setMemory, (Memory.keepsBelow_of_place? placed).bound,
      Memory.size_write? (Memory.place?_eq_some placed).2]
    exact within

/-- The session in which the one call is made: the input stands behind the data. -/
structure Brought (view : HeapView sandbox.guest γ) (mark : Nat) (payload : Bytes)
    (session after : Session σ) : Prop where
  globals : view.globals after.store = view.globals session.store
  context : after.context = session.context
  kept : view.Keeps mark sandbox.store after.store
  octets : ∀ k, k < payload.length → (sandbox.guest.memory after.store).byte (mark + k) = payload.getD k 0

theorem bringInput_brought {session : Session σ} {payload : Bytes} (nonempty : payload ≠ [])
    (kept : view.Keeps mark sandbox.store session.store)
    (room : mark + payload.length ≤ (sandbox.guest.memory session.store).bound * pageSize) :
    ∃ after, (ensureCapacity (hosted sandbox registry) (mark + payload.length) >>= fun _ =>
        (hosted sandbox registry).place mark payload).run session = (.ok (), after) ∧
      Brought view mark payload session after := by
  obtain ⟨memory, brought, staged⟩ :=
    bringInput_run (hosted sandbox registry) view.keepsMemory nonempty (.inr room)
  refine ⟨_, brought, view.globals_setMemory _ _, rfl, ⟨?_, ?_, ?_, ?_⟩, ?_⟩
  · rw [view.keepsMemory.memory_setMemory]
    exact kept.memory.trans staged.keepsBelow
  · exact (bringInput_eq_ok view.keepsMemory brought kept.within).2
  · rw [view.globals_setMemory, kept.globals]
  · rw [view.heap_setMemory]
    exact kept.above
  · intro k inside
    rw [view.keepsMemory.memory_setMemory]
    exact staged.holds.byte inside

include keeps in
theorem fastEvaluate_mirrors [Platform] (lower : limit ≤ 2 ^ 31) (ready : Ready view mark one other) (id : Int)
    {payload : Bytes} (nonempty : payload ≠ []) (narrow : mark + payload.length < 2 ^ 32)
    (done : (fastEvaluate sandbox (hosted sandbox registry) id payload).run one = (.ok document, last)) :
    ∃ last', (fastEvaluate sandbox (hosted sandbox registry) id payload).run other = (.ok document, last') ∧
      Mirror view mark [] last last' := by
  let host := hosted sandbox registry
  let use : Use := .inOneCall id payload.length
  have heapMark : sandbox.heapMark = mark := keeps.marked.trans (signed_of_lower (keeps.below.trans_le lower))
  have steps : fastEvaluate sandbox host id payload =
      (ensureCapacity host (mark + payload.length) >>= fun _ => host.place mark payload) >>= fun _ =>
        host.call? host.answer use.name (use.args sandbox) >>= fun result =>
          expectValue result >>= host.cString := by
    unfold fastEvaluate
    rw [← heapMark, bind_assoc, ← bind_assoc (host.call? host.answer use.name (use.args sandbox)), ← call_eq]
    rfl
  rw [steps] at done ⊢
  rw [run_bind] at done
  rcases ran : (ensureCapacity host (mark + payload.length) >>= fun _ => host.place mark payload).run one with
    ⟨stop | _, between⟩ <;> rw [ran] at done
  · cases done
  · have room := (bringInput_eq_ok view.keepsMemory ran ready.one.within).1
    have same : (sandbox.guest.memory other.store).bound = (sandbox.guest.memory one.store).bound :=
      ready.other.memory.bound.trans ready.one.memory.bound.symm
    obtain ⟨filled, brought, first⟩ := bringInput_brought nonempty ready.one (by exact_mod_cast room)
    obtain ⟨filled', brought', second⟩ :=
      bringInput_brought nonempty ready.other (by rw [same]; exact_mod_cast room)
    cases ran.symm.trans brought
    have start : Ready view mark between filled' :=
      ⟨first.globals.trans (ready.globals.trans second.globals.symm),
        first.context.trans (ready.context.trans second.context.symm), first.kept, second.kept⟩
    have pair := start.pair keeps (Nat.le_add_right mark payload.length) narrow fun k above below => by
      obtain ⟨j, rfl⟩ := Nat.exists_eq_add_of_le above
      rw [first.octets j (by omega), second.octets j (by omega)]
    rw [Nat.add_sub_cancel_left] at pair
    rw [run_bind_ok brought']
    change (host.call? host.answer use.name (use.args sandbox) >>= fun result =>
      expectValue result >>= host.cString).run between = _ at done
    rw [run_bind] at done
    rcases called : (host.call? host.answer use.name (use.args sandbox)).run between with
      ⟨stop | result, evaluated⟩ <;> rw [called] at done
    · cases done
    · obtain ⟨evaluated', called', mirror⟩ := call?_from keeps lower use
        (fun store => keeps.restarts id payload.length store narrow) pair start.context
        (List.Subset.refl _) called
      have finish : Mirrors view mark (use.gives result ++ use.needs sandbox) (fun _ => [])
          (expectValue result >>= host.cString) := by
        cases result with
        | none => exact .of_fails fun _ _ _ stopped => by cases stopped
        | some address => exact .cString keeps lower List.mem_cons_self
      obtain ⟨last', done', mirror'⟩ := finish evaluated evaluated' document last mirror done
      exact ⟨last', (run_bind_ok called' _).trans done', mirror'.less keeps (List.nil_subset _)⟩

end

/-! ## Evaluations -/

include keeps in
theorem runEvaluation_mirrors [Platform] (lower : limit ≤ 2 ^ 31) {one other last : Session σ}
    (ready : Ready view mark one other) (id : Int) {payload document : Bytes} (nonempty : payload ≠ [])
    (narrow : mark + payload.length < 2 ^ 32)
    (done : (runEvaluation sandbox (hosted sandbox registry) id payload).run one = (.ok document, last)) :
    ∃ last', (runEvaluation sandbox (hosted sandbox registry) id payload).run other = (.ok document, last') ∧
      Mirror view mark [] last last' := by
  unfold runEvaluation at done ⊢
  rw [onStop_eq_ok] at done
  simp only [onStop_eq_ok]
  cases path : isFast sandbox.guest sandbox.version with
  | true =>
    rw [path, if_pos rfl] at done
    exact fastEvaluate_mirrors keeps lower ready id nonempty narrow done
  | false =>
    rw [path, if_neg nofun] at done
    exact contextEvaluate_mirrors keeps lower ready id payload done

/-! ## Evaluations one after another -/

/-- An evaluation that a sandbox is asked for. -/
structure Evaluation where
  registry : Registry
  ambient : Ambient
  id : Int
  payload : Bytes

/-- What a sandbox gives, and the sandbox afterwards. -/
def Evaluation.on [Platform] (e : Evaluation) (sandbox : Sandbox σ) : Except Failure Bytes × Sandbox σ :=
  let (result, _, after) := sandbox.evaluate e.registry e.ambient e.id e.payload
  (result, after)

/-- What a sandbox gives when evaluations come one after another. -/
def oneAfterAnother [Platform] (sandbox : Sandbox σ) : List Evaluation → List (Except Failure Bytes)
  | [] => []
  | e :: rest => (e.on sandbox).1 :: oneAfterAnother (e.on sandbox).2 rest

variable {e : Evaluation} {used : σ} {document : Bytes}

/-- An evaluation on a sandbox whose store has become another one. -/
theorem Evaluation.on_eq_ok [Platform] {after : Sandbox σ} :
    e.on { sandbox with store := used } = (.ok document, after) ↔
      ∃ last, (runEvaluation sandbox (hosted sandbox e.registry) e.id e.payload).run
          ⟨sandbox.guest.refuel used, .fresh e.ambient, []⟩ = (.ok document, last) ∧
        after = { sandbox with store := last.store } := by
  have unfolded : e.on { sandbox with store := used } =
      let ran := (runEvaluation sandbox (hosted sandbox e.registry) e.id e.payload).run
        ⟨sandbox.guest.refuel used, .fresh e.ambient, []⟩
      (ran.1.mapError Stop.toFailure, { sandbox with store := ran.2.store }) := rfl
  rw [unfolded]
  generalize (runEvaluation sandbox (hosted sandbox e.registry) e.id e.payload).run
    ⟨sandbox.guest.refuel used, .fresh e.ambient, []⟩ = ran
  obtain ⟨stop | found, last⟩ := ran
  · exact ⟨nofun, fun ⟨_, ran, _⟩ => nomatch ran⟩
  · constructor
    · intro done
      cases done
      exact ⟨last, rfl, rfl⟩
    · rintro ⟨last, ran, rfl⟩
      cases ran
      rfl

include keeps in
/-- An evaluation that succeeds on a sandbox that has been used gives what it gives on the sandbox as it
was, and leaves nothing behind but what lies on the heap. -/
theorem Evaluation.on_used [Platform] (lower : limit ≤ 2 ^ 31) (kept : view.Keeps mark sandbox.store used)
    (nonempty : e.payload ≠ []) (narrow : mark + e.payload.length < 2 ^ 32)
    (done : (e.on { sandbox with store := used }).1 = .ok document) :
    (e.on sandbox).1 = .ok document ∧
      ∃ after, (e.on { sandbox with store := used }).2 = { sandbox with store := after } ∧
        view.Keeps mark sandbox.store after := by
  obtain ⟨last, ran, left⟩ := Evaluation.on_eq_ok.mp (Prod.ext done rfl)
  have ready : Ready view mark ⟨sandbox.guest.refuel used, .fresh e.ambient, []⟩
      ⟨sandbox.guest.refuel sandbox.store, .fresh e.ambient, []⟩ := .of_keeps kept keeps.base e.ambient
  obtain ⟨last', ran', mirror⟩ := runEvaluation_mirrors keeps lower ready e.id nonempty narrow ran
  have fresh : e.on sandbox = (.ok document, { sandbox with store := last'.store }) :=
    Evaluation.on_eq_ok.mpr ⟨last', ran', rfl⟩
  exact ⟨congrArg Prod.fst fresh, last.store, left, mirror.pair.one⟩

include keeps in
theorem oneAfterAnother_of_used [Platform] (lower : limit ≤ 2 ^ 31) (kept : view.Keeps mark sandbox.store used)
    (evaluations : List Evaluation) (nonempty : ∀ e ∈ evaluations, e.payload ≠ [])
    (narrow : ∀ e ∈ evaluations, mark + e.payload.length < 2 ^ 32)
    (succeed : ∀ result ∈ oneAfterAnother { sandbox with store := used } evaluations,
      ∃ document, result = .ok document) :
    oneAfterAnother { sandbox with store := used } evaluations =
      evaluations.map fun e => (e.on sandbox).1 := by
  induction evaluations generalizing used with
  | nil => rfl
  | cons e rest ih =>
    obtain ⟨document, done⟩ := succeed _ List.mem_cons_self
    obtain ⟨same, after, left, kept'⟩ := Evaluation.on_used keeps lower kept
      (nonempty e List.mem_cons_self) (narrow e List.mem_cons_self) done
    rw [oneAfterAnother, left] at succeed ⊢
    rw [ih kept' (fun e member => nonempty e (List.mem_cons_of_mem _ member))
      (fun e member => narrow e (List.mem_cons_of_mem _ member))
      fun result member => succeed result (List.mem_cons_of_mem _ member)]
    exact congrArg (· :: _) (done.trans same.symm)

include keeps in
/-- Evaluations leave no trace: as long as they succeed, they give what each gives on the sandbox as it was
built, if the guest keeps to its heap and its addresses lie in the lower half, where the host sees them as
what they are. What is built once more from the same data is that sandbox again. -/
theorem history_independent [Platform] (lower : limit ≤ 2 ^ 31) (evaluations : List Evaluation)
    (nonempty : ∀ e ∈ evaluations, e.payload ≠ [])
    (narrow : ∀ e ∈ evaluations, mark + e.payload.length < 2 ^ 32)
    (succeed : ∀ result ∈ sandbox.oneAfterAnother evaluations, ∃ document, result = .ok document) :
    sandbox.oneAfterAnother evaluations = evaluations.map fun e => (e.on sandbox).1 :=
  oneAfterAnother_of_used keeps lower keeps.base evaluations nonempty narrow succeed

end Sandbox

namespace Reciter

open Sandbox

section

variable {data mark pages : Nat} {minor : Int} (layout : Layout data mark pages)
  (lower : pages * pageSize ≤ 2 ^ 31) {used : Reciter}
  (kept : (view data).Keeps mark (sandbox data mark pages minor).store used)

include layout lower kept

/-- In the lower half, the guest recites its data on both paths. -/
theorem on_recites [Platform] {e : Evaluation} (room : mark + e.payload.length < pages * pageSize) :
    (e.on { sandbox data mark pages minor with store := used }).1 = .ok text := by
  have size : used.memory.size = pages * pageSize := size_of_keeps layout kept
  have seen : signed mark = mark := signed_of_lower (layout.inside.trans_le lower)
  obtain ⟨written, placed⟩ : ∃ written, used.memory.place? mark e.payload = some written :=
    place?_isSome (Int.natCast_nonneg mark) (by rw [size]; exact_mod_cast layout.inside)
      (by rw [size]; exact_mod_cast room.le)
  have stands : written.Terminated data text :=
    (data_of_keeps layout kept).of_keepsBelow (Memory.keepsBelow_of_place? placed) layout.apart
  have ran : (runEvaluation (sandbox data mark pages minor) (host data e.registry) e.id e.payload).run
      ⟨used, .fresh e.ambient, []⟩ =
        (.ok text, ⟨⟨written, mark + e.payload.length⟩, .fresh e.ambient, []⟩) := by
    unfold runEvaluation
    rw [onStop_eq_ok]
    cases path : isFast (sandbox data mark pages minor).guest (sandbox data mark pages minor).version with
    | true =>
      rw [if_pos rfl]
      refine fastEvaluate_recites e.registry ?_ ?_ ?_ stands text_visible e.id
      · exact room.trans_le layout.narrow
      · rw [seen, size]
        exact_mod_cast room.le
      · rw [seen]
        exact placed
    | false =>
      rw [if_neg nofun]
      refine contextEvaluate_recites e.registry layout.positive ?_ ?_ ?_ stands text_visible e.id
      · exact layout.inside.trans_le lower
      · exact room.trans_eq size.symm
      · exact placed
  exact congrArg Prod.fst (Evaluation.on_eq_ok.mpr ⟨_, ran, rfl⟩)

end

theorem oneAfterAnother_recites [Platform] {data mark pages : Nat} {minor : Int}
    (layout : Layout data mark pages)
    (lower : pages * pageSize ≤ 2 ^ 31) {used : Reciter}
    (kept : (view data).Keeps mark (sandbox data mark pages minor).store used) (evaluations : List Evaluation)
    (nonempty : ∀ e ∈ evaluations, e.payload ≠ [])
    (room : ∀ e ∈ evaluations, mark + e.payload.length < pages * pageSize) :
    ∀ result ∈ oneAfterAnother { sandbox data mark pages minor with store := used } evaluations,
      result = .ok text := by
  induction evaluations generalizing used with
  | nil => exact nofun
  | cons e rest ih =>
    have fits := room e List.mem_cons_self
    have recites := on_recites layout lower kept fits
    obtain ⟨-, after, left, kept'⟩ := Evaluation.on_used (keepsToHeap layout lower) (Nat.le_refl _) kept
      (nonempty e List.mem_cons_self) (fits.trans_le layout.narrow) recites
    intro result member
    rw [oneAfterAnother, left] at member
    rcases List.mem_cons.mp member with here | there
    · exact here.trans recites
    · exact ih kept' (fun e member => nonempty e (List.mem_cons_of_mem _ member))
        (fun e member => room e (List.mem_cons_of_mem _ member)) result there

/-- An evaluation with a number as its input, and nothing that depends on it. -/
def evaluation (payload : Bytes) : Evaluation := ⟨.empty, ⟨0, ⟨1, 0⟩⟩, 0, payload⟩

def longThenShort : List Evaluation := [evaluation [0x35, 0x36, 0x37, 0x38], evaluation [0x39]]

attribute [local instance] Deployment.platform in
/-- Through a context and in one call. -/
theorem reciter_history_independent :
    (sandbox 16 32 1 1).oneAfterAnother longThenShort =
        longThenShort.map (fun e => (e.on (sandbox 16 32 1 1)).1) ∧
      (sandbox 16 32 1 2).oneAfterAnother longThenShort =
        longThenShort.map (fun e => (e.on (sandbox 16 32 1 2)).1) := by
  have layout : Layout 16 32 1 := ⟨by decide, by decide, by decide, by decide, by decide⟩
  have lower : 1 * pageSize ≤ 2 ^ 31 := by decide
  have through (minor : Int) : (sandbox 16 32 1 minor).oneAfterAnother longThenShort =
      longThenShort.map (fun e => (e.on (sandbox 16 32 1 minor)).1) := by
    have keeps : KeepsToHeap (sandbox 16 32 1 minor) (view 16) 32 (2 ^ 31) := keepsToHeap layout lower
    refine history_independent keeps (Nat.le_refl _) _ (by decide) (by decide) fun result member => ?_
    exact ⟨text, oneAfterAnother_recites layout lower keeps.base _ (by decide) (by decide) result member⟩
  exact ⟨through 1, through 2⟩

/-! ## The upper half -/

/-- Where the host takes the mark for a negative number and puts the input over the data, the guest recites
what has become of them. -/
theorem on_upper [Platform] {data mark pages : Nat} (used : Reciter) (payload : Bytes) {shown : Bytes}
    (upper : 2 ^ 31 ≤ mark) (inside : mark < pages * pageSize)
    (narrow : pages * pageSize + payload.length ≤ 2 ^ 32)
    (astray : mark + pages * pageSize - 2 ^ 32 = data) (size : used.memory.size = pages * pageSize)
    (stands : used.memory.Terminated data shown) (short : payload.length ≤ shown.length)
    (visible : ∀ b ∈ payload ++ shown.drop payload.length, b ≠ 0) :
    ∃ after : Reciter, (evaluation payload).on { sandbox data mark pages 2 with store := used } =
        (.ok (payload ++ shown.drop payload.length), { sandbox data mark pages 2 with store := after }) ∧
      after.memory.size = pages * pageSize ∧
      after.memory.Terminated data (payload ++ shown.drop payload.length) := by
  have whole : data + (shown ++ [0]).length ≤ used.memory.size := stands.inside
  rw [List.length_append, List.length_singleton] at whole
  obtain ⟨written, writes⟩ : ∃ written, used.memory.write? data payload = some written :=
    Memory.write?_isSome (by omega)
  have placed : used.memory.place? (signed mark) payload = some written := by
    unfold signed
    rw [Memory.place?_of_upper upper (by omega) (by omega), size, astray, writes]
  have negative : signed mark = mark - 2 ^ 32 := by
    unfold signed
    rw [Int.bmod_def]
    split <;> omega
  have shows := stands.overwrite short writes
  have ran : (runEvaluation (sandbox data mark pages 2) (host data .empty) 0 payload).run
      ⟨used, .fresh ⟨0, ⟨1, 0⟩⟩, []⟩ = (.ok (payload ++ shown.drop payload.length),
        ⟨⟨written, mark + payload.length⟩, .fresh ⟨0, ⟨1, 0⟩⟩, []⟩) := by
    have fast : isFast (sandbox data mark pages 2).guest (sandbox data mark pages 2).version = true := rfl
    unfold runEvaluation
    rw [onStop_eq_ok, if_pos fast]
    refine fastEvaluate_recites .empty (by omega) ?_ ?_ shows visible 0
    · rw [negative, size]
      omega
    · exact placed
  exact ⟨⟨written, mark + payload.length⟩, Evaluation.on_eq_ok.mpr ⟨_, ran, rfl⟩,
    (Memory.size_write? writes).trans size, shows⟩

/-- What evaluations give there one after another, and each by itself. -/
theorem longThenShort_of_upper [Platform] {data mark pages : Nat} (layout : Layout data mark pages)
    (upper : 2 ^ 31 ≤ mark) (narrow : pages * pageSize + 4 ≤ 2 ^ 32)
    (astray : mark + pages * pageSize - 2 ^ 32 = data) :
    (sandbox data mark pages 2).oneAfterAnother longThenShort =
        [.ok [0x35, 0x36, 0x37, 0x38], .ok [0x39, 0x36, 0x37, 0x38]] ∧
      longThenShort.map (fun e => (e.on (sandbox data mark pages 2)).1) =
        [.ok [0x35, 0x36, 0x37, 0x38], .ok [0x39, 0x32, 0x33, 0x34]] := by
  have shorter : pages * pageSize + 1 ≤ 2 ^ 32 := by omega
  obtain ⟨stands, -, size⟩ := recited_data layout
  obtain ⟨after, long, size', stands'⟩ : ∃ after : Reciter,
      (evaluation [0x35, 0x36, 0x37, 0x38]).on (sandbox data mark pages 2) =
        (.ok [0x35, 0x36, 0x37, 0x38], { sandbox data mark pages 2 with store := after }) ∧
      after.memory.size = pages * pageSize ∧ after.memory.Terminated data [0x35, 0x36, 0x37, 0x38] :=
    on_upper (sandbox data mark pages 2).store [0x35, 0x36, 0x37, 0x38] upper layout.inside narrow astray size
      stands (by decide) (by simp [text])
  obtain ⟨_, short, -⟩ : ∃ last : Reciter,
      (evaluation [0x39]).on { sandbox data mark pages 2 with store := after } =
        (.ok [0x39, 0x36, 0x37, 0x38], { sandbox data mark pages 2 with store := last }) ∧ _ :=
    on_upper after [0x39] upper layout.inside shorter astray size' stands' (by decide) (by simp)
  obtain ⟨_, alone, -⟩ : ∃ last : Reciter, (evaluation [0x39]).on (sandbox data mark pages 2) =
        (.ok [0x39, 0x32, 0x33, 0x34], { sandbox data mark pages 2 with store := last }) ∧ _ :=
    on_upper (sandbox data mark pages 2).store [0x39] upper layout.inside shorter astray size stands
      (by decide) (by simp [text])
  constructor
  · rw [longThenShort, oneAfterAnother, oneAfterAnother, oneAfterAnother, long, short]
  · rw [longThenShort, List.map_cons, List.map_cons, List.map_nil, long, alone]

attribute [local instance] Deployment.platform in
/-- A guest whose heap lies behind more than half of the largest memory keeps to it, and yet one evaluation
leaves its trace in what the next one gives. -/
theorem upper_half_leaves_traces :
    KeepsToHeap (sandbox 65552 (2 ^ 31 + 16) 32769 2) (view 65552) (2 ^ 31 + 16) (2 ^ 32) ∧
      (sandbox 65552 (2 ^ 31 + 16) 32769 2).oneAfterAnother longThenShort =
        [.ok [0x35, 0x36, 0x37, 0x38], .ok [0x39, 0x36, 0x37, 0x38]] ∧
      longThenShort.map (fun e => (e.on (sandbox 65552 (2 ^ 31 + 16) 32769 2)).1) =
        [.ok [0x35, 0x36, 0x37, 0x38], .ok [0x39, 0x32, 0x33, 0x34]] := by
  have layout : Layout 65552 (2 ^ 31 + 16) 32769 := ⟨by decide, by decide, by decide, by decide, by decide⟩
  have astray : 2 ^ 31 + 16 + 32769 * pageSize - 2 ^ 32 = 65552 := by
    unfold pageSize
    omega
  exact ⟨keepsToHeap layout layout.narrow, longThenShort_of_upper layout (by decide) (by decide) astray⟩

end Reciter

end PolicyHost
