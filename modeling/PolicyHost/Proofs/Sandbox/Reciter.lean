import PolicyHost.Proofs.Sandbox.Mirror

/-!
# A guest that recites its data

Whatever the guest of this module is asked, it gives the text that is its data. It writes nothing, and
nothing but its heap pointer ever changes, so evaluations leave no trace if the host leaves none. In the
lower half of the memory the host leaves none. In the upper half it takes the mark behind the data for a
negative number, and writes the inputs over the data.

* `Reciter`, `sandbox`: the guest, with its data and the mark behind them anywhere.
* `keepsToHeap`: the guest keeps to its heap, wherever that is.
* `fastEvaluate_recites`, `contextEvaluate_recites`: an evaluation gives what stands where the data are
  when the input has been written.
-/

namespace PolicyHost

/-- The store of a guest that recites its data: its memory, and where its heap ends. -/
structure Reciter where
  memory : Memory
  heap : Nat

namespace Reciter

/-- The address that a signed number means inside the guest. -/
def unsigned (number : Int) : Nat := (number % 2 ^ 32).toNat

theorem unsigned_signed_add {p n : Nat} (narrow : p + n < 2 ^ 32) :
    unsigned (Sandbox.signed p + n) = p + n := by
  unfold unsigned Sandbox.signed
  rw [Int.bmod_def]
  split <;> omega

theorem unsigned_signed {p : Nat} (narrow : p < 2 ^ 32) : unsigned (Sandbox.signed p) = p := by
  unfold unsigned Sandbox.signed
  rw [Int.bmod_def]
  split <;> omega

/-- Allocates so many octets, if there is room. -/
def malloc (length : Nat) (store : Reciter) : Activity Reciter :=
  if store.heap + length < store.memory.size then
    .returned (some (Sandbox.signed store.heap)) { store with heap := store.heap + length }
  else .trapped .memoryBounds

/-- Sets the heap, unless it would lie before the input. -/
def enter (data : Nat) (input pointer : Int) (store : Reciter) : Activity Reciter :=
  if unsigned pointer < unsigned input then .trapped .memoryBounds
  else .returned (some data) { store with heap := unsigned pointer }

/-- The functions of a guest whose data stand at `data`. -/
def call (data : Nat) (name : Text) (args : List Int) (store : Reciter) : Activity Reciter :=
  let first := args.headD 0
  if name = "opa_heap_ptr_set" then .returned none { store with heap := unsigned first }
  else if name = "opa_malloc" then malloc first.toNat store
  else if name = Sandbox.fastExport then enter data (args.getD 3 0) (args.getD 5 0) store
  else if name = "eval" then .returned (some 0) store
  else .returned (some data) store

/-- A guest that gives its data whatever it is asked. -/
def guest (data : Nat) : Guest Reciter where
  demand := .memory
  start := .error .unreachable
  memory := Reciter.memory
  setMemory := fun memory store => { store with memory }
  refuel := id
  provides := fun _ => true
  global? := fun _ _ => none
  call := call data

section

variable (data : Nat) (store : Reciter)

theorem call_rewind (pointer : Int) : (guest data).call "opa_heap_ptr_set" [pointer] store =
    .returned none { store with heap := unsigned pointer } := rfl

theorem call_malloc (length : Int) : (guest data).call "opa_malloc" [length] store =
    malloc length.toNat store := by
  change call data "opa_malloc" [length] store = _
  unfold call
  rw [if_neg (by decide), if_pos rfl]
  rfl

theorem call_eval (args : List Int) : (guest data).call "eval" args store = .returned (some 0) store := rfl

theorem call_fast (id address input length pointer : Int) :
    (guest data).call Sandbox.fastExport [0, id, address, input, length, pointer, 0] store =
      enter data input pointer store := rfl

/-- The functions that do not give the data, or not only that. -/
def busy : List Text := ["opa_heap_ptr_set", "opa_malloc", Sandbox.fastExport, "eval"]

theorem call_data {name : Text} (other : name ∉ busy) (args : List Int) :
    (guest data).call name args store = .returned (some data) store := by
  simp only [busy, List.mem_cons, List.not_mem_nil, or_false, not_or] at other
  obtain ⟨rewind, allocate, fast, eval⟩ := other
  change call data name args store = _
  unfold call
  rw [if_neg rewind, if_neg allocate, if_neg fast, if_neg eval]

end

def text : Bytes := [0x31, 0x32, 0x33, 0x34]

def recited (data pages : Nat) : Memory :=
  ((Memory.zeros pages pages).place? data (text ++ [0])).getD (.zeros pages pages)

/-- That guest in a sandbox whose heap starts at `mark`. -/
def sandbox (data mark pages : Nat) (minor : Int) : Sandbox Reciter where
  guest := guest data
  version := ⟨1, minor⟩
  builtins := []
  entrypoints := [("recite", 0)]
  dataAddress := data
  heapMark := Sandbox.signed mark
  store := ⟨recited data pages, mark⟩

/-- Where the data, the mark behind them and the memory end. -/
structure Layout (data mark pages : Nat) : Prop where
  positive : 0 < data
  lower : data < 2 ^ 31
  apart : data + 5 ≤ mark
  inside : mark < pages * pageSize
  narrow : pages * pageSize ≤ 2 ^ 32

section

variable {data mark pages : Nat} (layout : Layout data mark pages) {minor : Int}

include layout

theorem recited_data : (recited data pages).Terminated data text ∧
    (Memory.zeros pages pages).KeepsBelow data (recited data pages) ∧
    (recited data pages).size = pages * pageSize := by
  have apart := layout.apart
  have inside := layout.inside
  have size : (Memory.zeros pages pages).size = pages * pageSize := rfl
  obtain ⟨written, placed⟩ : ∃ written,
      (Memory.zeros pages pages).place? data (text ++ [0]) = some written :=
    Sandbox.place?_isSome (Int.natCast_nonneg data) (by omega) (by simp [text]; omega)
  have same : recited data pages = written := by
    unfold recited
    rw [placed]
    rfl
  rw [same]
  exact ⟨Memory.holds_of_place? placed, Memory.keepsBelow_of_place? placed,
    (Memory.size_write? (Memory.place?_eq_some placed).2).trans size⟩

end

/-- What of a store matters to the guest: where its heap ends. It gives no text but its data. -/
def view (data : Nat) : Sandbox.HeapView (guest data) Unit where
  heap := Reciter.heap
  setHeap := fun p store => { store with heap := p }
  globals := fun _ => ()
  refilled := id
  alike := fun given one other => one.heap = other.heap ∧
    ∀ address : Int, .string address ∈ given → address = data
  keepsMemory := ⟨fun _ _ => rfl, fun _ _ _ => rfl⟩
  memory_setHeap := fun _ _ => rfl
  memory_refuel := fun _ => rfl
  heap_setHeap := fun _ _ _ => rfl
  heap_setMemory := fun _ _ => rfl
  heap_refuel := fun _ => rfl
  globals_setHeap := fun _ _ => rfl
  globals_setMemory := fun _ _ => rfl
  globals_refuel := fun _ => rfl
  refilled_refilled := fun _ => rfl

section

variable {data mark pages : Nat} {minor : Int} {store : Reciter}

theorem size_of_keeps (layout : Layout data mark pages)
    (kept : (view data).Keeps mark (sandbox data mark pages minor).store store) :
    store.memory.size = pages * pageSize := by
  have size := (recited_data layout).2.2
  have bound : (recited data pages).bound = pages := (recited_data layout).2.1.bound
  have least : (recited data pages).size ≤ store.memory.size := kept.memory.size
  have most : store.memory.size ≤ store.memory.bound * pageSize := kept.within
  have same : store.memory.bound = (recited data pages).bound := kept.memory.bound
  rw [same, bound] at most
  omega

theorem data_of_keeps (layout : Layout data mark pages)
    (kept : (view data).Keeps mark (sandbox data mark pages minor).store store) :
    store.memory.Terminated data text :=
  (recited_data layout).1.of_keepsBelow kept.memory layout.apart

theorem text_visible : ∀ b ∈ text, b ≠ 0 := by simp [text]

theorem keeps_moves {base : Reciter} (kept : (view data).Keeps mark base store) {p : Nat} (above : mark ≤ p) :
    (view data).Keeps mark base { store with heap := p } where
  memory := kept.memory
  within := kept.within
  globals := rfl
  above := above

theorem pair_moves {given gained : List Sandbox.Given} {one other : Reciter}
    (pair : (view data).Pair mark (sandbox data mark pages minor).store given one other)
    (texts : ∀ address : Int, .string address ∈ gained → address = data) {p : Nat} (above : mark ≤ p) :
    (view data).Pair mark (sandbox data mark pages minor).store (gained ++ given) { one with heap := p }
      { other with heap := p } where
  alike := ⟨rfl, fun address member =>
    (List.mem_append.mp member).elim (texts address) (pair.alike.2 address)⟩
  one := keeps_moves pair.one above
  other := keeps_moves pair.other above

theorem pair_stays {given gained : List Sandbox.Given} {one other : Reciter}
    (pair : (view data).Pair mark (sandbox data mark pages minor).store given one other)
    (texts : ∀ address : Int, .string address ∈ gained → address = data) :
    (view data).Pair mark (sandbox data mark pages minor).store (gained ++ given) one other where
  alike := ⟨pair.alike.1, fun address member =>
    (List.mem_append.mp member).elim (texts address) (pair.alike.2 address)⟩
  one := pair.one
  other := pair.other

section

variable (layout : Layout data mark pages) {limit : Nat} (most : pages * pageSize ≤ limit)

/-- A call that gives the data. -/
theorem lockstep_data {use : Sandbox.Use} {given : List Sandbox.Given} {one other : Reciter}
    (pair : (view data).Pair mark (sandbox data mark pages minor).store given one other)
    (quiet : use.name ∉ busy)
    (texts : ∀ address : Int, .string address ∈ use.gives (some (data : Int)) → address = data) :
    (view data).Lockstep mark (sandbox data mark pages minor).store
      (Sandbox.Called (sandbox data mark pages minor) (view data) mark limit given one use) given
      ((guest data).call use.name (use.args (sandbox data mark pages minor)) one)
      ((guest data).call use.name (use.args (sandbox data mark pages minor)) other) := by
  have different (size : Nat) : use ≠ .malloc size := by
    rintro rfl
    exact quiet (List.mem_cons_of_mem _ List.mem_cons_self)
  rw [call_data data one quiet, call_data data other quiet]
  exact .returned (.of_ne different (pair_stays pair texts))

include layout most in
theorem calls_lockstep (use : Sandbox.Use) (given : List Sandbox.Given) (one other : Reciter)
    (_ : use.needs (sandbox data mark pages minor) ⊆ given)
    (pair : (view data).Pair mark (sandbox data mark pages minor).store given one other) :
    (view data).Lockstep mark (sandbox data mark pages minor).store
      (Sandbox.Called (sandbox data mark pages minor) (view data) mark limit given one use) given
      ((guest data).call use.name (use.args (sandbox data mark pages minor)) one)
      ((guest data).call use.name (use.args (sandbox data mark pages minor)) other) := by
  have size : one.memory.size = other.memory.size :=
    (size_of_keeps layout pair.one).trans (size_of_keeps layout pair.other).symm
  have heap : one.heap = other.heap := pair.alike.1
  have heapMark : (sandbox data mark pages minor).heapMark = Sandbox.signed mark := rfl
  have start : mark ≤ unsigned (sandbox data mark pages minor).heapMark := by
    rw [heapMark, unsigned_signed (layout.inside.trans_le layout.narrow)]
  cases use with
  | rewind =>
    have called (store : Reciter) : (guest data).call Sandbox.Use.rewind.name
        (Sandbox.Use.rewind.args (sandbox data mark pages minor)) store =
        .returned none { store with heap := unsigned (sandbox data mark pages minor).heapMark } :=
      call_rewind data store _
    rw [called, called]
    exact .returned (.of_ne (by simp) (pair_moves pair (by simp [Sandbox.Use.gives]) start))
  | malloc length =>
    have called (store : Reciter) : (guest data).call (Sandbox.Use.malloc length).name
        ((Sandbox.Use.malloc length).args (sandbox data mark pages minor)) store = malloc length store :=
      call_malloc data store length
    have above : mark ≤ one.heap := pair.one.above
    have whole : one.memory.size = pages * pageSize := size_of_keeps layout pair.one
    rw [called, called]
    unfold malloc
    rw [← size, ← heap]
    split
    · next room =>
      refine .returned ⟨pair_moves pair (by simp [Sandbox.Use.gives]) (by omega), ?_⟩
      intro _ address same result
      cases same
      cases result
      have inside : one.heap + length < other.memory.size := by rwa [← size, ← Int.toNat_natCast length]
      exact ⟨one.heap, rfl, Nat.le_refl _, by omega, (Nat.le_add_right _ _).trans_lt inside, inside.le⟩
    · exact .trapped
  | inOneCall id length =>
    have called (store : Reciter) : (guest data).call (Sandbox.Use.inOneCall id length).name
        ((Sandbox.Use.inOneCall id length).args (sandbox data mark pages minor)) store =
        enter data (sandbox data mark pages minor).heapMark
          ((sandbox data mark pages minor).heapMark + length) store :=
      call_fast data store _ _ _ _ _
    rw [called, called]
    unfold enter
    split
    · exact .trapped
    · exact .returned (.of_ne (by simp) (pair_moves pair (by simp [Sandbox.Use.gives]) (by omega)))
  | eval context =>
    have called (store : Reciter) : (guest data).call (Sandbox.Use.eval context).name
        ((Sandbox.Use.eval context).args (sandbox data mark pages minor)) store = .returned (some 0) store :=
      call_eval data store _
    rw [called, called]
    exact .returned (.of_ne (by simp) (pair_stays pair (by simp [Sandbox.Use.gives])))
  | _ =>
    refine lockstep_data pair ?_ (by simp [Sandbox.Use.gives])
    dsimp only [Sandbox.Use.name]
    decide

end

/-- The guest keeps to its heap. -/
theorem keepsToHeap (layout : Layout data mark pages) {limit : Nat} (most : pages * pageSize ≤ limit) :
    Sandbox.KeepsToHeap (sandbox data mark pages minor) (view data) mark limit where
  marked := rfl
  below := layout.inside.trans_le most
  within := by
    have bound : (recited data pages).bound = pages := (recited_data layout).2.1.bound
    exact ((recited_data layout).2.2.trans (congrArg (· * pageSize) bound).symm).le
  above := Nat.le_refl mark
  rewinds store := (call_rewind data store _).trans (call_rewind data _ _).symm
  restarts id length store _ := by
    refine (call_fast data store _ _ _ _ _).trans (.trans ?_ (call_fast data _ _ _ _ _ _).symm)
    unfold enter
    rfl
  fresh one other _ _ heap _ _ := ⟨heap, fun address member => by simp at member⟩
  forgets given less one other part alike := ⟨alike.1, fun address member => alike.2 address (part member)⟩
  reads given address one other pair known := by
    have seen : address = Sandbox.signed data :=
      (pair.alike.2 address known).trans (Sandbox.signed_of_lower layout.lower).symm
    have below : data < limit := by
      have apart := layout.apart
      have inside := layout.inside
      omega
    refine ⟨data, seen, below, fun shown visible stands => ?_⟩
    have first : ((guest data).memory one).Terminated data text := data_of_keeps layout pair.one
    have same : some shown = some text :=
      (Memory.cString?_of_terminated stands visible).symm.trans
        (Memory.cString?_of_terminated first text_visible)
    cases same
    exact data_of_keeps layout pair.other
  writes given a one other bytes written written' pair _ _ _ :=
    ⟨pair.alike.1, fun _ member => pair.alike.2 _ (by simpa using member)⟩
  calls := calls_lockstep layout most

end

/-! ## What evaluations give -/

section

variable {data mark pages : Nat} {minor : Int} (registry : Registry)

abbrev host (data : Nat) (registry : Registry) : Sandbox.Host Reciter := ⟨guest data, registry, []⟩

theorem cString_recites {session : Sandbox.Session Reciter} {shown : Bytes}
    (stands : session.store.memory.Terminated data shown) (visible : ∀ b ∈ shown, b ≠ 0) :
    ((host data registry).cString data).run session = (.ok shown, session) :=
  Sandbox.cString_run _ (Memory.cString?_of_terminated stands visible)

/-- In one call, the guest gives what stands where its data are when the input has been written. -/
theorem fastEvaluate_recites [Platform] {session : Sandbox.Session Reciter} {written : Memory}
    {payload shown : Bytes}
    (narrow : mark + payload.length < 2 ^ 32)
    (room : Sandbox.signed mark + payload.length ≤ session.store.memory.size)
    (placed : session.store.memory.place? (Sandbox.signed mark) payload = some written)
    (stands : written.Terminated data shown) (visible : ∀ b ∈ shown, b ≠ 0) (id : Int) :
    (Sandbox.fastEvaluate (sandbox data mark pages minor) (host data registry) id payload).run session =
      (.ok shown, { session with store := ⟨written, mark + payload.length⟩ }) := by
  let filled : Sandbox.Session Reciter := { session with store := ⟨written, session.store.heap⟩ }
  have enters : enter data (Sandbox.signed mark) (Sandbox.signed mark + payload.length) filled.store =
      .returned (some data) ⟨written, mark + payload.length⟩ := by
    unfold enter
    rw [unsigned_signed_add narrow, unsigned_signed (by omega), if_neg (by omega)]
  have called : ((host data registry).call (host data registry).answer Sandbox.fastExport
      [0, id, data, Sandbox.signed mark, payload.length, Sandbox.signed mark + payload.length, 0]).run
        filled = (.ok (data : Int), { session with store := ⟨written, mark + payload.length⟩ }) :=
    Sandbox.call_of_returned _ _ ((call_fast data _ _ _ _ _ _).trans enters)
  have heapMark : (sandbox data mark pages minor).heapMark = Sandbox.signed mark := rfl
  have fits : (sandbox data mark pages minor).heapMark + payload.length ≤
      ((host data registry).guest.memory session.store).size := by
    rw [heapMark]
    exact room
  have goes : ((host data registry).guest.memory session.store).place?
      (sandbox data mark pages minor).heapMark payload = some written := by
    rw [heapMark]
    exact placed
  have brought := Sandbox.fastEvaluate_run fits goes id
  rw [heapMark] at brought
  refine brought.trans ((Sandbox.run_bind_ok called _).trans ?_)
  exact cString_recites registry stands visible

/-- Through a context, the guest gives what stands where its data are when the input has been written, if
the host sees the mark as what it is. -/
theorem contextEvaluate_recites [Platform] {session : Sandbox.Session Reciter} {written : Memory}
    {payload shown : Bytes}
    (positive : 0 < data) (lower : mark < 2 ^ 31)
    (room : mark + payload.length < session.store.memory.size)
    (placed : session.store.memory.place? mark payload = some written)
    (stands : written.Terminated data shown) (visible : ∀ b ∈ shown, b ≠ 0) (id : Int) :
    (Sandbox.contextEvaluate (sandbox data mark pages minor) (host data registry) id payload).run session =
      (.ok shown, { session with store := ⟨written, mark + payload.length⟩ }) := by
  let host := host data registry
  let last : Sandbox.Session Reciter := { session with store := ⟨written, mark + payload.length⟩ }
  have heapMark : (sandbox data mark pages minor).heapMark = Sandbox.signed mark := rfl
  have rewinds : (host.call? host.answer "opa_heap_ptr_set" [Sandbox.signed mark]).run session =
      (.ok none, { session with store := ⟨session.store.memory, mark⟩ }) := by
    refine Sandbox.call?_of_returned host _ ((call_rewind data session.store _).trans ?_)
    rw [unsigned_signed (by omega)]
  have mallocs : (host.call host.answer "opa_malloc" [payload.length]).run
      { session with store := ⟨session.store.memory, mark⟩ } =
        (.ok (mark : Int), { session with store := ⟨session.store.memory, mark + payload.length⟩ }) := by
    refine Sandbox.call_of_returned host _ ((call_malloc data _ _).trans ?_)
    unfold malloc
    rw [Int.toNat_natCast, if_pos room, Sandbox.signed_of_lower lower]
  have places : (host.place mark payload).run
      { session with store := ⟨session.store.memory, mark + payload.length⟩ } = (.ok (), last) :=
    Sandbox.place_run host { session with store := ⟨session.store.memory, mark + payload.length⟩ } placed
  have gives (name : Text) (args : List Int) (other : name ∉ busy) :
      (host.call? host.answer name args).run last = (.ok (some (data : Int)), last) :=
    Sandbox.call?_of_returned host _ (call_data data last.store other args)
  have given (name : Text) (args : List Int) (other : name ∉ busy) :
      (host.call host.answer name args).run last = (.ok (data : Int), last) :=
    Sandbox.call_of_returned host _ (call_data data last.store other args)
  have succeeds : (host.call? host.answer "eval" [data]).run last = (.ok (some 0), last) :=
    Sandbox.call?_of_returned host _ (call_eval data last.store _)
  have loads : (host.loadJson host.answer payload).run
      { session with store := ⟨session.store.memory, mark⟩ } = (.ok (data : Int), last) := by
    rw [Sandbox.loadJson_eq, Sandbox.run_bind_ok mallocs, Sandbox.run_bind_ok places,
      Sandbox.run_bind_ok (gives _ _ (by decide)), Sandbox.checkParsed_of_ne_zero (by omega)]
    rfl
  have evaluates : (Sandbox.evaluationCode host host.answer data id data).run last =
      (.ok (some 0, (data : Int)), last) := by
    unfold Sandbox.evaluationCode
    rw [Sandbox.run_bind_ok (given _ _ (by decide)), Sandbox.run_bind_ok (gives _ _ (by decide)),
      Sandbox.run_bind_ok (gives _ _ (by decide)), Sandbox.run_bind_ok (gives _ _ (by decide)),
      Sandbox.run_bind_ok succeeds]
    rfl
  have reads : (Sandbox.readResult host host.answer data (some 0)).run last = (.ok shown, last) := by
    rw [Sandbox.readResult_of_zero host host.answer data rfl, Sandbox.run_bind_ok (given _ _ (by decide))]
    unfold Sandbox.Host.dumpText
    rw [Sandbox.run_bind_ok (given _ _ (by decide))]
    exact cString_recites registry stands visible
  rw [Sandbox.contextEvaluate_eq, heapMark, Sandbox.run_bind_ok rewinds, Sandbox.run_bind_ok loads]
  exact (Sandbox.run_bind_ok evaluates _).trans reads

end

end Reciter

end PolicyHost
