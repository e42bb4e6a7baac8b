import PolicyHost.Proofs.Sandbox.Relay

/-!
# A guest that keeps texts

The guest of this module copies every document to its heap, passes its input to a builtin and gives back
the result. It has the host write documents to one place of its memory. In the lower half of the memory
the place does not matter. In the upper half the host takes the address for a negative number, and no
document reaches the guest.

* `Shelf`, `sandbox`: the guest.
* `relay`: below the upper half it passes on what it is given.
* `evaluate_of_upper`: in the upper half it is given nothing.
-/

namespace PolicyHost

/-- The store of a guest that keeps texts: its memory, where its heap ends, and what its context
holds. -/
structure Shelf where
  memory : Memory
  heap : Nat
  input : Int
  result : Int

namespace Shelf

def base : Nat := 16

def contextSize : Nat := 16

/-- The address that a signed number means inside the guest. -/
def unsigned (address : Int) : Nat := (if address < 0 then address + 2 ^ 32 else address).toNat

/-- Copies a text to the end of the heap, with a zero behind it. -/
@[irreducible] def parse (address length : Int) (store : Shelf)
    (next : Int → Shelf → Activity Shelf) : Activity Shelf :=
  match store.memory.write? store.heap
      (store.memory.slice (unsigned address) (unsigned address + length.toNat) ++ [0]) with
  | none => .trapped .memoryBounds
  | some memory =>
    next store.heap { store with memory, heap := store.heap + length.toNat + 1 }

def ask (value : Int) (store : Shelf) (next : Int → Shelf → Activity Shelf) : Activity Shelf :=
  .asked (.builtin 0 0 [value]) store next

/-- The functions of a guest that has the host write every document to `staging`. -/
def call (staging : Nat) (name : Text) (args : List Int) (store : Shelf) : Activity Shelf :=
  let first := args.headD 0
  if name = "opa_heap_ptr_set" then .returned none { store with heap := first.toNat }
  else if name = "opa_malloc" then .returned (some (Int.bmod staging (2 ^ 32))) store
  else if name = "opa_json_parse" then
    parse first (args.getD 1 0) store fun value store => .returned (some value) store
  else if name = "opa_json_dump" then .returned (some first) store
  else if name = "opa_eval_ctx_new" then
    .returned (some store.heap) { store with heap := store.heap + contextSize }
  else if name = "opa_eval_ctx_set_input" then .returned none { store with input := args.getD 1 0 }
  else if name = "eval" then
    ask store.input store fun value store => .returned (some 0) { store with result := value }
  else if name = "opa_eval_ctx_get_result" then .returned (some store.result) store
  else if name = Sandbox.fastExport then
    parse (args.getD 3 0) (args.getD 4 0) { store with heap := (args.getD 5 0).toNat } fun value store =>
      ask value store fun value store => .returned (some value) store
  else .returned none store

/-- A guest that passes its input to a builtin and gives back the result. -/
def guest (staging : Nat) : Guest Shelf where
  demand := .memory
  start := .error .unreachable
  memory := Shelf.memory
  setMemory := fun memory store => { store with memory }
  refuel := id
  provides := fun _ => true
  global? := fun _ _ => none
  call := call staging

section

variable (staging : Nat) (store : Shelf)

theorem call_rewind : (guest staging).call "opa_heap_ptr_set" [(base : Int)] store =
    .returned none { store with heap := base } := rfl

theorem call_malloc (length : Int) : (guest staging).call "opa_malloc" [length] store =
    .returned (some (Int.bmod staging (2 ^ 32))) store := rfl

theorem call_parse (address length : Int) :
    (guest staging).call "opa_json_parse" [address, length] store =
      parse address length store fun value store => .returned (some value) store := rfl

theorem call_new : (guest staging).call "opa_eval_ctx_new" [] store =
    .returned (some store.heap) { store with heap := store.heap + contextSize } := rfl

theorem call_setInput (context input : Int) :
    (guest staging).call "opa_eval_ctx_set_input" [context, input] store =
      .returned none { store with input } := rfl

theorem call_setData (context data : Int) :
    (guest staging).call "opa_eval_ctx_set_data" [context, data] store = .returned none store := rfl

theorem call_setEntrypoint (context id : Int) :
    (guest staging).call "opa_eval_ctx_set_entrypoint" [context, id] store = .returned none store := rfl

theorem call_eval (context : Int) : (guest staging).call "eval" [context] store =
    ask store.input store fun value store => .returned (some 0) { store with result := value } := rfl

theorem call_fast (id data address length pointer : Int) :
    (guest staging).call Sandbox.fastExport [0, id, data, address, length, pointer, 0] store =
      parse address length { store with heap := pointer.toNat } fun value store =>
        ask value store fun value store => .returned (some value) store := rfl

end

theorem keepsMemory (staging : Nat) : Sandbox.Guest.KeepsMemory (guest staging) :=
  ⟨fun _ _ => rfl, fun _ _ _ => rfl⟩

def taken : Sandbox.Step → Nat
  | .malloc _ | .dump => 0
  | .parse n => n + 1
  | .own => contextSize

def takenBy : List Sandbox.Step → Nat
  | [] => 0
  | step :: plan => taken step + takenBy plan

/-- There is room for these steps on the heap, which ends before `staging`, and behind it. -/
structure Fits (staging : Nat) (store : Shelf) (plan : List Sandbox.Step) : Prop where
  positive : 0 < store.heap
  heap : store.heap + takenBy plan ≤ staging
  inside : staging < store.memory.size
  staged : ∀ n, .malloc n ∈ plan → staging + n ≤ store.memory.size

variable {staging : Nat} {store : Shelf}

/-- What there is room for depends on where the heap ends and on the size of the memory. -/
theorem Fits.of_le {other : Shelf} {plan : List Sandbox.Step} (fits : Fits staging store plan)
    (positive : 0 < other.heap) (heap : other.heap ≤ store.heap)
    (size : store.memory.size ≤ other.memory.size) : Fits staging other plan where
  positive := positive
  heap := (Nat.add_le_add_right heap _).trans fits.heap
  inside := fits.inside.trans_le size
  staged n member := (fits.staged n member).trans size

/-- There is room for the other steps when one has been done. -/
theorem Fits.next {step : Sandbox.Step} {plan : List Sandbox.Step}
    (fits : Fits staging store (step :: plan)) :
    Fits staging { store with heap := store.heap + taken step } plan where
  positive := Nat.add_pos_left fits.positive _
  heap := (Nat.add_assoc ..).trans_le fits.heap
  inside := fits.inside
  staged n member := fits.staged n (List.mem_cons_of_mem _ member)

theorem parse_eq {address : Int} {start length : Nat} {written : Memory}
    (here : unsigned address = start)
    (writes : store.memory.write? store.heap (store.memory.slice start (start + length) ++ [0]) =
      some written)
    (next : Int → Shelf → Activity Shelf) :
    parse address length store next =
      next store.heap { store with memory := written, heap := store.heap + length + 1 } := by
  subst here
  unfold parse
  rw [Int.toNat_natCast, writes]

/-- A text that is parsed stands at the end of the heap, with a zero behind it. -/
theorem parse_keeps (store : Shelf) {address : Nat} {text : Bytes} {plan : List Sandbox.Step}
    (holds : store.memory.Holds address text)
    (fits : Fits staging store (.parse text.length :: plan)) (next : Int → Shelf → Activity Shelf) :
    ∃ after : Shelf, parse address text.length store next = next store.heap after ∧
      after.memory.Terminated store.heap text ∧ Fits staging after plan := by
  have start : unsigned address = address := by
    rw [unsigned, if_neg (Int.not_lt.mpr (Int.natCast_nonneg address)), Int.toNat_natCast]
  have room : store.heap + (text ++ [0]).length ≤ store.memory.size := by
    have heap := fits.next.heap
    have inside := fits.inside
    rw [List.length_append, List.length_singleton]
    dsimp only [taken] at heap
    omega
  obtain ⟨written, writes⟩ := Memory.write?_isSome room
  refine ⟨{ store with memory := written, heap := store.heap + text.length + 1 }, ?_,
    Memory.holds_of_write? writes, ?_⟩
  · exact parse_eq start (by rw [holds.octets, writes]) next
  · exact fits.next.of_le (Nat.succ_pos _) (Nat.le_refl _) (Memory.size_write? writes).ge

/-- Below the upper half, the guest sees to it that a document is where the host has written it. -/
def keeper [Platform] (lower : staging < 2 ^ 31) : Sandbox.TextKeeper (guest staging) where
  keeps store value text := ∃ address : Nat, value = address ∧ store.memory.Terminated address text
  fits := Fits staging
  later _ _ := True
  later_trans _ _ := trivial
  malloc {store n plan} fits := by
    have signed : Int.bmod staging (2 ^ 32) = staging := by
      rw [Int.bmod_def]
      split <;> omega
    refine ⟨staging, store, ?_, fits.inside, fits.staged n (List.mem_cons_self ..), ?_⟩
    · rw [call_malloc, signed]
      exact .done rfl
    · intro text written _ placed
      have size := Memory.size_write? (Memory.place?_eq_some placed).2
      exact ⟨trivial, fits.next.of_le fits.positive (Nat.le_refl _) size.ge⟩
  parse {store address text _ plan} holds _ fits := by
    obtain ⟨after, parsed, terminated, room⟩ := parse_keeps store holds fits
      fun value store => .returned (some value) store
    have positive : 0 < store.heap := fits.positive
    refine ⟨store.heap, after, ?_, by omega, ⟨store.heap, rfl, terminated⟩, trivial, room⟩
    rw [call_parse, parsed]
    exact .done rfl
  dump {store value text plan} kept fits := by
    obtain ⟨address, rfl, terminated⟩ := kept
    exact ⟨address, store, .done rfl, terminated, trivial, fits.next⟩

/-- That guest in a sandbox with so many pages of memory. -/
def sandbox (staging pages : Nat) (minor : Int) : Sandbox Shelf where
  guest := guest staging
  version := ⟨1, minor⟩
  builtins := [(0, "echo")]
  entrypoints := [("pass", 0)]
  dataAddress := 8
  heapMark := base
  store := ⟨.zeros pages pages, base, 0, 0⟩

/-- There is room for all that is done through a context, behind an input that the host has written
there. -/
def Enough (staging : Nat) (store : Shelf) (m n : Nat) : Prop :=
  Fits staging { store with heap := base + m } (.malloc m :: .parse m :: Sandbox.contextPlan n) ∧
    store.memory.size ≤ store.memory.bound * pageSize

theorem enough_of_le {m n : Nat}
    (heap : base + m + (m + 1) + contextSize + (n + 1) + contextSize ≤ staging)
    (inside : staging < store.memory.size) (input : staging + m ≤ store.memory.size)
    (result : staging + n ≤ store.memory.size)
    (bound : store.memory.size ≤ store.memory.bound * pageSize) : Enough staging store m n := by
  refine ⟨⟨Nat.add_pos_left (by decide) m, ?_, inside, fun k member => ?_⟩, bound⟩
  · simp only [Sandbox.contextPlan, takenBy, taken]
    omega
  · simp only [Sandbox.contextPlan, List.mem_cons, Sandbox.Step.malloc.injEq, reduceCtorEq, false_or,
      List.not_mem_nil, or_false] at member
    rcases member with rfl | rfl
    · exact input
    · exact result

/-- A guest that asks is given a value to go on with. -/
theorem asks [Platform] (lower : staging < 2 ^ 31) (store : Shelf) {value : Int} {text : Bytes} {n : Nat}
    {plan : List Sandbox.Step} (kept : (keeper lower).keeps store value text)
    (fits : Fits staging store (.dump :: .malloc n :: .parse n :: plan))
    {done : Int → Bytes → Option Int → Shelf → Prop} {next : Int → Shelf → Activity Shelf}
    (goes : ∀ given reply after, (keeper lower).keeps after given reply → Fits staging after plan →
      ∃ result last, Sandbox.Yields (guest staging) (next given after) result last ∧
        done given reply result last) :
    Sandbox.Asks (keeper lower) 0 text n plan done (ask value store next) :=
  .done ⟨0, value, store, next, rfl, kept, fits, fun given reply after _ => goes given reply after⟩

theorem relaysInContext [Platform] (lower : staging < 2 ^ 31) (data id : Int) :
    Sandbox.RelaysInContext (keeper lower) base data id 0 (Enough staging) where
  rewind {store m n} enough := by
    refine ⟨{ store with heap := base }, ⟨none, .done (call_rewind _ _)⟩, ?_⟩
    exact enough.1.of_le (Nat.succ_pos _) (Nat.le_add_right _ _) (Nat.le_refl _)
  relay {store input text n} kept fits := by
    let fresh : Shelf := { store with heap := store.heap + contextSize }
    let filled : Shelf := { fresh with input }
    have room : Fits staging filled (.dump :: .malloc n :: .parse n :: [.own, .dump]) :=
      fits.next.of_le fits.next.positive (Nat.le_refl _) (Nat.le_refl _)
    refine ⟨store.heap, fresh, filled, filled, filled, .done (call_new _ _),
      ⟨none, .done (call_setInput _ _ _ _)⟩, ⟨none, .done (call_setData _ _ _ _)⟩,
      ⟨none, .done (call_setEntrypoint _ _ _ _)⟩, ?_⟩
    rw [call_eval]
    refine asks lower filled kept room ?_
    intro given reply after keeps left
    let answered : Shelf := { after with result := given }
    have last : Fits staging answered [.dump] :=
      left.next.of_le left.positive (Nat.le_add_right _ _) (Nat.le_refl _)
    exact ⟨some 0, answered, .done rfl, rfl, answered, .done rfl, keeps, last⟩

theorem relaysInOneCall [Platform] (lower : staging < 2 ^ 31) (data id : Int) :
    Sandbox.RelaysInOneCall (keeper lower) base data id 0 (Enough staging) where
  capacity {store m n} enough := by
    obtain ⟨fits, grows⟩ := enough
    have heap : base + m ≤ staging := (Nat.le_add_right _ _).trans fits.heap
    have inside : staging < store.memory.size := fits.inside
    exact (heap.trans inside.le).trans grows
  relay {store memory text _ n} enough keeps holds _ := by
    -- The memory may have grown since the host has found that there is room.
    let entered : Shelf := { store with memory, heap := base + text.length }
    have fits : Fits staging entered (.parse text.length :: Sandbox.contextPlan n) :=
      enough.1.next.of_le enough.1.positive (Nat.le_refl _) keeps.size
    obtain ⟨after, parsed, terminated, room⟩ := parse_keeps entered holds fits
      fun value store => ask value store fun value store => .returned (some value) store
    have heap : ((base : Int) + text.length).toNat = base + text.length := by omega
    have entry : parse base text.length
        { (guest staging).setMemory memory store with heap := base + text.length }
        (fun value store => ask value store fun value store => .returned (some value) store) =
      ask entered.heap after fun value store => .returned (some value) store := parsed
    rw [call_fast, heap, entry]
    have left : Fits staging after (.dump :: .malloc n :: .parse n :: [.own, .dump]) :=
      room.next.of_le room.positive (Nat.le_add_right _ _) (Nat.le_refl _)
    refine asks lower after ⟨entered.heap, rfl, terminated⟩ left ?_
    rintro given reply last ⟨address, rfl, kept⟩ _
    exact ⟨some address, last, .done rfl, address, rfl, kept⟩

/-- Below the upper half, the guest passes its input to the builtin and gives back the result. -/
def relay [Platform] (lower : staging < 2 ^ 31) (pages : Nat) (minor : Int) :
    Sandbox.Relay (sandbox staging pages minor) 0 "echo" where
  keeper := keeper lower
  memory := keepsMemory staging
  mark := base
  heapMark := rfl
  number := 0
  named := rfl
  enough := Enough staging
  inOneCall _ := relaysInOneCall lower 8 0
  inContext _ := relaysInContext lower 8 0

/-! ## The upper half -/

/-- Where no octet stands, the guest keeps an empty text. -/
theorem parse_blank (store : Shelf) {length : Nat} (upper : 2 ^ 31 ≤ staging) (narrow : staging < 2 ^ 32)
    (blank : ∀ k, staging ≤ k → store.memory.byte k = 0)
    (room : store.heap + length + 1 ≤ store.memory.size) (next : Int → Shelf → Activity Shelf) :
    ∃ after : Shelf, parse (Int.bmod staging (2 ^ 32)) length store next = next store.heap after ∧
      after.memory.Terminated store.heap [] := by
  -- What is negative for the host is for the guest the place that it has named.
  have start : unsigned (Int.bmod staging (2 ^ 32)) = staging := by
    rw [unsigned, Int.bmod_def]
    split <;> split <;> omega
  have zeros : store.memory.slice staging (staging + length) = List.replicate length 0 := by
    rw [Memory.slice_eq_map, Nat.add_sub_cancel_left, List.eq_replicate_iff]
    refine ⟨by simp, fun b member => ?_⟩
    obtain ⟨k, -, rfl⟩ := List.mem_map.mp member
    exact blank _ (Nat.le_add_right _ _)
  obtain ⟨written, writes⟩ : ∃ written,
      store.memory.write? store.heap (List.replicate length 0 ++ [0]) = some written :=
    Memory.write?_isSome (by simpa [Nat.add_assoc] using room)
  refine ⟨{ store with memory := written, heap := store.heap + length + 1 }, ?_, ?_, ?_⟩
  · exact parse_eq start (by rw [zeros, writes]) next
  · rw [Memory.size_write? writes]
    dsimp only [List.nil_append, List.length_singleton]
    omega
  · have first : written.byte store.heap = 0 := by
      rw [Memory.byte_write? writes, if_pos (by simp), Nat.sub_self]
      cases length <;> rfl
    exact (Memory.slice_succ written store.heap).trans (by rw [first]; rfl)

def host (staging : Nat) (registry : Registry) : Sandbox.Host Shelf :=
  ⟨guest staging, registry, [(0, "echo")]⟩

variable (registry : Registry) (context : Builtin.Context) (notes : List Note)

/-- A builtin is not called with an empty text. -/
theorem ask_blank [Platform] (deep : 2 ≤ Room.requests) (staging : Nat) (store : Shelf) {address : Nat}
    (ended : store.memory.Terminated address []) (next : Int → Shelf → Activity Shelf) :
    let host := host staging registry
    ∃ flaw, (Sandbox.drive host.answer (ask address store next)).run ⟨store, context, notes⟩ =
      (.error (.failure (.error (.guestJson flaw))), ⟨store, context, notes⟩) := by
  intro host
  obtain ⟨depth, answer⟩ := Sandbox.exists_answer_eq deep host
  have dumps : (host.call (host.respond (depth + 1)) "opa_json_dump" [(address : Int)]).run
      ⟨store, context, notes⟩ = (.ok (address : Int), ⟨store, context, notes⟩) :=
    Sandbox.call_of_returned host _ rfl
  have blank : (host.cString address).run ⟨store, context, notes⟩ = (.ok [], ⟨store, context, notes⟩) :=
    Sandbox.cString_run host (Memory.cString?_of_terminated ended nofun)
  obtain ⟨flaw, unread, plain⟩ : ∃ flaw, Json.readOctets [] = .error flaw ∧
      flaw.failure .guestJson = .error (.guestJson flaw) := ⟨_, rfl, rfl⟩
  have rejects : (host.dumpJson (host.respond (depth + 1)) address).run ⟨store, context, notes⟩ =
      (.error (.failure (.error (.guestJson flaw))), ⟨store, context, notes⟩) := by
    unfold Sandbox.Host.dumpJson Sandbox.Host.dumpText
    rw [Sandbox.run_bind_ok ((Sandbox.run_bind_ok dumps _).trans blank), unread]
    dsimp only
    rw [plain]
    rfl
  have named : host.builtins.get? 0 = some ("echo" : Text) := rfl
  have stops : (host.respond (depth + 2) (.builtin 0 0 [(address : Int)])).run ⟨store, context, notes⟩ =
      (.error (.failure (.error (.guestJson flaw))), ⟨store, context, notes⟩) := by
    unfold Sandbox.Host.respond
    rw [named]
    dsimp only
    rw [List.mapM_cons]
    exact Sandbox.run_bind_error (Sandbox.run_bind_error rejects _) _
  rw [answer]
  exact ⟨flaw, Sandbox.run_bind_error stops _⟩

/-- The guest looks for a document where the host has not written it. -/
theorem loadJson_blank [Platform] (upper : 2 ^ 31 ≤ staging) {text : Bytes}
    (inside : staging < store.memory.size)
    (narrow : store.memory.size + text.length ≤ 2 ^ 32) (positive : 0 < store.heap)
    (room : store.heap + text.length + 1 ≤ store.memory.size)
    (blank : ∀ k, staging ≤ k → store.memory.byte k = 0) :
    let host := host staging registry
    ∃ after, (host.loadJson host.answer text).run ⟨store, context, notes⟩ =
        (.ok (store.heap : Int), ⟨after, context, notes⟩) ∧
      after.memory.Terminated store.heap [] := by
  intro host
  -- The document goes below `staging`, and from there on the memory is as blank as it was.
  have goes := Memory.place?_of_upper upper inside (by omega) text
  obtain ⟨written, writes⟩ : ∃ written,
      store.memory.write? (staging + store.memory.size - 2 ^ 32) text = some written :=
    Memory.write?_isSome (by omega)
  have placed := goes.trans writes
  let filled : Shelf := { store with memory := written }
  have same : written.size = store.memory.size := Memory.size_write? writes
  obtain ⟨after, parsed, ended⟩ := parse_blank filled upper (by omega)
    (fun k above => (Memory.byte_place?_of_upper upper inside narrow placed above).trans (blank k above))
    (show store.heap + text.length + 1 ≤ written.size by omega)
    fun value store => .returned (some value) store
  have allocates : (host.call host.answer "opa_malloc" [(text.length : Int)]).run
      ⟨store, context, notes⟩ = (.ok (Int.bmod staging (2 ^ 32)), ⟨store, context, notes⟩) :=
    Sandbox.call_of_returned host _ (call_malloc staging store _)
  have places : (host.place (Int.bmod staging (2 ^ 32)) text).run ⟨store, context, notes⟩ =
      (.ok (), ⟨filled, context, notes⟩) :=
    Sandbox.place_run host ⟨store, context, notes⟩ placed
  have parses : (host.call? host.answer "opa_json_parse"
      [Int.bmod staging (2 ^ 32), (text.length : Int)]).run ⟨filled, context, notes⟩ =
        (.ok (some (store.heap : Int)), ⟨after, context, notes⟩) :=
    Sandbox.call?_of_returned host _ ((call_parse staging filled _ _).trans parsed)
  refine ⟨after, ?_, ended⟩
  rw [Sandbox.loadJson_eq, Sandbox.run_bind_ok allocates, Sandbox.run_bind_ok places,
    Sandbox.run_bind_ok parses, Sandbox.checkParsed_of_ne_zero (by omega)]
  rfl

theorem evaluationCode_blank [Platform] (deep : 2 ≤ Room.requests) {address : Nat}
    (ended : store.memory.Terminated address [])
    (data id : Int) :
    let host := host staging registry
    ∃ flaw last, (Sandbox.evaluationCode host host.answer data id address).run ⟨store, context, notes⟩ =
      (.error (.failure (.error (.guestJson flaw))), last) := by
  intro host
  let fresh : Shelf := { store with heap := store.heap + contextSize }
  let filled : Shelf := { fresh with input := address }
  have creates : (host.call host.answer "opa_eval_ctx_new" []).run ⟨store, context, notes⟩ =
      (.ok (store.heap : Int), ⟨fresh, context, notes⟩) :=
    Sandbox.call_of_returned host _ (call_new staging store)
  have first : (host.call? host.answer "opa_eval_ctx_set_input"
      [(store.heap : Int), (address : Int)]).run ⟨fresh, context, notes⟩ =
        (.ok none, ⟨filled, context, notes⟩) :=
    Sandbox.call?_of_returned host _ (call_setInput staging fresh _ _)
  have second : (host.call? host.answer "opa_eval_ctx_set_data" [(store.heap : Int), data]).run
      ⟨filled, context, notes⟩ = (.ok none, ⟨filled, context, notes⟩) :=
    Sandbox.call?_of_returned host _ (call_setData staging filled _ _)
  have third : (host.call? host.answer "opa_eval_ctx_set_entrypoint" [(store.heap : Int), id]).run
      ⟨filled, context, notes⟩ = (.ok none, ⟨filled, context, notes⟩) :=
    Sandbox.call?_of_returned host _ (call_setEntrypoint staging filled _ _)
  obtain ⟨flaw, stops⟩ := ask_blank registry context notes deep staging filled ended
    fun value store => .returned (some 0) { store with result := value }
  have fourth : (host.call? host.answer "eval" [(store.heap : Int)]).run ⟨filled, context, notes⟩ =
      (.error (.failure (.error (.guestJson flaw))), ⟨filled, context, notes⟩) := by
    rw [Sandbox.call?_run]
    exact (congrArg (fun activity => (Sandbox.drive host.answer activity).run _)
      (call_eval staging filled _)).trans stops
  refine ⟨flaw, ⟨filled, context, notes⟩, ?_⟩
  unfold Sandbox.evaluationCode
  rw [Sandbox.run_bind_ok creates, Sandbox.run_bind_ok first, Sandbox.run_bind_ok second,
    Sandbox.run_bind_ok third]
  exact Sandbox.run_bind_error fourth _

/-- Where the host has to write in the upper half, no input reaches the builtin: the evaluation through a
context fails, whatever the builtin is. -/
theorem evaluate_of_upper [Platform] (deep : 2 ≤ Room.requests) {pages : Nat} {ambient : Ambient}
    {payload : Bytes} (upper : 2 ^ 31 ≤ staging)
    (inside : staging < pages * pageSize) (narrow : pages * pageSize + payload.length ≤ 2 ^ 32) :
    ∃ flaw, ((sandbox staging pages 1).evaluate registry ambient 0 payload).1 =
      .error (.error (.guestJson flaw)) := by
  let host := host staging registry
  let store : Shelf := ⟨.zeros pages pages, base, 0, 0⟩
  let context : Builtin.Context := .fresh ambient
  have rewinds : (host.call? host.answer "opa_heap_ptr_set" [(base : Int)]).run ⟨store, context, []⟩ =
      (.ok none, ⟨store, context, []⟩) := Sandbox.call?_of_returned host _ (call_rewind staging store)
  have room : base + payload.length + 1 ≤ pages * pageSize := by
    unfold base pageSize at *
    omega
  obtain ⟨loaded, loads, ended⟩ : ∃ loaded, (host.loadJson host.answer payload).run
      ⟨store, context, []⟩ = (.ok (base : Int), ⟨loaded, context, []⟩) ∧
      loaded.memory.Terminated base [] :=
    loadJson_blank registry context [] upper inside narrow (Nat.succ_pos _) room
      fun k _ => by simp [store, Memory.byte, Memory.zeros]
  obtain ⟨flaw, last, stops⟩ : ∃ flaw last, (Sandbox.evaluationCode host host.answer 8 0 base).run
      ⟨loaded, context, []⟩ = (.error (.failure (.error (.guestJson flaw))), last) :=
    evaluationCode_blank registry context [] deep ended 8 0
  have fails : (Sandbox.contextEvaluate (sandbox staging pages 1) host 0 payload).run
      ⟨store, context, []⟩ = (.error (.failure (.error (.guestJson flaw))), last) := by
    have mark : (sandbox staging pages 1).heapMark = base := rfl
    have data : (sandbox staging pages 1).dataAddress = 8 := rfl
    rw [Sandbox.contextEvaluate_eq, mark, data, Sandbox.run_bind_ok rewinds, Sandbox.run_bind_ok loads]
    exact Sandbox.run_bind_error stops _
  exact ⟨flaw, Sandbox.evaluate_of_error rfl fails⟩

end Shelf

end PolicyHost
