import PolicyHost.Proofs.Sandbox.Memory
import PolicyHost.Proofs.Sandbox.Paths
import PolicyHost.Proofs.Sandbox.Stops

/-!
# Documents across the border

A guest that keeps the texts it parses can hand its input to a builtin and give the result back. The
document of the input then reaches the builtin as it is, and the document of the result comes back as
it is, on both paths, wherever the guest puts the texts.

* `Prints`, `Yields`: activities that print at most, and then go on or return.
* `TextKeeper`: what the functions of such a guest do to the texts it keeps.
* `RelaysInContext`, `RelaysInOneCall`, `Relay`: what its entrypoint does.
* `evaluate_relays`: the octets that an evaluation gives are the document of the result.
-/

namespace PolicyHost

namespace Sandbox

variable {σ : Type}

/-! ## Placing the input -/

/-- The memory of a guest is a part of its store that the host may replace. -/
structure Guest.KeepsMemory (guest : Guest σ) : Prop where
  memory_setMemory : ∀ memory store, guest.memory (guest.setMemory memory store) = memory
  setMemory_setMemory : ∀ first second store,
    guest.setMemory second (guest.setMemory first store) = guest.setMemory second store

section

variable (host : Host σ)

theorem cString_run {session : Session σ} {address : Int} {text : Bytes}
    (readable : (host.guest.memory session.store).cString? address = some text) :
    (host.cString address).run session = (.ok text, session) := by
  unfold Host.cString
  rw [run_bind_ok (memory_run host session), readable]
  rfl

theorem pagesFor_le_iff {octets n : Nat} : pagesFor octets ≤ n ↔ octets ≤ n * pageSize := by
  simp only [pagesFor, pageSize]
  omega

/-- The memory grows by the fewest pages that make room, if its bound lets it. -/
theorem ensureCapacity_grows {session : Session σ} {stop : Nat}
    (short : (host.guest.memory session.store).size < stop)
    (room : stop ≤ (host.guest.memory session.store).bound * pageSize) :
    ∃ grown, (ensureCapacity host stop).run session =
        (.ok (), { session with store := host.guest.setMemory grown session.store }) ∧
      (host.guest.memory session.store).grow?
        (pagesFor (stop - (host.guest.memory session.store).size)) = some grown := by
  generalize memory : host.guest.memory session.store = m at short room ⊢
  have needed : m.pages + pagesFor (stop - m.size) ≤ m.bound := by
    simp only [Memory.size, pagesFor, pageSize] at short room ⊢
    omega
  obtain ⟨grown, grows, -⟩ := Memory.grow?_of_le needed 0
  refine ⟨grown, ?_, grows⟩
  unfold ensureCapacity
  rw [run_bind_ok (memory_run host session), memory, if_neg (by omega)]
  dsimp only
  rw [show ((stop : Int) - m.size).toNat = stop - m.size by omega, grows]
  rfl

/-- A memory that has grown until there is room up to `stop`. -/
theorem pages_of_grow? {m grown : Memory} {stop : Nat} (short : m.size < stop)
    (grows : m.grow? (pagesFor (stop - m.size)) = some grown) :
    IsLeast {n | m.pages ≤ n ∧ stop ≤ n * pageSize} grown.pages := by
  obtain ⟨-, -, pages⟩ := Memory.grow?_eq_some grows
  rw [pages]
  constructor
  · have enough := pagesFor_le_iff.mp (Nat.le_refl (pagesFor (stop - m.size)))
    refine ⟨Nat.le_add_right _ _, ?_⟩
    rw [Nat.add_mul]
    change stop ≤ m.size + _
    omega
  · rintro n ⟨more, enough⟩
    obtain ⟨extra, rfl⟩ := Nat.exists_eq_add_of_le more
    refine Nat.add_le_add_left (pagesFor_le_iff.mpr ?_) _
    rw [Nat.add_mul] at enough
    change stop ≤ m.size + _ at enough
    omega

/-- The input stands behind the data, and nothing else differs, whether or not the memory had to grow. -/
theorem bringInput_run (lawful : Guest.KeepsMemory host.guest) {session : Session σ} {mark : Nat}
    {payload : Bytes} (nonempty : payload ≠ [])
    (room : mark + payload.length ≤ (host.guest.memory session.store).size ∨
      mark + payload.length ≤ (host.guest.memory session.store).bound * pageSize) :
    ∃ staged, (ensureCapacity host (mark + payload.length) >>= fun _ => host.place mark payload).run
        session = (.ok (), { session with store := host.guest.setMemory staged session.store }) ∧
      (host.guest.memory session.store).Staged mark payload staged := by
  have octet : 0 < payload.length := List.length_pos_iff.mpr nonempty
  -- Growing replaces the memory in the store, and writing replaces it once more.
  by_cases short : (host.guest.memory session.store).size < mark + payload.length
  · obtain ⟨grown, grows, grew⟩ := ensureCapacity_grows host short (room.resolve_left (by omega))
    have pages := pages_of_grow? short grew
    have large : mark + payload.length ≤ grown.size := pages.1.2
    obtain ⟨written, fits⟩ : ∃ written, grown.place? mark payload = some written :=
      place?_isSome (Int.natCast_nonneg mark) (by omega) (by omega)
    obtain ⟨within, bound, more⟩ := Memory.grow?_eq_some grew
    refine ⟨written, ?_, Memory.staged_of_place? bound (Memory.byte_grow? grew) pages
      (.inr (more ▸ within)) fits⟩
    rw [Int.natCast_add] at grows
    rw [run_bind_ok grows, place_run host _ (by rw [lawful.memory_setMemory]; exact fits)]
    rw [lawful.setMemory_setMemory]
  · obtain ⟨written, fits⟩ :
        ∃ written, (host.guest.memory session.store).place? mark payload = some written :=
      place?_isSome (Int.natCast_nonneg mark) (by omega) (by omega)
    have pages : IsLeast {n | (host.guest.memory session.store).pages ≤ n ∧
        mark + payload.length ≤ n * pageSize} (host.guest.memory session.store).pages :=
      ⟨⟨Nat.le_refl _, Nat.le_of_not_lt short⟩, fun n more => more.1⟩
    refine ⟨written, ?_, Memory.staged_of_place? rfl (fun _ => rfl) pages (.inl rfl) fits⟩
    rw [run_bind_ok (ensureCapacity_run host (by omega)), place_run host session fits]

end

/-! ## Guests that keep texts -/

/-- An activity that prints any number of texts and is then as `P` says. -/
inductive Prints (guest : Guest σ) (P : Activity σ → Prop) : Activity σ → Prop
  | done {activity : Activity σ} : P activity → Prints guest P activity
  | print {address : Int} {text : Bytes} {store : σ} {resume : Int → σ → Activity σ} :
      (guest.memory store).cString? address = some text → Prints guest P (resume 0 store) →
      Prints guest P (.asked (.println address) store resume)

/-- An activity that returns, and prints at most before. -/
def Yields (guest : Guest σ) (activity : Activity σ) (result : Option Int) (store : σ) : Prop :=
  Prints guest (fun last => last = .returned result store) activity

/-- An activity that returns with or without a value, and prints at most before. -/
def Runs (guest : Guest σ) (activity : Activity σ) (store : σ) : Prop :=
  ∃ result, Yields guest activity result store

/-- What a guest still has to do: allocate, parse a text, give the text of a value, or whatever it does
of its own accord. -/
inductive Step
  | malloc (size : Nat)
  | parse (size : Nat)
  | dump
  | own

variable [Platform]

/-- A guest that keeps the texts it parses. The host sees its addresses as they are, so they are those
of the lower half of what 32 bits can name.

* `keeps`: a value stands for a text;
* `fits`: there is room, and whatever else is needed, for steps one after another;
* `later`: a store that may come of another one while nothing is given up;
* `malloc`: an allocation has room for what is asked for, and writing there does no harm;
* `parse`: a document is kept as it is;
* `dump`: the text of a value stands somewhere in memory, with a zero behind it. -/
structure TextKeeper (guest : Guest σ) where
  keeps : σ → Int → Bytes → Prop
  fits : σ → List Step → Prop
  later : σ → σ → Prop
  later_trans : ∀ {first second third}, later first second → later second third → later first third
  malloc : ∀ {store n plan}, fits store (.malloc n :: plan) → ∃ (address : Nat) (after : σ),
    Yields guest (guest.call "opa_malloc" [(n : Int)] store) (some address) after ∧
    address < (guest.memory after).size ∧ address + n ≤ (guest.memory after).size ∧
    ∀ text written, text.length = n → (guest.memory after).place? address text = some written →
      later store (guest.setMemory written after) ∧ fits (guest.setMemory written after) plan
  parse : ∀ {store} {address : Nat} {text json plan}, (guest.memory store).Holds address text →
    Json.readOctets text = .ok json → fits store (.parse text.length :: plan) →
    ∃ value after,
      Yields guest (guest.call "opa_json_parse" [(address : Int), (text.length : Int)] store)
        (some value) after ∧
      value ≠ 0 ∧ keeps after value text ∧ later store after ∧ fits after plan
  dump : ∀ {store value text plan}, keeps store value text → fits store (.dump :: plan) →
    ∃ (address : Nat) (after : σ),
      Yields guest (guest.call "opa_json_dump" [value] store) (some address) after ∧
      (guest.memory after).Terminated address text ∧ later store after ∧ fits after plan

variable {guest : Guest σ}

/-- The activity calls the builtin of a number with a value that stands for `text`. Given a value that
stands for a reply, of `n` octets, it returns as `done` says, with `plan` still to be done. -/
def Asks (keeper : TextKeeper guest) (number : Int) (text : Bytes) (n : Nat) (plan : List Step)
    (done : Int → Bytes → Option Int → σ → Prop) : Activity σ → Prop :=
  Prints guest fun activity => ∃ context value store resume,
    activity = .asked (.builtin number context [value]) store resume ∧
    keeper.keeps store value text ∧ keeper.fits store (.dump :: .malloc n :: .parse n :: plan) ∧
    ∀ given reply after, keeper.later store after → keeper.keeps after given reply →
      keeper.fits after plan →
      ∃ result last, Yields guest (resume given after) result last ∧ done given reply result last

/-- An evaluation has succeeded, and its result is the value that the builtin gave. -/
def GivesBack (keeper : TextKeeper guest) (context : Int) (given : Int) (reply : Bytes)
    (code : Option Int) (evaluated : σ) : Prop :=
  code.getD 0 = 0 ∧ ∃ after,
    Yields guest (guest.call "opa_eval_ctx_get_result" [context] evaluated) (some given) after ∧
    keeper.keeps after given reply ∧ keeper.fits after [.dump]

/-- An evaluation has given the address of the text of the value that the builtin gave. -/
def GivesText (guest : Guest σ) (reply : Bytes) (result : Option Int) (evaluated : σ) : Prop :=
  ∃ address : Nat, result = some (address : Int) ∧ (guest.memory evaluated).Terminated address reply

/-- What is to be done with an input that has been parsed, if the result has `n` octets. -/
def contextPlan (n : Nat) : List Step := [.own, .dump, .malloc n, .parse n, .own, .dump]

/-- Through a context, the guest passes its input to a builtin and gives back the value it is given.
`enough store m n` says that the guest has room behind the data for an input of `m` octets and a
result of `n`. -/
structure RelaysInContext (keeper : TextKeeper guest) (mark : Nat) (data id number : Int)
    (enough : σ → Nat → Nat → Prop) : Prop where
  rewind : ∀ {store m n}, enough store m n → ∃ after,
    Runs guest (guest.call "opa_heap_ptr_set" [(mark : Int)] store) after ∧
    keeper.fits after (.malloc m :: .parse m :: contextPlan n)
  relay : ∀ {store input text n}, keeper.keeps store input text → keeper.fits store (contextPlan n) →
    ∃ context fresh withInput withData withEntrypoint,
      Yields guest (guest.call "opa_eval_ctx_new" [] store) (some context) fresh ∧
      Runs guest (guest.call "opa_eval_ctx_set_input" [context, input] fresh) withInput ∧
      Runs guest (guest.call "opa_eval_ctx_set_data" [context, data] withInput) withData ∧
      Runs guest (guest.call "opa_eval_ctx_set_entrypoint" [context, id] withData) withEntrypoint ∧
      Asks keeper number text n [.own, .dump] (GivesBack keeper context)
        (guest.call "eval" [context] withEntrypoint)

/-- In one call, the guest passes its input to a builtin and gives back the text of the value it is
given. Neither what stands behind the data nor the size of the memory matters to it. -/
structure RelaysInOneCall (keeper : TextKeeper guest) (mark : Nat) (data id number : Int)
    (enough : σ → Nat → Nat → Prop) : Prop where
  capacity : ∀ {store m n}, enough store m n → mark + m ≤ (guest.memory store).bound * pageSize
  relay : ∀ {store memory text json n}, enough store text.length n →
    (guest.memory store).KeepsBelow mark memory → memory.Holds mark text →
    Json.readOctets text = .ok json →
    Asks keeper number text n [.own, .dump] (fun _ => GivesText guest)
      (guest.call fastExport [0, id, data, mark, text.length, mark + text.length, 0]
        (guest.setMemory memory store))

/-- An entrypoint of a sandbox passes its input to a builtin and gives back the result. -/
structure Relay (sandbox : Sandbox σ) (id : Int) (name : Text) where
  keeper : TextKeeper sandbox.guest
  memory : Guest.KeepsMemory sandbox.guest
  mark : Nat
  heapMark : sandbox.heapMark = mark
  number : Int
  named : sandbox.builtins.get? number = some name
  enough : σ → Nat → Nat → Prop
  inOneCall : isFast sandbox.guest sandbox.version = true →
    RelaysInOneCall keeper mark sandbox.dataAddress id number enough
  inContext : isFast sandbox.guest sandbox.version = false →
    RelaysInContext keeper mark sandbox.dataAddress id number enough

/-! ## Calls of the host -/

section

variable (host : Host σ) (depth : Nat)

theorem respond_println {session : Session σ} {address : Int} {text : Bytes}
    (readable : (host.guest.memory session.store).cString? address = some text) :
    (host.respond (depth + 1) (.println address)).run session =
      (.ok 0, { session with notes := .printed (Utf8.decodeLossy text) :: session.notes }) := by
  unfold Host.respond
  rw [run_bind_ok (cString_run host readable)]
  rfl

/-- Printing leaves notes, and nothing else. -/
theorem drive_prints {P : Activity σ → Prop} {activity : Activity σ}
    (prints : Prints host.guest P activity) (session : Session σ) :
    ∃ last store notes, P last ∧
      (drive (host.respond (depth + 1)) activity).run session =
        (drive (host.respond (depth + 1)) last).run { session with store, notes } := by
  induction prints generalizing session with
  | @done activity holds => exact ⟨activity, session.store, session.notes, holds, rfl⟩
  | @print address text store resume readable _ ih =>
    have printed : (host.respond (depth + 1) (.println address)).run { session with store } =
        (.ok 0, { session with
          store, notes := .printed (Utf8.decodeLossy text) :: session.notes }) :=
      respond_println host depth readable
    obtain ⟨last, after, notes, holds, same⟩ := ih
      { session with store, notes := .printed (Utf8.decodeLossy text) :: session.notes }
    refine ⟨last, after, notes, holds, ?_⟩
    change (host.respond (depth + 1) (.println address) >>= fun number => do
      drive (host.respond (depth + 1)) (resume number (← get).store)).run { session with store } = _
    rw [run_bind_ok printed]
    exact same

theorem drive_yields {activity : Activity σ} {session : Session σ} {result : Option Int} {store : σ}
    (yields : Yields host.guest activity result store) :
    ∃ notes, (drive (host.respond (depth + 1)) activity).run session =
      (.ok result, { session with store, notes }) := by
  obtain ⟨_, _, notes, rfl, same⟩ := drive_prints host depth yields session
  exact ⟨notes, same⟩

theorem call?_yields {name : Text} {args : List Int} {session : Session σ} {result : Option Int}
    {store : σ} (yields : Yields host.guest (host.guest.call name args session.store) result store) :
    ∃ notes, (host.call? (host.respond (depth + 1)) name args).run session =
      (.ok result, { session with store, notes }) :=
  drive_yields host depth yields

theorem call_yields {name : Text} {args : List Int} {session : Session σ} {value : Int} {store : σ}
    (yields : Yields host.guest (host.guest.call name args session.store) (some value) store) :
    ∃ notes, (host.call (host.respond (depth + 1)) name args).run session =
      (.ok value, { session with store, notes }) := by
  obtain ⟨notes, called⟩ := call?_yields host depth yields
  refine ⟨notes, ?_⟩
  rw [call_eq, run_bind_ok called]
  rfl

/-! ## Documents handed over and taken back -/

variable (lawful : Guest.KeepsMemory host.guest) (keeper : TextKeeper host.guest)

include lawful in
/-- A document that is handed over is kept as it is. -/
theorem loadJson_keeps {session : Session σ} {text : Bytes} {json : Json} {plan : List Step}
    (reads : Json.readOctets text = .ok json)
    (room : keeper.fits session.store (.malloc text.length :: .parse text.length :: plan)) :
    ∃ value store notes,
      (host.loadJson (host.respond (depth + 1)) text).run session =
        (.ok value, { session with store, notes }) ∧
      keeper.keeps store value text ∧ keeper.later session.store store ∧ keeper.fits store plan := by
  obtain ⟨address, allocated, mallocs, start, inside, writing⟩ := keeper.malloc room
  obtain ⟨written, fits⟩ :
      ∃ written, (host.guest.memory allocated).place? address text = some written :=
    place?_isSome (Int.natCast_nonneg address) (by omega) (by omega)
  obtain ⟨unharmed, room⟩ := writing text written rfl fits
  have holds : (host.guest.memory (host.guest.setMemory written allocated)).Holds address text := by
    rw [lawful.memory_setMemory]
    exact Memory.holds_of_place? fits
  obtain ⟨value, parsed, parses, nonzero, kept, after, room⟩ := keeper.parse holds reads room
  obtain ⟨notes, allocates⟩ := call_yields host depth mallocs
  obtain ⟨notes', loads⟩ : ∃ notes', (host.call? (host.respond (depth + 1)) "opa_json_parse"
      [address, text.length]).run
        { session with store := host.guest.setMemory written allocated, notes } =
      (.ok (some value), { session with store := parsed, notes := notes' }) :=
    call?_yields host depth parses
  refine ⟨value, parsed, notes', ?_, kept, keeper.later_trans unharmed after, room⟩
  rw [loadJson_eq, run_bind_ok allocates,
    run_bind_ok (place_run host { session with store := allocated, notes } fits), run_bind_ok loads,
    checkParsed_of_ne_zero nonzero]
  rfl

/-- The text of a value comes back as it is kept. -/
theorem dumpText_keeps {session : Session σ} {value : Int} {text : Bytes} {plan : List Step}
    (kept : keeper.keeps session.store value text) (room : keeper.fits session.store (.dump :: plan))
    (visible : ∀ b ∈ text, b ≠ 0) :
    ∃ store notes,
      (host.dumpText (host.respond (depth + 1)) value).run session =
        (.ok text, { session with store, notes }) ∧
      keeper.later session.store store ∧ keeper.fits store plan := by
  obtain ⟨address, store, dumps, ended, after, room⟩ := keeper.dump kept room
  obtain ⟨notes, called⟩ := call_yields host depth dumps
  refine ⟨store, notes, ?_, after, room⟩
  unfold Host.dumpText
  rw [run_bind_ok called]
  exact cString_run host (Memory.cString?_of_terminated ended visible)

theorem dumpJson_keeps {session : Session σ} {value : Int} {text : Bytes} {json : Json}
    {plan : List Step} (kept : keeper.keeps session.store value text)
    (room : keeper.fits session.store (.dump :: plan)) (visible : ∀ b ∈ text, b ≠ 0)
    (reads : Json.readOctets text = .ok json) :
    ∃ store notes,
      (host.dumpJson (host.respond (depth + 1)) value).run session =
        (.ok json, { session with store, notes }) ∧
      keeper.later session.store store ∧ keeper.fits store plan := by
  obtain ⟨store, notes, dumped, after, room⟩ := dumpText_keeps host depth keeper kept room visible
  refine ⟨store, notes, ?_, after, room⟩
  unfold Host.dumpJson
  rw [run_bind_ok dumped, reads]
  rfl

/-! ## Builtins -/

/-- A document on its way across the border. -/
structure Document (text : Bytes) (json : Json) : Prop where
  visible : ∀ b ∈ text, b ≠ 0
  reads : Json.readOctets text = .ok json

/-- Called with the document `asked`, a builtin gives a value whose document is `reply`. -/
structure Exchange (registry : Registry) (name : Text) (context after : Builtin.Context)
    (asked reply : Bytes) (argument result : Json) (value : Value) : Prop where
  asks : Document asked argument
  replies : Document reply result
  gives : (registry.call name [argument]).run context = (.ok value, after)
  encoded : Conversion.encode value = .ok reply

variable {name : Text} {after : Builtin.Context} {asked reply : Bytes}
  {argument result : Json} {value : Value}

theorem callBuiltin_run {session : Session σ}
    (exchange : Exchange host.registry name session.context after asked reply argument result value) :
    (host.callBuiltin name [argument]).run session = (.ok reply, { session with context := after }) := by
  have encoded : (Except.ok value >>= Conversion.encode) = .ok reply := exchange.encoded
  unfold Host.callBuiltin
  rw [run_bind_ok (rfl : (MonadState.get : Run σ (Session σ)).run session = (.ok session, session)),
    exchange.gives]
  dsimp only
  rw [encoded]
  rfl

include lawful in
/-- A builtin that a guest asks for is called with what the guest keeps, and the guest keeps what it
gives. -/
theorem respond_builtin {session : Session σ} {number address argumentAddress : Int}
    {plan : List Step}
    (named : host.builtins.get? number = some name)
    (exchange : Exchange host.registry name session.context after asked reply argument result value)
    (kept : keeper.keeps session.store argumentAddress asked)
    (room : keeper.fits session.store (.dump :: .malloc reply.length :: .parse reply.length :: plan)) :
    ∃ given store notes,
      (host.respond (depth + 2) (.builtin number address [argumentAddress])).run session =
        (.ok given, ⟨store, after, notes⟩) ∧
      keeper.later session.store store ∧ keeper.keeps store given reply ∧ keeper.fits store plan := by
  obtain ⟨dumped, notes, dumps, later, room⟩ :=
    dumpJson_keeps host depth keeper kept room exchange.asks.visible exchange.asks.reads
  obtain ⟨given, loaded, notes', loads, keeps, afterwards, room⟩ : ∃ given loaded notes',
      (host.loadJson (host.respond (depth + 1)) reply).run ⟨dumped, after, notes⟩ =
        (.ok given, ⟨loaded, after, notes'⟩) ∧
      keeper.keeps loaded given reply ∧ keeper.later dumped loaded ∧ keeper.fits loaded plan :=
    loadJson_keeps host depth lawful keeper exchange.replies.reads room
  refine ⟨given, loaded, notes', ?_, keeper.later_trans later afterwards, keeps, room⟩
  unfold Host.respond
  rw [named]
  have documents : ([argumentAddress].mapM (host.dumpJson (host.respond (depth + 1)))).run session =
      (.ok [argument], { session with store := dumped, notes }) := by
    rw [List.mapM_cons, run_bind_ok dumps]
    rfl
  have called : (host.callBuiltin name [argument]).run { session with store := dumped, notes } =
      (.ok reply, ⟨dumped, after, notes⟩) :=
    callBuiltin_run host exchange
  rw [run_bind_ok documents, run_bind_ok called, Host.handOver, run_tryCatch, loads]

include lawful in
/-- A call that asks for a builtin with a document goes on with the document that it gives. -/
theorem call?_asks {session : Session σ} {function : Text} {args : List Int} {number : Int}
    {plan : List Step} {done : Int → Bytes → Option Int → σ → Prop}
    (asks : Asks keeper number asked reply.length plan done
      (host.guest.call function args session.store))
    (named : host.builtins.get? number = some name)
    (exchange : Exchange host.registry name session.context after asked reply argument result value) :
    ∃ given code store notes, done given reply code store ∧
      (host.call? (host.respond (depth + 2)) function args).run session =
        (.ok code, ⟨store, after, notes⟩) := by
  obtain ⟨_, printed, notes, ⟨address, argumentAddress, store, resume, rfl, kept, room, resumes⟩,
    same⟩ := drive_prints host (depth + 1) asks session
  obtain ⟨given, replied, notes', answered, later, keeps, room⟩ : ∃ given replied notes',
      (host.respond (depth + 2) (.builtin number address [argumentAddress])).run
          ⟨store, session.context, notes⟩ =
        (.ok given, ⟨replied, after, notes'⟩) ∧
      keeper.later store replied ∧ keeper.keeps replied given reply ∧ keeper.fits replied plan :=
    respond_builtin host depth lawful keeper named exchange kept room
  obtain ⟨code, last, yields, done⟩ := resumes given reply replied later keeps room
  obtain ⟨notes'', finished⟩ : ∃ notes'', (drive (host.respond (depth + 2)) (resume given replied)).run
      ⟨replied, after, notes'⟩ = (.ok code, ⟨last, after, notes''⟩) :=
    drive_yields host (depth + 1) yields
  refine ⟨given, code, last, notes'', done, ?_⟩
  rw [call?_run, same]
  change (host.respond (depth + 2) (.builtin number address [argumentAddress]) >>= fun number => do
    drive (host.respond (depth + 2)) (resume number (← get).store)).run
      ⟨store, session.context, notes⟩ = _
  rw [run_bind_ok answered]
  exact finished

end

/-! ## Evaluating -/

section

/-- The host answers requests that lie inside of a request, if it has room for two. -/
theorem exists_answer_eq (deep : 2 ≤ Room.requests) (host : Host σ) :
    ∃ depth, host.answer = host.respond (depth + 2) :=
  ⟨Room.requests - 2, congrArg host.respond (Nat.sub_add_cancel deep).symm⟩

variable (deep : 2 ≤ Room.requests) {sandbox : Sandbox σ} {id : Int} {name : Text} (relay : Relay sandbox id name)
  {registry : Registry} (session : Session σ) {after : Builtin.Context} {payload document : Bytes}
  {argument result : Json} {value : Value}

include deep in
theorem answer_call? (host : Host σ) {function : Text} {args : List Int} (session : Session σ)
    {code : Option Int} {store : σ}
    (yields : Yields host.guest (host.guest.call function args session.store) code store) :
    ∃ notes, (host.call? host.answer function args).run session =
      (.ok code, ⟨store, session.context, notes⟩) := by
  obtain ⟨depth, answer⟩ := exists_answer_eq deep host
  rw [answer]
  exact call?_yields host (depth + 1) yields

include deep in
theorem answer_call (host : Host σ) {function : Text} {args : List Int} (session : Session σ)
    {given : Int} {store : σ}
    (yields : Yields host.guest (host.guest.call function args session.store) (some given) store) :
    ∃ notes, (host.call host.answer function args).run session =
      (.ok given, ⟨store, session.context, notes⟩) := by
  obtain ⟨depth, answer⟩ := exists_answer_eq deep host
  rw [answer]
  exact call_yields host (depth + 1) yields

include deep in
theorem answer_asks (host : Host σ) (lawful : Guest.KeepsMemory host.guest) (keeper : TextKeeper host.guest)
    {session : Session σ} {function : Text} {args : List Int} {number : Int} {plan : List Step}
    {done : Int → Bytes → Option Int → σ → Prop}
    (asks : Asks keeper number payload document.length plan done
      (host.guest.call function args session.store))
    (named : host.builtins.get? number = some name)
    (exchange : Exchange host.registry name session.context after payload document argument result value) :
    ∃ given code store notes, done given document code store ∧
      (host.call? host.answer function args).run session = (.ok code, ⟨store, after, notes⟩) := by
  obtain ⟨depth, answer⟩ := exists_answer_eq deep host
  rw [answer]
  exact call?_asks host depth lawful keeper asks named exchange

include deep in
theorem fastEvaluate_relays (fast : isFast sandbox.guest sandbox.version = true)
    (exchange : Exchange registry name session.context after payload document argument result value)
    (enough : relay.enough session.store payload.length document.length) :
    ∃ last, (fastEvaluate sandbox ⟨sandbox.guest, registry, sandbox.builtins⟩ id payload).run session =
      (.ok document, last) := by
  let host : Host σ := ⟨sandbox.guest, registry, sandbox.builtins⟩
  have inOneCall := relay.inOneCall fast
  have nonempty : payload ≠ [] := by
    rintro rfl
    exact nomatch exchange.asks.reads
  obtain ⟨memory, brought, staged⟩ :=
    bringInput_run host relay.memory nonempty (.inr (inOneCall.capacity enough))
  let filled : Session σ := { session with store := sandbox.guest.setMemory memory session.store }
  obtain ⟨given, code, ended, notes, ⟨address, rfl, terminated⟩, evaluated⟩ : ∃ given code ended notes,
      GivesText sandbox.guest document code ended ∧
      (host.call? host.answer fastExport [0, id, sandbox.dataAddress, relay.mark,
        payload.length, relay.mark + payload.length, 0]).run filled =
        (.ok code, ⟨ended, after, notes⟩) :=
    answer_asks deep host relay.memory relay.keeper
      (inOneCall.relay enough staged.keepsBelow staged.holds exchange.asks.reads) relay.named exchange
  refine ⟨⟨ended, after, notes⟩, ?_⟩
  unfold fastEvaluate
  rw [relay.heapMark]
  dsimp only
  rw [← bind_assoc, run_bind_ok brought, call_eq, bind_assoc, run_bind_ok evaluated]
  exact cString_run host (Memory.cString?_of_terminated terminated exchange.replies.visible)

include deep in
/-- The builtin is called with the input while a context that holds the input is evaluated. -/
theorem evaluationCode_relays (inContext : RelaysInContext relay.keeper relay.mark sandbox.dataAddress id
      relay.number relay.enough)
    (exchange : Exchange registry name session.context after payload document argument result value)
    {input : Int} (kept : relay.keeper.keeps session.store input payload)
    (room : relay.keeper.fits session.store (contextPlan document.length)) :
    let host : Host σ := ⟨sandbox.guest, registry, sandbox.builtins⟩
    ∃ given code context evaluated notes,
      GivesBack relay.keeper context given document code evaluated ∧
      (evaluationCode host host.answer sandbox.dataAddress id input).run session =
        (.ok (code, context), ⟨evaluated, after, notes⟩) := by
  intro host
  obtain ⟨context, fresh, withInput, withData, withEntrypoint, creates, ⟨_, setsInput⟩, ⟨_, setsData⟩,
    ⟨_, setsEntrypoint⟩, asks⟩ := inContext.relay kept room
  obtain ⟨notes, created⟩ := answer_call deep host session creates
  obtain ⟨notes, first⟩ := answer_call? deep host ⟨fresh, session.context, notes⟩ setsInput
  obtain ⟨notes, second⟩ := answer_call? deep host ⟨withInput, session.context, notes⟩ setsData
  obtain ⟨notes, third⟩ := answer_call? deep host ⟨withData, session.context, notes⟩ setsEntrypoint
  obtain ⟨given, code, evaluated, notes, gives, fourth⟩ : ∃ given code evaluated notes',
      GivesBack relay.keeper context given document code evaluated ∧
      (host.call? host.answer "eval" [context]).run ⟨withEntrypoint, session.context, notes⟩ =
        (.ok code, ⟨evaluated, after, notes'⟩) :=
    answer_asks deep host relay.memory relay.keeper asks relay.named exchange
  refine ⟨given, code, context, evaluated, notes, gives, ?_⟩
  unfold evaluationCode
  rw [run_bind_ok created, run_bind_ok first, run_bind_ok second, run_bind_ok third, run_bind_ok fourth]
  rfl

include deep in
theorem contextEvaluate_relays (slow : isFast sandbox.guest sandbox.version = false)
    (exchange : Exchange registry name session.context after payload document argument result value)
    (enough : relay.enough session.store payload.length document.length) :
    ∃ last, (contextEvaluate sandbox ⟨sandbox.guest, registry, sandbox.builtins⟩ id payload).run
      session = (.ok document, last) := by
  let host : Host σ := ⟨sandbox.guest, registry, sandbox.builtins⟩
  obtain ⟨depth, answer⟩ := exists_answer_eq deep host
  have inContext := relay.inContext slow
  obtain ⟨rewound, ⟨_, rewinds⟩, room⟩ := inContext.rewind enough
  obtain ⟨notes, reset⟩ := answer_call? deep host session rewinds
  obtain ⟨input, loaded, notes, loads, kept, _, room⟩ : ∃ input loaded notes',
      (host.loadJson host.answer payload).run ⟨rewound, session.context, notes⟩ =
        (.ok input, ⟨loaded, session.context, notes'⟩) ∧
      relay.keeper.keeps loaded input payload ∧ relay.keeper.later rewound loaded ∧
      relay.keeper.fits loaded (contextPlan document.length) := by
    rw [answer]
    exact loadJson_keeps host (depth + 1) relay.memory relay.keeper exchange.asks.reads room
  obtain ⟨given, code, context, evaluated, notes, ⟨zero, ended, reads, keeps, room⟩, ran⟩ :=
    evaluationCode_relays deep relay ⟨loaded, session.context, notes⟩ inContext exchange kept room
  obtain ⟨notes, taken⟩ := answer_call deep host ⟨evaluated, after, notes⟩ reads
  obtain ⟨last, notes, dumps, -⟩ : ∃ last notes',
      (host.dumpText host.answer given).run ⟨ended, after, notes⟩ =
        (.ok document, ⟨last, after, notes'⟩) ∧
      relay.keeper.later ended last ∧ relay.keeper.fits last [] := by
    rw [answer]
    exact dumpText_keeps host (depth + 1) relay.keeper keeps room exchange.replies.visible
  refine ⟨⟨last, after, notes⟩, ?_⟩
  rw [contextEvaluate_eq, relay.heapMark, run_bind_ok reset, run_bind_ok loads, run_bind_ok ran,
    readResult_of_zero _ _ _ zero, run_bind_ok taken, dumps]

theorem evaluate_of_run {sandbox : Sandbox σ} {ambient : Ambient} {outcome : Except Stop Bytes}
    {last : Session σ}
    (run : (runEvaluation sandbox ⟨sandbox.guest, registry, sandbox.builtins⟩ id payload).run
      ⟨sandbox.guest.refuel sandbox.store, .fresh ambient, []⟩ = (outcome, last)) :
    (sandbox.evaluate registry ambient id payload).1 = outcome.mapError Stop.toFailure := by
  unfold evaluate
  dsimp only
  rw [run]

theorem evaluate_of_error {sandbox : Sandbox σ} {ambient : Ambient} {cause : PolicyError}
    {last : Session σ} (slow : isFast sandbox.guest sandbox.version = false)
    (fails : (contextEvaluate sandbox ⟨sandbox.guest, registry, sandbox.builtins⟩ id payload).run
      ⟨sandbox.guest.refuel sandbox.store, .fresh ambient, []⟩ =
        (.error (.failure (.error cause)), last)) :
    (sandbox.evaluate registry ambient id payload).1 = .error (.error cause) := by
  have run : (runEvaluation sandbox ⟨sandbox.guest, registry, sandbox.builtins⟩ id payload).run
      ⟨sandbox.guest.refuel sandbox.store, .fresh ambient, []⟩ =
        (.error (.failure (.error cause)), last) := by
    unfold runEvaluation onStop
    rw [slow, if_neg nofun, run_tryCatch, fails]
    rfl
  exact evaluate_of_run run

include deep relay in
/-- An evaluation gives the document of what the builtin gives, whether in one call or through a
context. -/
theorem evaluate_relays {ambient : Ambient}
    (exchange : Exchange registry name (.fresh ambient) after payload document argument result value)
    (enough : relay.enough (sandbox.guest.refuel sandbox.store) payload.length document.length) :
    (sandbox.evaluate registry ambient id payload).1 = .ok document := by
  let start : Session σ := ⟨sandbox.guest.refuel sandbox.store, .fresh ambient, []⟩
  obtain ⟨last, evaluates⟩ : ∃ last, (runEvaluation sandbox
      ⟨sandbox.guest, registry, sandbox.builtins⟩ id payload).run start = (.ok document, last) := by
    unfold runEvaluation onStop
    cases path : isFast sandbox.guest sandbox.version with
    | true =>
      obtain ⟨last, evaluates⟩ := fastEvaluate_relays deep relay start path exchange enough
      exact ⟨last, by rw [run_tryCatch, if_pos rfl, evaluates]⟩
    | false =>
      obtain ⟨last, evaluates⟩ := contextEvaluate_relays deep relay start path exchange enough
      exact ⟨last, by rw [run_tryCatch, if_neg nofun, evaluates]⟩
  exact evaluate_of_run evaluates

end

end Sandbox

end PolicyHost
