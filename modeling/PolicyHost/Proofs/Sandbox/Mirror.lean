import PolicyHost.Proofs.Sandbox.Relay

/-!
# Stores that look alike

A guest that keeps what is of an evaluation on its heap does the same from stores that look alike. What
the guest has given the host so far says which calls may follow, and how far two stores look alike to
them. Two evaluations are held against each other call by call.

* `HeapView`: the heap pointer, the globals, and when two stores look alike.
* `Given`, `Use`: what a guest has given, and the calls of an evaluation.
* `Keeps`, `Pair`: what evaluations leave as it is, and two stores in the course of one evaluation.
* `Lockstep`: two activities that do the same, if the first comes to an end.
* `Called`: what holds when a call has returned.
* `KeepsToHeap`: guests that keep what is of an evaluation on their heap.
* `Mirrors`: steps of the host that come to the same from stores that look alike.
* `Reserved`: blocks that the host sees where they are.
-/

namespace PolicyHost.Sandbox

variable {σ γ α β : Type}

@[irreducible] def signed (address : Nat) : Int := Int.bmod address (2 ^ 32)

theorem signed_of_lower {address : Nat} (lower : address < 2 ^ 31) : signed address = address := by
  unfold signed
  rw [Int.bmod_def]
  split <;> omega

/-! ## Guests with a heap -/

/-- What a guest has given to its host, or has been given by it: a block that it has allocated, a block
with a text in it, a value, a context, a text that ends in a zero. -/
inductive Given
  | block (address : Int) (size : Nat)
  | text (address : Int) (size : Nat)
  | value (address : Int)
  | context (address : Int)
  | string (address : Int)

/-- The parts of a store, apart from the memory: a heap pointer and globals, of which fuel is refilled.
`alike given` are the stores that look alike to those who know no more than what is given. -/
structure HeapView (guest : Guest σ) (γ : Type) where
  heap : σ → Nat
  setHeap : Nat → σ → σ
  globals : σ → γ
  refilled : γ → γ
  alike : List Given → σ → σ → Prop
  keepsMemory : Guest.KeepsMemory guest
  memory_setHeap : ∀ p store, guest.memory (setHeap p store) = guest.memory store
  memory_refuel : ∀ store, guest.memory (guest.refuel store) = guest.memory store
  heap_setHeap : ∀ p store, p < 2 ^ 32 → heap (setHeap p store) = p
  heap_setMemory : ∀ memory store, heap (guest.setMemory memory store) = heap store
  heap_refuel : ∀ store, heap (guest.refuel store) = heap store
  globals_setHeap : ∀ p store, globals (setHeap p store) = globals store
  globals_setMemory : ∀ memory store, globals (guest.setMemory memory store) = globals store
  globals_refuel : ∀ store, globals (guest.refuel store) = refilled (globals store)
  refilled_refilled : ∀ globals, refilled (refilled globals) = refilled globals

/-- The calls that an evaluation makes. -/
inductive Use
  | rewind
  | malloc (size : Nat)
  | parse (address : Int) (size : Nat)
  | newContext
  | setInput (context value : Int)
  | setData (context : Int)
  | setEntrypoint (context id : Int)
  | eval (context : Int)
  | result (context : Int)
  | dump (value : Int)
  | inOneCall (id : Int) (size : Nat)

namespace Use

/-- The function that is called. -/
def name : Use → Text
  | .rewind => "opa_heap_ptr_set"
  | .malloc _ => "opa_malloc"
  | .parse .. => "opa_json_parse"
  | .newContext => "opa_eval_ctx_new"
  | .setInput .. => "opa_eval_ctx_set_input"
  | .setData _ => "opa_eval_ctx_set_data"
  | .setEntrypoint .. => "opa_eval_ctx_set_entrypoint"
  | .eval _ => "eval"
  | .result _ => "opa_eval_ctx_get_result"
  | .dump _ => "opa_json_dump"
  | .inOneCall .. => fastExport

/-- What it is called with. -/
def args (sandbox : Sandbox σ) : Use → List Int
  | .rewind => [sandbox.heapMark]
  | .malloc size => [size]
  | .parse address size => [address, size]
  | .newContext => []
  | .setInput context value => [context, value]
  | .setData context => [context, sandbox.dataAddress]
  | .setEntrypoint context id => [context, id]
  | .eval context | .result context => [context]
  | .dump value => [value]
  | .inOneCall id size =>
    [0, id, sandbox.dataAddress, sandbox.heapMark, size, sandbox.heapMark + size, 0]

def needs (sandbox : Sandbox σ) : Use → List Given
  | .rewind | .malloc _ | .newContext => []
  | .parse address size => [.text address size]
  | .setInput context value => [.context context, .value value]
  | .setData context => [.context context, .value sandbox.dataAddress]
  | .setEntrypoint context _ | .eval context | .result context => [.context context]
  | .dump value => [.value value]
  | .inOneCall _ size => [.value sandbox.dataAddress, .text sandbox.heapMark size]

/-- What it gives. A parser that gives zero has rejected the text. -/
def gives : Use → Option Int → List Given
  | .malloc size, some address => [.block address size]
  | .parse .., some value => if value = 0 then [] else [.value value]
  | .newContext, some context => [.context context]
  | .result _, some value => [.value value]
  | .dump _, some address | .inOneCall .., some address => [.string address]
  | _, _ => []

end Use

namespace HeapView

variable {guest : Guest σ}

/-- What evaluations leave as it is: the memory below the mark, which may have grown, and the globals but
for fuel. The heap lies above the mark. -/
structure Keeps (view : HeapView guest γ) (mark : Nat) (base store : σ) : Prop where
  memory : (guest.memory base).KeepsBelow mark (guest.memory store)
  within : (guest.memory store).size ≤ (guest.memory store).bound * pageSize
  globals : view.refilled (view.globals store) = view.refilled (view.globals base)
  above : mark ≤ view.heap store

/-- Two stores in the course of the same evaluation. -/
structure Pair (view : HeapView guest γ) (mark : Nat) (base : σ) (given : List Given)
    (one other : σ) : Prop where
  alike : view.alike given one other
  one : view.Keeps mark base one
  other : view.Keeps mark base other

/-- The second activity does what the first one does, if the first one comes to an end: it returns the
same, prints the same, and asks for the same builtins. `after` says what holds when they return. -/
inductive Lockstep (view : HeapView guest γ) (mark : Nat) (base : σ)
    (after : Option Int → σ → σ → Prop) : List Given → Activity σ → Activity σ → Prop
  | returned {given : List Given} {result : Option Int} {one other : σ} :
    after result one other →
    Lockstep view mark base after given (.returned result one) (.returned result other)
  | trapped {given : List Given} {trap : Trap} {other : Activity σ} :
    Lockstep view mark base after given (.trapped trap) other
  | abort {given : List Given} {address : Int} {one : σ} {resume : Int → σ → Activity σ}
      {other : Activity σ} :
    Lockstep view mark base after given (.asked (.abort address) one resume) other
  | println {given : List Given} {address : Int} {one other : σ} {resume resume' : Int → σ → Activity σ} :
    view.Pair mark base (.string address :: given) one other →
    Lockstep view mark base after given (resume 0 one) (resume' 0 other) →
    Lockstep view mark base after given (.asked (.println address) one resume)
      (.asked (.println address) other resume')
  | builtin {given : List Given} {id context : Int} {args : List Int} {one other : σ}
      {resume resume' : Int → σ → Activity σ} :
    view.Pair mark base (args.map .value ++ given) one other →
    (∀ number later later', view.Pair mark base (.value number :: (args.map .value ++ given)) later later' →
      Lockstep view mark base after (.value number :: (args.map .value ++ given)) (resume number later)
        (resume' number later')) →
    Lockstep view mark base after given (.asked (.builtin id context args) one resume)
      (.asked (.builtin id context args) other resume')

end HeapView

/-- What holds when a call of an evaluation has returned. A block is allocated at or above the heap pointer,
and inside the memory. -/
structure Called (sandbox : Sandbox σ) (view : HeapView sandbox.guest γ) (mark limit : Nat)
    (given : List Given) (before : σ) (use : Use) (result : Option Int) (one other : σ) : Prop where
  pair : view.Pair mark sandbox.store (use.gives result ++ given) one other
  placed : ∀ size address, use = .malloc size → result = some address →
    ∃ a : Nat, address = signed a ∧ view.heap before ≤ a ∧ a < limit ∧
      a < (sandbox.guest.memory other).size ∧ a + size ≤ (sandbox.guest.memory other).size

/-- Nothing else is allocated. -/
theorem Called.of_ne {sandbox : Sandbox σ} {view : HeapView sandbox.guest γ} {mark limit : Nat}
    {given : List Given} {before one other : σ} {use : Use} {result : Option Int}
    (different : ∀ size, use ≠ .malloc size)
    (pair : view.Pair mark sandbox.store (use.gives result ++ given) one other) :
    Called sandbox view mark limit given before use result one other :=
  ⟨pair, fun size _ same => absurd same (different size)⟩

/-- A guest that keeps what is of an evaluation on its heap: addresses lie below `limit`, and the heap
starts at `mark`.

* `rewinds`, `restarts`: where the heap pointer was before it is set does not matter;
* `fresh`: nothing depends on what lies from the heap pointer on, nor on the size of the memory;
* `forgets`: who knows less sees less;
* `reads`: texts that are given are the same;
* `writes`: a block into which the same has been written is a text that is given;
* `calls`: calls do the same in stores that look alike (`Lockstep`), write nothing below the mark and change
  no globals (`Pair`), and allocate on the heap (`Called`). -/
structure KeepsToHeap (sandbox : Sandbox σ) (view : HeapView sandbox.guest γ) (mark limit : Nat) :
    Prop where
  marked : sandbox.heapMark = signed mark
  below : mark < limit
  within : (sandbox.guest.memory sandbox.store).size ≤
    (sandbox.guest.memory sandbox.store).bound * pageSize
  above : mark ≤ view.heap sandbox.store
  rewinds : ∀ store, sandbox.guest.call Use.rewind.name (Use.rewind.args sandbox) store =
    sandbox.guest.call Use.rewind.name (Use.rewind.args sandbox) (view.setHeap mark store)
  restarts : ∀ id size store, mark + size < 2 ^ 32 →
    sandbox.guest.call (Use.inOneCall id size).name ((Use.inOneCall id size).args sandbox) store =
      sandbox.guest.call (Use.inOneCall id size).name ((Use.inOneCall id size).args sandbox)
        (view.setHeap (mark + size) store)
  fresh : ∀ one other, view.Keeps mark sandbox.store one → view.Keeps mark sandbox.store other →
    view.heap one = view.heap other → view.globals one = view.globals other →
    (∀ k < view.heap one, (sandbox.guest.memory one).byte k = (sandbox.guest.memory other).byte k) →
    view.alike [.value sandbox.dataAddress, .text sandbox.heapMark (view.heap one - mark)] one other
  forgets : ∀ given less one other, less ⊆ given → view.alike given one other →
    view.alike less one other
  reads : ∀ given address one other, view.Pair mark sandbox.store given one other →
    .string address ∈ given → ∃ a : Nat, address = signed a ∧ a < limit ∧
      ∀ text, (∀ b ∈ text, b ≠ 0) → (sandbox.guest.memory one).Terminated a text →
        (sandbox.guest.memory other).Terminated a text
  writes : ∀ given (a : Nat) one other data written written',
    view.Pair mark sandbox.store given one other → .block (signed a) data.length ∈ given →
    (sandbox.guest.memory one).write? a data = some written →
    (sandbox.guest.memory other).write? a data = some written' →
    view.alike (.text (signed a) data.length :: given) (sandbox.guest.setMemory written one)
      (sandbox.guest.setMemory written' other)
  calls : ∀ (use : Use) given one other, use.needs sandbox ⊆ given →
    view.Pair mark sandbox.store given one other →
    view.Lockstep mark sandbox.store (Called sandbox view mark limit given one use) given
      (sandbox.guest.call use.name (use.args sandbox) one)
      (sandbox.guest.call use.name (use.args sandbox) other)

/-! ## Steps from stores that look alike -/

/-- The host of a sandbox. -/
abbrev hosted (sandbox : Sandbox σ) (registry : Registry) : Host σ :=
  ⟨sandbox.guest, registry, sandbox.builtins⟩

section

variable {sandbox : Sandbox σ} {view : HeapView sandbox.guest γ} {mark limit : Nat}

/-- Two sessions in the course of the same evaluation. -/
structure Mirror (view : HeapView sandbox.guest γ) (mark : Nat) (given : List Given)
    (one other : Session σ) : Prop where
  pair : view.Pair mark sandbox.store given one.store other.store
  context : one.context = other.context

/-- A step that has a value has the same value from stores that look alike, and gives more to know. -/
def Mirrors (view : HeapView sandbox.guest γ) (mark : Nat) (given : List Given) (gives : α → List Given)
    (step : Run σ α) : Prop :=
  ∀ one other value after, Mirror view mark given one other → step.run one = (.ok value, after) →
    ∃ after', step.run other = (.ok value, after') ∧ Mirror view mark (gives value ++ given) after after'

variable (keeps : KeepsToHeap sandbox view mark limit)

include keeps in
theorem Mirror.less {given less : List Given} {one other : Session σ}
    (mirror : Mirror view mark given one other) (part : less ⊆ given) : Mirror view mark less one other :=
  ⟨⟨keeps.forgets given less _ _ part mirror.pair.alike, mirror.pair.one, mirror.pair.other⟩, mirror.context⟩

theorem Mirrors.of_fails {given : List Given} {gives : α → List Given} {step : Run σ α}
    (fails : ∀ session value after, step.run session ≠ (.ok value, after)) :
    Mirrors view mark given gives step :=
  fun one _ value after _ done => absurd done (fails one value after)

theorem Mirrors.throw {given : List Given} {gives : α → List Given} (stop : Stop) :
    Mirrors view mark given gives (throw stop : Run σ α) := by
  intro one other value after _ done
  cases done

include keeps in
theorem Mirrors.pure {given : List Given} {gives : α → List Given} {value : α}
    (known : gives value ⊆ given) : Mirrors view mark given gives (pure value : Run σ α) := by
  intro one other _ after mirror done
  cases done
  exact ⟨other, rfl, mirror.less keeps (List.append_subset.mpr ⟨known, List.Subset.refl given⟩)⟩

include keeps in
theorem Mirrors.bind {given : List Given} {gives : α → List Given} {more : β → List Given}
    {step : Run σ α} {next : α → Run σ β} (first : Mirrors view mark given gives step)
    (later : ∀ value, Mirrors view mark (gives value ++ given) more (next value)) :
    Mirrors view mark given more (step >>= next) := by
  intro one other value after mirror done
  rw [run_bind] at done
  rcases ran : step.run one with ⟨stop | middle, between⟩ <;> rw [ran] at done
  · cases done
  · obtain ⟨between', ran', mirror'⟩ := first one other middle between mirror ran
    obtain ⟨after', done', mirror''⟩ := later middle between between' value after mirror' done
    refine ⟨after', (run_bind_ok ran' next).trans done', mirror''.less keeps ?_⟩
    intro item member
    rcases List.mem_append.mp member with gained | known
    · exact List.mem_append_left _ gained
    · exact List.mem_append_right _ (List.mem_append_right _ known)

include keeps in
theorem Mirrors.mapM {given : List Given} {step : β → Run σ α} {items : List β}
    (each : ∀ item ∈ items, ∀ more, given ⊆ more → Mirrors view mark more (fun _ => []) (step item)) :
    Mirrors view mark given (fun _ => []) (items.mapM step) := by
  induction items with
  | nil => exact .pure keeps (List.nil_subset given)
  | cons item rest ih =>
    rw [List.mapM_cons]
    refine .bind keeps (each item List.mem_cons_self given (List.Subset.refl given)) fun _ => ?_
    refine .bind keeps (ih fun item member => each item (List.mem_cons_of_mem _ member)) fun _ => ?_
    exact .pure keeps (List.nil_subset _)

/-- How answers to requests go from stores that look alike. -/
structure Answers (view : HeapView sandbox.guest γ) (mark : Nat) (answer : Request → Run σ Int) :
    Prop where
  abort : ∀ address session value after, (answer (.abort address)).run session ≠ (.ok value, after)
  println : ∀ address given one other value after, Mirror view mark given one other →
    .string address ∈ given → (answer (.println address)).run one = (.ok value, after) →
    value = 0 ∧ after.store = one.store ∧ after.context = one.context ∧
      ∃ after', (answer (.println address)).run other = (.ok 0, after') ∧ after'.store = other.store ∧
        after'.context = other.context
  builtin : ∀ id context args given, args.map Given.value ⊆ given →
    Mirrors view mark given (fun number => [.value number]) (answer (.builtin id context args))

variable {answer : Request → Run σ Int}

/-- Activities in lockstep come to the same, by induction on the lockstep. -/
theorem drive_lockstep (answers : Answers view mark answer) {after : Option Int → σ → σ → Prop}
    {given : List Given} {activity activity' : Activity σ}
    (lockstep : view.Lockstep mark sandbox.store after given activity activity') {one other : Session σ}
    (context : one.context = other.context) {result : Option Int} {last : Session σ}
    (done : (drive answer activity).run one = (.ok result, last)) :
    ∃ last', (drive answer activity').run other = (.ok result, last') ∧
      after result last.store last'.store ∧ last.context = last'.context := by
  induction lockstep generalizing one other with
  | returned holds =>
    cases done
    exact ⟨_, rfl, holds, context⟩
  | trapped => cases done
  | @abort _ address store resume _ =>
    change (answer (.abort address) >>= fun number => do
      drive answer (resume number (← get).store)).run { one with store } = _ at done
    rw [run_bind] at done
    rcases ran : (answer (.abort address)).run { one with store } with ⟨stop | value, between⟩ <;>
      rw [ran] at done
    · cases done
    · exact absurd ran (answers.abort address _ value between)
  | @println _ address store store' resume resume' pair _ ih =>
    change (answer (.println address) >>= fun number => do
      drive answer (resume number (← get).store)).run { one with store } = _ at done
    change ∃ last', (answer (.println address) >>= fun number => do
      drive answer (resume' number (← get).store)).run { other with store := store' } = _ ∧ _
    rw [run_bind] at done
    rcases ran : (answer (.println address)).run { one with store } with ⟨stop | value, between⟩ <;>
      rw [ran] at done
    · cases done
    · obtain ⟨rfl, stored, known, between', ran', stored', known'⟩ := answers.println address _
        { one with store } { other with store := store' } value between ⟨pair, context⟩
        List.mem_cons_self ran
      rw [run_bind_ok ran']
      change (drive answer (resume 0 between.store)).run between = _ at done
      change ∃ last', (drive answer (resume' 0 between'.store)).run between' = _ ∧ _
      rw [stored] at done
      rw [stored']
      exact ih (known.trans (context.trans known'.symm)) done
  | @builtin given id number args store store' resume resume' pair _ ih =>
    change (answer (.builtin id number args) >>= fun number => do
      drive answer (resume number (← get).store)).run { one with store } = _ at done
    change ∃ last', (answer (.builtin id number args) >>= fun number => do
      drive answer (resume' number (← get).store)).run { other with store := store' } = _ ∧ _
    rw [run_bind] at done
    rcases ran : (answer (.builtin id number args)).run { one with store } with ⟨stop | value, between⟩ <;>
      rw [ran] at done
    · cases done
    · obtain ⟨between', ran', mirror⟩ := answers.builtin id number args _
        (List.subset_append_left _ given) { one with store } { other with store := store' } value between
        ⟨pair, context⟩ ran
      rw [run_bind_ok ran']
      exact ih value between.store between'.store mirror.pair mirror.context done

/-! ### Calls -/

variable {registry : Registry} {given : List Given}

include keeps in
theorem Mirrors.call? (answers : Answers view mark answer) (use : Use) (needed : use.needs sandbox ⊆ given) :
    Mirrors view mark given use.gives
      ((hosted sandbox registry).call? answer use.name (use.args sandbox)) := by
  intro one other result last mirror done
  obtain ⟨last', done', called, context⟩ :=
    drive_lockstep answers (keeps.calls use given _ _ needed mirror.pair) mirror.context done
  exact ⟨last', done', called.pair, context⟩

include keeps in
theorem Mirrors.call (answers : Answers view mark answer) (use : Use) (needed : use.needs sandbox ⊆ given) :
    Mirrors view mark given (fun value => use.gives (some value))
      ((hosted sandbox registry).call answer use.name (use.args sandbox)) := by
  rw [call_eq]
  refine .bind keeps (.call? keeps answers use needed) fun result => ?_
  cases result with
  | none => exact .throw _
  | some value => exact .pure keeps (List.subset_append_left _ _)

/-- A block on the heap and inside the memory, which the host sees where it is. -/
structure Reserved (mark address size : Nat) (m : Memory) : Prop where
  seen : signed address = address
  above : mark ≤ address
  inside : address < m.size
  room : address + size ≤ m.size

include keeps in
/-- Below the upper half, the host sees a block that is allocated where it is. -/
theorem call_malloc (answers : Answers view mark answer) (lower : limit ≤ 2 ^ 31) {size : Nat}
    {one other last : Session σ} {address : Int} (mirror : Mirror view mark given one other)
    (done : ((hosted sandbox registry).call answer "opa_malloc" [size]).run one = (.ok address, last)) :
    ∃ (a : Nat) (last' : Session σ), address = a ∧ Reserved mark a size (sandbox.guest.memory last'.store) ∧
      ((hosted sandbox registry).call answer "opa_malloc" [size]).run other = (.ok address, last') ∧
      Mirror view mark (.block address size :: given) last last' := by
  rw [call_eq, run_bind] at done
  rcases ran : ((hosted sandbox registry).call? answer "opa_malloc" [size]).run one with
    ⟨stop | _ | value, between⟩ <;> rw [ran] at done <;> cases done
  obtain ⟨last', ran', called, context⟩ :=
    drive_lockstep answers (keeps.calls (.malloc size) given _ _ (List.nil_subset _) mirror.pair)
      mirror.context ran
  obtain ⟨a, address, onHeap, below, inside, room⟩ := called.placed size _ rfl rfl
  have seen : signed a = a := signed_of_lower (below.trans_le lower)
  have above : mark ≤ a := mirror.pair.one.above.trans onHeap
  refine ⟨a, last', address.trans seen, ⟨seen, above, inside, room⟩, ?_, called.pair, context⟩
  rw [call_eq]
  exact run_bind_ok ran' _

/-! ### Texts -/

theorem cString_eq_ok {host : Host σ} {address : Int} {text : Bytes} {session after : Session σ}
    (done : (host.cString address).run session = (.ok text, after)) :
    (host.guest.memory session.store).cString? address = some text := by
  unfold Host.cString at done
  rw [run_bind_ok (memory_run host session)] at done
  split at done
  · next readable =>
    cases done
    exact readable
  · cases done

theorem place_eq_ok {host : Host σ} {start : Int} {data : Bytes} {session after : Session σ}
    (done : (host.place start data).run session = (.ok (), after)) :
    ∃ written, (host.guest.memory session.store).place? start data = some written ∧
      after = { session with store := host.guest.setMemory written session.store } := by
  unfold Host.place at done
  rw [run_bind_ok (memory_run host session)] at done
  split at done
  · next written placed =>
    cases done
    exact ⟨written, placed, rfl⟩
  · cases done

include keeps in
/-- Below the upper half, the host reads the same where a text is given. -/
theorem cString?_of_pair (lower : limit ≤ 2 ^ 31) {one other : σ} {address : Int} {text : Bytes}
    (pair : view.Pair mark sandbox.store given one other) (known : .string address ∈ given)
    (readable : (sandbox.guest.memory one).cString? address = some text) :
    (sandbox.guest.memory other).cString? address = some text := by
  obtain ⟨a, rfl, below, reads⟩ := keeps.reads given address one other pair known
  rw [signed_of_lower (below.trans_le lower)] at readable ⊢
  obtain ⟨ended, visible⟩ := Memory.terminated_of_cString? readable
  exact Memory.cString?_of_terminated (reads text visible ended) visible

include keeps in
theorem Mirrors.cString (lower : limit ≤ 2 ^ 31) {address : Int} (known : .string address ∈ given) :
    Mirrors view mark given (fun _ => []) ((hosted sandbox registry).cString address) := by
  intro one other text after mirror done
  have readable := cString_eq_ok done
  rw [cString_run _ readable] at done
  cases done
  exact ⟨other, cString_run _ (cString?_of_pair keeps lower mirror.pair known readable), mirror⟩

theorem HeapView.Keeps.place {base store : σ} (kept : view.Keeps mark base store) {address : Nat}
    {data : Bytes} {written : Memory} (above : mark ≤ address)
    (placed : (sandbox.guest.memory store).place? address data = some written) :
    view.Keeps mark base (sandbox.guest.setMemory written store) where
  memory := by
    rw [view.keepsMemory.memory_setMemory]
    exact kept.memory.trans ((Memory.keepsBelow_of_place? placed).mono above)
  within := by
    rw [view.keepsMemory.memory_setMemory, (Memory.keepsBelow_of_place? placed).bound,
      Memory.size_write? (Memory.place?_eq_some placed).2]
    exact kept.within
  globals := by rw [view.globals_setMemory, kept.globals]
  above := by rw [view.heap_setMemory]; exact kept.above

include keeps in
/-- What the host writes into a block that lies inside the second memory as well. -/
theorem place_mirrors {address : Nat} {data : Bytes} {one other after : Session σ}
    (mirror : Mirror view mark given one other) (known : .block address data.length ∈ given)
    (reserved : Reserved mark address data.length (sandbox.guest.memory other.store))
    (done : ((hosted sandbox registry).place address data).run one = (.ok (), after)) :
    ∃ after', ((hosted sandbox registry).place address data).run other = (.ok (), after') ∧
      Mirror view mark (.text address data.length :: given) after after' := by
  obtain ⟨written, placed, rfl⟩ := place_eq_ok done
  obtain ⟨written', placed'⟩ : ∃ written',
      (sandbox.guest.memory other.store).place? address data = some written' :=
    place?_isSome (Int.natCast_nonneg address) (by exact_mod_cast reserved.inside)
      (by exact_mod_cast reserved.room)
  have alike := keeps.writes given address _ _ data written written' mirror.pair (by rwa [reserved.seen])
    (Memory.place?_eq_some placed).2 (Memory.place?_eq_some placed').2
  rw [reserved.seen] at alike
  refine ⟨_, place_run _ other placed', ⟨alike, ?_, ?_⟩, mirror.context⟩
  · exact mirror.pair.one.place reserved.above placed
  · exact mirror.pair.other.place reserved.above placed'

/-! ### Documents -/

include keeps in
theorem Mirrors.checkParsed {address : Int} {size : Nat} (code : Option Int)
    (known : (Use.parse address size).gives code ⊆ given) :
    Mirrors view mark given (fun value => [.value value]) (Sandbox.checkParsed code : Run σ Int) := by
  unfold Sandbox.checkParsed
  split
  · exact .throw _
  · exact .throw _
  · next value nonzero =>
    have gained : Given.value value ∈ given :=
      known (by simp [Use.gives, show value ≠ 0 from nonzero])
    exact .pure keeps (by simpa using gained)

include keeps in
theorem Mirrors.loadJson (answers : Answers view mark answer) (lower : limit ≤ 2 ^ 31) (document : Bytes) :
    Mirrors view mark given (fun value => [.value value])
      ((hosted sandbox registry).loadJson answer document) := by
  intro one other value last mirror done
  rw [loadJson_eq] at done ⊢
  rw [run_bind] at done
  rcases ran : ((hosted sandbox registry).call answer "opa_malloc" [document.length]).run one with
    ⟨stop | address, between⟩ <;> rw [ran] at done
  · cases done
  · obtain ⟨a, between', rfl, reserved, ran', allocated⟩ := call_malloc keeps answers lower mirror ran
    change ((hosted sandbox registry).place a document >>= fun _ =>
      (hosted sandbox registry).call? answer "opa_json_parse" [a, document.length] >>=
        Sandbox.checkParsed).run between = _ at done
    rw [run_bind] at done
    rcases placed : ((hosted sandbox registry).place a document).run between with ⟨stop | _, filled⟩ <;>
      rw [placed] at done
    · cases done
    · obtain ⟨filled', placed', written⟩ :=
        place_mirrors keeps allocated List.mem_cons_self reserved placed
      have parses : Mirrors view mark (.text a document.length :: .block a document.length :: given)
          (fun value => [.value value])
          ((hosted sandbox registry).call? answer "opa_json_parse" [a, document.length] >>=
            Sandbox.checkParsed) :=
        .bind keeps (.call? keeps answers (.parse a document.length) (by simp [Use.needs])) fun code =>
          .checkParsed keeps code (List.subset_append_left _ _)
      obtain ⟨last', done', parsed⟩ := parses filled filled' value last written done
      have rest : ((hosted sandbox registry).place a document >>= fun _ =>
          (hosted sandbox registry).call? answer "opa_json_parse" [a, document.length] >>=
            Sandbox.checkParsed).run between' = (.ok value, last') := (run_bind_ok placed' _).trans done'
      refine ⟨last', (run_bind_ok ran' _).trans rest, parsed.less keeps ?_⟩
      refine List.append_subset.mpr ⟨List.subset_append_left _ _, fun item member => ?_⟩
      exact List.mem_append_right _ (List.mem_cons_of_mem _ (List.mem_cons_of_mem _ member))

include keeps in
theorem Mirrors.dumpText (answers : Answers view mark answer) (lower : limit ≤ 2 ^ 31) {value : Int}
    (known : .value value ∈ given) :
    Mirrors view mark given (fun _ => []) ((hosted sandbox registry).dumpText answer value) :=
  .bind keeps (.call keeps answers (.dump value) (by simpa [Use.needs] using known)) fun _ =>
    .cString keeps lower List.mem_cons_self

include keeps in
theorem Mirrors.dumpJson [Platform] (answers : Answers view mark answer) (lower : limit ≤ 2 ^ 31) {value : Int}
    (known : .value value ∈ given) :
    Mirrors view mark given (fun _ => []) ((hosted sandbox registry).dumpJson answer value) := by
  refine .bind keeps (.dumpText keeps answers lower known) fun text => ?_
  split
  · exact .pure keeps (List.nil_subset _)
  · exact .throw _

/-! ### Answers -/

theorem callBuiltin_eq_ok [Platform] {host : Host σ} {name : Text} {args : List Json} {document : Bytes}
    {session after : Session σ} :
    (host.callBuiltin name args).run session = (.ok document, after) ↔
      (((host.registry.call name args).run session.context).1 >>= Conversion.encode) = .ok document ∧
        after = { session with context := ((host.registry.call name args).run session.context).2 } := by
  unfold Host.callBuiltin
  rw [run_bind_ok (rfl : (MonadState.get : Run σ (Session σ)).run session = (.ok session, session))]
  generalize (host.registry.call name args).run session.context = outcome
  obtain ⟨result, context⟩ := outcome
  dsimp only
  cases result >>= Conversion.encode with
  | error failure => exact ⟨nofun, fun ⟨encoded, _⟩ => nomatch encoded⟩
  | ok found =>
    constructor
    · intro done
      cases done
      exact ⟨rfl, rfl⟩
    · rintro ⟨encoded, rfl⟩
      cases encoded
      rfl

/-- What a builtin gives depends on its arguments and its context. -/
theorem Mirrors.callBuiltin [Platform] (name : Text) (args : List Json) :
    Mirrors view mark given (fun _ => []) ((hosted sandbox registry).callBuiltin name args) := by
  intro one other document after mirror done
  obtain ⟨encoded, rfl⟩ := callBuiltin_eq_ok.mp done
  rw [mirror.context] at encoded ⊢
  exact ⟨_, callBuiltin_eq_ok.mpr ⟨encoded, rfl⟩, mirror.pair, rfl⟩

include keeps in
theorem Mirrors.handOver (answers : Answers view mark answer) (lower : limit ≤ 2 ^ 31) (name : Text)
    (document : Bytes) :
    Mirrors view mark given (fun value => [.value value])
      ((hosted sandbox registry).handOver answer name document) := by
  intro one other value after mirror done
  unfold Host.handOver at done ⊢
  rw [run_tryCatch] at done
  rcases ran : ((hosted sandbox registry).loadJson answer document).run one with ⟨stop | found, between⟩ <;>
    rw [ran] at done
  · rcases stop with (cause | cause) | trap
    · dsimp only at done
      split at done <;> cases done
    · cases done
    · cases done
  · cases done
    obtain ⟨after', ran', mirror'⟩ := Mirrors.loadJson keeps answers lower document one other _ _ mirror ran
    exact ⟨after', by rw [run_tryCatch, ran'], mirror'⟩

include keeps in
/-- Answers go the same way from stores that look alike, by induction on how deep they may lie. -/
theorem answers_respond [Platform] (lower : limit ≤ 2 ^ 31) (depth : Nat) :
    Answers view mark ((hosted sandbox registry).respond depth) := by
  induction depth with
  | zero =>
    refine ⟨?_, ?_, fun _ _ _ _ _ => .throw _⟩
    · intro address session value after done
      cases done
    · intro address given one other value after _ _ done
      cases done
  | succ depth ih =>
    refine ⟨?_, ?_, ?_⟩
    · intro address session value after done
      unfold Host.respond at done
      rw [run_bind] at done
      rcases ran : ((hosted sandbox registry).cString address).run session with ⟨stop | text, between⟩ <;>
        rw [ran] at done <;> cases done
    · intro address given one other value after mirror known done
      have ran := done
      unfold Host.respond at ran
      rw [run_bind] at ran
      rcases read : ((hosted sandbox registry).cString address).run one with ⟨stop | text, between⟩ <;>
        rw [read] at ran
      · cases ran
      · have readable := cString_eq_ok read
        rw [respond_println _ depth readable] at done
        cases done
        have readable' := cString?_of_pair keeps lower mirror.pair known readable
        exact ⟨rfl, rfl, rfl, _, respond_println _ depth readable', rfl, rfl⟩
    · intro id context args given known
      unfold Host.respond
      cases (hosted sandbox registry).builtins.get? id with
      | none => exact .throw _
      | some name =>
        refine .bind keeps (.mapM keeps fun arg member more part => ?_) fun documents => ?_
        · exact .dumpJson keeps ih lower (part (known (List.mem_map_of_mem member)))
        · exact .bind keeps (.callBuiltin name documents) fun document =>
            .handOver keeps ih lower name document

/-! ### Evaluating through a context -/

include keeps in
theorem Mirrors.evaluationCode (answers : Answers view mark answer) (id : Int) {input : Int}
    (data : .value sandbox.dataAddress ∈ given) (parsed : .value input ∈ given) :
    Mirrors view mark given (fun outcome => [.context outcome.2])
      (Sandbox.evaluationCode (hosted sandbox registry) answer sandbox.dataAddress id input) := by
  unfold Sandbox.evaluationCode
  refine .bind keeps (.call keeps answers .newContext (List.nil_subset _)) fun context => ?_
  refine .bind keeps (.call? keeps answers (.setInput context input) ?_) fun _ => ?_
  · simp [Use.needs, Use.gives, parsed]
  refine .bind keeps (.call? keeps answers (.setData context) ?_) fun _ => ?_
  · simp [Use.needs, Use.gives, data]
  refine .bind keeps (.call? keeps answers (.setEntrypoint context id) ?_) fun _ => ?_
  · simp [Use.needs, Use.gives]
  refine .bind keeps (.call? keeps answers (.eval context) ?_) fun code => ?_
  · simp [Use.needs, Use.gives]
  exact .pure keeps (by simp [Use.gives])

include keeps in
theorem Mirrors.readResult (answers : Answers view mark answer) (lower : limit ≤ 2 ^ 31) {context : Int}
    (code : Option Int) (known : .context context ∈ given) :
    Mirrors view mark given (fun _ => [])
      (Sandbox.readResult (hosted sandbox registry) answer context code) := by
  have finish : Mirrors view mark given (fun _ => [])
      ((hosted sandbox registry).call answer "opa_eval_ctx_get_result" [context] >>=
        (hosted sandbox registry).dumpText answer) :=
    .bind keeps (.call keeps answers (.result context) (by simpa [Use.needs] using known)) fun _ =>
      .dumpText keeps answers lower List.mem_cons_self
  unfold Sandbox.readResult
  split
  · exact finish
  · exact finish
  · exact .throw _

end

end PolicyHost.Sandbox
