import PolicyHost.Proofs.Sandbox.Rewind

/-!
# No look-up fails

The host calls a guest through a table of the functions that it has collected, and it works on the memory
that it has linked. It links the memory before the guest runs, and it collects the functions behind the
start of the guest. Until then the table is empty, although the guest may already ask its host for
something. What the host has to find in the table depends on the version of the guest and on its exports.

* `Links`, `Lapse`: what the host has linked, and what happens where a look-up fails.
* `linkedInstantiate`, `linkedEvaluate`: a host that looks up whatever it uses.
* `respond_early`, `respond_linked`: requests while the table is empty, and requests later.
* `no_lookup_fails`: whatever a look-up in vain may do, all results, notes and stores are what they are.
-/

namespace PolicyHost.Sandbox

variable {σ α β : Type}

/-! ## A host that looks up what it uses -/

/-- Functions of a guest, by their names. -/
abbrev Functions (σ : Type) := Table Text (List Int → σ → Activity σ)

/-- What the host has linked: whether the memory, and which functions. -/
structure Links (σ : Type) where
  memory : Bool
  functions : Functions σ

/-- What happens where the host uses what it has not linked. -/
structure Lapse (σ : Type) where
  memory : σ → Memory
  setMemory : Memory → σ → σ
  call : Text → List Int → σ → Activity σ

/-- A guest as the host gets at it through what it has linked. -/
def Links.guest (links : Links σ) (lapse : Lapse σ) (guest : Guest σ) : Guest σ :=
  { guest with
    memory := if links.memory then guest.memory else lapse.memory
    setMemory := if links.memory then guest.setMemory else lapse.setMemory
    call := fun name => (links.functions.get? name).getD (lapse.call name) }

/-- A host that gets at its guest through what it has linked. -/
def Host.linked (host : Host σ) (links : Links σ) (lapse : Lapse σ) : Host σ :=
  { host with guest := links.guest lapse host.guest }

/-- Functions that the host collects if the guest has them. -/
def wantedExports : List Text := requiredExports ++ contextExports ++ [fastExport, "opa_free"]

def collect (guest : Guest σ) : Functions σ :=
  (wantedExports.filter guest.provides).map fun name => (name, guest.call name)

/-- A guest of a version evaluates in one call, as the functions show that have been collected. -/
def Functions.areFast (functions : Functions σ) (version : AbiVersion) : Bool :=
  version.supportsFastEval && functions.contains fastExport

/-- Functions that have not been collected, though they have to be for a version. -/
def Functions.missing (functions : Functions σ) (version : AbiVersion) : List Text :=
  let needed :=
    if functions.areFast version then requiredExports else requiredExports ++ contextExports
  needed.filter fun name => !functions.contains name

/-- The version of the guest and the functions collected from it are what the host needs. -/
def checkLinks (guest : Guest σ) (functions : Functions σ) : Run σ AbiVersion := do
  match ← lift (readVersion guest (← get).store) with
  | none => fail .versionMissing
  | some version =>
    if version.major ≠ AbiVersion.supportedMajor then fail (.versionUnsupported version.toText)
    else
      let missing := functions.missing version
      if missing.isEmpty then return version else fail (.exportsMissing missing)

def Links.early : Links σ := ⟨true, []⟩

def Links.late (guest : Guest σ) : Links σ := ⟨true, collect guest⟩

/-- What is done with a guest whose store is fresh. The functions are collected behind the start, and
the names of the builtins are known when both tables have been read. -/
def linkedSetUp [Platform] (lapse : Lapse σ) (guest : Guest σ) (registry : Registry) (activity : Activity σ)
    (data : Bytes) : Run σ (Sandbox σ × Links σ) := do
  let unnamed : Host σ := ⟨guest, registry, []⟩
  let _ ← onStop .startFailed .notInstantiable
    (drive (unnamed.linked .early lapse).answer activity)
  let version ← checkLinks guest (collect guest)
  let links := Links.late guest
  let (builtins, entrypoints) ← resolveTables (unnamed.linked links lapse)
  note (.instantiated version entrypoints.length builtins.length)
  let host : Host σ := ⟨guest, registry, builtins⟩
  let (dataAddress, heapMark) ← bindData (host.linked links lapse) data
  return (⟨guest, version, builtins, entrypoints, dataAddress, heapMark, (← get).store⟩, links)

/-- Links a guest into a fresh store and binds data, with a host that looks up what it uses. -/
def linkedInstantiate [Platform] (lapse : Lapse σ) (guest : Guest σ) (registry : Registry) (ambient : Ambient)
    (data : Bytes) : Except Failure (Sandbox σ × Links σ) × List Note :=
  match guest.demand with
  | .missing => (.error (.error .memoryMissing), [])
  | .otherKind => (.error (.error .memoryOtherKind), [])
  | .memory =>
    match guest.start with
    | .error trap => (.error (.error (.notInstantiable trap)), [])
    | .ok activity =>
      match firstStore activity with
      | .error trap => (.error (.error (.notInstantiable trap)), [])
      | .ok store =>
        let (result, session) :=
          (linkedSetUp lapse guest registry activity data).run ⟨store, .fresh ambient, []⟩
        (result.mapError Stop.toFailure, session.notes.reverse)

/-- Runs an entrypoint on an input, with a host that looks up what it uses. -/
def linkedEvaluate [Platform] (lapse : Lapse σ) (links : Links σ) (sandbox : Sandbox σ) (registry : Registry)
    (ambient : Ambient) (id : Int) (payload : Bytes) :
    Except Failure Bytes × List Note × Sandbox σ :=
  let host := Host.linked ⟨sandbox.guest, registry, sandbox.builtins⟩ links lapse
  let start : Session σ := ⟨sandbox.guest.refuel sandbox.store, .fresh ambient, []⟩
  let (result, session) :=
    (onStop (fun cause => cause) .trapped
      (if links.functions.areFast sandbox.version then fastEvaluate sandbox host id payload
        else contextEvaluate sandbox host id payload)).run start
  (result.mapError Stop.toFailure, session.notes.reverse, { sandbox with store := session.store })

/-! ## What has been collected -/

theorem get?_named {names : List Text} {keep : Text → Bool} {value : Text → α} {name : Text}
    {found : α} :
    Table.get? name ((names.filter keep).map fun name => (name, value name)) = some found ↔
      name ∈ names ∧ keep name = true ∧ value name = found := by
  induction names with
  | nil => simp
  | cons first rest ih =>
    rw [List.mem_cons]
    cases kept : keep first with
    | false =>
      rw [List.filter_cons_of_neg (by simp [kept]), ih]
      by_cases same : name = first
      · subst same
        simp [kept]
      · simp [same]
    | true =>
      rw [List.filter_cons_of_pos kept, List.map_cons, Table.get?]
      by_cases same : first = name
      · subst same
        simp [kept]
      · rw [if_neg same, ih]
        simp [Ne.symm same]

theorem get?_collect {guest : Guest σ} {name : Text} (wanted : name ∈ wantedExports)
    (provided : guest.provides name = true) : (collect guest).get? name = some (guest.call name) :=
  get?_named.mpr ⟨wanted, provided, rfl⟩

theorem contains_collect {guest : Guest σ} {name : Text} (wanted : name ∈ wantedExports) :
    (collect guest).contains name = guest.provides name := by
  rw [Bool.eq_iff_iff, Table.contains, Option.isSome_iff_exists]
  constructor
  · rintro ⟨_, found⟩
    exact (get?_named.mp found).2.1
  · exact fun provided => ⟨_, get?_collect wanted provided⟩

theorem areFast_collect (guest : Guest σ) (version : AbiVersion) :
    (collect guest).areFast version = isFast guest version := by
  have wanted : fastExport ∈ wantedExports := by decide
  rw [Functions.areFast, isFast, contains_collect wanted]

/-- Functions that the host needs from a guest of a version. -/
def neededExports (guest : Guest σ) (version : AbiVersion) : List Text :=
  if isFast guest version then requiredExports else requiredExports ++ contextExports

theorem wanted_of_needed {guest : Guest σ} {version : AbiVersion} {name : Text}
    (needed : name ∈ neededExports guest version) : name ∈ wantedExports := by
  unfold neededExports at needed
  split at needed
  · exact List.mem_append_left _ (List.mem_append_left _ needed)
  · exact List.mem_append_left _ needed

theorem missing_collect (guest : Guest σ) (version : AbiVersion) :
    (collect guest).missing version = missingExports guest version := by
  unfold Functions.missing missingExports
  rw [areFast_collect]
  refine List.filter_congr fun name needed => ?_
  rw [contains_collect (wanted_of_needed needed)]

theorem checkLinks_collect (guest : Guest σ) : checkLinks guest (collect guest) = checkGuest guest := by
  simp only [checkLinks, missing_collect]
  rfl

/-- A guest that the host has accepted has all functions that the host needs. -/
theorem provides_of_checkGuest {guest : Guest σ} {version : AbiVersion} {session after : Session σ}
    (accepted : (checkGuest guest).run session = (.ok version, after)) (name : Text)
    (needed : name ∈ neededExports guest version) : guest.provides name = true := by
  have none : missingExports guest version = [] := by
    unfold checkGuest at accepted
    obtain ⟨_, _, _, accepted⟩ := run_bind_eq_ok.mp accepted
    obtain ⟨given, _, _, accepted⟩ := run_bind_eq_ok.mp accepted
    split at accepted
    · cases accepted
    · split at accepted
      · cases accepted
      · dsimp only at accepted
        split at accepted
        · next empty =>
          cases accepted
          exact List.isEmpty_iff.mp empty
        · cases accepted
  have kept := List.filter_eq_nil_iff.mp none name needed
  simpa using kept

/-- What the host has linked is all that it needs. -/
structure Links.Serve (links : Links σ) (guest : Guest σ) (version : AbiVersion) : Prop where
  memory : links.memory = true
  needed : ∀ name ∈ neededExports guest version, links.functions.get? name = some (guest.call name)
  path : links.functions.areFast version = isFast guest version
  fast : isFast guest version = true → links.functions.get? fastExport = some (guest.call fastExport)

theorem Links.Serve.late {guest : Guest σ} {version : AbiVersion}
    (provided : ∀ name ∈ neededExports guest version, guest.provides name = true) :
    (Links.late guest).Serve guest version where
  memory := rfl
  needed name needed := get?_collect (wanted_of_needed needed) (provided name needed)
  path := areFast_collect guest version
  fast fast := get?_collect (by decide) (Bool.and_eq_true_iff.mp fast).2

/-! ## Steps of a host that finds what it looks up -/

section

variable {links : Links σ} {lapse : Lapse σ} {host : Host σ} {answer : Request → Run σ Int}

theorem memory_linked (memory : links.memory = true) :
    (host.linked links lapse).memory = host.memory := by
  simp only [Host.memory, Host.linked, Links.guest, memory, if_true]

theorem place_linked (memory : links.memory = true) (start : Int) (data : Bytes) :
    (host.linked links lapse).place start data = host.place start data := by
  unfold Host.place
  rw [memory_linked memory]
  simp only [Host.linked, Links.guest, memory, if_true]

theorem cString_linked (memory : links.memory = true) (address : Int) :
    (host.linked links lapse).cString address = host.cString address := by
  unfold Host.cString
  rw [memory_linked memory]

theorem call?_linked {name : Text} (found : links.functions.get? name = some (host.guest.call name))
    (args : List Int) :
    (host.linked links lapse).call? answer name args = host.call? answer name args := by
  unfold Host.call?
  simp only [Host.linked, Links.guest, found, Option.getD_some]

theorem call_linked {name : Text} (found : links.functions.get? name = some (host.guest.call name))
    (args : List Int) :
    (host.linked links lapse).call answer name args = host.call answer name args := by
  unfold Host.call
  rw [call?_linked found]

variable {version : AbiVersion} (serve : links.Serve host.guest version)

include serve

theorem Links.Serve.required (name : Text) (required : name ∈ requiredExports) :
    links.functions.get? name = some (host.guest.call name) := by
  refine serve.needed name ?_
  unfold neededExports
  split
  · exact required
  · exact List.mem_append_left _ required

theorem loadJson_linked (document : Bytes) :
    (host.linked links lapse).loadJson answer document = host.loadJson answer document := by
  have malloc := serve.required "opa_malloc" (by decide)
  have parse := serve.required "opa_json_parse" (by decide)
  unfold Host.loadJson
  simp only [call_linked malloc, place_linked serve.memory, call?_linked parse]

theorem dumpText_linked (value : Int) :
    (host.linked links lapse).dumpText answer value = host.dumpText answer value := by
  have dump := serve.required "opa_json_dump" (by decide)
  unfold Host.dumpText
  simp only [call_linked dump, cString_linked serve.memory]

theorem dumpJson_linked [Platform] (value : Int) :
    (host.linked links lapse).dumpJson answer value = host.dumpJson answer value := by
  unfold Host.dumpJson
  rw [dumpText_linked serve]

theorem handOver_linked (name : Text) (document : Bytes) :
    (host.linked links lapse).handOver answer name document = host.handOver answer name document := by
  unfold Host.handOver
  rw [loadJson_linked serve]

/-- Requests at any depth find what the host looks up to answer them, by induction on the depth. -/
theorem respond_linked [Platform] (depth : Nat) :
    (host.linked links lapse).respond depth = host.respond depth := by
  induction depth with
  | zero => rfl
  | succ depth ih =>
    funext request
    cases request with
    | abort address =>
      unfold Host.respond
      rw [cString_linked serve.memory]
    | println address =>
      unfold Host.respond
      rw [cString_linked serve.memory]
    | builtin id context args =>
      have dump : (host.linked links lapse).dumpJson (host.respond depth) =
          host.dumpJson (host.respond depth) := funext (dumpJson_linked serve)
      unfold Host.respond
      simp only [ih, dump, handOver_linked serve]
      rfl

theorem answer_linked [Platform] : (host.linked links lapse).answer = host.answer :=
  respond_linked serve Room.requests

theorem readTable_linked [Platform] (name : Text) (required : name ∈ requiredExports) :
    readTable (host.linked links lapse) name = readTable host name := by
  unfold readTable
  rw [answer_linked serve, call_linked (serve.required name required)]
  exact bind_congr fun address => dumpJson_linked serve address

theorem resolveTables_linked [Platform] : resolveTables (host.linked links lapse) = resolveTables host := by
  have builtins : readTable (host.linked links lapse) "builtins" = readTable host "builtins" :=
    readTable_linked serve "builtins" (by decide)
  have entrypoints : readTable (host.linked links lapse) "entrypoints" = readTable host "entrypoints" :=
    readTable_linked serve "entrypoints" (by decide)
  unfold resolveTables readTables
  rw [builtins, entrypoints]
  rfl

theorem bindData_linked [Platform] (data : Bytes) :
    bindData (host.linked links lapse) data = bindData host data := by
  have mark := serve.required "opa_heap_ptr_get" (by decide)
  unfold bindData
  simp only [answer_linked serve, loadJson_linked serve, call_linked mark]

theorem ensureCapacity_linked (stop : Int) :
    ensureCapacity (host.linked links lapse) stop = ensureCapacity host stop := by
  unfold ensureCapacity
  rw [memory_linked serve.memory]
  simp only [Host.linked, Links.guest, serve.memory, if_true]

theorem fastEvaluate_linked [Platform] (fast : isFast host.guest version = true) (sandbox : Sandbox σ)
    (id : Int)
    (payload : Bytes) :
    fastEvaluate sandbox (host.linked links lapse) id payload = fastEvaluate sandbox host id payload := by
  unfold fastEvaluate
  simp only [ensureCapacity_linked serve, place_linked serve.memory, answer_linked serve,
    call_linked (serve.fast fast), cString_linked serve.memory]

theorem Links.Serve.context (slow : isFast host.guest version = false) (name : Text)
    (used : name ∈ contextExports) : links.functions.get? name = some (host.guest.call name) := by
  refine serve.needed name ?_
  rw [neededExports, slow, if_neg Bool.false_ne_true]
  exact List.mem_append_right _ used

theorem contextEvaluate_linked [Platform] (slow : isFast host.guest version = false) (sandbox : Sandbox σ)
    (id : Int) (payload : Bytes) :
    contextEvaluate sandbox (host.linked links lapse) id payload =
      contextEvaluate sandbox host id payload := by
  have rewind := serve.required "opa_heap_ptr_set" (by decide)
  have new := serve.context slow "opa_eval_ctx_new" (by decide)
  have input := serve.context slow "opa_eval_ctx_set_input" (by decide)
  have data := serve.context slow "opa_eval_ctx_set_data" (by decide)
  have entrypoint := serve.context slow "opa_eval_ctx_set_entrypoint" (by decide)
  have eval := serve.context slow "eval" (by decide)
  have result := serve.context slow "opa_eval_ctx_get_result" (by decide)
  unfold contextEvaluate
  simp only [answer_linked serve, call?_linked rewind, loadJson_linked serve, call_linked new,
    call?_linked input, call?_linked data, call?_linked entrypoint, call?_linked eval,
    call_linked result, dumpText_linked serve]

end

/-! ## Before anything has been collected -/

/-- While the host knows no builtins, it answers every request without a function of the guest. -/
theorem respond_early [Platform] (lapse : Lapse σ) (guest : Guest σ) (registry : Registry) (depth : Nat) :
    (Host.linked ⟨guest, registry, []⟩ .early lapse).respond depth =
      Host.respond ⟨guest, registry, []⟩ depth := by
  funext request
  cases depth with
  | zero => rfl
  | succ depth =>
    cases request with
    | abort address =>
      unfold Host.respond
      rw [cString_linked rfl]
    | println address =>
      unfold Host.respond
      rw [cString_linked rfl]
    | builtin id context args => rfl

/-! ## Sandboxes -/

theorem run_bind_congr {first : Run σ α} {next other : α → Run σ β}
    (same : ∀ value session after, first.run session = (.ok value, after) → next value = other value) :
    first >>= next = first >>= other := by
  funext session
  change (first >>= next).run session = (first >>= other).run session
  rw [run_bind, run_bind]
  rcases done : first.run session with ⟨_ | value, middle⟩
  · rfl
  · exact congrArg (fun step => step.run middle) (same value session middle done)

/-- A sandbox that comes from linking the guest is one whose functions the host has collected. -/
theorem linkedSetUp_eq [Platform] (lapse : Lapse σ) (guest : Guest σ) (registry : Registry)
    (activity : Activity σ)
    (data : Bytes) :
    linkedSetUp lapse guest registry activity data =
      (setUp guest registry activity data >>= fun sandbox => pure (sandbox, Links.late guest)) := by
  have early : (Host.linked ⟨guest, registry, []⟩ .early lapse).answer =
      Host.answer ⟨guest, registry, []⟩ := respond_early lapse guest registry Room.requests
  unfold linkedSetUp setUp
  dsimp only
  rw [checkLinks_collect, early]
  simp only [bind_assoc]
  refine bind_congr fun _ => run_bind_congr fun version session after accepted => ?_
  have serve : (Links.late guest).Serve guest version := .late (provides_of_checkGuest accepted)
  have tables : resolveTables (Host.linked ⟨guest, registry, []⟩ (.late guest) lapse) =
      resolveTables ⟨guest, registry, []⟩ := resolveTables_linked serve
  rw [tables]
  refine bind_congr fun tables => ?_
  obtain ⟨builtins, entrypoints⟩ := tables
  refine bind_congr fun _ => ?_
  have bound : bindData (Host.linked ⟨guest, registry, builtins⟩ (.late guest) lapse) data =
      bindData ⟨guest, registry, builtins⟩ data := bindData_linked serve data
  rw [bound]
  refine bind_congr fun bound => ?_
  obtain ⟨address, mark⟩ := bound
  simp only [pure_bind]

/-- What the host has linked serves the sandbox that it has set up. -/
theorem serve_of_setUp [Platform] {guest : Guest σ} {registry : Registry} {activity : Activity σ} {data : Bytes}
    {session after : Session σ} {sandbox : Sandbox σ}
    (done : (setUp guest registry activity data).run session = (.ok sandbox, after)) :
    (Links.late guest).Serve sandbox.guest sandbox.version := by
  unfold setUp at done
  obtain ⟨_, _, -, done⟩ := run_bind_eq_ok.mp done
  obtain ⟨version, _, accepted, done⟩ := run_bind_eq_ok.mp done
  obtain ⟨⟨builtins, entrypoints⟩, _, -, done⟩ := run_bind_eq_ok.mp done
  obtain ⟨_, _, -, done⟩ := run_bind_eq_ok.mp done
  obtain ⟨⟨address, mark⟩, _, -, done⟩ := run_bind_eq_ok.mp done
  obtain ⟨_, _, -, done⟩ := run_bind_eq_ok.mp done
  cases done
  exact .late (provides_of_checkGuest accepted)

theorem linkedInstantiate_eq [Platform] (lapse : Lapse σ) (guest : Guest σ) (registry : Registry)
    (ambient : Ambient) (data : Bytes) :
    linkedInstantiate lapse guest registry ambient data =
      ((instantiate guest registry ambient data).1.map fun sandbox => (sandbox, Links.late guest),
        (instantiate guest registry ambient data).2) := by
  unfold linkedInstantiate instantiate
  cases guest.demand with
  | missing => rfl
  | otherKind => rfl
  | memory =>
    cases guest.start with
    | error trap => rfl
    | ok activity =>
      dsimp only
      cases firstStore activity with
      | error trap => rfl
      | ok store =>
        dsimp only
        rw [linkedSetUp_eq, run_bind]
        rcases (setUp guest registry activity data).run ⟨store, .fresh ambient, []⟩ with
          ⟨stop | sandbox, after⟩ <;> rfl

theorem serve_of_instantiate [Platform] {guest : Guest σ} {registry : Registry} {ambient : Ambient}
    {data : Bytes}
    {sandbox : Sandbox σ} {notes : List Note}
    (done : instantiate guest registry ambient data = (.ok sandbox, notes)) :
    (Links.late guest).Serve sandbox.guest sandbox.version := by
  unfold instantiate at done
  split at done
  · cases done
  · cases done
  · split at done
    · cases done
    · next activity _ =>
      split at done
      · cases done
      · next store _ =>
        rcases ended : (setUp guest registry activity data).run ⟨store, .fresh ambient, []⟩ with
          ⟨stop | found, after⟩ <;> rw [ended] at done <;> cases done
        exact serve_of_setUp ended

theorem linkedEvaluate_eq [Platform] {links : Links σ} {sandbox : Sandbox σ}
    (serve : links.Serve sandbox.guest sandbox.version) (lapse : Lapse σ) (registry : Registry)
    (ambient : Ambient) (id : Int) (payload : Bytes) :
    linkedEvaluate lapse links sandbox registry ambient id payload =
      sandbox.evaluate registry ambient id payload := by
  have run : onStop (fun cause => cause) .trapped
      (if links.functions.areFast sandbox.version then
        fastEvaluate sandbox (Host.linked ⟨sandbox.guest, registry, sandbox.builtins⟩ links lapse) id payload
      else contextEvaluate sandbox
        (Host.linked ⟨sandbox.guest, registry, sandbox.builtins⟩ links lapse) id payload) =
      runEvaluation sandbox ⟨sandbox.guest, registry, sandbox.builtins⟩ id payload := by
    unfold runEvaluation
    rw [serve.path]
    cases path : isFast sandbox.guest sandbox.version with
    | true => exact congrArg _ (fastEvaluate_linked serve path sandbox id payload)
    | false => exact congrArg _ (contextEvaluate_linked serve path sandbox id payload)
  simp only [linkedEvaluate, run]
  rfl

/-! ## A whole life -/

/-- Evaluations one after another, each on the sandbox that the one before it leaves: their results and
notes, and the last sandbox. -/
def inOrder (step : Sandbox σ → Evaluation → Except Failure Bytes × List Note × Sandbox σ)
    (sandbox : Sandbox σ) : List Evaluation → List (Except Failure Bytes × List Note) × Sandbox σ
  | [] => ([], sandbox)
  | e :: rest =>
    let (result, notes, after) := step sandbox e
    let (others, last) := inOrder step after rest
    ((result, notes) :: others, last)

/-- A guest is linked and has data bound, and is then evaluated any number of times. -/
def life [Platform] (guest : Guest σ) (registry : Registry) (ambient : Ambient) (data : Bytes)
    (evaluations : List Evaluation) :
    Except Failure (List (Except Failure Bytes × List Note) × Sandbox σ) × List Note :=
  match instantiate guest registry ambient data with
  | (.error failure, notes) => (.error failure, notes)
  | (.ok sandbox, notes) =>
    (.ok (inOrder (fun s e => s.evaluate e.registry e.ambient e.id e.payload) sandbox evaluations), notes)

/-- The same with a host that looks up what it uses. -/
def linkedLife [Platform] (lapse : Lapse σ) (guest : Guest σ) (registry : Registry) (ambient : Ambient)
    (data : Bytes)
    (evaluations : List Evaluation) :
    Except Failure (List (Except Failure Bytes × List Note) × Sandbox σ) × List Note :=
  match linkedInstantiate lapse guest registry ambient data with
  | (.error failure, notes) => (.error failure, notes)
  | (.ok (sandbox, links), notes) =>
    (.ok (inOrder (fun s e => linkedEvaluate lapse links s e.registry e.ambient e.id e.payload) sandbox
      evaluations), notes)

/-- An evaluation leaves what the host has to look up as it was. -/
theorem inOrder_linked [Platform] {links : Links σ} {sandbox : Sandbox σ}
    (serve : links.Serve sandbox.guest sandbox.version) (lapse : Lapse σ) (evaluations : List Evaluation) :
    inOrder (fun s e => linkedEvaluate lapse links s e.registry e.ambient e.id e.payload) sandbox
        evaluations =
      inOrder (fun s e => s.evaluate e.registry e.ambient e.id e.payload) sandbox evaluations := by
  induction evaluations generalizing sandbox with
  | nil => rfl
  | cons e rest ih =>
    have later := @ih (sandbox.evaluate e.registry e.ambient e.id e.payload).2.2 serve
    unfold inOrder
    rw [linkedEvaluate_eq serve]
    exact congrArg (fun others => (_ :: others.1, others.2)) later

/-- Whatever a host may do that does not find what it looks up, a sandbox does what it does: no look-up
fails, before the functions have been collected or after it. -/
theorem no_lookup_fails [Platform] (lapse : Lapse σ) (guest : Guest σ) (registry : Registry) (ambient : Ambient)
    (data : Bytes) (evaluations : List Evaluation) :
    linkedLife lapse guest registry ambient data evaluations =
      life guest registry ambient data evaluations := by
  unfold linkedLife life
  rw [linkedInstantiate_eq]
  rcases done : instantiate guest registry ambient data with ⟨failure | sandbox, notes⟩
  · rfl
  · have serve := serve_of_instantiate done
    exact congrArg (fun outcome => (Except.ok outcome, notes)) (inOrder_linked serve lapse evaluations)

end PolicyHost.Sandbox
