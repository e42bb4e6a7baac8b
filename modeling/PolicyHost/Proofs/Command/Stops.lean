import PolicyHost.Proofs.Bundle.Failures
import PolicyHost.Proofs.Command.Arguments
import PolicyHost.Proofs.Config.Failures
import PolicyHost.Proofs.Instance.Once
import PolicyHost.Proofs.Json.Short

/-!
# What stops a task

The stops of a task are known in any surroundings: for each task the stages at which it may stop, and with
what. Only `extract` changes anything, and only after it has read its bundle. Integers that are too long stop
no answer, since they are not read either; an answer may be too deep, and its text may be one that cannot be
printed.

* `Holds`, `Withholds`: what reading a path gives, in a world that is met.
* `ConfigFailure`, `ReadFailure`, `BundleFailure`, `PolicyFailure`: why limits and policies are not read.
* `Bytecode`, `Contains`, `Binds`: the policies and the data that are read.
* `UnpackStop`, `DescribeStop`, `AskStop`, `TaskStop`: the stops of tasks; `taskRun_stops`.
-/

namespace PolicyHost.Command

open Work

/-! ## Stops -/

section Stops

variable {σ τ : Type} [Surroundings (StateM σ)] (start : σ)

/-- In a world that is met, a path leads to a file of these octets. -/
def Holds (path : Path) (contents : Bytes) : Prop :=
  ∃ world, Met start world ∧ (Files.read (m := StateM σ) path world).1 = .ok contents

/-- In a world that is met, the file at a path is not read. -/
def Withholds (path : Path) (fault : Fault) : Prop :=
  ∃ world, Met start world ∧ (Files.read (m := StateM σ) path world).1 = .error fault

/-- Why limits are not read.

* `hidden`: it is not known whether the configuration file is there;
* `unreadable`, `path`: it is not read;
* `limits`: what is in it, or the variables, are no limits. -/
inductive ConfigFailure [Room] (env : Environment) (config : Option Path) : Failure → Prop
  | hidden {world : σ} {fault : Fault} :
      Met start world →
      (Files.exists? (m := StateM σ) (Config.pathOf env env.«variables» config) world).1 = .error fault →
      ConfigFailure env config (.fault fault)
  | unreadable {flaw : FileFault} :
      Withholds start (Config.pathOf env env.«variables» config) (.file flaw) →
      ConfigFailure env config
        (.error (.configUnreadable (Config.pathOf env env.«variables» config).toText))
  | path {fault : Fault} :
      Withholds start (Config.pathOf env env.«variables» config) fault → (∀ flaw, fault ≠ .file flaw) →
      ConfigFailure env config (.fault fault)
  | limits {contents : Option Bytes} {failure : Failure} :
      (∀ bytes ∈ contents, Holds start (Config.pathOf env env.«variables» config) bytes) →
      Config.LimitsFailure (Config.pathOf env env.«variables» config) contents env.«variables» failure →
      ConfigFailure env config failure

/-- Why a file is not read: an error of the library, unless the path cannot be one. -/
inductive ReadFailure (path : Path) : Failure → Prop
  | unreadable {flaw : FileFault} :
      Withholds start path (.file flaw) → ReadFailure path (.error (.unreadableFile path.toText flaw))
  | path {fault : Fault} :
      Withholds start path fault → (∀ flaw, fault ≠ .file flaw) → ReadFailure path (.fault fault)

/-- Why a bundle is not read. -/
inductive BundleFailure [Room] [Archives] (path : Path) : Failure → Prop
  | file {failure : Failure} : ReadFailure start path failure → BundleFailure path failure
  | contents {raw : Bytes} {failure : Failure} :
      Holds start path raw → Bundle.ParseFailure raw failure → BundleFailure path failure

/-- The bytecode in a file, which may be a bundle. -/
inductive Bytecode [Room] [Archives] (path : Path) (isBundle : Bool) : Option Bundle → Bytes → Prop
  | bundle {raw : Bytes} {bundle : Bundle} :
      (isBundle || namesBundle path) = true → Holds start path raw → Bundle.parse raw = .ok bundle →
      Bytecode path isBundle (some bundle) bundle.policy
  | file {raw : Bytes} :
      (isBundle || namesBundle path) = false → Holds start path raw → Bytecode path isBundle none raw

/-- The policy in a file, which may be a bundle. -/
def Contains [Room] [Archives] [Engine τ] (limits : Limits) (path : Path) (isBundle : Bool)
    (policy : Policy τ) (bundle : Option Bundle) : Prop :=
  ∃ bytecode, Bytecode start path isBundle bundle bytecode ∧ (Policy.load limits bytecode).1 = .ok policy

variable {start} in
theorem Contains.noBundle [Room] [Archives] [Engine τ] {limits : Limits} {path : Path} {isBundle : Bool}
    {policy : Policy τ} {bundle : Option Bundle} (contains : Contains start limits path isBundle policy bundle)
    (none : bundle = none) : (isBundle || namesBundle path) = false := by
  obtain ⟨bytecode, ⟨-, -, -⟩ | ⟨file, -⟩, -⟩ := contains
  · cases none
  · exact file

/-- Why the policy in a file, which may be a bundle, is not read. -/
inductive PolicyFailure [Room] [Archives] [Engine τ] (limits : Limits) (path : Path) (isBundle : Bool) :
    Failure → Prop
  | bundle {failure : Failure} :
      (isBundle || namesBundle path) = true → BundleFailure start path failure →
      PolicyFailure limits path isBundle failure
  | file {failure : Failure} :
      (isBundle || namesBundle path) = false → ReadFailure start path failure →
      PolicyFailure limits path isBundle failure
  | bytecode {bundle : Option Bundle} {bytecode : Bytes} :
      Bytecode start path isBundle bundle bytecode → Engine.compile limits bytecode = none →
      PolicyFailure limits path isBundle (.error .invalidBytecode)

/-- The data that a query binds. -/
inductive Binds [Room] (query : Query) (bundle : Option Bundle) : Option Value → Prop
  | given {given : Text} {value : Json} :
      query.data = some given → Gives start given value → Binds query bundle (some (.ofJson value))
  | bundled {held : Bundle} :
      query.data = none → query.bundleData = true → bundle = some held →
      Binds query bundle (some (.ofJson (.object held.data)))
  | nothing : query.data = none → query.bundleData = false → Binds query bundle none

/-- What stops the policy of a bundle from being written into a file of its own. -/
inductive UnpackStop [Room] [Archives] (path output : Path) : Stop → Prop
  | bundle {failure : Failure} : BundleFailure start path failure → UnpackStop path output (.failure failure)
  | directory {world : σ} {fault : Fault} :
      Met start world → (Files.makeDirectories (m := StateM σ) output.parent world).1 = .error fault →
      UnpackStop path output (.failure (.fault fault))
  | file {world after : σ} {raw : Bytes} {bundle : Bundle} {fault : Fault} :
      Met start world → Holds start path raw → Bundle.parse raw = .ok bundle →
      Files.makeDirectories (m := StateM σ) output.parent world = (.ok (), after) →
      (Files.write (m := StateM σ) output bundle.policy after).1 = .error fault →
      UnpackStop path output (.failure (.fault fault))

variable (registry : Registry) (env : Environment) (config : Option Path)

/-- What stops the telling of what a policy is.

* `config`, `policy`: limits or policy are not read;
* `build`: no instance can be built to look at;
* `tooDeep`: there is no room for what is told. -/
inductive DescribeStop [Platform] [Archives] [Engine τ] (path : Path) (isBundle : Bool) : Stop → Prop
  | config {failure : Failure} :
      ConfigFailure start env config failure → DescribeStop path isBundle (.failure failure)
  | policy {limits : Limits} {failure : Failure} :
      PolicyFailure start limits path isBundle failure → DescribeStop path isBundle (.failure failure)
  | build {limits : Limits} {policy : Policy τ} {bundle : Option Bundle} {failure : Failure} :
      Contains start limits path isBundle policy bundle →
      Sandbox.BuildFailure policy.guest registry Policy.emptyData failure →
      DescribeStop path isBundle (.failure failure)
  | tooDeep : Room.answers < 2 → DescribeStop path isBundle (.failure (.fault .tooDeep))

/-- What stops the asking of a policy.

* `config`, `policy`: limits or policy are not read;
* `data`, `bundleMissing`: there are no data;
* `inspect`, `entrypointMissing`: there is no entrypoint;
* `input`: there is no input;
* `ask`: the policy fails;
* `tooDeep`: there is no room for its answer. -/
inductive AskStop [Platform] [Archives] [Engine τ] (query : Query) : Stop → Prop
  | config {failure : Failure} : ConfigFailure start env config failure → AskStop query (.failure failure)
  | policy {limits : Limits} {failure : Failure} :
      PolicyFailure start limits query.path query.bundle failure → AskStop query (.failure failure)
  | data {world : σ} {given : Text} {stop : Stop} :
      Met start world → query.data = some given → ArgumentStop world "--data" given stop →
      AskStop query stop
  | bundleMissing :
      query.data = none → query.bundleData = true → (query.bundle || namesBundle query.path) = false →
      AskStop query (.misuse .bundleMissing)
  | inspect {limits : Limits} {policy : Policy τ} {bundle : Option Bundle} {failure : Failure} :
      query.entrypoint = none → Contains start limits query.path query.bundle policy bundle →
      Sandbox.BuildFailure policy.guest registry Policy.emptyData failure →
      AskStop query (.failure failure)
  | entrypointMissing {world : σ} {limits : Limits} {policy : Policy τ} {bundle : Option Bundle}
      {info : PolicyInfo} :
      Met start world → query.entrypoint = none →
      Contains start limits query.path query.bundle policy bundle →
      (policy.inspect registry (Surroundings.ambient (m := StateM σ) world).1).1 = .ok info →
      info.defaultEntrypoint = none →
      AskStop query (.misuse .entrypointMissing)
  | input {world : σ} {stop : Stop} :
      Met start world → ArgumentStop world "--input" query.input stop → AskStop query stop
  | ask {limits : Limits} {policy : Policy τ} {bundle : Option Bundle} {data : Option Value}
      {entrypoint : Text} {input : Json} {failure : Failure} :
      Contains start limits query.path query.bundle policy bundle → Binds start query bundle data →
      Gives start query.input input →
      policy.AskFailure registry data ⟨entrypoint, .ofJson input, none⟩ failure →
      AskStop query (.failure failure)
  | tooDeep {limits : Limits} {policy : Policy τ} {bundle : Option Bundle} {data : Option Value}
      {entrypoint : Text} {input result : Json} {first second : Ambient} :
      Contains start limits query.path query.bundle policy bundle → Binds start query bundle data →
      Gives start query.input input →
      answered (policy.evaluate registry first second data ⟨entrypoint, .ofJson input, none⟩).1 = .ok result →
      Room.answers < result.nesting → AskStop query (.failure (.fault .tooDeep))

variable [Platform] [Archives] [Engine τ]

def WorkStop : Task → Stop → Prop
  | .extract path output => UnpackStop start path output
  | .inspect path isBundle => DescribeStop start registry env config path isBundle
  | .eval query => AskStop start registry env config query

/-- What stops a task: its text is not made, or it is not printed. -/
inductive TaskStop (task : Task) : Stop → Prop
  | work {stop : Stop} : WorkStop start registry env config task stop → TaskStop task stop
  | print {notes kept : List Note} {world after : σ} {t : Text} {fault : Fault} :
      Met start world → outcome (task.work registry env config) notes world = ((.ok t, kept), after) →
      (Surroundings.print (m := StateM σ) t after).1 = .error fault → TaskStop task (.failure (.fault fault))

end Stops

variable {σ τ : Type} [Surroundings (StateM σ)] {start world : σ} {reasons : Stop → Prop}

/-! ## Files -/

/-- What the contents of a file come to. -/
theorem contents_cases (met : Met start world) (path : Path) :
    match (Files.contents (m := StateM σ) path world).1 with
    | .ok contents => Holds start path contents
    | .error failure => ReadFailure start path failure := by
  rw [Files.contents, then_apply]
  cases read : (Files.read (m := StateM σ) path world).1 with
  | ok contents => exact ⟨world, met, read⟩
  | error fault =>
    cases fault with
    | file flaw => exact .unreadable ⟨world, met, read⟩
    | _ => exact .path ⟨world, met, read⟩ nofun

/-- The contents of a file, and what is done with them. -/
theorem contents_ends {α : Type} {values : α → Prop} {path : Path} {next : Bytes → Work (StateM σ) α}
    (later : ∀ contents, Holds start path contents → Ends start values reasons (next contents))
    (allowed : ∀ failure, ReadFailure start path failure → reasons (.failure failure)) :
    Ends start values reasons
      (Work.lift (Files.contents path) >>= fun result => Work.ofExcept result >>= next) := by
  refine (Ends.lift (looks_contents path)).bind fun result given => ?_
  obtain ⟨world, met, rfl⟩ := given
  have contents := contents_cases met path
  refine (Ends.ofExcept (fun raw read => ?_) fun failure unread => ?_).bind later
  · rwa [read] at contents
  · rw [unread] at contents
    exact allowed failure contents

/-- Bytecode is loaded unless nothing can be compiled from it. -/
theorem load_error [Engine τ] {limits : Limits} {bytecode : Bytes} {failure : Failure}
    (stopped : (Policy.load limits bytecode).1 = .error failure) :
    Engine.compile limits bytecode = none ∧ failure = .error .invalidBytecode := by
  unfold Policy.load at stopped
  cases compiled : Engine.compile limits bytecode with
  | none =>
    rw [compiled] at stopped
    cases stopped
    exact ⟨rfl, rfl⟩
  | some module =>
    rw [compiled] at stopped
    cases stopped

/-! ## Texts -/

/-- What is short is printed: floating-point numbers of any kind are. -/
theorem printed_of_short {value : Json} (short : value.Short) : ∃ t, printed value = .ok t := by
  obtain ⟨t, written⟩ : ∃ t, Json.indented ⟨Json.asciiPoint, false⟩ 0 value = .ok t :=
    Json.indented_of_short rfl 0 value short
  exact ⟨asLine t, by rw [printed, written]⟩

theorem printed_ends {value : Json} (short : value.Short) :
    Ends start (fun _ => True) reasons (Work.ofExcept (printed value) : Work (StateM σ) Text) := by
  obtain ⟨t, written⟩ := printed_of_short short
  rw [written]
  exact .pure trivial

theorem short_ofText? (t : Option Text) : (Json.ofText? t).Short := by
  cases t <;> exact nofun

/-- What a policy says about itself has no integers. -/
theorem short_toMembers (info : PolicyInfo) : (Json.object info.toMembers).Short := by
  have names : (Json.array (info.entrypoints.map .string)).Short := by
    refine Json.short_array_iff.mpr fun item member => ?_
    obtain ⟨name, -, rfl⟩ := List.mem_map.mp member
    exact nofun
  refine Json.short_object_iff.mpr fun entry member => ?_
  simp only [PolicyInfo.toMembers, List.mem_cons, List.not_mem_nil, or_false] at member
  rcases member with rfl | rfl | rfl | rfl
  · exact names
  · exact short_ofText? info.defaultEntrypoint
  · exact nofun
  · exact nofun

/-- Nor has it with the revision of the bundle that holds it. -/
theorem short_withRevision (info : PolicyInfo) (held : Bundle) :
    (Json.object (Table.put (Text.ofString "revision") (Json.ofText? held.revision?) info.toMembers)).Short :=
  Json.short_kept.put info.toMembers (short_toMembers info) _ _ (short_ofText? held.revision?)

theorem nesting_ofText? (t : Option Text) : (Json.ofText? t).nesting = 0 := by
  cases t <;> rfl

theorem itemsNesting_texts (texts : List Text) : Json.itemsNesting (texts.map .string) = 0 := by
  refine Nat.le_zero.mp (Json.itemsNesting_le_iff.mpr fun item member => ?_)
  obtain ⟨t, -, rfl⟩ := List.mem_map.mp member
  exact Nat.le_refl 0

/-- What a policy says about itself is an object with an array in it. -/
theorem nesting_toMembers (info : PolicyInfo) : (Json.object info.toMembers).nesting = 2 := by
  simp [PolicyInfo.toMembers, Json.nesting, Json.membersNesting, itemsNesting_texts, nesting_ofText?]

theorem nesting_withRevision (info : PolicyInfo) (held : Bundle) :
    (Json.object
      (Table.put (Text.ofString "revision") (Json.ofText? held.revision?) info.toMembers)).nesting = 2 := by
  have apart : Table.put (Text.ofString "revision") (Json.ofText? held.revision?) info.toMembers =
      info.toMembers ++ [(Text.ofString "revision", Json.ofText? held.revision?)] := rfl
  rw [apart]
  simp [PolicyInfo.toMembers, Json.nesting, Json.membersNesting, itemsNesting_texts, nesting_ofText?]

/-- A short answer is printed unless it is too deep. -/
theorem answerText_ends [Room] {value : Json} (short : value.Short)
    (allowed : Room.answers < value.nesting → reasons (.failure (.fault .tooDeep))) :
    Ends start (fun _ => True) reasons (Work.ofExcept (answerText value) : Work (StateM σ) Text) := by
  unfold answerText
  split
  · next deep => exact .throw (allowed deep)
  · exact printed_ends short

/-! ## Limits and data -/

variable [Platform]

/-- What the contents of a configuration file come to, which may not be there. -/
theorem contentsAt_cases (met : Met start world) (env : Environment) (config : Option Path) :
    match (Config.contentsAt (m := StateM σ) (Config.pathOf env env.«variables» config) world).1 with
    | .ok contents => ∀ bytes ∈ contents, Holds start (Config.pathOf env env.«variables» config) bytes
    | .error failure => ConfigFailure start env config failure := by
  have later := looks_exists? (Config.pathOf env env.«variables» config) start world met
  rw [Config.contentsAt, then_apply]
  rcases found : (Files.exists? (m := StateM σ) (Config.pathOf env env.«variables» config) world) with
    ⟨fault | _ | _, after⟩
  · exact .hidden met (congrArg Prod.fst found)
  · exact nofun
  · rw [found] at later
    dsimp only
    rw [then_apply]
    cases read : (Files.read (m := StateM σ) (Config.pathOf env env.«variables» config) after).1 with
    | ok contents =>
      rintro bytes ⟨⟩
      exact ⟨after, later, read⟩
    | error fault =>
      cases fault with
      | file flaw => exact .unreadable ⟨after, later, read⟩
      | _ => exact .path ⟨after, later, read⟩ nofun

/-- The limits of a run are not read for one of the reasons given. -/
theorem load_failure (met : Met start world) {env : Environment} {config : Option Path} {failure : Failure}
    (stopped : (Config.load (m := StateM σ) env env.«variables» config world).1 = .error failure) :
    ConfigFailure start env config failure := by
  have contents := contentsAt_cases met env config
  rw [Config.load, then_apply] at stopped
  rcases held : Config.contentsAt (m := StateM σ) (Config.pathOf env env.«variables» config) world with
    ⟨unread | bytes, after⟩
  · rw [held] at contents stopped
    cases stopped
    exact contents
  · rw [held] at contents stopped
    exact .limits contents (Config.limitsOf_failure stopped)

theorem readLimits_ends {env : Environment} {config : Option Path}
    (allowed : ∀ failure, ConfigFailure start env config failure → reasons (.failure failure)) :
    Ends start (fun _ => True) reasons (readLimits (m := StateM σ) env config) := by
  refine (Ends.lift (looks_load env env.«variables» config)).bind fun limits given => ?_
  obtain ⟨world, met, rfl⟩ := given
  exact .ofExcept (fun _ _ => trivial) fun failure stopped => allowed failure (load_failure met stopped)

theorem readData_ends {query : Query} {bundle : Option Bundle}
    (argument : ∀ world given stop, Met start world → query.data = some given →
      ArgumentStop world "--data" given stop → reasons stop)
    (missing : query.data = none → query.bundleData = true → bundle = none →
      reasons (.misuse .bundleMissing)) :
    Ends start (Binds start query bundle) reasons (readData (m := StateM σ) query bundle) := by
  unfold readData
  split
  · next given named =>
    refine (readArgument_ends fun world stop met stopped => argument world given stop met named stopped).bind ?_
    exact fun value gives => .pure (.given named gives)
  · next held unnamed bundled => exact .pure (.bundled unnamed bundled rfl)
  · next unnamed bundled => exact .throw (missing unnamed bundled rfl)
  · next unnamed unbundled => exact .pure (.nothing unnamed unbundled)

/-! ## Policies -/

theorem inspect_ends (registry : Registry) (policy : Policy τ)
    (allowed : ∀ failure,
      Sandbox.BuildFailure policy.guest registry Policy.emptyData failure →
      reasons (.failure failure)) :
    Ends start
      (fun info => ∃ world, Met start world ∧
        (policy.inspect registry (Surroundings.ambient (m := StateM σ) world).1).1 = .ok info)
      reasons (inspect (m := StateM σ) registry policy) := by
  refine (Ends.lift looks_ambient).bind fun ambient given => ?_
  obtain ⟨world, met, rfl⟩ := given
  refine .noted (fun info told => ⟨world, met, told⟩) ?_
  exact fun failure stopped => allowed failure (Policy.inspect_failure stopped)

theorem chooseEntrypoint_ends (registry : Registry) {query : Query} (policy : Policy τ)
    (build : ∀ failure, query.entrypoint = none →
      Sandbox.BuildFailure policy.guest registry Policy.emptyData failure →
      reasons (.failure failure))
    (missing : ∀ world info, Met start world → query.entrypoint = none →
      (policy.inspect registry (Surroundings.ambient (m := StateM σ) world).1).1 = .ok info →
      info.defaultEntrypoint = none → reasons (.misuse .entrypointMissing)) :
    Ends start (fun _ => True) reasons (chooseEntrypoint (m := StateM σ) registry query policy) := by
  unfold chooseEntrypoint
  cases named : query.entrypoint with
  | some entrypoint => exact .pure trivial
  | none =>
    refine (inspect_ends registry policy fun failure stopped => build failure named stopped).bind ?_
    rintro info ⟨world, met, told⟩
    cases default : info.defaultEntrypoint with
    | some entrypoint => exact .pure trivial
    | none => exact .throw (missing world info met named told default)

/-! ## Answers -/

/-- A policy that is asked through the command line answers with short JSON, or fails. -/
theorem answered_cases (policy : Policy τ) (registry : Registry) (first second : Ambient)
    (data : Option Value) (entrypoint : Text) (input : Value) :
    match answered (policy.evaluate registry first second data ⟨entrypoint, input, none⟩).1 with
    | .ok json => json.Short
    | .error failure => policy.AskFailure registry data ⟨entrypoint, input, none⟩ failure := by
  have asked := policy.evaluate_cases registry first second data ⟨entrypoint, input, none⟩
  cases outcome : (policy.evaluate registry first second data ⟨entrypoint, input, none⟩).1 with
  | returned value =>
    rw [outcome] at asked
    obtain ⟨raw, decoded⟩ := asked
    obtain ⟨json, read, rfl⟩ := decodeResult_ok decoded
    simp only [answered, Value.asJson?_ofJson]
    exact Json.short_kept.of_readOctets read
  | failed failure =>
    rw [outcome] at asked
    exact asked
  | cancelled =>
    rw [outcome] at asked
    exact asked.elim

/-- What is left of a query once it has all that it asks with. -/
def answer (registry : Registry) (policy : Policy τ) (data : Option Value) (entrypoint : Text) (input : Json) :
    Work (StateM σ) Text := do
  let first ← Work.lift Surroundings.ambient
  let second ← Work.lift Surroundings.ambient
  let (outcome, notes) := policy.evaluate registry first second data ⟨entrypoint, .ofJson input, none⟩
  let result ← Work.noted (answered outcome, notes)
  Work.ofExcept (answerText result)

theorem answer_ends {policy : Policy τ} {registry : Registry} {data : Option Value} {entrypoint : Text}
    {input : Json}
    (allowed : ∀ failure, policy.AskFailure registry data ⟨entrypoint, .ofJson input, none⟩ failure →
      reasons (.failure failure))
    (deep : ∀ first second result,
      answered (policy.evaluate registry first second data ⟨entrypoint, .ofJson input, none⟩).1 = .ok result →
      Room.answers < result.nesting → reasons (.failure (.fault .tooDeep))) :
    Ends start (fun _ => True) reasons (answer registry policy data entrypoint input) := by
  refine (Ends.lift looks_ambient).bind fun first _ => (Ends.lift looks_ambient).bind fun second _ => ?_
  have cases := answered_cases policy registry first second data entrypoint (.ofJson input)
  have result : Ends start
      (fun json => json.Short ∧
        answered (policy.evaluate registry first second data ⟨entrypoint, .ofJson input, none⟩).1 = .ok json)
      reasons
      (Work.noted (answered (policy.evaluate registry first second data ⟨entrypoint, .ofJson input, none⟩).1,
        (policy.evaluate registry first second data ⟨entrypoint, .ofJson input, none⟩).2)) := by
    refine .noted (fun json done => ?_) fun failure stopped => ?_
    · dsimp only at done
      rw [done] at cases
      exact ⟨cases, done⟩
    · dsimp only at stopped
      rw [stopped] at cases
      exact allowed failure cases
  exact result.bind fun json given => answerText_ends given.1 (deep first second json given.2)

/-! ## Bundles -/

variable [Archives]

theorem readBundle_ends {path : Path}
    (allowed : ∀ failure, BundleFailure start path failure → reasons (.failure failure)) :
    Ends start (fun bundle => ∃ raw, Holds start path raw ∧ Bundle.parse raw = .ok bundle) reasons
      (readBundle (m := StateM σ) path) := by
  refine contents_ends (fun raw holds => ?_) fun failure unread => allowed failure (.file unread)
  have parsing : Ends start (fun bundle => Bundle.parse raw = .ok bundle) reasons
      (Work.ofExcept (Bundle.parse raw) : Work (StateM σ) Bundle) :=
    .ofExcept (fun _ parsed => parsed) fun failure stopped =>
      allowed failure (.contents holds (Bundle.parse_failure stopped))
  refine parsing.bind fun bundle parsed => ?_
  exact (Ends.keep _).bind fun _ _ => .pure ⟨raw, holds, parsed⟩

/-- Where the policy of a bundle is not written into a file of its own: there is no bundle, no directory
for the file, or the file is not written. -/
theorem unpack_error {path output : Path} {notes : List Note} {stop : Stop}
    (stopped : (outcome (unpack (m := StateM σ) path output) notes world).1.1 = .error stop) :
    (outcome (readBundle (m := StateM σ) path) notes world).1.1 = .error stop ∨
      ∃ bundle kept after fault,
        outcome (readBundle (m := StateM σ) path) notes world = ((.ok bundle, kept), after) ∧
        stop = .failure (.fault fault) ∧
        ((Files.makeDirectories (m := StateM σ) output.parent after).1 = .error fault ∨
          ∃ ready, Files.makeDirectories (m := StateM σ) output.parent after = (.ok (), ready) ∧
            (Files.write (m := StateM σ) output bundle.policy ready).1 = .error fault) := by
  rcases outcome_bind_error stopped with unread | ⟨bundle, kept, after, read, stopped⟩
  · exact .inl unread
  refine .inr ⟨bundle, kept, after, ?_⟩
  rcases outcome_bind_error stopped with failed | ⟨_, _, ready, made, stopped⟩
  · rw [outcome_attempt] at failed
    obtain ⟨fault, unmade, rfl⟩ := Outcome.mapError_eq_error_iff.mp failed
    exact ⟨fault, read, rfl, .inl unmade⟩
  rcases outcome_bind_error stopped with failed | ⟨_, _, _, _, ⟨⟩⟩
  rw [outcome_attempt] at made failed
  obtain ⟨fault, unwritten, rfl⟩ := Outcome.mapError_eq_error_iff.mp failed
  refine ⟨fault, read, rfl, .inr ⟨ready, ?_, unwritten⟩⟩
  have directory : (Files.makeDirectories (m := StateM σ) output.parent after).1 = .ok () :=
    Outcome.mapError_eq_ok_iff.mp (congrArg (·.1.1) made)
  have world : (Files.makeDirectories (m := StateM σ) output.parent after).2 = ready := congrArg (·.2) made
  exact Prod.ext directory world

/-- Where there is no directory for the file, the policy of a bundle is not written. -/
theorem unpack_of_directory {path output : Path} {notes kept : List Note} {after : σ} {bundle : Bundle}
    {fault : Fault} (read : outcome (readBundle (m := StateM σ) path) notes world = ((.ok bundle, kept), after))
    (unmade : (Files.makeDirectories (m := StateM σ) output.parent after).1 = .error fault) :
    (outcome (unpack (m := StateM σ) path output) notes world).1.1 = .error (.failure (.fault fault)) := by
  rw [unpack, outcome_bind_of_ok read]
  refine outcome_bind_of_error ?_ _
  rw [outcome_attempt, unmade]
  rfl

/-- Where the file is not written, the policy of a bundle is not. -/
theorem unpack_of_file {path output : Path} {notes kept : List Note} {after ready : σ} {bundle : Bundle}
    {fault : Fault} (read : outcome (readBundle (m := StateM σ) path) notes world = ((.ok bundle, kept), after))
    (made : Files.makeDirectories (m := StateM σ) output.parent after = (.ok (), ready))
    (unwritten : (Files.write (m := StateM σ) output bundle.policy ready).1 = .error fault) :
    (outcome (unpack (m := StateM σ) path output) notes world).1.1 = .error (.failure (.fault fault)) := by
  have directory : outcome (Work.attempt (Files.makeDirectories (m := StateM σ) output.parent)) kept after =
      ((.ok (), kept), ready) := by
    rw [outcome_attempt, made]
    rfl
  rw [unpack, outcome_bind_of_ok read, outcome_bind_of_ok directory]
  refine outcome_bind_of_error ?_ _
  rw [outcome_attempt, unwritten]
  rfl

theorem unpack_stops {path output : Path} {notes : List Note} {stop : Stop} (met : Met start world)
    (stopped : (outcome (unpack (m := StateM σ) path output) notes world).1.1 = .error stop) :
    UnpackStop start path output stop := by
  have reading : Ends start _ (UnpackStop start path output) (readBundle (m := StateM σ) path) :=
    readBundle_ends fun failure unread => .bundle unread
  rcases unpack_error stopped with unread | ⟨bundle, kept, after, fault, read, rfl, unwritten⟩
  · exact reading.stops met unread
  · have here := reading notes world met
    rw [read] at here
    obtain ⟨met, raw, holds, parsed⟩ := here
    rcases unwritten with unmade | ⟨ready, made, unwritten⟩
    · exact .directory met unmade
    · exact .file met holds parsed made unwritten

/-! ## Tasks -/

variable [Engine τ]

/-- The bytecode of a file is loaded. -/
theorem load_ends {limits : Limits} {path : Path} {isBundle : Bool} {bundle : Option Bundle}
    {bytecode : Bytes} (found : Bytecode start path isBundle bundle bytecode)
    (allowed : ∀ failure, PolicyFailure start limits path isBundle failure → reasons (.failure failure)) :
    Ends start (fun policy => Contains start limits path isBundle policy bundle) reasons
      (Work.noted (Policy.load limits bytecode) : Work (StateM σ) (Policy τ)) := by
  refine .noted (fun policy loaded => ⟨bytecode, found, loaded⟩) fun failure stopped => ?_
  obtain ⟨invalid, rfl⟩ := load_error stopped
  exact allowed _ (.bytecode found invalid)

theorem readPolicy_ends {limits : Limits} {path : Path} {isBundle : Bool}
    (allowed : ∀ failure, PolicyFailure start limits path isBundle failure → reasons (.failure failure)) :
    Ends start (fun found => Contains start limits path isBundle found.1 found.2) reasons
      (readPolicy (m := StateM σ) limits path isBundle) := by
  unfold readPolicy
  by_cases archive : (isBundle || namesBundle path) = true
  · rw [if_pos archive]
    refine (readBundle_ends fun failure unread => allowed failure (.bundle archive unread)).bind ?_
    rintro bundle ⟨raw, holds, parsed⟩
    exact (load_ends (.bundle archive holds parsed) allowed).bind fun policy loaded => .pure loaded
  · rw [if_neg archive]
    have file := Bool.eq_false_iff.mpr archive
    refine contents_ends (fun raw holds => ?_) fun failure unread => allowed failure (.file file unread)
    exact (load_ends (.file file holds) allowed).bind fun policy loaded => .pure loaded

theorem describe_ends (registry : Registry) (env : Environment) (config : Option Path) (limits : Limits)
    (path : Path) (isBundle : Bool) :
    Ends start (fun _ => True) (DescribeStop start registry env config path isBundle)
      (describe (m := StateM σ) registry limits path isBundle) := by
  refine (readPolicy_ends fun failure unread => .policy unread).bind ?_
  rintro ⟨policy, bundle⟩ contains
  refine (inspect_ends registry policy fun failure stopped => .build contains stopped).bind ?_
  rintro info -
  cases bundle with
  | none => exact answerText_ends (short_toMembers info) fun deep => .tooDeep (nesting_toMembers info ▸ deep)
  | some held =>
    exact answerText_ends (short_withRevision info held) fun deep =>
      .tooDeep (nesting_withRevision info held ▸ deep)

theorem evaluate_ends (registry : Registry) (env : Environment) (config : Option Path) (limits : Limits)
    (query : Query) :
    Ends start (fun _ => True) (AskStop start registry env config query)
      (evaluate (m := StateM σ) registry limits query) := by
  refine (readPolicy_ends fun failure unread => .policy unread).bind ?_
  rintro ⟨policy, bundle⟩ contains
  refine (readData_ends (fun world given stop met named stopped => .data met named stopped) ?_).bind ?_
  · exact fun unnamed bundled none => .bundleMissing unnamed bundled (contains.noBundle none)
  intro data binds
  refine (chooseEntrypoint_ends registry policy (fun failure unnamed stopped => .inspect unnamed contains stopped)
    fun world info met unnamed told default => .entrypointMissing met unnamed contains told default).bind ?_
  rintro entrypoint -
  refine (readArgument_ends fun world stop met stopped => .input met stopped).bind fun input gives => ?_
  exact answer_ends (fun failure failed => .ask contains binds gives failed)
    fun first second result done deep => .tooDeep contains binds gives done deep

/-- What stops the making of the text of a task is one of the stops that it has. -/
theorem taskWork_stops {registry : Registry} {env : Environment} {config : Option Path} {task : Task}
    {notes : List Note} {stop : Stop} (met : Met start world)
    (stopped : (outcome (task.work (m := StateM σ) registry env config) notes world).1.1 = .error stop) :
    WorkStop start registry env config task stop := by
  cases task with
  | extract path output => exact unpack_stops met stopped
  | inspect path isBundle =>
    have ends : Ends start (fun _ => True) (DescribeStop start registry env config path isBundle)
        (Task.work (m := StateM σ) registry env config (.inspect path isBundle)) :=
      (readLimits_ends fun failure unread => .config unread).bind fun limits _ =>
        describe_ends registry env config limits path isBundle
    exact ends.stops met stopped
  | eval query =>
    have ends : Ends start (fun _ => True) (AskStop start registry env config query)
        (Task.work (m := StateM σ) registry env config (.eval query)) :=
      (readLimits_ends fun failure unread => .config unread).bind fun limits _ =>
        evaluate_ends registry env config limits query
    exact ends.stops met stopped

/-- A task stops while its text is made, or because that text is not printed. -/
theorem taskRun_error {registry : Registry} {env : Environment} {config : Option Path} {task : Task}
    {notes : List Note} {stop : Stop}
    (stopped : (outcome (task.run (m := StateM σ) registry env config) notes world).1.1 = .error stop) :
    (outcome (task.work (m := StateM σ) registry env config) notes world).1.1 = .error stop ∨
      ∃ t kept after fault,
        outcome (task.work (m := StateM σ) registry env config) notes world = ((.ok t, kept), after) ∧
        stop = .failure (.fault fault) ∧
        (Surroundings.print (m := StateM σ) t after).1 = .error fault := by
  rcases outcome_bind_error stopped with failed | ⟨t, kept, after, made, stopped⟩
  · exact .inl failed
  rcases outcome_bind_error stopped with failed | ⟨_, _, _, _, ⟨⟩⟩
  rw [outcome_attempt] at failed
  obtain ⟨fault, unprinted, rfl⟩ := Outcome.mapError_eq_error_iff.mp failed
  exact .inr ⟨t, kept, after, fault, made, rfl, unprinted⟩

/-- What stops a task is one of the stops that it has. -/
theorem taskRun_stops {registry : Registry} {env : Environment} {config : Option Path} {task : Task}
    {notes : List Note} {stop : Stop} (met : Met start world)
    (stopped : (outcome (task.run (m := StateM σ) registry env config) notes world).1.1 = .error stop) :
    TaskStop start registry env config task stop := by
  rcases taskRun_error stopped with failed | ⟨t, kept, after, fault, made, rfl, unprinted⟩
  · exact .work (taskWork_stops met failed)
  · exact .print met made unprinted

end PolicyHost.Command
