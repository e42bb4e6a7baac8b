import PolicyHost.Builtin.Standard
import PolicyHost.Deployment.Standard
import PolicyHost.Proofs.Command.Stops

/-!
# How runs end

A run ends at its first stop. An error of the library and an argument of no use are reported, with an exit
code of their own each; a fault is not, and leaves the program as it is.

* `making`, `ending`: what the making of the text of a task comes to, and what the task does.
* `StageStop`: the first stop of that making, stage by stage; `StageStop.making`, `stageStop_of_making`.
* `FirstStop`: the first stop of a task; `FirstStop.ending`, `firstStop_of_ending`.
* `Concludes`: the report on what a task has come to.
* `run_endings`: runs, and their JSON arguments.
-/

namespace PolicyHost.Command

open Work

section Endings

variable {σ τ : Type} [Surroundings (StateM σ)] {registry : Registry} {env : Environment}
  {config : Option Path} {world : σ} {stop : Stop} {notes : List Note}

/-! ## Reports -/

/-- What a run that announces a text comes to: the text that it prints, or what stops that. -/
def announcement (t : Text) (world : σ) : Except Stop Text :=
  match (Surroundings.print (m := StateM σ) t world).1 with
  | .ok () => .ok t
  | .error fault => .error (.failure (.fault fault))

/-- What a run reports of what its task has come to: a text, an error of the library and an argument of no
use, each with an exit code of its own. A fault is not reported, and leaves the run. -/
def Concludes (result : Except Fault Report) : Except Stop Text → Prop
  | .ok t => ∃ report, result = .ok report ∧ report.code = 0 ∧ report.output = t ∧ report.verdict = []
  | .error (.failure (.error cause)) =>
    ∃ report, result = .ok report ∧ report.code = 1 ∧ report.output = [] ∧
      report.verdict = asLine ("error[" ++ cause.kind.name ++ "]: " ++ cause.message)
  | .error (.misuse misuse) =>
    ∃ report, result = .ok report ∧ report.code = 2 ∧ report.output = [] ∧
      report.verdict = asLine ("error: " ++ misuse.message)
  | .error (.failure (.fault fault)) => result = .error fault

theorem reportOf_concludes (verbose : Bool) (result : Except Stop Text) (notes : List Note) :
    Concludes (reportOf verbose result notes) result := by
  rcases result with ⟨⟨cause | fault⟩ | misuse⟩ | t
  · exact ⟨_, rfl, rfl, rfl, rfl⟩
  · rfl
  · exact ⟨_, rfl, rfl, rfl, rfl⟩
  · exact ⟨_, rfl, rfl, rfl, rfl⟩

theorem announce_concludes (t : Text) (world : σ) :
    Concludes (announce (m := StateM σ) t world).1 (announcement t world) := by
  rw [announce, then_apply, announcement]
  cases (Surroundings.print (m := StateM σ) t world).1 with
  | ok _ => exact ⟨_, rfl, rfl, rfl, rfl⟩
  | error fault => rfl

/-! ## Stages -/

def IsFailure (stop : Stop) : Prop := ∃ failure, stop = .failure failure

theorem isFailure (failure : Failure) : IsFailure (.failure failure) := ⟨failure, rfl⟩

variable [Platform]

theorem readLimits_isFailure (stopped : (outcome (readLimits env config) notes world).1.1 = .error stop) :
    IsFailure stop :=
  (readLimits_ends fun failure _ => isFailure failure).stops .start stopped

theorem inspect_isFailure {policy : Policy τ}
    (stopped : (outcome (inspect registry policy) notes world).1.1 = .error stop) : IsFailure stop :=
  (inspect_ends registry policy fun failure _ => isFailure failure).stops .start stopped

theorem answer_isFailure {policy : Policy τ} {data : Option Value} {entrypoint : Text} {input : Json}
    (stopped : (outcome (answer registry policy data entrypoint input) notes world).1.1 = .error stop) :
    IsFailure stop :=
  (answer_ends (fun failure _ => isFailure failure) fun _ _ _ _ _ => isFailure _).stops .start stopped

omit [Surroundings (StateM σ)] in
/-- An answer is kept back where there is no room for it. -/
theorem answerText_of_deep {value : Json} (deep : Room.answers < value.nesting) :
    (outcome (Work.ofExcept (answerText value) : Work (StateM σ) Text) notes world).1.1 =
      .error (.failure (.fault .tooDeep)) := by
  rw [answerText, if_pos deep]
  rfl

/-- An answer that is short is kept back for no other reason. -/
theorem answerText_error {value : Json} (short : value.Short)
    (stopped : (outcome (Work.ofExcept (answerText value)) notes world).1.1 = .error stop) :
    Room.answers < value.nesting ∧ stop = .failure (.fault .tooDeep) := by
  have ends : Ends world (fun _ => True)
      (fun stop => Room.answers < value.nesting ∧ stop = .failure (.fault .tooDeep))
      (Work.ofExcept (answerText value) : Work (StateM σ) Text) :=
    answerText_ends short fun deep => ⟨deep, rfl⟩
  exact ends.stops .start stopped

/-- Data are missing where they are to be read from an argument, or from a bundle that is not there. -/
theorem readData_error {query : Query} {bundle : Option Bundle}
    (stopped : (outcome (readData query bundle) notes world).1.1 = .error stop) :
    (∃ given, query.data = some given ∧ ArgumentStop world "--data" given stop) ∨
      (query.data = none ∧ query.bundleData = true ∧ bundle = none ∧ stop = .misuse .bundleMissing) := by
  unfold readData at stopped
  split at stopped
  · next given named =>
    rcases outcome_bind_error stopped with unread | ⟨_, _, _, _, ⟨⟩⟩
    exact .inl ⟨given, named, readArgument_error_iff.mp unread⟩
  · cases stopped
  · next unnamed bundled =>
    cases stopped
    exact .inr ⟨unnamed, bundled, rfl, rfl⟩
  · cases stopped

/-- An entrypoint is missing where the policy has none of its own, unless looking at it fails. -/
theorem chooseEntrypoint_error {query : Query} {policy : Policy τ}
    (stopped : (outcome (chooseEntrypoint registry query policy) notes world).1.1 = .error stop) :
    (query.entrypoint = none ∧ stop = .misuse .entrypointMissing ∧
        ∃ info later after, outcome (inspect registry policy) notes world = ((.ok info, later), after) ∧
          info.defaultEntrypoint = none) ∨
      (query.entrypoint = none ∧ (outcome (inspect registry policy) notes world).1.1 = .error stop) := by
  unfold chooseEntrypoint at stopped
  split at stopped
  · cases stopped
  · next unnamed =>
    rcases outcome_bind_error stopped with failed | ⟨info, later, after, told, stopped⟩
    · exact .inr ⟨unnamed, failed⟩
    · split at stopped
      · cases stopped
      · next default =>
        cases stopped
        exact .inl ⟨unnamed, rfl, info, later, after, told, default⟩

variable [Archives]

theorem readBundle_isFailure {path : Path}
    (stopped : (outcome (readBundle path) notes world).1.1 = .error stop) : IsFailure stop :=
  (readBundle_ends fun failure _ => isFailure failure).stops .start stopped

variable [Engine τ]

theorem readPolicy_isFailure {limits : Limits} {path : Path} {isBundle : Bool}
    (stopped : (outcome (readPolicy limits path isBundle) notes world).1.1 = .error stop) : IsFailure stop :=
  (readPolicy_ends fun failure _ => isFailure failure).stops .start stopped

/-! ## First stops -/

/-- What the making of the text of a task comes to in a world: the text, or the first stop. -/
def making (registry : Registry) (env : Environment) (config : Option Path) (task : Task) (world : σ) :
    Except Stop Text :=
  (outcome (task.work registry env config) [] world).1.1

/-- What a task comes to in a world: the text that it prints, or its first stop. -/
def ending (registry : Registry) (env : Environment) (config : Option Path) (task : Task) (world : σ) :
    Except Stop Text :=
  (outcome (task.run registry env config) [] world).1.1

section Stops

variable (registry env config world)

/-- The file that holds the policy of a task, and whether it is said to be a bundle. -/
def source? : Task → Option (Path × Bool)
  | .inspect path isBundle => some (path, isBundle)
  | .eval query => some (query.path, query.bundle)
  | .extract .. => none

def Limited (limits : Limits) (notes : List Note) (after : σ) : Prop :=
  outcome (readLimits env config) [] world = ((.ok limits, notes), after)

/-- A task that asks for a policy gets it, and the bundle that holds it if there is one. -/
def Loads (path : Path) (isBundle : Bool) (found : Policy τ × Option Bundle) (notes : List Note) (after : σ) :
    Prop :=
  ∃ limits kept ready, Limited env config world limits kept ready ∧
    outcome (readPolicy limits path isBundle) kept ready = ((.ok found, notes), after)

/-- The first stop of the making of a text, behind stages that have given what they are asked for.

* `limits`, `policy`: there are no limits, or no policy;
* `describe`, `tooDeep`: looking at the policy fails, or there is no room for what is told;
* `data`, `bundleMissing`, `inspect`, `entrypointMissing`, `input`: a query has no data, entrypoint or input;
* `ask`: the policy fails to answer;
* `bundle`, `directory`, `file`: there is no bundle to take the policy from, or nowhere to put it. -/
inductive StageStop : Task → Stop → Prop
  | limits {task : Task} {failure : Failure} :
      (source? task).isSome = true →
      (outcome (readLimits env config) [] world).1.1 = .error (.failure failure) →
      StageStop task (.failure failure)
  | policy {task : Task} {path : Path} {isBundle : Bool} {limits : Limits} {kept : List Note} {ready : σ}
      {failure : Failure} :
      source? task = some (path, isBundle) → Limited env config world limits kept ready →
      (outcome (readPolicy limits path isBundle) kept ready).1.1 = .error (.failure failure) →
      StageStop task (.failure failure)
  | describe {path : Path} {isBundle : Bool} {found : Policy τ × Option Bundle} {notes : List Note}
      {loaded : σ} {failure : Failure} :
      Loads env config world path isBundle found notes loaded →
      (outcome (inspect registry found.1) notes loaded).1.1 = .error (.failure failure) →
      StageStop (.inspect path isBundle) (.failure failure)
  | tooDeep {path : Path} {isBundle : Bool} {found : Policy τ × Option Bundle} {info : PolicyInfo}
      {notes later : List Note} {loaded after : σ} :
      Loads env config world path isBundle found notes loaded →
      outcome (inspect registry found.1) notes loaded = ((.ok info, later), after) → Room.answers < 2 →
      StageStop (.inspect path isBundle) (.failure (.fault .tooDeep))
  | data {query : Query} {found : Policy τ × Option Bundle} {notes : List Note} {loaded : σ} {given : Text}
      {stop : Stop} :
      Loads env config world query.path query.bundle found notes loaded → query.data = some given →
      ArgumentStop loaded "--data" given stop → StageStop (.eval query) stop
  | bundleMissing {query : Query} {policy : Policy τ} {notes : List Note} {loaded : σ} :
      Loads env config world query.path query.bundle (policy, none) notes loaded → query.data = none →
      query.bundleData = true → StageStop (.eval query) (.misuse .bundleMissing)
  | inspect {query : Query} {found : Policy τ × Option Bundle} {data : Option Value}
      {notes kept : List Note} {loaded bound : σ} {failure : Failure} :
      Loads env config world query.path query.bundle found notes loaded →
      outcome (readData query found.2) notes loaded = ((.ok data, kept), bound) → query.entrypoint = none →
      (outcome (Command.inspect registry found.1) kept bound).1.1 = .error (.failure failure) →
      StageStop (.eval query) (.failure failure)
  | entrypointMissing {query : Query} {found : Policy τ × Option Bundle} {data : Option Value}
      {info : PolicyInfo} {notes kept later : List Note} {loaded bound after : σ} :
      Loads env config world query.path query.bundle found notes loaded →
      outcome (readData query found.2) notes loaded = ((.ok data, kept), bound) → query.entrypoint = none →
      outcome (Command.inspect registry found.1) kept bound = ((.ok info, later), after) →
      info.defaultEntrypoint = none → StageStop (.eval query) (.misuse .entrypointMissing)
  | input {query : Query} {found : Policy τ × Option Bundle} {data : Option Value} {entrypoint : Text}
      {notes kept later : List Note} {loaded bound after : σ} {stop : Stop} :
      Loads env config world query.path query.bundle found notes loaded →
      outcome (readData query found.2) notes loaded = ((.ok data, kept), bound) →
      outcome (chooseEntrypoint registry query found.1) kept bound = ((.ok entrypoint, later), after) →
      ArgumentStop after "--input" query.input stop → StageStop (.eval query) stop
  | ask {query : Query} {found : Policy τ × Option Bundle} {data : Option Value} {entrypoint : Text}
      {input : Json} {notes kept later last : List Note} {loaded bound after final : σ} {failure : Failure} :
      Loads env config world query.path query.bundle found notes loaded →
      outcome (readData query found.2) notes loaded = ((.ok data, kept), bound) →
      outcome (chooseEntrypoint registry query found.1) kept bound = ((.ok entrypoint, later), after) →
      outcome (readArgument "--input" query.input) later after = ((.ok input, last), final) →
      (outcome (answer registry found.1 data entrypoint input) last final).1.1 = .error (.failure failure) →
      StageStop (.eval query) (.failure failure)
  | bundle {path output : Path} {failure : Failure} :
      (outcome (readBundle path) [] world).1.1 = .error (.failure failure) →
      StageStop (.extract path output) (.failure failure)
  | directory {path output : Path} {bundle : Bundle} {notes : List Note} {after : σ} {fault : Fault} :
      outcome (readBundle path) [] world = ((.ok bundle, notes), after) →
      (Files.makeDirectories (m := StateM σ) output.parent after).1 = .error fault →
      StageStop (.extract path output) (.failure (.fault fault))
  | file {path output : Path} {bundle : Bundle} {notes : List Note} {after ready : σ} {fault : Fault} :
      outcome (readBundle path) [] world = ((.ok bundle, notes), after) →
      Files.makeDirectories (m := StateM σ) output.parent after = (.ok (), ready) →
      (Files.write (m := StateM σ) output bundle.policy ready).1 = .error fault →
      StageStop (.extract path output) (.failure (.fault fault))

/-- The first stop of a task: its text is not made, or it is not printed. -/
inductive FirstStop (task : Task) : Stop → Prop
  | work {stop : Stop} : StageStop registry env config world task stop → FirstStop task stop
  | print {notes : List Note} {after : σ} {t : Text} {fault : Fault} :
      outcome (task.work registry env config) [] world = ((.ok t, notes), after) →
      (Surroundings.print (m := StateM σ) t after).1 = .error fault →
      FirstStop task (.failure (.fault fault))

end Stops

/-! ## Where a task stops first -/

/-- A task with a policy begins with its limits and that policy. -/
theorem exists_making_eq (registry : Registry) (env : Environment) (config : Option Path) (world : σ)
    {task : Task} {path : Path} {isBundle : Bool} (asks : source? task = some (path, isBundle)) :
    ∃ rest : Limits → Policy τ × Option Bundle → Work (StateM σ) Text,
      making registry env config task world = (outcome (readLimits env config >>= fun limits =>
        readPolicy limits path isBundle >>= rest limits) [] world).1.1 := by
  cases task with
  | extract path output => cases asks
  | inspect path isBundle =>
    cases asks
    exact ⟨_, rfl⟩
  | eval query =>
    cases asks
    exact ⟨_, rfl⟩

/-- What is left of a query once it has its policy. -/
def asked (registry : Registry) (query : Query) (found : Policy τ × Option Bundle) :
    Work (StateM σ) Text := do
  let data ← readData query found.2
  let entrypoint ← chooseEntrypoint registry query found.1
  let input ← readArgument "--input" query.input
  answer registry found.1 data entrypoint input

theorem Loads.eval {query : Query} {found : Policy τ × Option Bundle} {after : σ}
    (loads : Loads env config world query.path query.bundle found notes after) :
    making registry env config (.eval query) world =
      (outcome (asked registry query found) notes after).1.1 := by
  obtain ⟨limits, kept, ready, limited, loaded⟩ := loads
  rw [making, Task.work, outcome_bind_of_ok limited, evaluate, outcome_bind_of_ok loaded]
  rfl

theorem Loads.inspect {path : Path} {isBundle : Bool} {found : Policy τ × Option Bundle} {after : σ}
    (loads : Loads env config world path isBundle found notes after)
    (failed : (outcome (inspect registry found.1) notes after).1.1 = .error stop) :
    making registry env config (.inspect path isBundle) world = .error stop := by
  obtain ⟨limits, kept, ready, limited, loaded⟩ := loads
  rw [making, Task.work, outcome_bind_of_ok limited, describe, outcome_bind_of_ok loaded]
  exact outcome_bind_of_error failed _

/-- Where there is no room for what is told, the telling of it stops. -/
theorem Loads.tooDeep {path : Path} {isBundle : Bool} {found : Policy τ × Option Bundle} {info : PolicyInfo}
    {later : List Note} {loaded after : σ} (loads : Loads env config world path isBundle found notes loaded)
    (told : outcome (Command.inspect registry found.1) notes loaded = ((.ok info, later), after))
    (deep : Room.answers < 2) :
    making registry env config (.inspect path isBundle) world = .error (.failure (.fault .tooDeep)) := by
  obtain ⟨limits, kept, ready, limited, read⟩ := loads
  obtain ⟨policy, bundle⟩ := found
  rw [making, Task.work, outcome_bind_of_ok limited, describe, outcome_bind_of_ok read, outcome_bind_of_ok told]
  cases bundle with
  | none => exact answerText_of_deep ((nesting_toMembers info).symm ▸ deep)
  | some held => exact answerText_of_deep ((nesting_withRevision info held).symm ▸ deep)

/-- The first stop of the making of a text is what the making comes to. -/
theorem StageStop.making {task : Task} (first : StageStop registry env config world task stop) :
    making registry env config task world = .error stop := by
  cases first with
  | limits asks failed =>
    obtain ⟨⟨path, isBundle⟩, asks⟩ := Option.isSome_iff_exists.mp asks
    obtain ⟨rest, made⟩ := exists_making_eq registry env config world asks
    rw [made]
    exact outcome_bind_of_error failed _
  | policy asks limited failed =>
    obtain ⟨rest, made⟩ := exists_making_eq registry env config world asks
    rw [made, outcome_bind_of_ok limited]
    exact outcome_bind_of_error failed _
  | describe loads failed => exact loads.inspect failed
  | tooDeep loads told deep => exact loads.tooDeep told deep
  | data loads named stopped =>
    rw [loads.eval]
    refine outcome_bind_of_error ?_ _
    unfold readData
    rw [named]
    exact outcome_bind_of_error (readArgument_error_iff.mpr stopped) _
  | bundleMissing loads unnamed bundled =>
    rw [loads.eval]
    refine outcome_bind_of_error ?_ _
    unfold readData
    rw [unnamed, bundled]
    rfl
  | inspect loads bound unnamed failed =>
    rw [loads.eval, asked, outcome_bind_of_ok bound]
    refine outcome_bind_of_error ?_ _
    unfold chooseEntrypoint
    rw [unnamed]
    exact outcome_bind_of_error failed _
  | entrypointMissing loads bound unnamed told default =>
    rw [loads.eval, asked, outcome_bind_of_ok bound]
    refine outcome_bind_of_error ?_ _
    unfold chooseEntrypoint
    rw [unnamed, outcome_bind_of_ok told, default]
    rfl
  | input loads bound chosen stopped =>
    rw [loads.eval, asked, outcome_bind_of_ok bound, outcome_bind_of_ok chosen]
    exact outcome_bind_of_error (readArgument_error_iff.mpr stopped) _
  | ask loads bound chosen read failed =>
    rw [loads.eval, asked, outcome_bind_of_ok bound, outcome_bind_of_ok chosen, outcome_bind_of_ok read]
    exact failed
  | bundle failed => exact outcome_bind_of_error failed _
  | directory read failed => exact unpack_of_directory read failed
  | file read made failed => exact unpack_of_file read made failed

/-- A query that has its policy stops for want of data, of an entrypoint or of input, or with the policy. -/
theorem stageStop_of_asked {query : Query} {found : Policy τ × Option Bundle} {loaded : σ}
    (loads : Loads env config world query.path query.bundle found notes loaded)
    (stopped : (outcome (asked registry query found) notes loaded).1.1 = .error stop) :
    StageStop registry env config world (.eval query) stop := by
  obtain ⟨policy, bundle⟩ := found
  rcases outcome_bind_error stopped with missing | ⟨data, kept, bound, binds, stopped⟩
  · rcases readData_error missing with ⟨given, named, unread⟩ | ⟨unnamed, bundled, rfl, rfl⟩
    · exact .data loads named unread
    · exact .bundleMissing loads unnamed bundled
  rcases outcome_bind_error stopped with missing | ⟨entrypoint, later, after, chosen, stopped⟩
  · rcases chooseEntrypoint_error missing with
      ⟨unnamed, rfl, info, later, after, told, default⟩ | ⟨unnamed, failed⟩
    · exact .entrypointMissing loads binds unnamed told default
    · obtain ⟨failure, rfl⟩ := inspect_isFailure failed
      exact .inspect loads binds unnamed failed
  rcases outcome_bind_error stopped with unread | ⟨input, last, final, read, failed⟩
  · exact .input loads binds chosen (readArgument_error_iff.mp unread)
  · obtain ⟨failure, rfl⟩ := answer_isFailure failed
    exact .ask loads binds chosen read failed

/-- A task with a policy stops before it has it, or behind that. -/
theorem stageStop_or_loads {task : Task} {path : Path} {isBundle : Bool}
    {rest : Limits → Policy τ × Option Bundle → Work (StateM σ) Text}
    (asks : source? task = some (path, isBundle))
    (work : task.work registry env config =
      readLimits env config >>= fun limits => readPolicy limits path isBundle >>= rest limits)
    (stopped : making registry env config task world = .error stop) :
    StageStop registry env config world task stop ∨
      ∃ limits found notes loaded, Loads env config world path isBundle found notes loaded ∧
        (outcome (rest limits found) notes loaded).1.1 = .error stop := by
  rw [making, work] at stopped
  rcases outcome_bind_error stopped with failed | ⟨limits, kept, ready, limited, stopped⟩
  · obtain ⟨failure, rfl⟩ := readLimits_isFailure failed
    exact .inl (.limits (Option.isSome_iff_exists.mpr ⟨_, asks⟩) failed)
  rcases outcome_bind_error stopped with failed | ⟨found, notes, loaded, read, stopped⟩
  · obtain ⟨failure, rfl⟩ := readPolicy_isFailure failed
    exact .inl (.policy asks limited failed)
  · exact .inr ⟨limits, found, notes, loaded, ⟨limits, kept, ready, limited, read⟩, stopped⟩

/-- The making of a text that stops has a first stop, which is what it comes to. -/
theorem stageStop_of_making {task : Task} (stopped : making registry env config task world = .error stop) :
    StageStop registry env config world task stop := by
  cases task with
  | extract path output =>
    rcases unpack_error stopped with
      unread | ⟨bundle, kept, after, fault, read, rfl, unmade | ⟨ready, made, unwritten⟩⟩
    · obtain ⟨failure, rfl⟩ := readBundle_isFailure unread
      exact .bundle unread
    · exact .directory read unmade
    · exact .file read made unwritten
  | inspect path isBundle =>
    rcases stageStop_or_loads rfl rfl stopped with
      first | ⟨limits, ⟨policy, bundle⟩, notes, loaded, loads, stopped⟩
    · exact first
    rcases outcome_bind_error stopped with failed | ⟨info, _, _, told, stopped⟩
    · obtain ⟨failure, rfl⟩ := inspect_isFailure failed
      exact .describe loads failed
    have keptBack : Room.answers < 2 ∧ stop = .failure (.fault .tooDeep) := by
      cases bundle with
      | none => exact nesting_toMembers info ▸ answerText_error (short_toMembers info) stopped
      | some held =>
        exact nesting_withRevision info held ▸ answerText_error (short_withRevision info held) stopped
    obtain ⟨deep, rfl⟩ := keptBack
    exact .tooDeep loads told deep
  | eval query =>
    rcases stageStop_or_loads rfl rfl stopped with first | ⟨limits, found, notes, loaded, loads, stopped⟩
    · exact first
    · exact stageStop_of_asked loads stopped

/-- The first stop of a task is what the task comes to. -/
theorem FirstStop.ending {task : Task} (first : FirstStop registry env config world task stop) :
    ending registry env config task world = .error stop := by
  cases first with
  | work first => exact outcome_bind_of_error first.making _
  | print made unprinted =>
    rw [Command.ending, Task.run, outcome_bind_of_ok made]
    refine outcome_bind_of_error ?_ _
    rw [outcome_attempt, unprinted]
    rfl

/-- A task that stops has a first stop, which is what it comes to. -/
theorem firstStop_of_ending {task : Task} (stopped : ending registry env config task world = .error stop) :
    FirstStop registry env config world task stop := by
  rcases taskRun_error stopped with failed | ⟨t, kept, after, fault, made, rfl, unprinted⟩
  · exact .work (stageStop_of_making failed)
  · exact .print made unprinted

end Endings

section

attribute [local instance] Deployment.platform Deployment.archives Wasm.engine

/-- A world of two files: bytecode without anything in it, and an octet that is no text. -/
def twoFiles : World where
  tree := ⟨[(["p.wasm"].map Text.ofString, .file [0x00, 0x61, 0x73, 0x6D, 0x01, 0x00, 0x00, 0x00]),
    (["bad.json"].map Text.ofString, .file [0xFF])], []⟩
  now := 0
  seed := 0

/-- Data that are malformed are reported. -/
example :
    (run (m := StateM World) .standard ⟨[], []⟩
      (["eval", "p.wasm", "--data", "[0xFF"].map Text.ofString) twoFiles).1.map Report.code = .ok 2 := by
  rfl

end

end PolicyHost.Command
