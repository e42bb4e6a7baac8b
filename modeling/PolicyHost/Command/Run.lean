import PolicyHost.Bundle.Basic
import PolicyHost.Command.Report
import PolicyHost.Config
import PolicyHost.Policy
import PolicyHost.Surroundings

/-!
# Running requests

A run does one task step by step; the first step that fails ends it. Notes are kept on the way, and
they stay when a step fails.

* `Work`: the steps of a run.
* `Task.work`, `Task.run`: doing a task, and printing its text.
* `run`: from arguments to a report.
-/

namespace PolicyHost.Command

/-- What ends a run early. -/
inductive Stop
  | failure (failure : Failure)
  | misuse (misuse : Misuse)

/-- Steps that keep notes and may end the run. -/
abbrev Work (m : Type → Type) := ExceptT Stop (StateT (List Note) m)

namespace Work

variable {m : Type → Type} [Monad m] {α : Type}

def lift (step : m α) : Work m α :=
  ExceptT.lift (StateT.lift step)

def keep (notes : List Note) : Work m Unit := modify (· ++ notes)

def ofExcept (result : Except Failure α) : Work m α :=
  match result with
  | .ok value => pure value
  | .error reason => throw (.failure reason)

def noted (result : Except Failure α × List Note) : Work m α := do
  keep result.2
  ofExcept result.1

def attempt (step : m (Except Fault α)) : Work m α := do
  ofExcept ((← lift step).mapError Failure.fault)

end Work

variable {m : Type → Type} [Monad m] [Surroundings m] {τ : Type}

section

variable [Room]

def bundleEndings : List Text := [".tar.gz", ".tgz"].map Text.ofString

def namesBundle (path : Path) : Bool := bundleEndings.any fun ending => path.name.endsWith ending

def readBundle [Archives] (path : Path) : Work m Bundle := do
  let contents ← Work.ofExcept (← Work.lift (Files.contents path))
  let bundle ← Work.ofExcept (Bundle.parse contents)
  Work.keep [bundle.note]
  return bundle

/-- The policy in a file, which may be a bundle. -/
def readPolicy [Archives] [Engine τ] (limits : Limits) (path : Path) (isBundle : Bool) :
    Work m (Policy τ × Option Bundle) := do
  if isBundle || namesBundle path then
    let bundle ← readBundle path
    return (← Work.noted (Policy.load limits bundle.policy), some bundle)
  else
    let contents ← Work.ofExcept (← Work.lift (Files.contents path))
    return (← Work.noted (Policy.load limits contents), none)

/-- A JSON value over several lines, in ASCII, with names in ascending order. -/
def printed (value : Json) : Except Failure Text :=
  match Json.indented ⟨Json.asciiPoint, false⟩ 0 value with
  | .ok t => .ok (asLine t)
  | .error _ => .error (.fault .unwritableInteger)

/-- An answer over several lines, if there is room for it. -/
def answerText (value : Json) : Except Failure Text :=
  if Room.answers < value.nesting then .error (.fault .tooDeep) else printed value

def unifyBreaks : Text → Text
  | [] => []
  | c :: rest =>
    if c = '\r' then
      match rest with
      | d :: more => '\n' :: (if d = '\n' then unifyBreaks more else unifyBreaks (d :: more))
      | [] => ['\n']
    else c :: unifyBreaks rest

def readText (option given : Text) : Work m Text := do
  match ← Work.lift (Files.read (Path.ofText given)) with
  | .error (.file fault) => throw (.misuse (.unreadable option given fault))
  | .error fault => throw (.failure (.fault fault))
  | .ok contents =>
    match Utf8.decode contents with
    | .error fault => throw (.failure (.fault (.undecodable fault)))
    | .ok t => return unifyBreaks t

/-- The JSON of an argument: what it holds, or what the file holds that it names behind an at
sign. -/
def readArgument (option given : Text) : Work m Json := do
  let t ← match given with
    | c :: rest => if c = '@' then readText option rest else pure given
    | [] => pure given
  match Json.readUnmarked t with
  | .ok value => return value
  | .error (.longInteger digits) => throw (.failure (.fault (.longInteger digits)))
  | .error .tooDeep => throw (.failure (.fault .tooDeep))
  | .error fault => throw (.misuse (.invalidJson option fault))

/-- The data of a query: those that are given, or those of the bundle, or none. -/
def readData (query : Query) (bundle : Option Bundle) : Work m (Option Value) := do
  match query.data, query.bundleData, bundle with
  | some given, _, _ => return some (.ofJson (← readArgument "--data" given))
  | none, true, some b => return some (.ofJson (.object b.data))
  | none, true, none => throw (.misuse .bundleMissing)
  | none, false, _ => return none

/-- Writes the policy of a bundle into a file of its own: the text that says so. -/
def unpack [Archives] (path output : Path) : Work m Text := do
  let bundle ← readBundle path
  Work.attempt (Files.makeDirectories output.parent)
  Work.attempt (Files.write output bundle.policy)
  return asLine ("wrote " ++ Text.ofNat bundle.policy.length ++ " bytes to " ++ output.toText)

def readLimits (env : Environment) (config : Option Path) : Work m Limits := do
  Work.ofExcept (← Work.lift (Config.load env env.«variables» config))

end

variable [Engine τ] [Platform] [Archives]

def inspect (registry : Registry) (policy : Policy τ) : Work m PolicyInfo := do
  let ambient ← Work.lift Surroundings.ambient
  Work.noted (policy.inspect registry ambient)

/-- The entrypoint of a query: the one that is given, or that of the policy. -/
def chooseEntrypoint (registry : Registry) (query : Query) (policy : Policy τ) : Work m Text := do
  match query.entrypoint with
  | some entrypoint => return entrypoint
  | none =>
    match (← inspect registry policy).defaultEntrypoint with
    | some entrypoint => return entrypoint
    | none => throw (.misuse .entrypointMissing)

def answered : Outcome → Except Failure Json
  | .returned value =>
    match value.asJson? with
    | some json => .ok json
    | none => .error (.fault .noResult)
  | .failed reason => .error reason
  | .cancelled => .error (.fault .noResult)

/-- Asks a policy: the text that its answer has. -/
def evaluate (registry : Registry) (limits : Limits) (query : Query) : Work m Text := do
  let (policy, bundle) ← readPolicy limits query.path query.bundle
  let data ← readData query bundle
  let entrypoint ← chooseEntrypoint registry query policy
  let input ← readArgument "--input" query.input
  let first ← Work.lift Surroundings.ambient
  let second ← Work.lift Surroundings.ambient
  let (outcome, notes) := policy.evaluate registry first second data ⟨entrypoint, .ofJson input, none⟩
  let result ← Work.noted (answered outcome, notes)
  Work.ofExcept (answerText result)

/-- Tells what a policy is: the text that says so. -/
def describe (registry : Registry) (limits : Limits) (path : Path) (isBundle : Bool) :
    Work m Text := do
  let (policy, bundle) ← readPolicy limits path isBundle
  let members := (← inspect registry policy).toMembers
  let all := match bundle with
    | some b => Table.put (Text.ofString "revision") (Json.ofText? b.revision?) members
    | none => members
  Work.ofExcept (answerText (.object all))

/-- Does a task: the text that is to be printed. -/
def Task.work (registry : Registry) (env : Environment) (config : Option Path) :
    Task → Work m Text
  | .extract path output => unpack path output
  | .inspect path isBundle => do describe registry (← readLimits env config) path isBundle
  | .eval query => do evaluate registry (← readLimits env config) query

/-- Does a task and prints its text. -/
def Task.run (registry : Registry) (env : Environment) (config : Option Path) (task : Task) :
    Work m Text := do
  let t ← task.work registry env config
  Work.attempt (Surroundings.print t)
  return t

def shownNotes (verbose : Bool) (notes : List Note) : List Note :=
  notes.filter fun n => verbose || n.level = .warning

/-- The report on work that has come to its end. A fault is not reported, but passed on. -/
def reportOf (verbose : Bool) (result : Except Stop Text) (notes : List Note) :
    Except Fault Report :=
  let shown := shownNotes verbose notes
  match result with
  | .ok t => .ok ⟨shown, .printed t⟩
  | .error (.failure (.error error)) => .ok ⟨shown, .failed error⟩
  | .error (.misuse misuse) => .ok ⟨shown, .misused misuse⟩
  | .error (.failure (.fault fault)) => .error fault

def announce (t : Text) : m (Except Fault Report) := do
  match ← Surroundings.print t with
  | .error fault => return .error fault
  | .ok () => return .ok ⟨[], .printed t⟩

def run (registry : Registry) (env : Environment) (arguments : List Text) :
    m (Except Fault Report) := do
  match Request.read arguments with
  | .error refusal => return .ok ⟨[], .refused refusal⟩
  | .ok .help => announce help
  | .ok .version => announce (asLine (programName ++ " v" ++ versionNumber))
  | .ok (.run verbose config task) =>
    let work : Work m Text := task.run registry env config
    let (result, notes) ← (work.run).run []
    return reportOf verbose result notes

end PolicyHost.Command
