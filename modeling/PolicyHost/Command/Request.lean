import PolicyHost.Command.Grammar
import PolicyHost.Files.Path

/-!
# Requests

What the command line asks for: help, the version, or one of three commands with its options.

* `Request`: what is asked for.
* `Request.read`: from arguments.
* `Refusal.message`: the wording for a command line that asks for nothing.
-/

namespace PolicyHost.Command

/-- The options. -/
inductive Label
  | help
  | version
  | config
  | verbose
  | bundle
  | entrypoint
  | input
  | data
  | bundleData
  | output
deriving DecidableEq, Repr

/-- An evaluation: where the policy is, and what it is asked with which data. -/
structure Query where
  path : Path
  bundle : Bool
  entrypoint : Option Text
  input : Text
  data : Option Text
  bundleData : Bool

/-- What is to be done. -/
inductive Task
  | inspect (path : Path) (bundle : Bool)
  | eval (query : Query)
  | extract (path output : Path)

/-- What a command line asks for. -/
inductive Request
  | help
  | version
  | run (verbose : Bool) (config : Option Path) (task : Task)

/-- A command line that asks for nothing: the program that refuses it, and why. -/
structure Refusal where
  program : Text
  problem : Problem

def Refusal.message (r : Refusal) : Text := r.program ++ ": error: " ++ r.problem.message

def programName : Text := "opa-embed"

def versionNumber : Text := "0.1.0"

/-- An option without a value. -/
def flag (label : Label) (names : List String) : Switch Label :=
  ⟨label, names.map Text.ofString, false, false⟩

def valued (label : Label) (names : List String) (required : Bool) : Switch Label :=
  ⟨label, names.map Text.ofString, true, required⟩

def helpSwitch : Switch Label := flag .help ["-h", "--help"]

def commandNames : List Text := ["inspect", "eval", "extract"].map Text.ofString

/-- What stands before a command. -/
def mainGrammar : Grammar Label where
  program := programName
  switches := [helpSwitch, flag .version ["--version"], valued .config ["--config"] false,
    flag .verbose ["-v", "--verbose"]]
  operand := .choice "command" commandNames

def commandGrammar (name : Text) (switches : List (Switch Label)) : Grammar Label where
  program := programName ++ " " ++ name
  switches := helpSwitch :: switches
  operand := .word "path"

/-- What stands behind `inspect`. -/
def inspectGrammar : Grammar Label := commandGrammar "inspect" [flag .bundle ["--bundle"]]

/-- What stands behind `eval`. -/
def evalGrammar : Grammar Label :=
  commandGrammar "eval"
    [valued .entrypoint ["-e", "--entrypoint"] false, valued .input ["--input"] false,
     valued .data ["--data"] false, flag .bundleData ["--bundle-data"], flag .bundle ["--bundle"]]

/-- What stands behind `extract`. -/
def extractGrammar : Grammar Label :=
  commandGrammar "extract" [valued .output ["-o", "--output"] true]

/-- An option has been given. -/
def has (sayings : List (Saying Label)) (label : Label) : Bool :=
  sayings.any fun
    | .flag other => other = label
    | _ => false

/-- The value of an option: the last one counts. -/
def valueOf? (sayings : List (Saying Label)) (label : Label) : Option Text :=
  (sayings.filterMap fun
    | .value other given => if other = label then some given else none
    | _ => none).getLast?

def pathOf (sayings : List (Saying Label)) : Path :=
  Path.ofText ((sayings.findSome? fun
    | .word given => some given
    | _ => none).getD [])

/-- The task that arguments behind a command stand for. -/
def inspectTask (sayings : List (Saying Label)) : Task :=
  .inspect (pathOf sayings) (has sayings .bundle)

/-- The task that arguments behind a command stand for. -/
def evalTask (sayings : List (Saying Label)) : Task :=
  .eval ⟨pathOf sayings, has sayings .bundle, valueOf? sayings .entrypoint,
    (valueOf? sayings .input).getD "null", valueOf? sayings .data, has sayings .bundleData⟩

/-- The task that arguments behind a command stand for. -/
def extractTask (sayings : List (Saying Label)) : Task :=
  .extract (pathOf sayings) (Path.ofText ((valueOf? sayings .output).getD []))

/-- The commands: their names, their grammars and their tasks. -/
def commands : List (Text × Grammar Label × (List (Saying Label) → Task)) :=
  commandNames.zip [(inspectGrammar, inspectTask), (evalGrammar, evalTask),
    (extractGrammar, extractTask)]

/-- What a part of a command line comes to: help ends it where it is asked for, and a problem where
it arises. -/
inductive Part
  | help
  | refused (refusal : Refusal)
  | said (sayings : List (Saying Label)) (extras : List Text)

def readPart (g : Grammar Label) (arguments : List Text) : Part :=
  let parsed := g.parse arguments
  if has parsed.sayings .help then .help
  else
    match parsed.problem with
    | some problem => .refused ⟨g.program, problem⟩
    | none => .said parsed.sayings parsed.extras

/-- The command that has been chosen, and the arguments behind it. -/
def chosen? (sayings : List (Saying Label)) : Option (Text × List Text) :=
  sayings.findSome? fun
    | .choice name rest => some (name, rest)
    | _ => none

/-- What the options before a command ask for, with the task behind it if there is one. -/
def Request.of (sayings : List (Saying Label)) (task : Option Task) : Request :=
  match has sayings .version, task with
  | true, _ => .version
  | false, none => .help
  | false, some task => .run (has sayings .verbose) ((valueOf? sayings .config).map Path.ofText) task

/-- A request, unless something is left over. -/
def Request.unless (extras : List Text) (request : Request) : Except Refusal Request :=
  if extras = [] then .ok request else .error ⟨programName, .unknown extras⟩

/-- What a command line asks for. -/
def Request.read (arguments : List Text) : Except Refusal Request :=
  if arguments = [] then .ok .help
  else
    match readPart mainGrammar arguments with
    | .help => .ok .help
    | .refused refusal => .error refusal
    | .said sayings extras =>
      match chosen? sayings with
      | none => Request.unless extras (.of sayings none)
      | some (name, rest) =>
        match commands.find? fun c => c.1 = name with
        | none => Request.unless extras (.of sayings none)
        | some (_, g, task) =>
          match readPart g rest with
          | .help => .ok .help
          | .refused refusal => .error refusal
          | .said inner more => Request.unless (extras ++ more) (.of sayings (some (task inner)))

end PolicyHost.Command
