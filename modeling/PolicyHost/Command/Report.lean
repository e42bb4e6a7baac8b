import PolicyHost.Command.Request
import PolicyHost.Json.Reader
import PolicyHost.Note

/-!
# Reports

What a run of the command line leaves behind: notes, and how it ended.

* `Misuse`: arguments that turn out to be of no use only while the command runs.
* `Ending`, `Report`: how a run ends.
* `Report.code`, `Report.output`, `Report.complaints`: what the caller gets to see.
-/

namespace PolicyHost.Command

/-- An argument that cannot be used. -/
inductive Misuse
  | invalidJson (option : Text) (fault : Json.ReadFault)
  | unreadable (option given : Text) (fault : FileFault)
  | bundleMissing
  | entrypointMissing
deriving DecidableEq

def Misuse.message : Misuse → Text
  | .invalidJson option fault => option ++ ": invalid JSON: " ++ fault.message
  | .unreadable option given fault =>
    option ++ ": unable to read " ++ given ++ ": " ++ fault.message
  | .bundleMissing => "--bundle-data requires a bundle"
  | .entrypointMissing => "module has no default entrypoint; pass --entrypoint"

/-- How a run ends: with output, with a command line that asks for nothing, with an error of the
library, or with an argument of no use. -/
inductive Ending
  | printed (output : Text)
  | refused (refusal : Refusal)
  | failed (error : PolicyError)
  | misused (misuse : Misuse)

/-- The notes of a run, and how it ended. -/
structure Report where
  notes : List Note
  ending : Ending

def usage : Text :=
  "usage: opa-embed [-h] [--version] [--config CONFIG] [-v] \x7binspect,eval,extract\x7d ...\n"

def help : Text :=
  usage
  ++ "\nEvaluate OPA WebAssembly policies in-process.\n\n"
  ++ "  inspect PATH [--bundle]\n"
  ++ "  eval PATH [-e ENTRYPOINT] [--input JSON] [--data JSON] [--bundle-data] [--bundle]\n"
  ++ "  extract PATH -o OUTPUT\n"

def asLine (t : Text) : Text := t ++ "\n"

namespace Report

def code (r : Report) : Nat :=
  match r.ending with
  | .printed _ => 0
  | .failed _ => 1
  | .refused _ | .misused _ => 2

def output (r : Report) : Text :=
  match r.ending with
  | .printed t => t
  | _ => []

def noteLine (n : Note) : Text := asLine (n.level.name ++ " " ++ n.source ++ ": " ++ n.message)

/-- What is said about the ending. -/
def verdict (r : Report) : Text :=
  match r.ending with
  | .printed _ => []
  | .refused refusal => usage ++ asLine refusal.message
  | .failed error => asLine ("error[" ++ error.kind.name ++ "]: " ++ error.message)
  | .misused misuse => asLine ("error: " ++ misuse.message)

/-- What goes beside the output: the notes as a log, and what is said about the ending. -/
def complaints (r : Report) : Text := r.notes.flatMap noteLine ++ r.verdict

end Report

end PolicyHost.Command
