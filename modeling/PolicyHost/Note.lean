import PolicyHost.Error
import PolicyHost.Sandbox.Version

/-!
# Notes

What the library reports while it works, by its cause, for whoever keeps a log.

* `Note`: the causes.
* `Note.level`, `Note.source`, `Note.message`: how much a note matters, which part of the library it
  comes from, and its wording.
-/

namespace PolicyHost

/-- How much a note matters. -/
inductive Level
  | debug
  | info
  | warning
deriving DecidableEq, Repr

/-- What the library reports. -/
inductive Note
  | compiled (octets : Nat)
  | loaded (digest : Text) (octets : Nat)
  | instantiated (version : AbiVersion) (entrypoints builtins : Nat)
  | built (digest : Text) (hasData : Bool)
  | printed (message : Text)
  | aborted (message : Text)
  | evaluated (entrypoint : Text) (octets : Nat)
  | evaluationCancelled (entrypoint : Text)
  | evaluationFailed (entrypoint : Text) (cause : PolicyError)
  | bundleParsed (octets : Nat) (revision : Text)

namespace Note

/-- How many digits of a digest a note repeats. -/
def digestDigits : Nat := 12

def level : Note → Level
  | .printed _ => .info
  | .evaluationCancelled _ | .evaluationFailed .. => .warning
  | _ => .debug

/-- The part of the library that a note comes from. -/
def source : Note → Text
  | .compiled _ => "opa_embed.engine"
  | .loaded .. | .built .. => "opa_embed.module"
  | .instantiated .. | .printed _ | .aborted _ => "opa_embed.abi"
  | .evaluated .. | .evaluationCancelled _ | .evaluationFailed .. => "opa_embed.policy"
  | .bundleParsed .. => "opa_embed.bundle"

def truth (b : Bool) : Text := if b then Text.ofString "True" else Text.ofString "False"

def message : Note → Text
  | .compiled octets => "compiled module bytes=" ++ Text.ofNat octets
  | .loaded digest octets =>
    "loaded policy module digest=" ++ digest.take digestDigits ++ " bytes=" ++ Text.ofNat octets
  | .instantiated version entrypoints builtins =>
    "instantiated policy abi=" ++ version.toText ++ " entrypoints=" ++ Text.ofNat entrypoints
      ++ " builtins=" ++ Text.ofNat builtins
  | .built digest hasData =>
    "built policy instance digest=" ++ digest.take digestDigits ++ " has_data=" ++ truth hasData
  | .printed message => "policy: " ++ message
  | .aborted message => "policy aborted: " ++ message
  | .evaluated entrypoint octets =>
    "evaluated " ++ entrypoint ++ " result_bytes=" ++ Text.ofNat octets
  | .evaluationCancelled entrypoint =>
    "evaluation of " ++ entrypoint ++ " cancelled; instance faulted"
  | .evaluationFailed entrypoint cause =>
    "evaluation of " ++ entrypoint ++ " failed; instance faulted: " ++ cause.message
  | .bundleParsed octets revision =>
    "parsed bundle policy_bytes=" ++ Text.ofNat octets ++ " revision=" ++ revision

end Note

def Level.name : Level → Text
  | .debug => "DEBUG"
  | .info => "INFO"
  | .warning => "WARNING"

end PolicyHost
