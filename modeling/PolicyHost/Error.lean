import PolicyHost.Files.Path
import PolicyHost.Json.Octets
import PolicyHost.Json.Writer
import PolicyHost.Sandbox.Guest
import PolicyHost.Text.Numeral

/-!
# Errors

A `PolicyError` is an error of this library, by its cause; every cause is of one `ErrorKind`. A
`Fault` is a failure that no part of the library turns into such an error. A `Failure` is either.

* `ErrorKind.name`, `ErrorKind.parent?`: the kinds and how they refine each other.
* `PolicyError.kind`, `PolicyError.message`: the kind and the wording of a cause.
* `Fault.message`, `Failure.message`: the wording of the others.
-/

namespace PolicyHost

inductive ErrorKind
  | policy
  | io
  | bundle
  | compile
  | instantiate
  | serialize
  | deserialize
  | execute
  | notFound
  | abort
  | builtin
  | faulted
  | config
deriving DecidableEq, Repr

namespace ErrorKind

def name : ErrorKind → Text
  | .policy => "policy"
  | .io => "io"
  | .bundle => "bundle"
  | .compile => "compile"
  | .instantiate => "instantiate"
  | .serialize => "serialize"
  | .deserialize => "deserialize"
  | .execute => "execute"
  | .notFound => "not_found"
  | .abort => "abort"
  | .builtin => "builtin"
  | .faulted => "faulted"
  | .config => "config"

def parent? : ErrorKind → Option ErrorKind
  | .policy => none
  | .notFound | .abort | .builtin | .faulted => some .execute
  | _ => some .policy

def lineage (kind : ErrorKind) : List ErrorKind :=
  match kind.parent? with
  | none => [kind]
  | some parent => if parent = .policy then [kind, parent] else [kind, parent, .policy]

/-- Failures of execution, which leave an instance in no state to be used. -/
def isExecution (kind : ErrorKind) : Bool := kind.lineage.contains .execute

def isLookup (kind : ErrorKind) : Bool := kind == .notFound

end ErrorKind

/-- What is wrong with hexadecimal text. -/
inductive HexFault
  | digit (position : Nat)
  | text (fault : Utf8.Malformed)
deriving DecidableEq, Repr

/-- What is wrong with the operands of a builtin, or what a builtin says of its own accord. -/
inductive OperandError
  | notString (function type : Text)
  | notObject
  | notBound
  | notObjects
  | notVersion (value : Text)
  | notHex (fault : HexFault)
  | custom (message : Text)
deriving DecidableEq

/-- Failures that no part of the library turns into an error of its own. -/
inductive Fault
  | memoryRange
  | noResult
  | tooDeep
  | unwritable (fault : Utf8.Unwritable)
  | undecodable (fault : Utf8.Malformed)
  | longInteger (digits : Nat)
  | unwritableInteger
  | numeral (fault : Numeral.Fault)
  | notNumber (type : Text)
  | nanNumber
  | infiniteNumber
  | arity
  | raised (type message : Text)
  | sourceType (type : Text)
  | textSource
  | engineAndLimits
  | file (fault : FileFault)
  | nullOctet
  | nullInName
deriving DecidableEq

/-- Errors of the library, by cause. -/
inductive PolicyError
  | unreadableFile (path : Text) (fault : FileFault)
  | unreadableStream (reason : Text)
  | malformedArchive
  | missingPolicy
  | memberJson (path : Text) (fault : Json.OctetFault)
  | memberNotObject (path : Text)
  | rootNotObject (path : Text)
  | dataConflict (path : Text)
  | keyConflict (key path : Text)
  | invalidBytecode
  | startFailed (cause : PolicyError)
  | notInstantiable (trap : Trap)
  | versionMissing
  | versionUnsupported (version : Text)
  | exportsMissing (names : List Text)
  | tablesUnreadable (cause : PolicyError)
  | tablesTrapped (trap : Trap)
  | tablesNotObjects
  | builtinsUnavailable (names : List Text)
  | dataTrapped (trap : Trap)
  | memoryMissing
  | memoryOtherKind
  | unserializable (type reason : Text)
  | unencodable (fault : Json.WriteFault)
  | documentRejected
  | resultJson (fault : Json.OctetFault)
  | resultMismatch
  | trapped (trap : Trap)
  | errorCode (code : Int)
  | growthFailed (pages : Nat)
  | guestJson (fault : Json.OctetFault)
  | unterminated (address : Int)
  | entrypointUnknown (entrypoint : Text) (available : List Text)
  | aborted (message : Text)
  | builtinUnknown (id : Int)
  | builtinUnregistered (name : Text)
  | builtinFailed (name : Text) (cause : PolicyError)
  | builtinFaulted (name : Text) (fault : Fault)
  | builtinRejected (name : Text)
  | operand (error : OperandError)
  | instanceFaulted
  | configNotTable (path : Text)
  | configUnreadable (path : Text)
  | limitBoolean (key : Text)
  | limitNotInteger (key value : Text)
  | limitNegative (key : Text)
deriving DecidableEq

/-- An error of the library, or a fault. -/
inductive Failure
  | error (error : PolicyError)
  | fault (fault : Fault)
deriving DecidableEq

def HexFault.message : HexFault → Text
  | .digit position =>
    "non-hexadecimal number found in fromhex() arg at position " ++ Text.ofNat position
  | .text fault => fault.message

def OperandError.message : OperandError → Text
  | .notString function type => function ++ ": operand must be a string, got " ++ type
  | .notObject => "urlquery.encode_object: operand must be an object"
  | .notBound => "rand.intn: n must be an integer"
  | .notObjects => "object.union_n: operand must be an array of objects"
  | .notVersion value => "semver.compare: '" ++ value ++ "' is not a valid SemVer string"
  | .notHex fault => "hex.decode: invalid input: " ++ fault.message
  | .custom message => message

def Fault.message : Fault → Text
  | .memoryRange => "index out of range"
  | .noResult => "a function of the guest gave no result"
  | .tooDeep => "maximum recursion depth exceeded"
  | .unwritable fault => fault.message
  | .undecodable fault => fault.message
  | .longInteger digits => Json.longIntegerMessage digits
  | .unwritableInteger => Json.WriteFault.longInteger.message
  | .numeral fault => fault.message
  | .notNumber type =>
    "int() argument must be a string, a bytes-like object or a real number, not '" ++ type ++ "'"
  | .nanNumber => "cannot convert float NaN to integer"
  | .infiniteNumber => "cannot convert float infinity to integer"
  | .arity => "wrong number of arguments"
  | .raised _ message => message
  | .sourceType type => "unsupported bundle source " ++ type
  | .textSource => "bundle stream must be opened in binary mode"
  | .engineAndLimits => "pass either an engine or limits, not both"
  | .file fault => fault.message
  | .nullOctet => "embedded null byte"
  | .nullInName => "mkdir: embedded null character in path"

def PolicyError.entrypointNotFound (entrypoint : Text) (available : List Text) : PolicyError :=
  .entrypointUnknown entrypoint (Text.sort available)

def commaList (names : List Text) : Text := Text.joinWith ", " names

/-- Names in a row, or a word for their absence. -/
def namesOrNone (names : List Text) : Text :=
  let row := commaList names
  if row = [] then Text.ofString "none" else row

/-- The wording for a document that a guest does not take. -/
def rejectedWords : Text := "policy module rejected JSON document"

namespace PolicyError

def kind : PolicyError → ErrorKind
  | .unreadableFile .. | .unreadableStream _ => .io
  | .malformedArchive | .missingPolicy | .memberJson .. | .memberNotObject _ | .rootNotObject _
  | .dataConflict _ | .keyConflict .. => .bundle
  | .invalidBytecode => .compile
  | .startFailed _ | .notInstantiable _ | .versionMissing | .versionUnsupported _
  | .exportsMissing _ | .tablesUnreadable _ | .tablesTrapped _ | .tablesNotObjects
  | .builtinsUnavailable _ | .dataTrapped _ | .memoryMissing | .memoryOtherKind => .instantiate
  | .unserializable .. | .unencodable _ | .documentRejected => .serialize
  | .resultJson _ | .resultMismatch => .deserialize
  | .trapped _ | .errorCode _ | .growthFailed _ | .guestJson _ | .unterminated _ => .execute
  | .entrypointUnknown .. => .notFound
  | .aborted _ => .abort
  | .builtinUnknown _ | .builtinUnregistered _ | .builtinFailed .. | .builtinFaulted ..
  | .builtinRejected _ | .operand _ => .builtin
  | .instanceFaulted => .faulted
  | .configNotTable _ | .configUnreadable _ | .limitBoolean _ | .limitNotInteger ..
  | .limitNegative _ => .config

/-- The wording of a cause. -/
def message : PolicyError → Text
  | .unreadableFile path fault => "unable to read " ++ path ++ ": " ++ fault.message
  | .unreadableStream reason => "unable to read bundle stream: " ++ reason
  | .malformedArchive => "malformed bundle archive"
  | .missingPolicy => "bundle does not contain /policy.wasm"
  | .memberJson path fault => "invalid JSON in bundle member " ++ path ++ ": " ++ fault.message
  | .memberNotObject path => "bundle member " ++ path ++ " must hold a JSON object"
  | .rootNotObject path => "root " ++ path ++ " must hold a JSON object"
  | .dataConflict path => "data conflict at " ++ path
  | .keyConflict key path => "data conflict for key '" ++ key ++ "' in " ++ path
  | .invalidBytecode => "invalid policy bytecode"
  | .startFailed cause => "module start failed: " ++ cause.message
  | .notInstantiable _ => "unable to instantiate policy module"
  | .versionMissing => "module does not export opa_wasm_abi_version"
  | .versionUnsupported version => "unsupported ABI version " ++ version ++ " (host supports 1.x)"
  | .exportsMissing names => "module is missing exports: " ++ commaList names
  | .tablesUnreadable cause => "unable to read module tables: " ++ cause.message
  | .tablesTrapped _ => "unable to read module tables"
  | .tablesNotObjects => "module builtin/entrypoint tables must be JSON objects"
  | .builtinsUnavailable names => "module requires unavailable builtins: " ++ commaList names
  | .dataTrapped _ => "unable to bind data document"
  | .memoryMissing => "module does not import env.memory"
  | .memoryOtherKind => "env.memory import is not a memory"
  | .unserializable type reason => "value of type " ++ type ++ " is not serializable: " ++ reason
  | .unencodable fault => "value cannot be encoded as JSON: " ++ fault.message
  | .documentRejected => rejectedWords
  | .resultJson fault => "sandbox returned invalid JSON: " ++ fault.message
  | .resultMismatch => "result does not match"
  | .trapped _ => "policy trapped"
  | .errorCode code => "policy evaluation returned error code " ++ Text.ofInt code
  | .growthFailed pages => "unable to grow policy memory by " ++ Text.ofNat pages ++ " pages"
  | .guestJson fault => "policy module produced invalid JSON: " ++ fault.message
  | .unterminated address => "unterminated string at address " ++ Text.ofInt address
  | .entrypointUnknown entrypoint available =>
    "unknown entrypoint '" ++ entrypoint ++ "' (available: "
      ++ namesOrNone available ++ ")"
  | .aborted message => message
  | .builtinUnknown id => "unknown builtin id " ++ Text.ofInt id
  | .builtinUnregistered name => "builtin '" ++ name ++ "' is not registered"
  | .builtinFailed name cause => "builtin '" ++ name ++ "' failed: " ++ cause.message
  | .builtinFaulted name .arity => "builtin '" ++ name ++ "' failed"
  | .builtinFaulted name fault => "builtin '" ++ name ++ "' failed: " ++ fault.message
  | .builtinRejected name =>
    "builtin '" ++ name ++ "' result rejected: " ++ rejectedWords
  | .operand error => error.message
  | .instanceFaulted => "policy instance faulted during a previous evaluation"
  | .configNotTable path => "[runtime] in " ++ path ++ " must be a table"
  | .configUnreadable path => "unable to read config at " ++ path
  | .limitBoolean key => "'" ++ key ++ "' must be an integer"
  | .limitNotInteger key value => "'" ++ key ++ "' must be an integer, got " ++ value
  | .limitNegative key => "'" ++ key ++ "' cannot be negative"

/-- The fuel of a run was used up. -/
def isOutOfFuel : PolicyError → Bool
  | .notInstantiable trap | .tablesTrapped trap | .dataTrapped trap | .trapped trap => trap == .fuel
  | .startFailed cause | .tablesUnreadable cause | .builtinFailed _ cause => cause.isOutOfFuel
  | _ => false

end PolicyError

def Failure.message : Failure → Text
  | .error cause => cause.message
  | .fault other => other.message

instance : Coe PolicyError Failure := ⟨Failure.error⟩

/-- What is thrown where a document is not read: a limit of the reader is a fault, all else an error
of the library, worded by `wrap`. -/
def Json.OctetFault.failure (wrap : Json.OctetFault → PolicyError) : Json.OctetFault → Failure
  | .text (.longInteger digits) => .fault (.longInteger digits)
  | .text .tooDeep => .fault .tooDeep
  | fault => .error (wrap fault)

def Json.encode (value : Json) : Except Failure Bytes := do
  match Json.compact ⟨Json.plainPoint, true⟩ value with
  | .error fault => .error (Failure.error (.unencodable fault))
  | .ok t =>
    match Utf8.encode t with
    | .error fault => .error (.fault (.unwritable fault))
    | .ok bytes => .ok bytes

end PolicyHost
