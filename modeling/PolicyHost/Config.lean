import PolicyHost.Files.Basic
import PolicyHost.Limits
import PolicyHost.Toml.Reader

/-!
# Configuration

Limits come from two layers: a table of a configuration file, and variables of the environment. A
variable that is not blank decides over the entry of the file. Each limit is taken on its own, and
only once both layers lie on each other.

* `Config.defaultPath`: where the file is unless somebody says otherwise.
* `Config.settings`: the layers on each other.
* `Config.limits`: what settings stand for.
* `Config.load`: the limits of a file and an environment.
-/

namespace PolicyHost

abbrev Variables := Table Text Text

/-- What surrounds a process: its variables, and the directory where its user keeps the configuration
of the program. -/
structure Environment where
  «variables» : Variables
  directory : Text

namespace Config

/-- What may be set. -/
inductive Setting
  | fuel
  | memory
deriving DecidableEq, Repr

namespace Setting

def name : Setting → Text
  | .fuel => "fuel"
  | .memory => "max_memory_bytes"

def variableName : Setting → Text
  | .fuel => "OPA_EMBED_FUEL"
  | .memory => "OPA_EMBED_MAX_MEMORY_BYTES"

def all : List Setting := [.fuel, .memory]

end Setting

def pathVariable : Text := "OPA_EMBED_CONFIG"

def tableName : Text := "runtime"

/-- The value of a variable without the blanks around it, unless nothing is left. -/
def valueOf? (vars : Variables) (name : Text) : Option Text :=
  let value := Text.trimBoth CodePoint.isBlank ((vars.get? name).getD [])
  if value = [] then none else some value

/-- Where the file is unless somebody says otherwise. -/
def defaultPath (env : Environment) : Path := (Path.ofText env.directory).child "config.toml"

/-- Where the file is: at the path that is given, or that a variable names, or at the default. -/
def pathOf (env : Environment) (vars : Variables) (given : Option Path) : Path :=
  match given, valueOf? vars pathVariable with
  | some path, _ => path
  | none, some named => Path.ofText named
  | none, none => defaultPath env

def filed (table : Toml.Members) : Table Setting Toml :=
  Setting.all.filterMap fun s => (table.get? s.name).map fun value => (s, value)

def overriding (vars : Variables) : Table Setting Toml :=
  Setting.all.filterMap fun s =>
    (valueOf? vars s.variableName).map fun value => (s, .string value)

def settings (table : Toml.Members) (vars : Variables) : Table Setting Toml :=
  (overriding vars).foldl (fun t entry => t.put entry.1 entry.2) (filed table)

def faultOf (path : Path) : Toml.Fault → Failure
  | .malformed => .error (.configUnreadable path.toText)
  | .longInteger digits => .fault (.longInteger digits)
  | .unwritableInteger => .fault .unwritableInteger
  | .tooDeep => .fault .tooDeep

variable [Room]

def refuse (s : Setting) (value : Toml) : Failure :=
  match value.quoted with
  | .ok words => .error (.limitNotInteger s.name words)
  | .error .tooDeep => .fault .tooDeep
  | .error _ => .fault .unwritableInteger

def integerOf (s : Setting) (value : Toml) : Except Failure Int :=
  match value with
  | .bool _ => .error (Failure.error (.limitBoolean s.name))
  | .int n => .ok n
  | .float x =>
    if x.isNaN then .error (refuse s value)
    else if x.isInf then .error (.fault .infiniteNumber)
    else .ok (Json.truncate x)
  | .string t =>
    match Numeral.read t with
    | .ok n => .ok n
    | .error _ => .error (refuse s value)
  | _ => .error (refuse s value)

def limitOf (s : Setting) (value : Toml) : Except Failure Int := do
  let n ← integerOf s value
  if n < 0 then .error (Failure.error (.limitNegative s.name)) else return n

def set (l : Limits) (s : Setting) (n : Int) : Limits :=
  match s with
  | .fuel => { l with fuel := some n }
  | .memory => { l with memory := some n }

def limits (given : Table Setting Toml) : Except Failure Limits :=
  given.foldlM (fun l entry => do return set l entry.1 (← limitOf entry.1 entry.2)) Limits.none

def document (path : Path) (contents : Bytes) : Except Failure Toml.Members :=
  match Utf8.decode contents with
  | .error fault => .error (.fault (.undecodable fault))
  | .ok t => (Toml.read t).mapError (faultOf path)

/-- The table of a document that holds the settings; without it there are none. -/
def tableOf (path : Path) (members : Toml.Members) : Except Failure Toml.Members :=
  match members.get? tableName with
  | none => .ok []
  | some (.table inner) => .ok inner
  | some _ => .error (Failure.error (.configNotTable path.toText))

/-- The limits of a file, of which `contents` are the octets, under the variables of an
environment. -/
def limitsOf (path : Path) (contents : Option Bytes) (vars : Variables) :
    Except Failure Limits := do
  let members ← match contents with
    | some bytes => document path bytes
    | none => .ok []
  limits (settings (← tableOf path members) vars)

variable {m : Type → Type} [Monad m] [Files m]

/-- The octets of the file at a path, if it is there. -/
def contentsAt (path : Path) : m (Except Failure (Option Bytes)) := do
  match ← Files.exists? path with
  | .error fault => return .error (.fault fault)
  | .ok false => return .ok none
  | .ok true =>
    match ← Files.read path with
    | .ok contents => return .ok (some contents)
    | .error (.file _) => return .error (Failure.error (.configUnreadable path.toText))
    | .error fault => return .error (.fault fault)

/-- The limits of the file at a path and of variables. Where neither is given, the process says
where the file is. -/
def load (env : Environment) (vars : Variables) (given : Option Path) :
    m (Except Failure Limits) := do
  let path := pathOf env vars given
  match ← contentsAt path with
  | .error failure => return .error failure
  | .ok contents => return limitsOf path contents vars

end Config

end PolicyHost
