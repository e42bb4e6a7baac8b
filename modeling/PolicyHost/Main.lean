import PolicyHost.Builtin.Standard
import PolicyHost.Command.Run
import PolicyHost.Deployment.Standard
import Std.Time.DateTime.Timestamp

/-!
# The command line

Runs requests in the surroundings of the machine: its files, its clock and its source of random
numbers.
-/

namespace PolicyHost.Machine

/-- The number of a reason why the machine refuses a file. -/
def reasonOfCode (code : Nat) : FileReason :=
  ([FileReason.notFound, .exists, .notDirectory, .isDirectory, .nameTooLong, .forbidden].find?
    fun reason => reason.words.1 = code).getD .other

/-- Why the machine refuses a file. -/
def reasonOf : IO.Error → FileReason
  | .noFileOrDirectory .. => .notFound
  | .alreadyExists .. => .exists
  | .inappropriateType _ code _ | .invalidArgument _ code _ | .resourceExhausted _ code _
  | .noSuchThing _ code _ => reasonOfCode code.toNat
  | .permissionDenied .. => .forbidden
  | _ => .other

def nameOf (p : Path) : Except Fault String :=
  match p.octets, Text.toString? p.toText with
  | .error fault, _ => .error fault
  | .ok _, some name => .ok name
  | .ok _, none => .error (.file ⟨.notFound, p.toText⟩)

def withFile {α : Type} (p : Path) (action : String → IO α) : IO (Except Fault α) := do
  match nameOf p with
  | .error fault => return .error fault
  | .ok name =>
    try return .ok (← action name)
    catch error => return .error (.file ⟨reasonOf error, p.toText⟩)

/-- What the file at a name is. Only a directory holds itself. -/
def kindOf (name : String) : IO FileKind := do
  try
    let _ ← IO.FS.realPath (name ++ "/.")
    return .directory
  catch _ =>
    let _ ← IO.FS.realPath name
    return .file

/-- The number that octets spell, most significant first. -/
def numberOf (octets : ByteArray) : Nat := octets.foldl (fun n b => n * 256 + b.toNat) 0

def seedOctets : USize := 32

/-- What surrounds the next evaluation. -/
def ambient : IO Ambient := do
  let now ← Std.Time.Timestamp.now
  let seed ← IO.getRandomBytes seedOctets
  return ⟨now.toNanosecondsSinceUnixEpoch.val, ⟨numberOf seed, 0⟩⟩

/-- A text for a terminal; what it cannot show becomes a question mark. -/
def shown (t : Text) : String :=
  String.ofList (t.map fun (c : CodePoint) => if c.isSurrogate then '?' else Char.ofNat c.val)

def print (t : Text) : IO (Except Fault Unit) := do
  match Utf8.encode t with
  | .error fault => return .error (.unwritable fault)
  | .ok _ =>
    try
      IO.print (shown t)
      return .ok ()
    catch error => return .error (.file ⟨reasonOf error, []⟩)

instance : Surroundings IO where
  kind p := withFile p kindOf
  read p := withFile p fun name => do return (← IO.FS.readBinFile name).toList
  write p contents := withFile p fun name => IO.FS.writeBinFile name ⟨contents.toArray⟩
  makeDirectory p := do
    match ← withFile p fun name => IO.FS.createDir name with
    | .error .nullOctet => return .error .nullInName
    | result => return result
  ambient := ambient
  print := print

def variableNames : List String :=
  ["HOME", "XDG_CONFIG_HOME", "OPA_EMBED_CONFIG", "OPA_EMBED_FUEL", "OPA_EMBED_MAX_MEMORY_BYTES"]

def environment : IO Environment := do
  let entries ← variableNames.filterMapM fun name => do
    return (← IO.getEnv name).map fun value => (Text.ofString name, Text.ofString value)
  return ⟨entries, Deployment.userDirectory entries "~"⟩

end PolicyHost.Machine

attribute [local instance] PolicyHost.Deployment.platform PolicyHost.Deployment.archives
  PolicyHost.Wasm.engine

open PolicyHost in
def main (arguments : List String) : IO UInt32 := do
  let env ← Machine.environment
  let result ← (Command.run .standard env (arguments.map Text.ofString) : IO (Except Fault Command.Report))
  match result with
  | .ok report =>
    IO.eprint (Machine.shown report.complaints)
    return report.code.toUInt32
  | .error fault =>
    IO.eprintln (Machine.shown fault.message)
    return 1
