import PolicyHost.Error

/-!
# Files

What a program does with files, whatever holds them.

* `Files`: the operations that a store of files has to offer.
* `exists?`, `contents`, `makeDirectories`: what is done with them.
* `Path.octets`: the name that a store goes by.
-/

namespace PolicyHost

/-- What a path leads to. -/
inductive FileKind
  | file
  | directory
deriving DecidableEq, Repr

/-- A store of files: what a path leads to, reading, writing, and making a directory in one that is
there already. -/
class Files (m : Type → Type) where
  kind : Path → m (Except Fault FileKind)
  read : Path → m (Except Fault Bytes)
  write : Path → Bytes → m (Except Fault Unit)
  makeDirectory : Path → m (Except Fault Unit)

namespace Path

/-- Octets that are no text stand in paths as halves of surrogate pairs from here on, which is
U+DC80 for the octet 128. -/
def octetHalf (c : CodePoint) : Bool := 0xDC80 ≤ c.val && c.val ≤ 0xDCFF

def pointOctets (c : CodePoint) : Bytes :=
  if octetHalf c then [(c.val - 0xDC00).toUInt8] else Utf8.encodePoint c

/-- Other surrogates, which no path can hold. -/
def unwritable? (t : Text) : Option Utf8.Unwritable :=
  let bad := fun (c : CodePoint) => c.isSurrogate && !octetHalf c
  let before := t.takeWhile fun c => !bad c
  match t.drop before.length with
  | [] => none
  | c :: rest => some ⟨c, before.length, 1 + (rest.takeWhile CodePoint.isSurrogate).length⟩

/-- The octets that a store of files knows a path by. -/
def octets (p : Path) : Except Fault Bytes :=
  let t := p.toText
  match unwritable? t with
  | some fault => .error (.unwritable fault)
  | none =>
    let bytes := t.flatMap pointOctets
    if bytes.contains 0 then .error .nullOctet else .ok bytes

end Path

namespace FileReason

/-- A path that leads nowhere, rather than one that is not to be followed. -/
def isAbsence : FileReason → Bool
  | .notFound | .notDirectory => true
  | _ => false

end FileReason

namespace Files

variable {m : Type → Type} [Monad m] [Files m]

/-- Whether a path leads anywhere. What can be no path leads nowhere. -/
def exists? (p : Path) : m (Except Fault Bool) := do
  match ← Files.kind p with
  | .ok _ => return .ok true
  | .error (.file fault) => return if fault.reason.isAbsence then .ok false else .error (.file fault)
  | .error (.nullOctet) | .error (.unwritable _) => return .ok false
  | .error other => return .error other

/-- The contents of a file. That it cannot be read is an error of the library. -/
def contents (p : Path) : m (Except Failure Bytes) := do
  match ← Files.read p with
  | .ok bytes => return .ok bytes
  | .error (.file fault) => return .error (Failure.error (.unreadableFile p.toText fault))
  | .error other => return .error (.fault other)

/-- Settles a directory that could not be made: it may be there already. -/
def settle (p : Path) (fault : Fault) : m (Except Fault Unit) := do
  match ← Files.kind p with
  | .ok .directory => return .ok ()
  | .ok .file => return .error fault
  | .error (.file other) =>
    return .error (if other.reason.isAbsence then fault else .file other)
  | .error _ => return .error fault

/-- Makes the directory at the end of a path whose directories are all there, unless it is. -/
def ensureDirectory (p : Path) : m (Except Fault Unit) := do
  match ← Files.makeDirectory p with
  | .ok () => return .ok ()
  | .error (.file fault) =>
    if fault.reason = .notFound then return .error (.file fault) else settle p (.file fault)
  | .error other => return .error other

/-- Makes the directory of so many components of a path, after those before it where they are
missing. -/
def ensureUpTo (p : Path) : Nat → m (Except Fault Unit)
  | 0 => ensureDirectory { p with components := [] }
  | n + 1 => do
    let here : Path := { p with components := p.components.take (n + 1) }
    match ← ensureDirectory here with
    | .error (.file fault) =>
      if fault.reason = .notFound then
        match ← ensureUpTo p n with
        | .ok () => ensureDirectory here
        | .error earlier => return .error earlier
      else return .error (.file fault)
    | other => return other

/-- Makes a directory and those on the way to it, unless they are there. -/
def makeDirectories (p : Path) : m (Except Fault Unit) := ensureUpTo p p.components.length

end Files

end PolicyHost
