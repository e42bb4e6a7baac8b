import PolicyHost.Digest.Sha256
import PolicyHost.Instance
import PolicyHost.Limits

/-!
# Policies

An engine compiles bytecode to a guest, under the limits that its stores get. Any number of instances
can be built from a policy; each has a store of its own.

* `Engine`: what compiles bytecode.
* `Policy.load`: a policy from bytecode.
* `Policy.build`: a new instance with or without data.
* `Policy.evaluate`, `Policy.inspect`: what an instance does that is not kept.
-/

namespace PolicyHost

/-- What compiles bytecode to guests whose stores are of type `σ`. -/
class Engine (σ : outParam Type) where
  compile : Limits → Bytes → Option (Guest σ)

/-- A compiled guest, the digest of its bytecode and its size. -/
structure Policy (σ : Type) where
  guest : Guest σ
  digest : Text
  size : Nat

/-- What a policy says about itself. -/
structure PolicyInfo where
  entrypoints : List Text
  defaultEntrypoint : Option Text
  version : AbiVersion
  digest : Text

def Json.ofText? : Option Text → Json
  | some t => .string t
  | none => .null

/-- What a policy says about itself as the members of an object. -/
def PolicyInfo.toMembers (info : PolicyInfo) : Json.Members :=
  [("entrypoints", .array (info.entrypoints.map .string)),
   ("default_entrypoint", .ofText? info.defaultEntrypoint),
   ("abi_version", .string info.version.toText),
   ("digest", .string info.digest)]

/-- The limits of an engine that is already there, or limits for a new one, but not both. -/
def Limits.choose (engine limits : Option Limits) : Except Failure Limits :=
  match engine, limits with
  | some _, some _ => .error (.fault .engineAndLimits)
  | some l, .none | .none, some l => .ok l
  | .none, .none => .ok .none

namespace Policy

variable {σ : Type}

def load [Engine σ] (limits : Limits) (bytecode : Bytes) : Except Failure (Policy σ) × List Note :=
  match Engine.compile limits bytecode with
  | none => (.error (.error .invalidBytecode), [])
  | some guest =>
    let digest := Text.hex (Digest.sha256 bytecode)
    let size := bytecode.length
    (.ok ⟨guest, digest, size⟩, [.compiled size, .loaded digest size])

def emptyData : Bytes := [0x7B, 0x7D]

variable [Platform]

def encodeData : Option Value → Except Failure Bytes
  | some data => Conversion.encode data
  | none => .ok emptyData

/-- Builds an instance over the registry of a number. -/
def build (policy : Policy σ) (number : Nat) (registry : Registry) (ambient : Ambient)
    (data : Option Value) : Except Failure (Instance σ) × List Note :=
  match encodeData data with
  | .error failure => (.error failure, [])
  | .ok document =>
    match Sandbox.instantiate policy.guest registry ambient document with
    | (.error failure, notes) => (.error failure, notes)
    | (.ok sandbox, notes) =>
      (.ok (.ofSandbox sandbox number data.isSome), notes ++ [.built policy.digest data.isSome])

/-- Builds an instance, asks it once and drops it. `first` surrounds the building, `second` the
evaluation. -/
def evaluate (policy : Policy σ) (registry : Registry) (first second : Ambient)
    (data : Option Value) (q : Question) : Outcome × List Note :=
  match policy.build 0 registry first data with
  | (.error failure, notes) => (.failed failure, notes)
  | (.ok fresh, notes) =>
    let reaction := fresh.eval registry second 0 q
    (((reaction.outcomes.map Prod.snd).getLast?).getD .cancelled, notes ++ reaction.notes)

/-- What a policy says about itself. -/
def inspect (policy : Policy σ) (registry : Registry) (ambient : Ambient) :
    Except Failure PolicyInfo × List Note :=
  match policy.build 0 registry ambient none with
  | (.error failure, notes) => (.error failure, notes)
  | (.ok fresh, notes) =>
    (.ok ⟨Text.sort fresh.entrypoints, fresh.defaultEntrypoint?,
        fresh.sandbox.version, policy.digest⟩, notes)

end Policy

end PolicyHost
