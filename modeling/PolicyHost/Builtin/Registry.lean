import PolicyHost.Digest.Sha256
import PolicyHost.Error
import PolicyHost.Value

/-!
# Builtins and registries

A builtin is a function of the host that policies call by name. It takes JSON and gives a value, or
fails. During one evaluation builtins share a context: the time, a source of random numbers and a
cache, which keeps what has been computed once.

* `Context`, `memo`: what builtins share.
* `Registry`: builtins by name; `Registry.call` finds one and calls it.
-/

namespace PolicyHost

/-- A source of random numbers: a seed, and how much of the stream that it starts has been used. -/
structure Entropy where
  seed : Nat
  used : Nat
deriving DecidableEq, Repr

namespace Entropy

/-- The next 32 octets of the stream. -/
def block (e : Entropy) : Bytes :=
  Digest.sha256 (Digest.octets 32 e.seed ++ Digest.octets 8 e.used)

/-- The next octets of the stream, in blocks. -/
def blocks : (count : Nat) → Entropy → Bytes × Entropy
  | 0, e => ([], e)
  | count + 1, e =>
    let (rest, last) := blocks count { e with used := e.used + 1 }
    (e.block ++ rest, last)

/-- A number below `bound`, which is not zero. The stream gives many more bits than `bound` has. -/
def below (bound : Nat) (e : Entropy) : Nat × Entropy :=
  let (octets, rest) := e.blocks (bound.log2 / 256 + 2)
  (octets.foldl (fun n b => n * 256 + b.toNat) 0 % bound, rest)

end Entropy

/-- What surrounds an evaluation: the time in nanoseconds and a source of random numbers. -/
structure Ambient where
  now : Int
  entropy : Entropy
deriving DecidableEq, Repr

namespace Builtin

/-- What the builtins of one evaluation share. -/
structure Context where
  now : Int
  entropy : Entropy
  cache : Table Text Value

def Context.fresh (ambient : Ambient) : Context := ⟨ambient.now, ambient.entropy, []⟩

/-- A step of a builtin. What it did to the context stays when it fails. -/
abbrev Action := ExceptT Failure (StateM Context)

abbrev Function := List Json → Action Value

def fail {α : Type} (error : OperandError) : Action α :=
  throw (Failure.error (.operand error))

/-- The value in the cache under a key; if there is none it is made and kept. -/
def memo (key : Text) (make : Action Value) : Action Value := do
  match (← get).cache.get? key with
  | some value => return value
  | none =>
    let value ← make
    modify fun context => { context with cache := context.cache.put key value }
    return value

/-- A number below `bound` from the source of the context. -/
def draw (bound : Nat) : Action Nat :=
  modifyGet fun context =>
    let (n, entropy) := context.entropy.below bound
    (n, { context with entropy })

/-- A builtin without operands. -/
def nullary (f : Action Value) : Function
  | [] => f
  | _ => throw (.fault .arity)

/-- A builtin with one operand. -/
def unary (f : Json → Action Value) : Function
  | [a] => f a
  | _ => throw (.fault .arity)

/-- A builtin with two operands. -/
def binary (f : Json → Json → Action Value) : Function
  | [a, b] => f a b
  | _ => throw (.fault .arity)

end Builtin

/-- Builtins by name. -/
structure Registry where
  functions : Table Text Builtin.Function

namespace Registry

open Builtin

def empty : Registry := ⟨[]⟩

/-- Registers a builtin; it takes the place of one of the same name. -/
def register (registry : Registry) (name : Text) (f : Function) : Registry :=
  ⟨registry.functions.put name f⟩

def extended (registry : Registry) (functions : List (Text × Function)) : Registry :=
  functions.foldl (fun r entry => r.register entry.1 entry.2) registry

def ofList (functions : List (Text × Function)) : Registry := empty.extended functions

def contains (registry : Registry) (name : Text) : Bool := registry.functions.contains name

def names (registry : Registry) : List Text := Text.sort registry.functions.keys

def call (registry : Registry) (name : Text) (args : List Json) : Action Value :=
  match registry.functions.get? name with
  | some f => f args
  | none => throw (Failure.error (.builtinUnregistered name))

end Registry

end PolicyHost
