import PolicyHost.Memory

/-!
# Guests

A guest is a program that runs apart from its host and shares one linear memory with it. What it
does when it is called is an `Activity`: it returns, or it traps, or it asks its host for something
and goes on when it is answered. A host that gives no answer drops the rest of the activity, so
nothing of the guest runs after a failure of the host. A trap ends the guest, and its store with it.

* `Request`: what a guest may ask for.
* `Activity`: what a call does.
* `Scalar`: what a global holds.
* `Guest`: the calls and the parts of its store that the host sees.
-/

namespace PolicyHost

/-- Why a guest stops without a result. -/
inductive Trap
  | unreachable
  | memoryBounds
  | tableBounds
  | indirectCall
  | divideByZero
  | overflow
  | stack
  | fuel
  | arguments
  | unlinkable
  | illTyped
deriving DecidableEq, Repr

/-- What a guest may ask of its host. Addresses and numbers are signed 32-bit integers. -/
inductive Request
  | abort (address : Int)
  | println (address : Int)
  | builtin (id context : Int) (args : List Int)
deriving DecidableEq, Repr

/-- What a call of a guest does. -/
inductive Activity (σ : Type)
  | returned (result : Option Int) (store : σ)
  | trapped (trap : Trap)
  | asked (request : Request) (store : σ) (resume : Int → σ → Activity σ)

/-- The memory that a guest expects its host to provide. -/
inductive MemoryDemand
  | missing
  | otherKind
  | memory
deriving DecidableEq, Repr

/-- The value of a global: an integer, a floating-point number, or something of another type. -/
inductive Scalar
  | int (n : Int)
  | float (x : Float)
  | other (type : Text)

/-- A guest whose store is of type `σ`.

* `demand`: the memory it expects;
* `start`: links it into a fresh store and runs what it does at the start;
* `memory`, `setMemory`: the memory in its store;
* `refuel`: its store with a full supply of fuel;
* `provides`: whether it offers a function of a name;
* `global?`: the value of a global that it offers;
* `call`: calls a function that it offers, which gives an integer or nothing. -/
structure Guest (σ : Type) where
  demand : MemoryDemand
  start : Except Trap (Activity σ)
  memory : σ → Memory
  setMemory : Memory → σ → σ
  refuel : σ → σ
  provides : Text → Bool
  global? : Text → σ → Option Scalar
  call : Text → List Int → σ → Activity σ

end PolicyHost
