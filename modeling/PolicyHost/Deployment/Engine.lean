import PolicyHost.Deployment.Wasm.Instance
import PolicyHost.Policy

/-!
# Modules as policies

Bytecode that is a valid module becomes a guest, whose machine is bounded by the limits of its store.
-/

namespace PolicyHost

/-- The bounds of a machine under limits. Fuel is counted in 64 bits without a sign, memory in 64
bits with a sign; less than nothing is no bound. -/
def Limits.bounds (l : Limits) : Wasm.Bounds :=
  ⟨l.fuel.map fun n => (n % 2 ^ 64).toNat,
    l.memory.bind fun n =>
      let signed := Int.bmod n (2 ^ 64)
      if signed < 0 then .none else some signed.toNat⟩

@[reducible]
def Wasm.engine : Engine Wasm.Store :=
  ⟨fun limits bytecode => (Wasm.compile bytecode).map fun m => m.guest limits.bounds⟩

end PolicyHost
