/-!
# Limits

What a host grants every store: fuel for each run, and octets of memory.
-/

namespace PolicyHost

/-- Limits of a store; what is absent is not limited. -/
structure Limits where
  fuel : Option Int
  memory : Option Int
deriving DecidableEq, Repr

namespace Limits

def none : Limits := ⟨.none, .none⟩

end Limits

end PolicyHost
