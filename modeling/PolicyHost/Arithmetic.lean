/-!
# Powers

Powers of whole numbers are those of the core library, whatever else is imported beside them.
-/

namespace PolicyHost

@[default_instance 20000]
instance (priority := 20000) naturalPower : Pow Nat Nat := instPowNat

@[default_instance 20000]
instance (priority := 20000) integerPower : Pow Int Nat := instPowNat

end PolicyHost
