import PolicyHost.Text.Basic

/-!
# Versions of the calling convention

A guest says which version of the calling convention it follows. Versions are ordered by their first
and then by their second number.
-/

namespace PolicyHost

/-- A version of the calling convention. -/
structure AbiVersion where
  major : Int
  minor : Int
deriving DecidableEq, Repr

namespace AbiVersion

/-- The first number that the host knows. -/
def supportedMajor : Int := 1

/-- The second number from which on a guest evaluates in one call. -/
def fastMinor : Int := 2

def supportsFastEval (v : AbiVersion) : Bool := v.major == supportedMajor && fastMinor ≤ v.minor

def toText (v : AbiVersion) : Text := Text.ofInt v.major ++ "." ++ Text.ofInt v.minor

def compare (a b : AbiVersion) : Ordering :=
  (compareOfLessAndEq a.major b.major).then (compareOfLessAndEq a.minor b.minor)

instance : Ord AbiVersion := ⟨compare⟩

end AbiVersion

end PolicyHost
