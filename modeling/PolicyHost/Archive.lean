import PolicyHost.Error

/-!
# Archives

An archive is a row of members with their contents. What reads it may come upon a fault, at the end of
the row or in the place of contents.

* `Archive.Member`: what a member is.
* `Archives`: what reads archives.
-/

namespace PolicyHost

namespace Archive

/-- Why an archive is not read any further: it is malformed, or there is a fault of another kind. -/
inductive Fault
  | malformed
  | raised (fault : PolicyHost.Fault)
deriving DecidableEq

/-- A member of an archive: its name, and whether it is a file. -/
structure Member where
  name : Text
  isFile : Bool
deriving DecidableEq

end Archive

/-- What reads archives: the members in octets, each with its contents or the fault in their place, and
the fault that ends them if there is one. -/
class Archives where
  members : Bytes → List (Archive.Member × Except Archive.Fault Bytes) × Option Archive.Fault

end PolicyHost
