import PolicyHost.Archive
import PolicyHost.Deployment.Tar.Reader

/-!
# Archives of octets

What an archive of files, compressed or not, holds.
-/

namespace PolicyHost.Tar

def Mishap.type : Mishap → Text
  | .beforeStart _ | .offset | .negativeCount | .lineMissing => "ValueError"
  | .place | .count | .room => "OverflowError"
  | .memory => "MemoryError"
  | .octetMissing => "IndexError"

/-- What ends an archive, for whoever reads it. -/
def Fault.toArchive : Fault → Archive.Fault
  | .malformed => .malformed
  | .numeral fault => .raised (.numeral fault)
  | .mishap reason => .raised (.raised reason.type reason.message)

@[reducible]
def archives [Room] : Archives where
  members raw :=
    let stream := Stream.ofOctets raw
    let (found, ending) := members stream
    (found.map fun m => (⟨m.name, m.isFile⟩, (m.contents stream).mapError Fault.toArchive),
      ending.map Fault.toArchive)

end PolicyHost.Tar
