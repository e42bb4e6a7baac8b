import PolicyHost.Arithmetic

/-!
# Room

How far a machine lets the program go. Beyond that it raises faults, and where it draws its lines
depends on how it is set up and on what else it is busy with. So they are not known to the program.

* `Room`: the lines.
* `Room.usual`: those of a machine that does nothing else.
-/

namespace PolicyHost

/-- How far a machine lets the program go.

* `documents`: arrays and objects that may be open at once while a document is read;
* `answers`: arrays and objects that may be open at once while an answer is put into lines;
* `requests`: requests of guests that may lie inside each other;
* `settings`, `wordings`: how deep a value of a configuration may nest while it is read, and while it
  is put into words;
* `held`, `zeros`: so many octets of an archive, or zeros between them, cannot be held at once. -/
class Room where
  documents : Nat
  answers : Nat
  requests : Nat
  settings : Nat
  wordings : Nat
  held : Int
  zeros : Int

/-- The room of a machine that does nothing else. -/
@[reducible]
def Room.usual : Room := ⟨960, 960, 100, 980, 969, 2 ^ 35, 2 ^ 26⟩

end PolicyHost
