import PolicyHost.Room
import PolicyHost.Text.Basic

/-!
# Streams of octets

The octets that an archive is read from. Places and counts are numbers of 64 signed bits. A stream
that is inflated while it is read may break off: what lies before the break can be read, and whoever
reads on finds the fault.

* `Stream`: octets, and how they behave at their ends.
* `Stream.seek`: going to a place.
* `Stream.read`: octets from a place on.
* `Mishap.message`: the wording of what may go wrong.
-/

namespace PolicyHost.Tar

/-- Octets, whether reading beyond them is a fault rather than the end, and whether they are inflated
while they are read: going back beyond their start then leads to the start, and room for what is
asked for is made at once. -/
structure Stream where
  octets : Array UInt8
  broken : Bool
  inflated : Bool

/-- What goes wrong with an archive whatever it holds.

* `beforeStart`, `place`, `offset`: a place lies before the start, or is no number of a place, in a
  plain or in an inflated stream;
* `count`, `negativeCount`, `room`, `memory`: octets are too many to be counted, less than nothing,
  too many for any room, or too many to be held;
* `lineMissing`, `octetMissing`: a line does not end, or a block ends too early. -/
inductive Mishap
  | beforeStart (position : Int)
  | place
  | offset
  | count
  | negativeCount
  | room
  | memory
  | lineMissing
  | octetMissing
deriving DecidableEq, Repr

/-- The wording of what went wrong. -/
def Mishap.message : Mishap → Text
  | .beforeStart position => "negative seek value " ++ Text.ofInt position
  | .place => "Python int too large to convert to C ssize_t"
  | .offset => "cannot fit 'int' into an offset-sized integer"
  | .count => "cannot fit 'int' into an index-sized integer"
  | .negativeCount => "read length must be non-negative or -1"
  | .room => "byte string is too large"
  | .memory => []
  | .lineMissing => "not enough values to unpack (expected 2, got 1)"
  | .octetMissing => "index out of range"

/-- A number of 64 signed bits. -/
def isWord (n : Int) : Bool := -(2 ^ 63 : Int) ≤ n && n < (2 ^ 63 : Int)

/-- What a place for octets takes up besides them. -/
def overhead : Int := 33

/-- Checks that so many octets can be counted and held. -/
def checkHeld (most count : Int) : Except Mishap Unit :=
  if !isWord count then .error .count
  else if most ≤ count then .error .memory
  else .ok ()

namespace Stream

/-- The place where reading starts after going to a place. -/
def seek (s : Stream) (place : Int) : Except Mishap Nat :=
  if !isWord place then .error (if s.inflated then .offset else .place)
  else if place < 0 then if s.inflated then .ok 0 else .error (.beforeStart place)
  else .ok place.toNat

variable [Room]

/-- Checks that so many octets can be asked for. -/
def checkCount (s : Stream) (count : Int) : Except Mishap Unit :=
  if !isWord count then .error .count
  else if s.inflated ∧ count < -1 then .error .negativeCount
  else if s.inflated ∧ !isWord (count + overhead) then .error .room
  else if s.inflated then checkHeld Room.held count
  else .ok ()

/-- Octets from a place on, as many as asked for or up to the end; less than none are all of them.
There are none if the stream breaks off before. -/
def read (s : Stream) (start : Nat) (count : Int) : Except Mishap (Option Bytes) := do
  s.checkCount count
  if count < 0 then return if s.broken then none else some (s.octets.extract start s.octets.size).toList
  else
    let stop := start + count.toNat
    if s.broken && s.octets.size < stop then return none
    else return some (s.octets.extract start stop).toList

end Stream

end PolicyHost.Tar
