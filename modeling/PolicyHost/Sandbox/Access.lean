import PolicyHost.Error
import PolicyHost.Memory

/-!
# Access of the host to memory

The host addresses memory with signed numbers. A negative one counts from the end of the memory;
where it would lie in front of the beginning, the beginning is meant.

* `Memory.position`: the place that a signed number means.
* `Memory.span`: the octets between two such places.
* `Memory.place?`: writing at such a place.
* `Memory.cString?`: the octets from an address up to the first zero.
-/

namespace PolicyHost.Memory

/-- The place that a signed number means in a memory of a size. -/
def position (size : Nat) (index : Int) : Nat :=
  if index < 0 then (index + size).toNat else min index.toNat size

/-- The octets from one place up to but not including another. -/
def span (m : Memory) (start stop : Int) : Bytes :=
  m.slice (position m.size start) (position m.size stop)

/-- Writes octets at a place. Nothing can be written at the end, not even nothing. -/
def place? (m : Memory) (start : Int) (data : Bytes) : Option Memory :=
  let address := position m.size start
  if m.size ≤ address then none else m.write? address data

/-- How many octets the host reads at once. -/
def chunkSize : Nat := 4096

/-- Reads chunks from `cursor` on up to the first zero. Chunks are gathered last first. -/
def cStringFrom (m : Memory) (cursor : Int) (done : List Bytes) : Option Bytes :=
  if _inside : cursor < m.size then
    let next := min (cursor + chunkSize) m.size
    let chunk := m.span cursor next
    let head := chunk.takeWhile (· ≠ 0)
    if head.length < chunk.length then some (head :: done).reverse.flatten
    else cStringFrom m next (chunk :: done)
  else none
termination_by (m.size - cursor).toNat
decreasing_by
  simp only [chunkSize]
  omega

/-- The octets from an address up to the first zero, if there is one. -/
def cString? (m : Memory) (address : Int) : Option Bytes := cStringFrom m address []

end PolicyHost.Memory
