import PolicyHost.Text.Basic

/-!
# Linear memory

A memory is a number of pages of which a beginning has been written; what was never written reads
as zero, so growing costs nothing. `Memory.byte` is the view: every operation is described by what
it does to the bytes.

* `Memory.grow?`: more pages, up to a bound.
* `Memory.slice`, `Memory.write?`: reading and writing a stretch.
* `byte_write?`, `byte_grow?`: what writing and growing do to the view.
-/

namespace PolicyHost

def pageSize : Nat := 65536

/-- Pages of octets. `bytes` is the part that may hold anything but zeros; `bound` is the number of
pages that growing may reach. -/
structure Memory where
  bytes : Array UInt8
  pages : Nat
  bound : Nat
  fits : bytes.size ≤ pages * pageSize

namespace Memory

def zeros (pages bound : Nat) : Memory := ⟨#[], pages, bound, by simp⟩

def size (m : Memory) : Nat := m.pages * pageSize

/-- The octet at an address; zero outside of the memory. -/
def byte (m : Memory) (address : Nat) : UInt8 := m.bytes[address]?.getD 0

/-- A memory with more pages and the same octets, if the bound allows it. -/
def grow? (m : Memory) (more : Nat) : Option Memory :=
  if m.pages + more ≤ m.bound then
    some ⟨m.bytes, m.pages + more, m.bound, by
      have := m.fits
      have : m.pages * pageSize ≤ (m.pages + more) * pageSize :=
        Nat.mul_le_mul_right _ (Nat.le_add_right _ _)
      omega⟩
  else none

/-- The octets from `start` up to but not including `stop`. -/
def slice (m : Memory) (start stop : Nat) : Bytes :=
  let known := (m.bytes.extract start stop).toList
  known ++ List.replicate (stop - start - known.length) (0 : UInt8)

def putAll (address : Nat) (array : Array UInt8) : Bytes → Array UInt8
  | [] => array
  | b :: rest => putAll (address + 1) (array.setIfInBounds address b) rest

def extend (array : Array UInt8) (size : Nat) : Array UInt8 :=
  if array.size < size then array ++ Array.replicate (size - array.size) 0 else array

theorem size_putAll (address : Nat) (array : Array UInt8) (data : Bytes) :
    (putAll address array data).size = array.size := by
  induction data generalizing address array with
  | nil => rfl
  | cons b rest ih => simp [putAll, ih]

theorem size_extend (array : Array UInt8) (size : Nat) :
    (extend array size).size = max array.size size := by
  unfold extend
  split
  · simp
    omega
  · omega

/-- Writes octets from an address on, if they lie inside. -/
def write? (m : Memory) (address : Nat) (data : Bytes) : Option Memory :=
  if inside : address + data.length ≤ m.pages * pageSize then
    some
      { m with
        bytes := putAll address (extend m.bytes (address + data.length)) data
        fits := by
          have := m.fits
          rw [size_putAll, size_extend]
          omega }
  else none

/-- The octets of a number, least significant first. -/
def littleEndian : (width n : Nat) → Bytes
  | 0, _ => []
  | width + 1, n => (n % 256).toUInt8 :: littleEndian width (n / 256)

/-- The number in `width` octets at an address, if they lie inside. -/
def load? (m : Memory) (address width : Nat) : Option Nat :=
  if address + width ≤ m.size then
    let rec go : Nat → Nat
      | 0 => 0
      | k + 1 => go k + (m.byte (address + k)).toNat * 256 ^ k
    some (go width)
  else none

/-- Writes a number into `width` octets at an address, if they lie inside. -/
def store? (m : Memory) (address width n : Nat) : Option Memory :=
  m.write? address (littleEndian width n)

theorem byte_extend (array : Array UInt8) (size address : Nat) :
    ((extend array size)[address]?).getD 0 = (array[address]?).getD 0 := by
  unfold extend
  split
  · rename_i short
    by_cases inside : address < array.size
    · rw [Array.getElem?_append_left inside]
    · rw [Array.getElem?_append_right (by omega)]
      have outside : array[address]? = none := by
        simp
        omega
      rw [outside]
      by_cases inner : address - array.size < size - array.size
      · simp [inner]
      · have beyond : (Array.replicate (size - array.size) (0 : UInt8))[address - array.size]? = none := by
          simp
          omega
        rw [beyond]
  · rfl

theorem byte_putAll (address : Nat) (array : Array UInt8) (data : Bytes) (k : Nat)
    (room : address + data.length ≤ array.size) :
    ((putAll address array data)[k]?).getD 0 =
      if address ≤ k ∧ k < address + data.length then (data[k - address]?).getD 0
      else (array[k]?).getD 0 := by
  induction data generalizing address array with
  | nil =>
    simp only [putAll, List.length_nil, Nat.add_zero]
    rw [if_neg (by omega)]
  | cons b rest ih =>
    simp only [List.length_cons] at room
    rw [putAll, ih (address + 1) _ (by simp only [Array.size_setIfInBounds]; omega)]
    by_cases here : k = address
    · subst here
      have inBounds : k < array.size := by omega
      rw [if_neg (by omega), if_pos (by simp)]
      simp [inBounds]
    · by_cases later : address + 1 ≤ k ∧ k < address + 1 + rest.length
      · have position : k - address = (k - (address + 1)) + 1 := by omega
        have covered : address ≤ k ∧ k < address + (rest.length + 1) := by omega
        simp [later, covered, position]
      · have uncovered : ¬ (address ≤ k ∧ k < address + (rest.length + 1)) := by omega
        have differ : address ≠ k := fun equal => here equal.symm
        rw [List.length_cons, if_neg later, if_neg uncovered]
        simp [differ]

/-- After writing, an address that was written holds what was written, and every other address holds
what it held. -/
theorem byte_write? {m written : Memory} {address : Nat} {data : Bytes}
    (done : m.write? address data = some written) (k : Nat) :
    written.byte k =
      if address ≤ k ∧ k < address + data.length then (data[k - address]?).getD 0
      else m.byte k := by
  unfold write? at done
  split at done
  · simp only [Option.some.injEq] at done
    subst done
    simp only [byte]
    rw [byte_putAll, byte_extend]
    rw [size_extend]
    omega
  · simp at done

theorem size_write? {m written : Memory} {address : Nat} {data : Bytes}
    (done : m.write? address data = some written) : written.size = m.size := by
  unfold write? at done
  split at done
  · simp only [Option.some.injEq] at done
    subst done
    rfl
  · simp at done

theorem byte_grow? {m grown : Memory} {more : Nat} (done : m.grow? more = some grown) (k : Nat) :
    grown.byte k = m.byte k := by
  unfold grow? at done
  split at done
  · simp only [Option.some.injEq] at done
    subst done
    rfl
  · simp at done

end Memory

end PolicyHost
