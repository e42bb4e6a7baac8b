import PolicyHost.Deployment.Tar.Inflate
import PolicyHost.Deployment.Tar.Stream

/-!
# Compressed streams

The octets of an archive lie plain or compressed. A compressed stream is a row of members, each with
a header, an inflated stretch, and its check value and size.

* `Gzip.streamFrom`: the stream that compressed members hold.
* `Stream.ofOctets`: the stream of an archive, compressed or not.
-/

namespace PolicyHost.Tar

namespace Gzip

def shift (x : UInt32) : UInt32 := if x &&& 1 = 0 then x >>> 1 else x >>> 1 ^^^ 0xEDB88320

/-- Takes an octet into a check value. -/
def mix (x : UInt32) (octet : UInt8) : UInt32 :=
  let s := x ^^^ octet.toUInt32
  shift (shift (shift (shift (shift (shift (shift (shift s)))))))

/-- The cyclic redundancy check of octets. -/
def check (octets : Array UInt8) : UInt32 := ~~~(octets.foldl mix 0xFFFFFFFF)

/-- The number that octets spell from a position on, lowest octet first. -/
def number? (octets : Array UInt8) : (width position : Nat) → Option Nat
  | 0, _ => some 0
  | width + 1, position => do
    let low ← octets[position]?
    let high ← number? octets width (position + 1)
    return low.toNat + 256 * high

/-- The position behind the next zero, or the end. -/
def skipText (octets : Array UInt8) : (rounds position : Nat) → Nat
  | 0, position => position
  | rounds + 1, position =>
    match octets[position]? with
    | none => position
    | some octet => if octet = 0 then position + 1 else skipText octets rounds (position + 1)

/-- Bits of the octet that tells which parts a header has. -/
def hasPart (flags bit : Nat) : Bool := (flags >>> bit) % 2 = 1

/-- The position behind the header of a member that starts at a position. -/
def skipHeader (octets : Array UInt8) (start : Nat) : Option Nat := do
  let magic ← number? octets 2 start
  let method ← number? octets 1 (start + 2)
  let flags ← number? octets 1 (start + 3)
  let _ ← number? octets 6 (start + 4)
  if magic ≠ 0x8B1F ∨ method ≠ 8 then none
  else
    let behindExtra ←
      if hasPart flags 2 then do
        let length ← number? octets 2 (start + 10)
        if octets.size < start + 12 + length then none else some (start + 12 + length)
      else some (start + 10)
    let behindName :=
      if hasPart flags 3 then skipText octets octets.size behindExtra else behindExtra
    let behindComment :=
      if hasPart flags 4 then skipText octets octets.size behindName else behindName
    if hasPart flags 1 then
      if octets.size < behindComment + 2 then none else some (behindComment + 2)
    else some behindComment

/-- How many octets are inflated at a time. Of a stretch that holds a fault nothing can be read. -/
def stretch : Nat := 8192

/-- What can be read of octets before a fault. -/
def readable (fault : StreamFault) (octets : Array UInt8) : Array UInt8 :=
  match fault with
  | .truncated => octets
  | .malformed => octets.extract 0 (octets.size / stretch * stretch)

def skipZeros (octets : Array UInt8) : (rounds position : Nat) → Nat
  | 0, position => position
  | rounds + 1, position =>
    if octets[position]? = some 0 then skipZeros octets rounds (position + 1) else position

/-- The check value and the size behind a member are those of its octets. -/
def isSound (octets : Array UInt8) (position : Nat) (output : Array UInt8) : Bool :=
  number? octets 4 position = some (check output).toNat
    && number? octets 4 (position + 4) = some (output.size % 2 ^ 32)

/-- The stream of the members from a position on. -/
def streamFrom (octets : Array UInt8) : (rounds start : Nat) → (done : Array UInt8) → Stream
  | 0, _, done => ⟨done, true, true⟩
  | rounds + 1, start, done =>
    if octets.size ≤ start then ⟨done, false, true⟩
    else
      match skipHeader octets start with
      | none => ⟨done, true, true⟩
      | some position =>
        match inflate octets position with
        | .error (fault, s) => ⟨readable fault (done ++ s.output), true, true⟩
        | .ok s =>
          let behind := nextOctet s.position / 8
          let done := done ++ s.output
          if isSound octets behind s.output then
            streamFrom octets rounds (skipZeros octets octets.size (behind + 8)) done
          else ⟨done, true, true⟩

/-- Octets start like a compressed stream. -/
def isCompressed : Bytes → Bool
  | 0x1F :: 0x8B :: _ => true
  | _ => false

end Gzip

def Stream.ofOctets (raw : Bytes) : Stream :=
  let octets := raw.toArray
  if Gzip.isCompressed raw then Gzip.streamFrom octets (octets.size + 1) 0 #[]
  else ⟨octets, false, false⟩

end PolicyHost.Tar
