import PolicyHost.Digest.Blocks

/-!
# SHA-1
-/

namespace PolicyHost.Digest.Sha1

/-- The five words of the state. -/
structure State where
  a : UInt32
  b : UInt32
  c : UInt32
  d : UInt32
  e : UInt32

def start : State := ⟨0x67452301, 0xEFCDAB89, 0x98BADCFE, 0x10325476, 0xC3D2E1F0⟩

def next (block : Array UInt32) : UInt32 :=
  rotateLeft (back block 3 ^^^ back block 8 ^^^ back block 14 ^^^ back block 16) 1

/-- How a round mixes three words, and its constant. There are four kinds, twenty rounds each. -/
def mix (index : Nat) (b c d : UInt32) : UInt32 × UInt32 :=
  if index < 20 then ((b &&& c) ||| (~~~b &&& d), 0x5A827999)
  else if index < 40 then (b ^^^ c ^^^ d, 0x6ED9EBA1)
  else if index < 60 then ((b &&& c) ||| (b &&& d) ||| (c &&& d), 0x8F1BBCDC)
  else (b ^^^ c ^^^ d, 0xCA62C1D6)

/-- One round, given its word and its index. -/
def round (s : State) (input : UInt32 × Nat) : State :=
  let (mixed, constant) := mix input.2 s.b s.c s.d
  ⟨rotateLeft s.a 5 + mixed + s.e + constant + input.1, s.a, rotateLeft s.b 30, s.c, s.d⟩

def compress (s : State) (block : Array UInt32) : State :=
  let t := (expand next 64 block).toList.zipIdx.foldl round s
  ⟨s.a + t.a, s.b + t.b, s.c + t.c, s.d + t.d, s.e + t.e⟩

end Sha1

def sha1 (message : Bytes) : Bytes :=
  let s := absorb .big Sha1.start Sha1.compress message
  Order.big.spell [s.a, s.b, s.c, s.d, s.e]

end PolicyHost.Digest
