import PolicyHost.Text.Basic

/-!
# Canonical Huffman codes

A code is given by the number of bits for each symbol. Among codes of one length symbols stand in
ascending order, and longer codes follow shorter ones.

* `Huffman.ofLengths`: the code of given lengths.
* `Huffman.decode`: one symbol from a stream of bits.
-/

namespace PolicyHost.Tar

/-- Bits of octets, each octet from its lowest bit on. -/
structure Bits where
  octets : Array UInt8

namespace Bits

def size (b : Bits) : Nat := 8 * b.octets.size

def get? (b : Bits) (position : Nat) : Option Nat :=
  (b.octets[position / 8]?).map fun octet => (octet.toNat >>> (position % 8)) % 2

/-- The number that so many bits spell from a position on, lowest bit first. -/
def number? (b : Bits) : (count position : Nat) → Option Nat
  | 0, _ => some 0
  | count + 1, position => do
    let low ← b.get? position
    let high ← b.number? count (position + 1)
    return low + 2 * high

end Bits

/-- Why a stream of bits cannot be read on: it ends too early, or it is not well formed. -/
inductive StreamFault
  | truncated
  | malformed
deriving DecidableEq, Repr

/-- A canonical code: how many symbols there are of each length, and the symbols in order. -/
structure Huffman where
  counts : List Nat
  symbols : Array Nat

namespace Huffman

/-- The most bits of a code. -/
def maxLength : Nat := 15

def lengths : List Nat := List.range' 1 maxLength

/-- The code in which each symbol has a number of bits; symbols of no bits do not occur. -/
def ofLengths (given : List Nat) : Huffman :=
  let numbered := given.zipIdx
  let ofLength := fun (n : Nat) => (numbered.filter fun entry => entry.1 = n).map Prod.snd
  ⟨lengths.map fun n => given.count n, (lengths.flatMap ofLength).toArray⟩

/-- How many codes of each next length are still free, in the end; none if too many are used. -/
def free? (h : Huffman) : Option Nat :=
  h.counts.foldlM (fun left count => if 2 * left < count then none else some (2 * left - count)) 1

def longest (h : Huffman) : Nat :=
  ((lengths.zip h.counts).filter fun entry => 0 < entry.2).foldl (fun n entry => max n entry.1) 0

/-- Every stream of bits starts with a code. -/
def isComplete (h : Huffman) : Bool := h.longest = 0 || h.free? = some 0

/-- Complete, or a single code of one bit. -/
def isUsable (h : Huffman) : Bool := h.isComplete || (h.longest = 1 && h.free?.isSome)

/-- Looks for a code bit by bit. `code` is what has been read, `first` the first code of its length,
and `index` the place of its symbol. -/
def search (h : Huffman) (bits : Bits) :
    (counts : List Nat) → (position code first index : Nat) → Except StreamFault (Nat × Nat)
  | [], _, _, _, _ => .error .malformed
  | count :: rest, position, code, first, index =>
    match bits.get? position with
    | none => .error .truncated
    | some bit =>
      let code := code + bit
      if code < first + count then
        match h.symbols[index + (code - first)]? with
        | some symbol => .ok (symbol, position + 1)
        | none => .error .malformed
      else search h bits rest (position + 1) (2 * code) (2 * (first + count)) (index + count)

/-- The symbol whose code starts at a position, and the position behind it. -/
def decode (h : Huffman) (bits : Bits) (position : Nat) : Except StreamFault (Nat × Nat) :=
  h.search bits (h.counts.take h.longest) position 0 0 0

end Huffman

end PolicyHost.Tar
