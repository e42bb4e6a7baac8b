import PolicyHost.Text.Basic

/-!
# Digests over blocks

The digests here share one construction. A message is filled up with one bit, zeros and its length
in bits to a multiple of 64 octets, cut into blocks of sixteen words of 32 bits and absorbed block by block.

* `fill`: the message that is absorbed.
* `absorb`: the state after all blocks.
-/

namespace PolicyHost.Digest

/-- The order of octets in a word. -/
inductive Order
  | little
  | big
deriving DecidableEq, Repr

/-- The word that four octets spell. -/
def Order.word (order : Order) (a b c d : UInt8) : UInt32 :=
  match order with
  | .little => a.toUInt32 ||| b.toUInt32 <<< 8 ||| c.toUInt32 <<< 16 ||| d.toUInt32 <<< 24
  | .big => d.toUInt32 ||| c.toUInt32 <<< 8 ||| b.toUInt32 <<< 16 ||| a.toUInt32 <<< 24

/-- The octets of a number, least significant first. -/
def octets : (width n : Nat) → Bytes
  | 0, _ => []
  | width + 1, n => (n % 256).toUInt8 :: octets width (n / 256)

def Order.octets (order : Order) (width n : Nat) : Bytes :=
  match order with
  | .little => Digest.octets width n
  | .big => (Digest.octets width n).reverse

def Order.spell (order : Order) (words : List UInt32) : Bytes :=
  words.flatMap fun word => order.octets 4 word.toNat

/-- The words of octets; octets short of a word are left out. -/
def Order.words (order : Order) : Bytes → List UInt32
  | a :: b :: c :: d :: rest => order.word a b c d :: order.words rest
  | _ => []

def fill (order : Order) (message : Bytes) : Bytes :=
  let zeros := (119 - message.length % 64) % 64
  message ++ 0x80 :: List.replicate zeros (0 : UInt8) ++ order.octets 8 (message.length * 8)

/-- A digest under way: its state and the octets of the block that is not full yet. -/
structure Absorbing (σ : Type) where
  state : σ
  block : Array UInt8

/-- Takes in one octet. -/
def Absorbing.feed {σ : Type} (order : Order) (compress : σ → Array UInt32 → σ) (d : Absorbing σ)
    (octet : UInt8) : Absorbing σ :=
  let block := d.block.push octet
  if block.size = 64 then ⟨compress d.state (order.words block.toList).toArray, #[]⟩
  else ⟨d.state, block⟩

/-- The state after all blocks of a message. -/
def absorb {σ : Type} (order : Order) (start : σ) (compress : σ → Array UInt32 → σ)
    (message : Bytes) : σ :=
  ((fill order message).foldl (Absorbing.feed order compress) ⟨start, #[]⟩).state

def rotateLeft (x : UInt32) (n : Nat) : UInt32 :=
  x <<< UInt32.ofNat n ||| x >>> UInt32.ofNat (32 - n)

def rotateRight (x : UInt32) (n : Nat) : UInt32 := rotateLeft x (32 - n)

/-- A block with more words behind it, each made from those before it. -/
def expand (next : Array UInt32 → UInt32) : (more : Nat) → Array UInt32 → Array UInt32
  | 0, block => block
  | more + 1, block => expand next more (block.push (next block))

/-- The word that lies so many words back. -/
def back (block : Array UInt32) (distance : Nat) : UInt32 :=
  (block[block.size - distance]?).getD 0

end PolicyHost.Digest
