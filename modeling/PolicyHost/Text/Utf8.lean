import PolicyHost.Text.Basic

/-!
# UTF-8

Decoding cuts the octets into `Piece`s: scalar values and malformed stretches, each stretch as long
as it is the beginning of some character. Both readers are views of these pieces: `decode` stops at
the first malformed one and says where it lies, `decodeLossy` puts U+FFFD in its place.

* `pieces`: the cut.
* `decode`, `decodeLossy`: the two readers.
* `encode`: writing, which refuses surrogates and says where they lie.
-/

namespace PolicyHost.Utf8

/-- Why a stretch of octets is no character. -/
inductive Flaw
  | start
  | continuation
  | ending
deriving DecidableEq, Repr

/-- A scalar value and its width, or a malformed stretch: its flaw, its first octet and its width. -/
inductive Piece
  | scalar (value : CodePoint) (width : Nat)
  | malformed (flaw : Flaw) (first : UInt8) (width : Nat)
deriving DecidableEq, Repr

/-- How many octets a piece covers. -/
def Piece.width : Piece → Nat
  | .scalar _ width => width
  | .malformed _ _ width => width

/-- A character of which `seen` octets have been read and `owed` are to come. The next octet has to
lie between `low` and `high`. -/
structure Pending where
  first : UInt8
  second : UInt8
  seen : Nat
  owed : Nat
  value : Nat
  low : UInt8
  high : UInt8
  half : Bool

/-- The pieces found so far, last first, and the character under way. -/
structure Scan where
  found : List Piece
  pending : Option Pending

/-- Reads an octet that begins a character. With `halves`, the three octets that would spell a
surrogate are a character too. -/
def Scan.begin (halves : Bool) (found : List Piece) (b : UInt8) : Scan :=
  let owe := fun (owed : Nat) (value : UInt8) (low high : UInt8) =>
    { found, pending := some ⟨b, 0, 1, owed, value.toNat, low, high, false⟩ : Scan }
  if b < 0x80 then ⟨.scalar (Fin.ofNat 0x110000 b.toNat) 1 :: found, none⟩
  else if b < 0xC2 then ⟨.malformed .start b 1 :: found, none⟩
  else if b < 0xE0 then owe 1 (b - 0xC0) 0x80 0xBF
  else if b = 0xE0 then owe 2 0 0xA0 0xBF
  else if b = 0xED then owe 2 0xD 0x80 (if halves then 0xBF else 0x9F)
  else if b < 0xF0 then owe 2 (b - 0xE0) 0x80 0xBF
  else if b = 0xF0 then owe 3 0 0x90 0xBF
  else if b < 0xF4 then owe 3 (b - 0xF0) 0x80 0xBF
  else if b = 0xF4 then owe 3 4 0x80 0x8F
  else ⟨.malformed .start b 1 :: found, none⟩

/-- Gives up the character under way. A half of a surrogate pair that breaks off is no beginning of
a character, so its octets are malformed one by one. -/
def Pending.abandon (p : Pending) (flaw : Flaw) (found : List Piece) : List Piece :=
  if p.half then
    .malformed .start p.second 1 :: .malformed .continuation p.first 1 :: found
  else .malformed flaw p.first p.seen :: found

/-- Reads one octet. -/
def Scan.feed (halves : Bool) (s : Scan) (b : UInt8) : Scan :=
  match s.pending with
  | none => Scan.begin halves s.found b
  | some p =>
    if p.low ≤ b ∧ b ≤ p.high then
      let value := p.value * 64 + b.toNat % 64
      if p.owed = 1 then ⟨.scalar (Fin.ofNat 0x110000 value) (p.seen + 1) :: s.found, none⟩
      else
        let half := p.first = 0xED ∧ 0xA0 ≤ b
        ⟨s.found, some ⟨p.first, b, p.seen + 1, p.owed - 1, value, 0x80, 0xBF, half⟩⟩
    else Scan.begin halves (p.abandon .continuation s.found) b

/-- Ends the scan; a character under way stays incomplete. -/
def Scan.finish (s : Scan) : List Piece :=
  match s.pending with
  | none => s.found.reverse
  | some p => (p.abandon .ending s.found).reverse

/-- Cuts octets into scalar values and malformed stretches. -/
def pieces (halves : Bool) (bytes : Bytes) : List Piece :=
  (bytes.foldl (Scan.feed halves) ⟨[], none⟩).finish

/-- A malformed stretch, and where it lies. -/
structure Malformed where
  flaw : Flaw
  first : UInt8
  start : Nat
  width : Nat
deriving DecidableEq, Repr

/-- The values of the pieces, up to the first malformed one. -/
def collect (offset : Nat) (acc : List CodePoint) : List Piece → Except Malformed Text
  | [] => .ok acc.reverse
  | .scalar value width :: rest => collect (offset + width) (value :: acc) rest
  | .malformed flaw first width :: _ => .error ⟨flaw, first, offset, width⟩

/-- Reads octets, or says where the first malformed stretch lies. -/
def decode (bytes : Bytes) : Except Malformed Text := collect 0 [] (pieces false bytes)

/-- Reads octets that may also spell surrogates, each in three octets. -/
def decodeWithHalves (bytes : Bytes) : Except Malformed Text := collect 0 [] (pieces true bytes)

/-- Reads octets; each malformed stretch becomes one U+FFFD. -/
def decodeLossy (bytes : Bytes) : Text :=
  (pieces false bytes).map fun
    | .scalar value _ => value
    | .malformed .. => 0xFFFD

/-- The octets of a scalar value. -/
def encodePoint (c : CodePoint) : Bytes :=
  let tail := fun (n : Nat) => (0x80 + n % 64).toUInt8
  if c.val < 0x80 then [c.val.toUInt8]
  else if c.val < 0x800 then [(0xC0 + c.val / 64).toUInt8, tail c.val]
  else if c.val < 0x10000 then
    [(0xE0 + c.val / 4096).toUInt8, tail (c.val / 64), tail c.val]
  else
    [(0xF0 + c.val / 262144).toUInt8, tail (c.val / 4096), tail (c.val / 64), tail c.val]

/-- A stretch of surrogates, which UTF-8 cannot hold. -/
structure Unwritable where
  first : CodePoint
  start : Nat
  width : Nat
deriving DecidableEq, Repr

/-- The first stretch of surrogates of a text. -/
def findHalves (t : Text) : Option Unwritable :=
  let before := t.takeWhile fun c => !c.isSurrogate
  match t.drop before.length with
  | [] => none
  | c :: rest => some ⟨c, before.length, 1 + (rest.takeWhile CodePoint.isSurrogate).length⟩

/-- Writes a text, or says where its first surrogates lie. -/
def encode (t : Text) : Except Unwritable Bytes :=
  match findHalves t with
  | none => .ok (t.flatMap encodePoint)
  | some fault => .error fault

/-- Writes a text; a surrogate takes three octets. -/
def encodeWithHalves (t : Text) : Bytes := t.flatMap encodePoint

end PolicyHost.Utf8
