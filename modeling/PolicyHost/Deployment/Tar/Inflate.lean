import PolicyHost.Deployment.Tar.Huffman

/-!
# Inflating

A compressed stream is a row of blocks. A block holds octets as they are, or symbols in a Huffman
code: an octet, the end of the block, or a copy of octets that came before.

* `Inflater`: the position in the stream and the octets so far.
* `inflate`: the whole stream. What was inflated before a fault is kept.
-/

namespace PolicyHost.Tar

/-- How far inflating has come: the position in the bits and the octets so far. -/
structure Inflater where
  position : Nat
  output : Array UInt8

/-- A fault, and what was inflated before it. -/
abbrev Inflating := Except (StreamFault × Inflater) Inflater

/-- The least lengths of copies, and how many more bits tell the exact length. -/
def copyLengths : List (Nat × Nat) :=
  [(3, 0), (4, 0), (5, 0), (6, 0), (7, 0), (8, 0), (9, 0), (10, 0), (11, 1), (13, 1), (15, 1),
   (17, 1), (19, 2), (23, 2), (27, 2), (31, 2), (35, 3), (43, 3), (51, 3), (59, 3), (67, 4),
   (83, 4), (99, 4), (115, 4), (131, 5), (163, 5), (195, 5), (227, 5), (258, 0)]

/-- The least distances of copies, and how many more bits tell the exact distance. -/
def copyDistances : List (Nat × Nat) :=
  [(1, 0), (2, 0), (3, 0), (4, 0), (5, 1), (7, 1), (9, 2), (13, 2), (17, 3), (25, 3), (33, 4),
   (49, 4), (65, 5), (97, 5), (129, 6), (193, 6), (257, 7), (385, 7), (513, 8), (769, 8),
   (1025, 9), (1537, 9), (2049, 10), (3073, 10), (4097, 11), (6145, 11), (8193, 12), (12289, 12),
   (16385, 13), (24577, 13)]

/-- The order in which the lengths of the code for lengths come. -/
def lengthOrder : List Nat := [16, 17, 18, 0, 8, 7, 9, 6, 10, 5, 11, 4, 12, 3, 13, 2, 14, 1, 15]

/-- So many bits as a number, or a fault. -/
def takeBits (bits : Bits) (count position : Nat) : Except StreamFault Nat :=
  match bits.number? count position with
  | some n => .ok n
  | none => .error .truncated

/-- A value that a table and more bits tell, and the position behind them. -/
def takeScaled (bits : Bits) (table : List (Nat × Nat)) (index position : Nat) :
    Except StreamFault (Nat × Nat) :=
  match table[index]? with
  | none => .error .malformed
  | some (least, more) => do return (least + (← takeBits bits more position), position + more)

/-- Appends copies of octets that lie `distance` back. -/
def copyBack (distance : Nat) : (count : Nat) → Array UInt8 → Array UInt8
  | 0, output => output
  | count + 1, output =>
    copyBack distance count (output.push ((output[output.size - distance]?).getD 0))

/-- The length and the distance of a copy, and the position behind them. -/
def takeCopy (bits : Bits) (distances : Huffman) (symbol position : Nat) :
    Except StreamFault (Nat × Nat × Nat) := do
  let (length, position) ← takeScaled bits copyLengths (symbol - 257) position
  let (code, position) ← distances.decode bits position
  let (distance, position) ← takeScaled bits copyDistances code position
  return (length, distance, position)

def blockEnd : Nat := 256

/-- Inflates symbols up to the end of the block. Every symbol takes a bit, so as many rounds as there
are bits are enough. -/
def inflateSymbols (bits : Bits) (symbols distances : Huffman) : (rounds : Nat) → Inflater → Inflating
  | 0, s => .error (.truncated, s)
  | rounds + 1, ⟨position, output⟩ =>
    match symbols.decode bits position with
    | .error fault => .error (fault, ⟨position, output⟩)
    | .ok (symbol, next) =>
      if symbol < blockEnd then
        inflateSymbols bits symbols distances rounds ⟨next, output.push symbol.toUInt8⟩
      else if symbol = blockEnd then .ok ⟨next, output⟩
      else
        match takeCopy bits distances symbol next with
        | .error fault => .error (fault, ⟨position, output⟩)
        | .ok (length, distance, next) =>
          if output.size < distance then .error (.malformed, ⟨position, output⟩)
          else inflateSymbols bits symbols distances rounds ⟨next, copyBack distance length output⟩

def takePlain (bits : Bits) : (count : Nat) → Inflater → Inflating
  | 0, s => .ok s
  | count + 1, ⟨position, output⟩ =>
    match bits.octets[position / 8]? with
    | none => .error (.truncated, ⟨position, output⟩)
    | some octet => takePlain bits count ⟨position + 8, output.push octet⟩

/-- The position of the next octet that starts at or behind a position. -/
def nextOctet (position : Nat) : Nat := (position + 7) / 8 * 8

/-- Inflates a block of octets as they are: their number twice, the second time with all bits turned
over, and the octets. -/
def inflatePlain (bits : Bits) (s : Inflater) : Inflating :=
  let start := nextOctet s.position
  match takeBits bits 16 start, takeBits bits 16 (start + 16) with
  | .ok count, .ok check =>
    if count + check = 0xFFFF then takePlain bits count { s with position := start + 32 }
    else .error (.malformed, s)
  | .error fault, _ | _, .error fault => .error (fault, s)

/-- The code for symbols and the code for distances of a block that brings none. -/
def fixedCodes : Huffman × Huffman :=
  (.ofLengths (List.replicate 144 8 ++ List.replicate 112 9 ++ List.replicate 24 7
      ++ List.replicate 8 8),
    .ofLengths (List.replicate 30 5 ++ [5, 5]))

/-- Reads so many lengths of codes; some symbols repeat a length. Lengths are gathered last first. -/
def takeLengths (bits : Bits) (code : Huffman) (wanted : Nat) :
    (rounds : Nat) → (found : List Nat) → (position : Nat) → Except StreamFault (List Nat × Nat)
  | 0, _, _ => .error .malformed
  | rounds + 1, found, position =>
    if found.length = wanted then .ok (found.reverse, position)
    else if wanted < found.length then .error .malformed
    else
      match code.decode bits position with
      | .error fault => .error fault
      | .ok (symbol, next) =>
        if symbol < 16 then takeLengths bits code wanted rounds (symbol :: found) next
        else
          let repeats := fun (length least more : Nat) => do
            let n ← takeBits bits more next
            takeLengths bits code wanted rounds
              (List.replicate (least + n) length ++ found) (next + more)
          if symbol = 16 then
            match found with
            | [] => .error .malformed
            | last :: _ => repeats last 3 2
          else if symbol = 17 then repeats 0 3 3
          else repeats 0 11 7

/-- The lengths of the code for lengths, by symbol. -/
def codeLengths (given : List Nat) : List Nat :=
  (List.range 19).map fun symbol =>
    (((lengthOrder.zip given).find? fun entry => entry.1 = symbol).map Prod.snd).getD 0

/-- The codes that a block brings, and the position behind them. -/
def takeCodes (bits : Bits) (position : Nat) : Except StreamFault (Huffman × Huffman × Nat) := do
  let symbolCount := 257 + (← takeBits bits 5 position)
  let distanceCount := 1 + (← takeBits bits 5 (position + 5))
  let lengthCount := 4 + (← takeBits bits 4 (position + 10))
  if 286 < symbolCount ∨ 30 < distanceCount then .error .malformed
  else
    let start := position + 14
    let given ← (List.range lengthCount).mapM fun i => takeBits bits 3 (start + 3 * i)
    let code := Huffman.ofLengths (codeLengths given)
    if !code.isComplete then .error .malformed
    else
      let wanted := symbolCount + distanceCount
      let (lengths, next) ← takeLengths bits code wanted (wanted + 1) [] (start + 3 * lengthCount)
      let symbols := Huffman.ofLengths (lengths.take symbolCount)
      let distances := Huffman.ofLengths (lengths.drop symbolCount)
      if (lengths[blockEnd]?).getD 0 = 0 ∨ !symbols.isUsable ∨ !distances.isUsable then
        .error .malformed
      else .ok (symbols, distances, next)

/-- Inflates one block behind its first three bits. -/
def inflateBlock (bits : Bits) (kind : Nat) (s : Inflater) : Inflating :=
  match kind with
  | 0 => inflatePlain bits s
  | 1 => inflateSymbols bits fixedCodes.1 fixedCodes.2 (bits.size + 1) s
  | 2 =>
    match takeCodes bits s.position with
    | .error fault => .error (fault, s)
    | .ok (symbols, distances, position) =>
      inflateSymbols bits symbols distances (bits.size + 1) { s with position }
  | _ => .error (.malformed, s)

def inflateBlocks (bits : Bits) : (rounds : Nat) → Inflater → Inflating
  | 0, s => .error (.truncated, s)
  | rounds + 1, s =>
    match takeBits bits 1 s.position, takeBits bits 2 (s.position + 1) with
    | .ok final, .ok kind =>
      match inflateBlock bits kind { s with position := s.position + 3 } with
      | .error fault => .error fault
      | .ok s => if final = 1 then .ok s else inflateBlocks bits rounds s
    | _, _ => .error (.truncated, s)

def inflate (octets : Array UInt8) (start : Nat) : Inflating :=
  inflateBlocks ⟨octets⟩ (8 * octets.size + 1) ⟨8 * start, #[]⟩

end PolicyHost.Tar
