import PolicyHost.Digest.Blocks

/-!
# MD5
-/

namespace PolicyHost.Digest.Md5

/-- The four words of the state. -/
structure State where
  a : UInt32
  b : UInt32
  c : UInt32
  d : UInt32

def start : State := ⟨0x67452301, 0xEFCDAB89, 0x98BADCFE, 0x10325476⟩

/-- The constant of each round: the first 32 bits of the sine of its number. -/
def constants : List UInt32 :=
  [0xD76AA478, 0xE8C7B756, 0x242070DB, 0xC1BDCEEE, 0xF57C0FAF, 0x4787C62A, 0xA8304613, 0xFD469501,
   0x698098D8, 0x8B44F7AF, 0xFFFF5BB1, 0x895CD7BE, 0x6B901122, 0xFD987193, 0xA679438E, 0x49B40821,
   0xF61E2562, 0xC040B340, 0x265E5A51, 0xE9B6C7AA, 0xD62F105D, 0x02441453, 0xD8A1E681, 0xE7D3FBC8,
   0x21E1CDE6, 0xC33707D6, 0xF4D50D87, 0x455A14ED, 0xA9E3E905, 0xFCEFA3F8, 0x676F02D9, 0x8D2A4C8A,
   0xFFFA3942, 0x8771F681, 0x6D9D6122, 0xFDE5380C, 0xA4BEEA44, 0x4BDECFA9, 0xF6BB4B60, 0xBEBFBC70,
   0x289B7EC6, 0xEAA127FA, 0xD4EF3085, 0x04881D05, 0xD9D4D039, 0xE6DB99E5, 0x1FA27CF8, 0xC4AC5665,
   0xF4292244, 0x432AFF97, 0xAB9423A7, 0xFC93A039, 0x655B59C3, 0x8F0CCC92, 0xFFEFF47D, 0x85845DD1,
   0x6FA87E4F, 0xFE2CE6E0, 0xA3014314, 0x4E0811A1, 0xF7537E82, 0xBD3AF235, 0x2AD7D2BB, 0xEB86D391]

/-- How far each of four rounds in a row turns, for the four kinds of rounds. -/
def turns : List (List Nat) := [[7, 12, 17, 22], [5, 9, 14, 20], [4, 11, 16, 23], [6, 10, 15, 21]]

/-- How a round mixes three words, and the index of the word it takes in. There are four kinds,
sixteen rounds each. -/
def mix (index : Nat) (b c d : UInt32) : UInt32 × Nat :=
  if index < 16 then ((b &&& c) ||| (~~~b &&& d), index)
  else if index < 32 then ((d &&& b) ||| (~~~d &&& c), (5 * index + 1) % 16)
  else if index < 48 then (b ^^^ c ^^^ d, (3 * index + 5) % 16)
  else (c ^^^ (b ||| ~~~d), (7 * index) % 16)

def turn (index : Nat) : Nat := ((turns[index / 16]?).bind (·[index % 4]?)).getD 0

/-- One round, given its constant and its index. -/
def round (block : Array UInt32) (s : State) (input : UInt32 × Nat) : State :=
  let (mixed, word) := mix input.2 s.b s.c s.d
  let sum := mixed + s.a + input.1 + (block[word]?).getD 0
  ⟨s.d, s.b + rotateLeft sum (turn input.2), s.b, s.c⟩

def compress (s : State) (block : Array UInt32) : State :=
  let t := constants.zipIdx.foldl (round block) s
  ⟨s.a + t.a, s.b + t.b, s.c + t.c, s.d + t.d⟩

end Md5

def md5 (message : Bytes) : Bytes :=
  let s := absorb .little Md5.start Md5.compress message
  Order.little.spell [s.a, s.b, s.c, s.d]

end PolicyHost.Digest
