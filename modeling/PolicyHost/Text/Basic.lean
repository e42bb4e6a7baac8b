import PolicyHost.Arithmetic

/-!
# Text

A text is a list of code points. Unlike `String` it may hold surrogates that stand alone, because
JSON escapes can spell them and later steps decide what becomes of them.

* `CodePoint`, `Text`: the carrier.
* `Text.ofString`: literals; `Text.ofNat`, `Text.ofInt`: decimal numerals; `Text.hex`: digits of a
  byte.
* `Text.split`, `Text.joinWith`: cutting at a mark and joining with a separator.
-/

namespace PolicyHost

/-- A code point, which may be a surrogate. -/
abbrev CodePoint := Fin 0x110000

instance (priority := 20000) codePointsExist : @NeZero Nat Zero.ofOfNat0 0x110000 := ⟨by decide⟩

/-- A sequence of code points. -/
abbrev Text := List CodePoint

abbrev Bytes := List UInt8

namespace CodePoint

def ofChar (c : Char) : CodePoint :=
  ⟨c.toNat, by
    have valid := c.valid
    have same : c.val.toNat = c.toNat := rfl
    simp only [UInt32.isValidChar, Nat.isValidChar] at valid
    omega⟩

instance : Coe Char CodePoint := ⟨ofChar⟩

/-- The first half of a surrogate pair. -/
def isHigh (c : CodePoint) : Bool := 0xD800 ≤ c.val && c.val ≤ 0xDBFF

/-- The second half of a surrogate pair. -/
def isLow (c : CodePoint) : Bool := 0xDC00 ≤ c.val && c.val ≤ 0xDFFF

/-- A half of a surrogate pair; no encoding has a place for one that stands alone. -/
def isSurrogate (c : CodePoint) : Bool := 0xD800 ≤ c.val && c.val ≤ 0xDFFF

/-- The code point that two halves of a surrogate pair spell. -/
def ofPair (high low : CodePoint) : CodePoint :=
  Fin.ofNat 0x110000 (0x10000 + (high.val - 0xD800) * 0x400 + (low.val - 0xDC00))

/-- The halves of the surrogate pair that spells a code point above U+FFFF. -/
def pair (c : CodePoint) : CodePoint × CodePoint :=
  (Fin.ofNat 0x110000 (0xD800 + (c.val - 0x10000) / 0x400),
    Fin.ofNat 0x110000 (0xDC00 + (c.val - 0x10000) % 0x400))

def isDigit (c : CodePoint) : Bool := 0x30 ≤ c.val && c.val ≤ 0x39

def isLetter (c : CodePoint) : Bool :=
  (0x41 ≤ c.val && c.val ≤ 0x5A) || (0x61 ≤ c.val && c.val ≤ 0x7A)

/-- The value of a hexadecimal digit of either case. -/
def hexValue? (c : CodePoint) : Option Nat :=
  if 0x30 ≤ c.val ∧ c.val ≤ 0x39 then some (c.val - 0x30)
  else if 0x41 ≤ c.val ∧ c.val ≤ 0x46 then some (c.val - 0x37)
  else if 0x61 ≤ c.val ∧ c.val ≤ 0x66 then some (c.val - 0x57)
  else none

/-- The lower-case hexadecimal digit of a value below sixteen. -/
def ofHexValue (n : Nat) : CodePoint :=
  Fin.ofNat 0x110000 (if n < 10 then 0x30 + n else 0x57 + n)

/-- The upper-case hexadecimal digit of a value below sixteen. -/
def ofHexValueUpper (n : Nat) : CodePoint :=
  Fin.ofNat 0x110000 (if n < 10 then 0x30 + n else 0x37 + n)

/-- ASCII letters in lower case; all else unchanged. -/
def lower (c : CodePoint) : CodePoint :=
  if 0x41 ≤ c.val ∧ c.val ≤ 0x5A then Fin.ofNat 0x110000 (c.val + 0x20) else c

end CodePoint

namespace Text

def ofString (s : String) : Text := s.toList.map CodePoint.ofChar

instance : Coe String Text := ⟨ofString⟩

/-- A text that holds no surrogate, as a string. -/
def toString? (t : Text) : Option String :=
  (t.mapM fun (c : CodePoint) => if c.isSurrogate then none else some (Char.ofNat c.val)).map String.ofList

/-- The decimal numeral of a natural number. -/
def ofNat (n : Nat) : Text := ofString (Nat.repr n)

/-- The decimal numeral of an integer. -/
def ofInt : Int → Text
  | .ofNat n => ofNat n
  | .negSucc n => '-' :: ofNat (n + 1)

/-- A numeral with zeros in front up to a width. -/
def padded (width n : Nat) : Text :=
  let digits := ofNat n
  List.replicate (width - digits.length) ('0' : CodePoint) ++ digits

/-- The lower-case hexadecimal digits of `n`, as many as asked for, most significant first. -/
def hexDigits : (width n : Nat) → Text
  | 0, _ => []
  | width + 1, n => hexDigits width (n / 16) ++ [CodePoint.ofHexValue (n % 16)]

/-- Two lower-case hexadecimal digits. -/
def hexByte (b : UInt8) : Text :=
  [CodePoint.ofHexValue (b.toNat / 16), CodePoint.ofHexValue (b.toNat % 16)]

/-- Two lower-case hexadecimal digits for each octet. -/
def hex (bytes : Bytes) : Text := bytes.flatMap hexByte

/-- The pieces between the marks: always one more piece than marks. -/
def split (mark : CodePoint) (t : Text) : List Text :=
  let step := fun (c : CodePoint) (pieces : Text × List Text) =>
    if c = mark then ([], pieces.1 :: pieces.2) else (c :: pieces.1, pieces.2)
  let pieces := t.foldr step ([], [])
  pieces.1 :: pieces.2

def joinWith (separator : Text) (pieces : List Text) : Text :=
  List.flatten (pieces.intersperse separator)

/-- Lexicographic order by code point. -/
def le (a b : Text) : Bool := !(decide (b < a))

/-- Texts in ascending order of their code points. -/
def sort (texts : List Text) : List Text := texts.mergeSort le

/-- `t` starts with `start`. -/
def startsWith (t start : Text) : Bool := start.isPrefixOf t

/-- `t` ends with `finish`. -/
def endsWith (t finish : Text) : Bool := finish.isSuffixOf t

/-- Drops from both ends what satisfies `p`. -/
def trimBoth (p : CodePoint → Bool) (t : Text) : Text :=
  ((t.dropWhile p).reverse.dropWhile p).reverse

/-- `t` read as ASCII decimal digits; any other code point counts as it lies. -/
def digitsValue (t : Text) : Nat :=
  t.foldl (fun n c => n * 10 + (c.val - 0x30)) 0

end Text

end PolicyHost
