import PolicyHost.Error

/-!
# Text in other alphabets

The octets of a text in UTF-8, written with few characters: hexadecimal digits, the URL-safe
alphabet of 64 characters without padding, or percent signs and plus signs as in the query of a URL.

* `Base64Url.encode`.
* `Hex.decode`: pairs of digits with blanks between them.
* `Query.encode`, `Query.decode`, `Query.encodePairs`.
* `Glob.quote`: a text as a pattern that matches nothing else.
-/

namespace PolicyHost

namespace Base64Url

def character (n : Nat) : CodePoint :=
  if n < 26 then Fin.ofNat 0x110000 (0x41 + n)
  else if n < 52 then Fin.ofNat 0x110000 (0x61 + (n - 26))
  else if n < 62 then Fin.ofNat 0x110000 (0x30 + (n - 52))
  else if n = 62 then '-'
  else '_'

/-- Three octets become four characters, what is left over becomes two or three. Characters are
gathered last first. -/
def encodeOnto (done : Text) : Bytes → Text
  | a :: b :: c :: rest =>
    let n := a.toNat * 65536 + b.toNat * 256 + c.toNat
    encodeOnto
      (character (n % 64) :: character (n / 64 % 64) :: character (n / 4096 % 64)
        :: character (n / 262144) :: done) rest
  | [a, b] =>
    let n := a.toNat * 256 + b.toNat
    character (n % 16 * 4) :: character (n / 16 % 64) :: character (n / 1024) :: done
  | [a] => character (a.toNat % 4 * 16) :: character (a.toNat / 4) :: done
  | [] => done

/-- Octets in the URL-safe alphabet without padding. -/
def encode (bytes : Bytes) : Text := (encodeOnto [] bytes).reverse

end Base64Url

namespace Hex

/-- The blanks that may stand between pairs of digits. -/
def isGap (c : CodePoint) : Bool := c.val = 0x20 || (0x9 ≤ c.val && c.val ≤ 0xD)

/-- Reads pairs of digits from a position on; octets are gathered last first. Fails with the position
of what is no digit. -/
def decodeFrom (position : Nat) (done : Bytes) : Text → Except Nat Bytes
  | [] => .ok done.reverse
  | c :: rest =>
    if isGap c then decodeFrom (position + 1) done rest
    else
      match c.hexValue?, rest with
      | none, _ => .error position
      | some _, [] => .error (position + 1)
      | some high, d :: more =>
        match d.hexValue? with
        | none => .error (position + 1)
        | some low => decodeFrom (position + 2) ((high * 16 + low).toUInt8 :: done) more

/-- The octets that hexadecimal digits spell. What lies outside of ASCII is found first. -/
def octets (t : Text) : Except Nat Bytes :=
  let ascii := t.takeWhile fun (c : CodePoint) => c.val < 0x80
  if ascii.length < t.length then .error ascii.length else decodeFrom 0 [] t

/-- The text whose octets hexadecimal digits spell. -/
def decode (t : Text) : Except HexFault Text :=
  match octets t with
  | .error position => .error (.digit position)
  | .ok bytes => (Utf8.decode bytes).mapError .text

end Hex

namespace Query

/-- Octets that stand for themselves: ASCII letters and digits, and four marks. -/
def isPlain (b : UInt8) : Bool :=
  let c : CodePoint := Fin.ofNat 0x110000 b.toNat
  c.isLetter || c.isDigit || c == '_' || c == '.' || c == '-' || c == '~'

def space : UInt8 := 0x20

/-- One octet in a query: itself, a plus sign for a space, or a percent sign and two upper-case
digits. -/
def encodeOctet (b : UInt8) : Text :=
  if isPlain b then [Fin.ofNat 0x110000 b.toNat]
  else if b = space then "+"
  else
    ['%', CodePoint.ofHexValueUpper (b.toNat / 16), CodePoint.ofHexValueUpper (b.toNat % 16)]

def encode (t : Text) : Except Utf8.Unwritable Text :=
  (Utf8.encode t).map fun bytes => bytes.flatMap encodeOctet

def digit? (b : UInt8) : Option Nat := CodePoint.hexValue? (Fin.ofNat 0x110000 b.toNat)

/-- Replaces a percent sign and two digits by the octet that they spell. Octets are gathered last
first. -/
def unescapeOnto (done : Bytes) : Bytes → Bytes
  | [] => done
  | [a] => a :: done
  | [a, b] => b :: a :: done
  | a :: b :: c :: rest =>
    match decide (a = 0x25), digit? b, digit? c with
    | true, some high, some low => unescapeOnto ((high * 16 + low).toUInt8 :: done) rest
    | _, _, _ => unescapeOnto (a :: done) (b :: c :: rest)

def decodeRun (run : Bytes) : Text := Utf8.decodeLossy (unescapeOnto [] run).reverse

/-- The text that a query spells. Octets are put together only within a run of ASCII. -/
def decode (t : Text) : Text :=
  let step := fun (c : CodePoint) (split : Bytes × Text) =>
    if c.val < 0x80 then
      ((if c = CodePoint.ofChar '+' then space else c.val.toUInt8) :: split.1, split.2)
    else ([], c :: (decodeRun split.1 ++ split.2))
  let split := t.foldr step ([], [])
  decodeRun split.1 ++ split.2

/-- A name and a value in a query. -/
def encodePair (pair : Text × Text) : Except Utf8.Unwritable Text := do
  let name ← encode pair.1
  let value ← encode pair.2
  return name ++ "=" ++ value

/-- Names and values in a query. -/
def encodePairs (pairs : List (Text × Text)) : Except Utf8.Unwritable Text := do
  return Text.joinWith "&" (← pairs.mapM encodePair)

/-- The names and values of an object in ascending order of the names. An array gives one pair for
each of its items. -/
def pairsOf (members : Json.Members) : List (Text × Text) :=
  let sorted := members.mergeSort fun a b => Text.le a.1 b.1
  sorted.flatMap fun member =>
    match member.2 with
    | .array items => items.map fun item => (member.1, item.display)
    | value => [(member.1, value.display)]

end Query

namespace Glob

/-- Characters with a meaning in a pattern. -/
def marks : Text := "*?\\[]\x7b\x7d"

/-- A text as a pattern: a backslash stands before every mark. -/
def quote (t : Text) : Text :=
  t.flatMap fun (c : CodePoint) => if marks.contains c then ['\\', c] else [c]

end Glob

end PolicyHost
