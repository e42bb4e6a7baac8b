import PolicyHost.Text.Quoted

/-!
# Integers in text

A numeral may stand between blanks, carry a sign, use the decimal digits of any script and have
single underscores between digits.

* `Numeral.read`, `Numeral.readOctets`: the integer, or the fault.
* `Numeral.Fault.message`: the wording.
-/

namespace PolicyHost.Numeral

/-- Why a text, or octets, are no integer. -/
inductive Fault
  | invalid (text : Text)
  | invalidOctets (octets : Bytes)
  | long (digits : Nat)
deriving DecidableEq, Repr

def maxDigits : Nat := 4300

/-- Digits with single underscores between them, up to the first code point that is neither: the
values of the digits, last first, whether the last code point was an underscore, and what follows.
Two underscores in a row end the numeral. -/
def spanDigits (acc : List Nat) (gap : Bool) : Text → List Nat × Bool × Text
  | [] => (acc, gap, [])
  | c :: rest =>
    if c = '_' then if gap then (acc, true, c :: rest) else spanDigits acc true rest
    else
      match c.decimal? with
      | some digit => spanDigits (digit :: acc) false rest
      | none => (acc, gap, c :: rest)

/-- The number that digits spell, first digit first. -/
def value (digits : List Nat) : Nat := digits.foldl (fun n d => n * 10 + d) 0

def read (t : Text) : Except Fault Int :=
  let body := t.dropWhile CodePoint.isNumeralBlank
  let (negative, unsigned) := match body with
    | c :: rest => if c = '-' then (true, rest) else if c = '+' then (false, rest) else (false, body)
    | [] => (false, body)
  let (digits, gap, rest) := spanDigits [] true unsigned
  if digits.isEmpty || gap then .error (.invalid t)
  else if maxDigits < digits.length then .error (.long digits.length)
  else if rest.all CodePoint.isNumeralBlank then
    let magnitude : Int := value digits.reverse
    .ok (if negative then -magnitude else magnitude)
  else .error (.invalid t)

def readOctets (octets : Bytes) : Except Fault Int :=
  let points : Text := octets.map fun b => if b < 0x80 then Fin.ofNat 0x110000 b.toNat else 0xFFFD
  (read points).mapError fun
    | .invalid _ => .invalidOctets octets
    | fault => fault

/-- The longest part of a quoted text that a message repeats. -/
def maxQuoted : Nat := 200

def invalidWords : Text := "invalid literal for int() with base 10: "

def Fault.message : Fault → Text
  | .invalid t => invalidWords ++ t.quoted.take maxQuoted
  | .invalidOctets octets =>
    invalidWords ++ (Text.quotedOctets (octets.take maxQuoted)).take maxQuoted
  | .long digits =>
    "Exceeds the limit (" ++ Text.ofNat maxDigits ++ " digits) for integer string conversion: value has "
      ++ Text.ofNat digits ++ " digits; use sys.set_int_max_str_digits() to increase the limit"

end PolicyHost.Numeral
