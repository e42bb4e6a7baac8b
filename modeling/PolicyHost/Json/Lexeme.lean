import PolicyHost.Json.Basic

/-!
# Lexemes of JSON text

`lexemes` cuts a text into lexemes, each with the offset where it starts, and ends the list with
`Token.stop`. A stretch that begins no lexeme becomes `Token.stray`, and a string that breaks off
becomes `Token.broken`; whoever reads the list decides whether they are ever looked at.

* `scanString`: a string up to its closing mark.
* `scanNumeral`: the longest numeral.
* `lexemes`: the whole text.
-/

namespace PolicyHost.Json

/-- Why a string breaks off. -/
inductive StringFlaw
  | unterminated
  | control
  | escape
  | unicodeEscape
deriving DecidableEq, Repr

/-- A numeral: sign, integer digits, digits after the point, and the exponent if there is one. -/
structure Numeral where
  negative : Bool
  whole : Text
  fraction : Text
  exponent : Option Int
deriving DecidableEq

/-- The kinds of lexemes. -/
inductive Token
  | openBracket
  | closeBracket
  | openBrace
  | closeBrace
  | comma
  | colon
  | literal (value : Json)
  | numeral (value : Numeral)
  | string (value : Text)
  | broken (flaw : StringFlaw) (offset : Nat)
  | stray
  | stop

/-- A token and the offset where it starts. -/
structure Lexeme where
  start : Nat
  token : Token

/-- Blanks between lexemes. -/
def isGap (c : CodePoint) : Bool := c == ' ' || c == '\t' || c == '\n' || c == '\r'

def escaped? (c : CodePoint) : Option CodePoint :=
  if c = '"' ∨ c = '\\' ∨ c = '/' then some c
  else if c = 'b' then some 0x8
  else if c = 'f' then some 0xC
  else if c = 'n' then some 0xA
  else if c = 'r' then some 0xD
  else if c = 't' then some 0x9
  else none

/-- The code point that four hexadecimal digits spell. -/
def unit? (a b c d : CodePoint) : Option CodePoint := do
  let w ← a.hexValue?
  let x ← b.hexValue?
  let y ← c.hexValue?
  let z ← d.hexValue?
  return Fin.ofNat 0x110000 (((w * 16 + x) * 16 + y) * 16 + z)

/-- Adds an escaped 16-bit unit to a string, last code point first. It joins the escaped high half
right before it. -/
def pushUnit (unit : CodePoint) (half : Bool) (acc : Text) : Text × Bool :=
  match half && unit.isLow, acc with
  | true, high :: rest => (CodePoint.ofPair high unit :: rest, false)
  | _, _ => (unit :: acc, unit.isHigh)

/-- A string scanned to its end: the token, the offset behind it and what follows. -/
structure Scanned where
  token : Token
  offset : Nat
  rest : Text

/-- Scans a string after its opening mark, which stands at `opening`. `half` says that the last
code point is an escaped high half. A Unicode escape has to be followed by something. -/
def scanString (opening offset : Nat) (acc : Text) (half : Bool) : Text → Scanned
  | [] => ⟨.broken .unterminated opening, offset, []⟩
  | c :: rest =>
    if c = '"' then ⟨.string acc.reverse, offset + 1, rest⟩
    else if c = '\\' then
      match rest with
      | [] => ⟨.broken .unterminated opening, offset, []⟩
      | e :: more =>
        if e = 'u' then
          match more with
          | w :: x :: y :: z :: tail =>
            match unit? w x y z, tail with
            | some unit, _ :: _ =>
              let pushed := pushUnit unit half acc
              scanString opening (offset + 6) pushed.1 pushed.2 tail
            | _, _ => ⟨.broken .unicodeEscape (offset + 1), offset, []⟩
          | _ => ⟨.broken .unicodeEscape (offset + 1), offset, []⟩
        else
          match escaped? e with
          | some value => scanString opening (offset + 2) (value :: acc) false more
          | none => ⟨.broken .escape offset, offset, []⟩
    else if c.val < 0x20 then ⟨.broken .control offset, offset, []⟩
    else scanString opening (offset + 1) (c :: acc) false rest

/-- Digits in front of a text, and what follows them. -/
def spanDigits (t : Text) : Text × Text := (t.takeWhile CodePoint.isDigit, t.dropWhile CodePoint.isDigit)

/-- The digits after a point, if the text starts with a point and a digit. -/
def scanFraction (t : Text) : Text × Text :=
  match t with
  | c :: rest =>
    let digits := spanDigits rest
    if c = '.' ∧ digits.1 ≠ [] then digits else ([], t)
  | [] => ([], t)

/-- The exponent in front of a text, if one is complete: its value, its width and what follows. -/
def scanExponent (t : Text) : Option Int × Nat × Text :=
  match t with
  | e :: rest =>
    if e = 'e' ∨ e = 'E' then
      let signed := match rest with
        | s :: more =>
          if s = '-' then (true, 1, more) else if s = '+' then (false, 1, more) else (false, 0, rest)
        | [] => (false, 0, rest)
      let digits := spanDigits signed.2.2
      if digits.1 = [] then (none, 0, t)
      else
        let value : Int := Text.digitsValue digits.1
        (some (if signed.1 then -value else value), 1 + signed.2.1 + digits.1.length, digits.2)
    else (none, 0, t)
  | [] => (none, 0, t)

/-- The longest numeral in front of a text: the numeral, its width and what follows. An integer part
of more than one digit does not start with a zero. -/
def scanNumeral (t : Text) : Option (Numeral × Nat × Text) :=
  let unsigned := match t with
    | c :: rest => if c = '-' then (true, rest) else (false, t)
    | [] => (false, t)
  let whole := match unsigned.2 with
    | c :: rest => if c = '0' then ([c], rest) else spanDigits unsigned.2
    | [] => ([], [])
  if whole.1 = [] then none
  else
    let fraction := scanFraction whole.2
    let exponent := scanExponent fraction.2
    let width := (if unsigned.1 then 1 else 0) + whole.1.length
      + (if fraction.1 = [] then 0 else fraction.1.length + 1) + exponent.2.1
    some (⟨unsigned.1, whole.1, fraction.1, exponent.1⟩, width, exponent.2.2)

def words : List (Text × Json) :=
  [("null", .null), ("true", .bool true), ("false", .bool false),
   ("NaN", .float (Float.ofBits 0x7FF8000000000000)),
   ("Infinity", .float (Float.ofBits 0x7FF0000000000000)),
   ("-Infinity", .float (Float.ofBits 0xFFF0000000000000))]

/-- The lexeme in front of a text that starts with neither a blank nor a string. -/
def scanPlain (offset : Nat) (c : CodePoint) (rest : Text) : Scanned :=
  let one := fun (token : Token) => (⟨token, offset + 1, rest⟩ : Scanned)
  if c = '[' then one .openBracket
  else if c = ']' then one .closeBracket
  else if c.val = 0x7B then one .openBrace
  else if c.val = 0x7D then one .closeBrace
  else if c = ',' then one .comma
  else if c = ':' then one .colon
  else
    match words.find? fun word => Text.startsWith (c :: rest) word.1 with
    | some word =>
      ⟨.literal word.2, offset + word.1.length, (c :: rest).drop word.1.length⟩
    | none =>
      match scanNumeral (c :: rest) with
      | some (value, width, tail) => ⟨.numeral value, offset + width, tail⟩
      | none => ⟨.stray, offset, []⟩

/-- Cuts a text into lexemes. What follows a stray or broken lexeme is not cut. The first argument
bounds the number of steps; the length of the text is enough. -/
def lexemesFrom (offset : Nat) (acc : List Lexeme) : Nat → Text → List Lexeme
  | 0, _ => (⟨offset, .stop⟩ :: acc).reverse
  | _, [] => (⟨offset, .stop⟩ :: acc).reverse
  | steps + 1, c :: rest =>
    if isGap c then lexemesFrom (offset + 1) acc steps rest
    else
      let scanned :=
        if c = '"' then scanString offset (offset + 1) [] false rest else scanPlain offset c rest
      lexemesFrom scanned.offset (⟨offset, scanned.token⟩ :: acc) steps scanned.rest

def lexemes (t : Text) : List Lexeme := lexemesFrom 0 [] t.length t

end PolicyHost.Json
