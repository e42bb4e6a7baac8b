import PolicyHost.Toml.Basic

/-!
# Numbers of configuration documents

An integer is decimal, or hexadecimal, binary or octal behind its mark; a floating-point number has
a fraction, an exponent or both. Single underscores may stand between digits.

* `spanGroups`: digits with underscores between them.
* `scanNumber`: the longest number in front of a text.
-/

namespace PolicyHost.Toml

/-- Digits in front of a text with single underscores between them, last digit first in `acc`: the
digits, and what follows them. -/
def spanGroups (isDigit : CodePoint → Bool) (acc : Text) : Text → Text × Text
  | [] => (acc.reverse, [])
  | c :: rest =>
    if isDigit c then spanGroups isDigit (c :: acc) rest
    else
      match rest with
      | [] => (acc.reverse, [c])
      | d :: more =>
        if c = '_' ∧ acc ≠ [] ∧ isDigit d then spanGroups isDigit (d :: acc) more
        else (acc.reverse, c :: d :: more)

def bases : List (Text × Nat) := [("0x", 16), ("0b", 2), ("0o", 8)]

def isDigitOf (base : Nat) (c : CodePoint) : Bool := c.hexValue?.any (· < base)

def valueOf (base : Nat) (digits : Text) : Nat :=
  digits.foldl (fun n c => n * base + c.hexValue?.getD 0) 0

def scanMarked (t : Text) : Option (Toml × Text) := do
  let (mark, base) ← bases.find? fun b => Text.startsWith t b.1
  let (digits, rest) := spanGroups (isDigitOf base) [] (t.drop mark.length)
  if digits = [] then none else some (.int (valueOf base digits), rest)

def scanSign (t : Text) : Bool × Text :=
  match t with
  | c :: rest => if c = '-' then (true, rest) else if c = '+' then (false, rest) else (false, t)
  | [] => (false, t)

/-- The integer digits in front of a text. More than one do not start with a zero. -/
def scanWhole (t : Text) : Text × Text :=
  match t with
  | c :: rest => if c = '0' then ([c], rest) else spanGroups CodePoint.isDigit [] t
  | [] => ([], [])

/-- The digits after a point; without a digit there is no fraction. -/
def scanDecimals (t : Text) : Text × Text :=
  match t with
  | c :: rest =>
    let digits := spanGroups CodePoint.isDigit [] rest
    if c = '.' ∧ digits.1 ≠ [] then digits else ([], t)
  | [] => ([], t)

/-- The exponent in front of a text, if there is a complete one. -/
def scanPower (t : Text) : Option Int × Text :=
  match t with
  | c :: rest =>
    let (negative, unsigned) := scanSign rest
    let (digits, tail) := spanGroups CodePoint.isDigit [] unsigned
    if (c = 'e' ∨ c = 'E') ∧ digits ≠ [] then
      let size : Int := Text.digitsValue digits
      (some (if negative then -size else size), tail)
    else (none, t)
  | [] => (none, t)

def scanDecimal (t : Text) : Option (Except Fault Toml × Text) :=
  let (negative, unsigned) := scanSign t
  let (whole, afterWhole) := scanWhole unsigned
  let (decimals, afterDecimals) := scanDecimals afterWhole
  let (power, rest) := scanPower afterDecimals
  if whole = [] then none
  else if decimals = [] ∧ power = none then
    if maxDigits < whole.length then some (.error (.longInteger whole.length), rest)
    else
      let size : Int := Text.digitsValue whole
      some (.ok (.int (if negative then -size else size)), rest)
  else
    let size := Decimal.toFloat (Text.digitsValue (whole ++ decimals))
      (power.getD 0 - decimals.length)
    some (.ok (.float (if negative then -size else size)), rest)

/-- Floating-point numbers that are written as words. -/
def numberWords : List (Text × Float) :=
  let infinity := Float.ofBits 0x7FF0000000000000
  let none := Float.ofBits 0x7FF8000000000000
  [("inf", infinity), ("+inf", infinity), ("-inf", -infinity),
   ("nan", none), ("+nan", none), ("-nan", none)]

/-- The longest number in front of a text, and what follows it. -/
def scanNumber (t : Text) : Except Fault (Toml × Text) :=
  match scanMarked t, scanDecimal t with
  | some (value, rest), _ => .ok (value, rest)
  | none, some (result, rest) => result.map fun value => (value, rest)
  | none, none =>
    match numberWords.find? fun word => Text.startsWith t word.1 with
    | some word => .ok (.float word.2, t.drop word.1.length)
    | none => .error .malformed

end PolicyHost.Toml
