import PolicyHost.Decimal.Layout
import PolicyHost.Text.Classes

/-!
# Exact decimals

A decimal number keeps its coefficient and exponent, so that trailing zeros are not lost. It is
written positionally unless it has a positive exponent or more than six zeros would follow the
point.

* `Exact.read?`, `Exact.write`: from and to text.
* `Exact.agrees`: equality by value.
-/

namespace PolicyHost.Decimal

/-- `coefficient * 10 ^ exponent` with a sign, or a value that is no number. What is not a number may
signal, and carries a mark. -/
inductive Exact
  | number (negative : Bool) (coefficient : Nat) (exponent : Int)
  | infinity (negative : Bool)
  | nan (negative signals : Bool) (mark : Nat)
deriving DecidableEq, Repr

/-- The sign in front of a number. -/
def minus (negative : Bool) : Text := if negative then "-" else []

def Exact.write : Exact → Text
  | .infinity negative => minus negative ++ "Infinity"
  | .nan negative signals mark =>
    minus negative ++ (if signals then "sNaN" else "NaN") ++ if mark = 0 then [] else Text.ofNat mark
  | .number negative coefficient exponent =>
    let digits := Text.ofNat coefficient
    let left := exponent + digits.length
    let point := if exponent ≤ 0 ∧ -6 < left then left else 1
    let body : Text :=
      if point ≤ 0 then "0." ++ List.replicate (-point).toNat ('0' : CodePoint) ++ digits
      else if digits.length ≤ point.toNat then
        digits ++ List.replicate (point.toNat - digits.length) ('0' : CodePoint)
      else digits.take point.toNat ++ "." ++ digits.drop point.toNat
    let suffix : Text :=
      if left = point then []
      else if left < point then "E-" ++ Text.ofNat (point - left).toNat
      else "E+" ++ Text.ofNat (left - point).toNat
    minus negative ++ body ++ suffix

/-- A numeral in ASCII: no blanks around it, no underscores, and decimal digits of any script as
ASCII digits. -/
def plain? (t : Text) : Option Text :=
  let marked := (t.trimBoth CodePoint.isBlank).filter fun (c : CodePoint) => c != '_'
  marked.mapM fun (c : CodePoint) =>
    if c.val < 0x80 then some c
    else c.decimal?.map fun digit => Fin.ofNat 0x110000 (0x30 + digit)

/-- A sign in front of a numeral, whether it is a hyphen, and the numeral behind it. -/
def splitSign (t : Text) : Bool × Text :=
  match t with
  | c :: rest => if c = '-' then (true, rest) else if c = '+' then (false, rest) else (false, t)
  | [] => (false, t)

def markBehind? (name : String) (t : Text) : Option Nat :=
  let word := Text.ofString name
  let mark := t.drop word.length
  if (t.take word.length).map CodePoint.lower = word ∧ mark.all CodePoint.isDigit then
    some (Text.digitsValue mark)
  else none

/-- The exponent behind a coefficient; nothing stands for zero. -/
def exponentOf? : Text → Option Int
  | [] => some 0
  | e :: rest =>
    let (down, digits) := splitSign rest
    if e.lower ≠ CodePoint.ofChar 'e' ∨ digits.isEmpty ∨ !digits.all CodePoint.isDigit then none
    else
      let n : Int := Text.digitsValue digits
      some (if down then -n else n)

/-- Digits with a point anywhere, and an exponent. -/
def readNumber? (negative : Bool) (body : Text) : Option Exact :=
  let whole := body.takeWhile CodePoint.isDigit
  let (fraction, rest) := match body.drop whole.length with
    | c :: rest =>
      if c = '.' then (rest.takeWhile CodePoint.isDigit, rest.dropWhile CodePoint.isDigit)
      else ([], c :: rest)
    | [] => ([], [])
  if whole.isEmpty && fraction.isEmpty then none
  else (exponentOf? rest).map fun e =>
    .number negative (Text.digitsValue (whole ++ fraction)) (e - fraction.length)

/-- Reads an exact decimal: digits with a point anywhere and an exponent, or the name of a value that
is no number. -/
def Exact.read? (t : Text) : Option Exact := do
  let (negative, body) := splitSign (← plain? t)
  let name := body.map CodePoint.lower
  if name = Text.ofString "inf" ∨ name = Text.ofString "infinity" then some (.infinity negative)
  else
    ((markBehind? "nan" body).map (.nan negative false)).or <|
    ((markBehind? "snan" body).map (.nan negative true)).or <|
    readNumber? negative body

/-- A floating-point number as an exact decimal. -/
def Exact.ofFloat (x : Float) : Exact :=
  let bits := x.toBits
  let negative := bits >>> 63 = 1
  if x.isNaN then .nan negative false 0
  else if x.isInf then .infinity negative
  else
    let magnitude := (Binary.ofBits bits).exact
    .number negative magnitude.digits magnitude.exponent

def Exact.ofInt (n : Int) : Exact := .number (n < 0) n.natAbs 0

/-- Equality by value. What is not a number equals nothing. -/
def Exact.agrees : Exact → Exact → Bool
  | .number s a i, .number t b j =>
    (a == 0 && b == 0)
      || s == t && Scaled.strip (a.log2 + 1) ⟨a, i⟩ == Scaled.strip (b.log2 + 1) ⟨b, j⟩
  | .infinity s, .infinity t => s == t
  | _, _ => false

end PolicyHost.Decimal
