import PolicyHost.Decimal.Shortest
import PolicyHost.Text.Basic

/-!
# How numbers are written

Floating-point numbers are written with the fewest digits that identify them, positionally when the
exponent of the leading digit lies from -4 to 15 and otherwise with a signed exponent of at least
two digits.
-/

namespace PolicyHost.Decimal

/-- Texts of the values that are no numbers. -/
structure Specials where
  nan : Text
  infinity : Text
  negativeInfinity : Text

/-- Digits with a point after the first `point` of them; zeros fill what is missing. -/
def positional (digits : Text) (point : Int) : Text :=
  if point ≤ 0 then
    "0." ++ List.replicate (-point).toNat ('0' : CodePoint) ++ digits
  else if digits.length ≤ point.toNat then
    digits ++ List.replicate (point.toNat - digits.length) ('0' : CodePoint) ++ (".0" : Text)
  else digits.take point.toNat ++ "." ++ digits.drop point.toNat

/-- One digit, the point and the other digits if there are any, and the exponent. -/
def scientific (digits : Text) (exponent : Int) : Text :=
  let mantissa : Text := match digits with
    | [] => []
    | [d] => [d]
    | d :: rest => d :: '.' :: rest
  let mark : Text := if exponent < 0 then "e-" else "e+"
  mantissa ++ mark ++ Text.padded 2 exponent.natAbs

/-- Lays out a decimal that is not zero. -/
def Scaled.layout (d : Scaled) : Text :=
  let digits := Text.ofNat d.digits
  let lead := d.exponent + digits.length - 1
  if -4 ≤ lead ∧ lead < 16 then positional digits (lead + 1) else scientific digits lead

/-- Writes a floating-point number. -/
def ofFloat (specials : Specials) (x : Float) : Text :=
  if x.isNaN then specials.nan
  else if x.isInf then if x < 0 then specials.negativeInfinity else specials.infinity
  else
    let bits := x.toBits
    let sign : Text := if bits >>> 63 = 1 then "-" else []
    let magnitude := Binary.ofBits bits
    if magnitude.significand = 0 then sign ++ "0.0" else sign ++ magnitude.shortest.layout

/-- `digits * 10 ^ exponent` as the nearest floating-point number. The bounds keep absurd exponents
from being computed with: outside of them the result is zero or infinite anyway. -/
def toFloat (digits : Nat) (exponent : Int) : Float :=
  let lead := exponent + (Nat.log2 digits : Int) * 30103 / 100000
  if digits = 0 ∨ lead < -330 then 0.0
  else if 310 < lead then Float.ofBits 0x7FF0000000000000
  else Float.ofScientific digits (exponent < 0) exponent.natAbs

end PolicyHost.Decimal
