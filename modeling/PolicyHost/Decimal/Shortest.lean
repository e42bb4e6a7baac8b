import PolicyHost.Arithmetic

/-!
# The fewest digits that read back

A finite double is `significand * 2 ^ exponent`. The reals that round to it form an interval, ends
included exactly when the significand is even. `Binary.shortest` selects from it a decimal of the
fewest digits, and of those the nearest to the double.

* `Binary.readsBack`: the interval test, in exact arithmetic.
* `Binary.shortest`: the selection.
-/

namespace PolicyHost.Decimal

/-- A finite double without its sign: `significand * 2 ^ exponent`. -/
structure Binary where
  significand : Nat
  exponent : Int
  /-- The gap to the double below is half the gap to the one above. -/
  narrow : Bool
deriving DecidableEq, Repr

/-- `digits * 10 ^ exponent`. -/
structure Scaled where
  digits : Nat
  exponent : Int
deriving DecidableEq, Repr

/-- The magnitude that the bits of a finite double stand for. -/
def Binary.ofBits (bits : UInt64) : Binary :=
  let exponent := ((bits >>> 52) &&& 0x7FF).toNat
  let fraction := (bits &&& 0xFFFFFFFFFFFFF).toNat
  if exponent = 0 then ⟨fraction, -1074, false⟩
  else ⟨2 ^ 52 + fraction, (exponent : Int) - 1075, fraction == 0 && exponent > 1⟩

/-- Compares `a * 10 ^ i` with `n * 2 ^ j`. -/
def compareScaled (a : Nat) (i : Int) (n : Nat) (j : Int) : Ordering :=
  compare (a * 10 ^ i.toNat * 2 ^ (-j).toNat) (n * 2 ^ j.toNat * 10 ^ (-i).toNat)

/-- `d` is among the reals that round to `x`. -/
def Binary.readsBack (x : Binary) (d : Scaled) : Bool :=
  let low := if x.narrow then 4 * x.significand - 1 else 4 * x.significand - 2
  let high := 4 * x.significand + 2
  let closed := x.significand % 2 == 0
  let below := compareScaled d.digits d.exponent low (x.exponent - 2)
  let above := compareScaled d.digits d.exponent high (x.exponent - 2)
  (below == .gt || (closed && below == .eq)) && (above == .lt || (closed && above == .eq))

/-- The largest multiple of `10 ^ g` that does not exceed `x`, counted in units of `10 ^ g`. -/
def Binary.floorAt (x : Binary) (g : Int) : Nat :=
  x.significand * 2 ^ x.exponent.toNat * 10 ^ (-g).toNat / (2 ^ (-x.exponent).toNat * 10 ^ g.toNat)

/-- The least `k` with `x < 10 ^ k`. The binary logarithm leaves few candidates. -/
def Binary.magnitude (x : Binary) : Int :=
  let guess := ((x.significand.log2 : Int) + x.exponent) * 30103 / 100000
  let fits := fun (k : Int) => compareScaled 1 k x.significand x.exponent == .gt
  ([guess - 1, guess, guess + 1, guess + 2].find? fits).getD (guess + 3)

/-- Which of two neighbours on a grid is nearer to `x`; an exact tie goes to the even one. -/
def Binary.nearer (x : Binary) (below : Nat) (g : Int) : Nat :=
  match compareScaled (2 * below + 1) g (2 * x.significand) x.exponent with
  | .lt => below + 1
  | .gt => below
  | .eq => if below % 2 = 0 then below else below + 1

/-- The decimal with `n` digits that reads back as `x`, if there is one. -/
def Binary.withDigits (x : Binary) (magnitude : Int) (n : Nat) : Option Scaled :=
  let g := magnitude - n
  let below := x.floorAt g
  match x.readsBack ⟨below, g⟩, x.readsBack ⟨below + 1, g⟩ with
  | true, true => some ⟨x.nearer below g, g⟩
  | true, false => some ⟨below, g⟩
  | false, true => some ⟨below + 1, g⟩
  | false, false => none

/-- Moves the zeros at the end of the digits into the exponent. -/
def Scaled.strip : (fuel : Nat) → Scaled → Scaled
  | 0, d => d
  | fuel + 1, d =>
    if d.digits ≠ 0 ∧ d.digits % 10 = 0 then strip fuel ⟨d.digits / 10, d.exponent + 1⟩ else d

/-- The decimal that stands for exactly `x`. -/
def Binary.exact (x : Binary) : Scaled :=
  if 0 ≤ x.exponent then ⟨x.significand * 2 ^ x.exponent.toNat, 0⟩
  else ⟨x.significand * 5 ^ (-x.exponent).toNat, x.exponent⟩

/-- The decimal of the fewest digits that reads back as `x`, which is not zero. -/
def Binary.shortest (x : Binary) : Scaled :=
  let lengths := (List.range 17).map (· + 1)
  ((lengths.findSome? (x.withDigits x.magnitude)).getD x.exact).strip 20

end PolicyHost.Decimal
