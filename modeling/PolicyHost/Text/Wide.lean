import PolicyHost.Text.Basic

/-!
# UTF-16 and UTF-32

Texts in units of two or four octets, in either order of octets. Surrogates that stand alone are
kept. What remains to refuse is an incomplete last unit and, in UTF-32, a unit that is no code
point.
-/

namespace PolicyHost.Wide

/-- Which octet of a unit comes first. -/
inductive Order
  | little
  | big
deriving DecidableEq, Repr

/-- Why units of two or four octets are no text. -/
inductive Flaw
  | truncated
  | beyond
deriving DecidableEq, Repr

/-- A stretch of octets that is no text, and where it lies. -/
structure Malformed where
  flaw : Flaw
  first : UInt8
  start : Nat
  width : Nat
deriving DecidableEq, Repr

/-- The number that octets spell in the given order. -/
def Order.value (order : Order) (unit : Bytes) : Nat :=
  match order with
  | .big => unit.foldl (fun n b => n * 256 + b.toNat) 0
  | .little => unit.foldr (fun b n => n * 256 + b.toNat) 0

/-- Joins the surrogate pairs of a list of 16-bit units. -/
def joinPairs (acc : Text) : Text → Text
  | [] => acc.reverse
  | [c] => (c :: acc).reverse
  | a :: b :: rest =>
    if a.isHigh && b.isLow then joinPairs (CodePoint.ofPair a b :: acc) rest
    else joinPairs (a :: acc) (b :: rest)

/-- The 16-bit units of octets that start at an offset. -/
def units16 (order : Order) (offset : Nat) (acc : Text) : Bytes → Except Malformed Text
  | [] => .ok acc.reverse
  | [a] => .error ⟨.truncated, a, offset, 1⟩
  | a :: b :: rest =>
    units16 order (offset + 2) (Fin.ofNat 0x110000 (order.value [a, b]) :: acc) rest

def decode16 (order : Order) (offset : Nat) (bytes : Bytes) : Except Malformed Text :=
  (units16 order offset [] bytes).map (joinPairs [])

/-- The 32-bit units of octets that start at an offset. -/
def units32 (order : Order) (offset : Nat) (acc : Text) : Bytes → Except Malformed Text
  | [] => .ok acc.reverse
  | a :: b :: c :: d :: rest =>
    let n := order.value [a, b, c, d]
    if h : n < 0x110000 then units32 order (offset + 4) (⟨n, h⟩ :: acc) rest
    else .error ⟨.beyond, a, offset, 4⟩
  | a :: rest => .error ⟨.truncated, a, offset, 1 + rest.length⟩

def decode32 (order : Order) (offset : Nat) (bytes : Bytes) : Except Malformed Text :=
  units32 order offset [] bytes

end PolicyHost.Wide
