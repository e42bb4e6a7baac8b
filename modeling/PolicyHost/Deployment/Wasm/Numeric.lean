import PolicyHost.Deployment.Wasm.Module

/-!
# Integer instructions

Integers are words; signed operations read them as two's complement. Division faults on zero and,
when signed, on the one quotient that does not fit.

* `unary32`, `binary32`, `compare32` and their 64-bit forms.
* `ArithmeticFault`: why a division has no result.
-/

namespace PolicyHost.Wasm

/-- Why a division has no result. -/
inductive ArithmeticFault
  | divideByZero
  | overflow
deriving DecidableEq, Repr

/-- Zeros in front of a number of `width` bits. -/
def leadingZeros (width n : Nat) : Nat := if n = 0 then width else width - 1 - n.log2

/-- Zeros behind the last one of a number, or `width` if there is none. -/
def trailingZeros (n : Nat) : (width : Nat) → Nat
  | 0 => 0
  | width + 1 => if n % 2 = 1 then 0 else 1 + trailingZeros (n / 2) width

/-- Ones among the last `width` bits of a number. -/
def onesCount (n : Nat) : (width : Nat) → Nat
  | 0 => 0
  | width + 1 => n % 2 + onesCount (n / 2) width

/-- The last `bits` bits of a number, read as a signed number. -/
def signExtend (bits n : Nat) : Int := Int.bmod n (2 ^ bits)

/-- Operations on one 32-bit operand. -/
def unary32 (op : Unary) (x : UInt32) : UInt32 :=
  match op with
  | .clz => (leadingZeros 32 x.toNat).toUInt32
  | .ctz => (trailingZeros x.toNat 32).toUInt32
  | .popcnt => (onesCount x.toNat 32).toUInt32
  | .extend8 => UInt32.ofInt (signExtend 8 x.toNat)
  | .extend16 => UInt32.ofInt (signExtend 16 x.toNat)
  | .extend32 => x

/-- Operations on one 64-bit operand. -/
def unary64 (op : Unary) (x : UInt64) : UInt64 :=
  match op with
  | .clz => (leadingZeros 64 x.toNat).toUInt64
  | .ctz => (trailingZeros x.toNat 64).toUInt64
  | .popcnt => (onesCount x.toNat 64).toUInt64
  | .extend8 => UInt64.ofInt (signExtend 8 x.toNat)
  | .extend16 => UInt64.ofInt (signExtend 16 x.toNat)
  | .extend32 => UInt64.ofInt (signExtend 32 x.toNat)

/-- Operations on two 32-bit operands. -/
def binary32 (op : Binary) (x y : UInt32) : Except ArithmeticFault UInt32 :=
  match op with
  | .add => .ok (x + y)
  | .sub => .ok (x - y)
  | .mul => .ok (x * y)
  | .divS =>
    if y = 0 then .error .divideByZero
    else if x = 0x80000000 ∧ y = 0xFFFFFFFF then .error .overflow
    else .ok (x.toInt32 / y.toInt32).toUInt32
  | .divU => if y = 0 then .error .divideByZero else .ok (x / y)
  | .remS =>
    if y = 0 then .error .divideByZero
    else .ok (x.toInt32 % y.toInt32).toUInt32
  | .remU => if y = 0 then .error .divideByZero else .ok (x % y)
  | .and => .ok (x &&& y)
  | .or => .ok (x ||| y)
  | .xor => .ok (x ^^^ y)
  | .shl => .ok (x <<< y)
  | .shrS => .ok (x.toInt32 >>> y.toInt32).toUInt32
  | .shrU => .ok (x >>> y)
  | .rotl => .ok ((x <<< y) ||| (x >>> (32 - y % 32)))
  | .rotr => .ok ((x >>> y) ||| (x <<< (32 - y % 32)))

/-- Operations on two 64-bit operands. -/
def binary64 (op : Binary) (x y : UInt64) : Except ArithmeticFault UInt64 :=
  match op with
  | .add => .ok (x + y)
  | .sub => .ok (x - y)
  | .mul => .ok (x * y)
  | .divS =>
    if y = 0 then .error .divideByZero
    else if x = 0x8000000000000000 ∧ y = 0xFFFFFFFFFFFFFFFF then .error .overflow
    else .ok (x.toInt64 / y.toInt64).toUInt64
  | .divU => if y = 0 then .error .divideByZero else .ok (x / y)
  | .remS =>
    if y = 0 then .error .divideByZero
    else .ok (x.toInt64 % y.toInt64).toUInt64
  | .remU => if y = 0 then .error .divideByZero else .ok (x % y)
  | .and => .ok (x &&& y)
  | .or => .ok (x ||| y)
  | .xor => .ok (x ^^^ y)
  | .shl => .ok (x <<< y)
  | .shrS => .ok (x.toInt64 >>> y.toInt64).toUInt64
  | .shrU => .ok (x >>> y)
  | .rotl => .ok ((x <<< y) ||| (x >>> (64 - y % 64)))
  | .rotr => .ok ((x >>> y) ||| (x <<< (64 - y % 64)))

/-- Comparisons of 32-bit operands. -/
def compare32 (op : Compare) (x y : UInt32) : Bool :=
  match op with
  | .eq => x == y
  | .ne => x != y
  | .ltS => x.toInt32 < y.toInt32
  | .ltU => x < y
  | .gtS => y.toInt32 < x.toInt32
  | .gtU => y < x
  | .leS => x.toInt32 ≤ y.toInt32
  | .leU => x ≤ y
  | .geS => y.toInt32 ≤ x.toInt32
  | .geU => y ≤ x

/-- Comparisons of 64-bit operands. -/
def compare64 (op : Compare) (x y : UInt64) : Bool :=
  match op with
  | .eq => x == y
  | .ne => x != y
  | .ltS => x.toInt64 < y.toInt64
  | .ltU => x < y
  | .gtS => y.toInt64 < x.toInt64
  | .gtU => y < x
  | .leS => x.toInt64 ≤ y.toInt64
  | .leU => x ≤ y
  | .geS => y.toInt64 ≤ x.toInt64
  | .geU => y ≤ x

end PolicyHost.Wasm
