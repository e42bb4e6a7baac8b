import PolicyHost.Platform

/-!
# Results in a shape

Reading a value in a shape is lenient: numbers and truth values may also be spelled in strings, and
numbers that are equal stand for each other.

* `Shape.read?`: a value in a shape, if it fits.
-/

namespace PolicyHost

namespace Shape

/-- Drops zeros, and underscores after the first zero, in front of a numeral. The zero before a point
stays, and of zeros alone the last code point stays. -/
def dropZeros (t : Text) : Option Text :=
  match t with
  | [] => none
  | c :: rest =>
    if c ≠ CodePoint.ofChar '0' then if c.isDigit || c == '-' then some t else none
    else
      let rec go (last : CodePoint) : Text → Option Text
        | [] => some [last]
        | d :: more =>
          if d = '0' ∨ d = '_' then go d more
          else if d.isDigit then some (d :: more)
          else if d = '.' then some (last :: d :: more)
          else none
      go c rest

/-- Drops a point with nothing but zeros behind it. -/
def dropPoint (t : Text) : Text :=
  let whole := t.takeWhile fun (c : CodePoint) => c != '.'
  match t.drop whole.length with
  | _ :: zeros => if zeros.all fun (c : CodePoint) => c == '0' then whole else t
  | [] => t

/-- Two underscores in a row. -/
def doubled : Text → Bool
  | a :: b :: rest => (a == '_' && b == '_') || doubled (b :: rest)
  | _ => false

/-- Drops single underscores between digits; other underscores stay. -/
def dropUnderscores (t : Text) : Text :=
  let mark : CodePoint := '_'
  if t.head? = some mark || t.getLast? = some mark || doubled t then t
  else t.filter fun c => c != mark

/-- A plain integer: digits without a needless zero in front, and perhaps a hyphen. -/
def plainInt? (t : Text) : Option Int :=
  let (negative, digits) := match t with
    | c :: rest => if c = '-' then (true, rest) else (false, t)
    | [] => (false, t)
  let needless := match digits with
    | c :: _ :: _ => c == '0'
    | _ => false
  if digits.isEmpty || needless || !digits.all CodePoint.isDigit || Json.maxDigits < digits.length then
    none
  else
    let magnitude : Int := Text.digitsValue digits
    some (if negative then -magnitude else magnitude)

/-- The integer that a string spells: with blanks around it, a sign, zeros in front, a point with
zeros behind it, and single underscores between digits. -/
def textInt? (t : Text) : Option Int :=
  (plainInt? t).or do
    let trimmed := t.trimBoth CodePoint.isNumeralBlank
    let unsigned ← match trimmed with
      | c :: rest =>
        if c ≠ CodePoint.ofChar '+' then some trimmed
        else if rest.head? = some (CodePoint.ofChar '-') then none
        else some rest
      | [] => none
    let digits ← dropZeros unsigned
    plainInt? (dropUnderscores (dropPoint digits))

/-- The number that a plain numeral spells: digits, of which a point may be in any place, and an
exponent. -/
def plainFloat? (t : Text) : Option Float :=
  let (negative, body) := match t with
    | c :: rest => if c = '-' then (true, rest) else if c = '+' then (false, rest) else (false, t)
    | [] => (false, t)
  let signed := fun (x : Float) => if negative then -x else x
  let name := body.map CodePoint.lower
  if name = Text.ofString "inf" ∨ name = Text.ofString "infinity" then
    some (signed (Float.ofBits 0x7FF0000000000000))
  else if name = Text.ofString "nan" then some (Float.ofBits 0x7FF8000000000000)
  else
    match Decimal.Exact.read? body with
    | some (.number _ digits exponent) =>
      if body.all fun c => c.isDigit || c == '.' || c == 'e' || c == 'E' || c == '+' || c == '-' then
        if body.head? = some (CodePoint.ofChar '+') || body.head? = some (CodePoint.ofChar '-') then none
        else some (signed (Decimal.toFloat digits exponent))
      else none
    | _ => none

/-- The number that a string spells, with blanks around it and single underscores between digits. -/
def textFloat? (t : Text) : Option Float :=
  let trimmed := t.trimBoth CodePoint.isNumeralBlank
  (plainFloat? trimmed).or (plainFloat? (dropUnderscores trimmed))

/-- The truth value that a string names, whatever its case. -/
def textBool? (t : Text) : Option Bool :=
  let name := t.map CodePoint.lower
  let among := fun (names : List String) => names.any fun n => Text.ofString n == name
  if among ["1", "on", "t", "true", "y", "yes"] then some true
  else if among ["0", "off", "f", "false", "n", "no"] then some false
  else none

/-- The integer that a finite number without a fraction is, within 64 signed bits. -/
def floatInt? (x : Float) : Option Int := do
  let n ← Json.wholeFloat? x
  if -(2 ^ 63 : Int) < n ∧ n < 2 ^ 63 then some n else none

/-- An integer as a floating-point number, if it is not too large for one. -/
def intFloat? (n : Int) : Option Float :=
  let x := Decimal.toFloat n.natAbs 0
  if x.isInf then none else some (if n < 0 then -x else x)

mutual

def read? (shape : Shape) (value : Json) : Option Value :=
  match shape, value with
  | .int, .int n => some (.int n)
  | .int, .bool b => some (.int (if b then 1 else 0))
  | .int, .float x => (floatInt? x).map .int
  | .int, .string t => (textInt? t).map .int
  | .text, .string t => some (.text t)
  | .bool, .bool b => some (.bool b)
  | .bool, .int n => if n = 0 then some (.bool false) else if n = 1 then some (.bool true) else none
  | .bool, .float x => if x == 0 then some (.bool false) else if x == 1 then some (.bool true) else none
  | .bool, .string t => (textBool? t).map .bool
  | .float, .float x => some (.float x)
  | .float, .int n => (intFloat? n).map .float
  | .float, .bool b => some (.float (if b then 1 else 0))
  | .float, .string t => (textFloat? t).map .float
  | .list item, .array items => (items.mapM (read? item)).map .list
  | .dict shape, .object members =>
    (members.mapM fun m => (read? shape m.2).map fun v => (Value.text m.1, v)).map .dict
  | .optional _, .null => some .null
  | .optional shape, value => read? shape value
  | .record type fields, .object members => (readFields? fields members).map (.record type)
  | _, _ => none

def readFields? (fields : List (Text × Shape)) (members : Json.Members) :
    Option (List (Text × Value)) :=
  match fields with
  | [] => some []
  | (name, shape) :: rest => do
    let value ← Table.get? name members
    let first ← read? shape value
    let others ← readFields? rest members
    return (name, first) :: others

end

end Shape

end PolicyHost
