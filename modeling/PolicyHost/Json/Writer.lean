import PolicyHost.Json.Reader

/-!
# Writing JSON text

Two layouts: compact, with no blanks, and indented by two blanks a level with names in ascending
order. Both escape quotation marks, backslashes and control characters; `plainPoint` leaves other
code points as they are, `asciiPoint` writes them as escaped 16-bit units.

* `compact`, `indented`: the two layouts.
* `WriteFault`: what neither can write.
-/

namespace PolicyHost.Json

/-- Why a value is not written. -/
inductive WriteFault
  | notFinite
  | longInteger
deriving DecidableEq, Repr

def unitEscape (n : Nat) : Text := "\\u" ++ Text.hexDigits 4 n

def shortEscape? (c : CodePoint) : Option Text :=
  if c = '"' then some "\\\""
  else if c = '\\' then some "\\\\"
  else if c.val = 0xA then some "\\n"
  else if c.val = 0xD then some "\\r"
  else if c.val = 0x9 then some "\\t"
  else if c.val = 0xC then some "\\f"
  else if c.val = 0x8 then some "\\b"
  else none

/-- A code point inside a string that may hold any but control characters. -/
def plainPoint (c : CodePoint) : Text :=
  match shortEscape? c with
  | some escape => escape
  | none => if c.val < 0x20 then unitEscape c.val else [c]

/-- A code point inside a string of printable ASCII. -/
def asciiPoint (c : CodePoint) : Text :=
  match shortEscape? c with
  | some escape => escape
  | none =>
    if 0x20 ≤ c.val ∧ c.val < 0x7F then [c]
    else if c.val < 0x10000 then unitEscape c.val
    else unitEscape c.pair.1.val ++ unitEscape c.pair.2.val

/-- A string between quotation marks. -/
def quoteWith (point : CodePoint → Text) (t : Text) : Text := "\"" ++ t.flatMap point ++ "\""

/-- How values are written. -/
structure Style where
  point : CodePoint → Text
  finiteOnly : Bool

/-- Floating-point numbers that are none, as JSON text writes them. -/
def writtenSpecials : Decimal.Specials := ⟨"NaN", "Infinity", "-Infinity"⟩

/-- A numeral of at most `maxDigits` digits. -/
def writeInt (n : Int) : Except WriteFault Text :=
  if n.natAbs < 10 ^ maxDigits then .ok (Text.ofInt n) else .error .longInteger

def writeFloat (style : Style) (x : Float) : Except WriteFault Text :=
  if style.finiteOnly && !x.isFinite then .error .notFinite
  else .ok (Decimal.ofFloat writtenSpecials x)

mutual

/-- Writes a value without blanks. -/
def compact (style : Style) : Json → Except WriteFault Text
  | .null => .ok "null"
  | .bool true => .ok "true"
  | .bool false => .ok "false"
  | .int n => writeInt n
  | .float x => writeFloat style x
  | .string t => .ok (quoteWith style.point t)
  | .array items => do
    let written ← compactItems style items
    return "[" ++ Text.joinWith "," written ++ "]"
  | .object members => do
    let written ← compactMembers style members
    return "\x7b" ++ Text.joinWith "," written ++ "\x7d"

def compactItems (style : Style) : List Json → Except WriteFault (List Text)
  | [] => .ok []
  | item :: rest => do
    let first ← compact style item
    let others ← compactItems style rest
    return first :: others

def compactMembers (style : Style) : List (Text × Json) → Except WriteFault (List Text)
  | [] => .ok []
  | (name, value) :: rest => do
    let written ← compact style value
    let others ← compactMembers style rest
    return (quoteWith style.point name ++ ":" ++ written) :: others

end

/-- A line break and two blanks for each level. -/
def lineBreak (level : Nat) : Text := '\n' :: List.replicate (2 * level) (' ' : CodePoint)

/-- Pieces between brackets, one on a line; nothing between them if there are none. -/
def bracketed (level : Nat) (opening closing : Text) (pieces : List Text) : Text :=
  if pieces = [] then opening ++ closing
  else
    opening ++ lineBreak (level + 1) ++ Text.joinWith ("," ++ lineBreak (level + 1)) pieces
      ++ lineBreak level ++ closing

def byName (written : List (Text × Text)) : List (Text × Text) :=
  written.mergeSort fun a b => Text.le a.1 b.1

mutual

/-- Writes a value over several lines, from a level of indentation on. -/
def indented (style : Style) (level : Nat) : Json → Except WriteFault Text
  | .array items => do
    let written ← indentedItems style (level + 1) items
    return bracketed level "[" "]" written
  | .object members => do
    let written ← indentedMembers style (level + 1) members
    let lines := (byName written).map fun member =>
      quoteWith style.point member.1 ++ ": " ++ member.2
    return bracketed level "\x7b" "\x7d" lines
  | value => compact style value

/-- Writes the items of an array over several lines. -/
def indentedItems (style : Style) (level : Nat) : List Json → Except WriteFault (List Text)
  | [] => .ok []
  | item :: rest => do
    let first ← indented style level item
    let others ← indentedItems style level rest
    return first :: others

/-- Writes the values of an object over several lines, each with its name. -/
def indentedMembers (style : Style) (level : Nat) :
    List (Text × Json) → Except WriteFault (List (Text × Text))
  | [] => .ok []
  | (name, value) :: rest => do
    let written ← indented style level value
    let others ← indentedMembers style level rest
    return (name, written) :: others

end

/-- What cannot be written, in words. -/
def WriteFault.message : WriteFault → Text
  | .notFinite => "Out of range float values are not JSON compliant"
  | .longInteger =>
    "Exceeds the limit (" ++ Text.ofNat maxDigits
      ++ " digits) for integer string conversion; use sys.set_int_max_str_digits() to increase the limit"

end PolicyHost.Json
