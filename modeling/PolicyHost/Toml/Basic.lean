import PolicyHost.Decimal.Layout
import PolicyHost.Json.Basic
import PolicyHost.Room
import PolicyHost.Toml.Calendar

/-!
# Values of configuration documents

* `Toml`: the values. An array of tables is an array whose items are tables.
* `Toml.Fault`: why a document is not read, or a value not written.
* `Toml.quoted`: a value as part of a message.
-/

namespace PolicyHost

/-- A value of a configuration document. -/
inductive Toml
  | bool (value : Bool)
  | int (value : Int)
  | float (value : Float)
  | string (value : Text)
  | stamp (value : Stamp)
  | array (items : List Toml)
  | table (members : List (Text × Toml))

instance : Inhabited Toml := ⟨.bool false⟩

namespace Toml

abbrev Members := Table Text Toml

def member? (name : Text) (members : Members) : Option Toml := members.get? name

/-- Why a document is not read, or a value not written. -/
inductive Fault
  | malformed
  | longInteger (digits : Nat)
  | unwritableInteger
  | tooDeep
deriving DecidableEq, Repr

/-- Integers of more digits are neither read nor written in decimal digits. -/
def maxDigits : Nat := 4300

/-- An integer in decimal digits. -/
def quotedInt (n : Int) : Except Fault Text :=
  if n.natAbs < 10 ^ maxDigits then .ok (Text.ofInt n) else .error .unwritableInteger

mutual

/-- A value as part of a message, where some more arrays and tables may enclose what it holds. -/
def quotedWithin : (depth : Nat) → Toml → Except Fault Text
  | 0, _ => .error .tooDeep
  | _, .bool true => .ok "True"
  | _, .bool false => .ok "False"
  | _, .int n => quotedInt n
  | _, .float x => .ok (Decimal.ofFloat Json.displaySpecials x)
  | _, .string t => .ok t.quoted
  | _, .stamp s => .ok s.quoted
  | depth + 1, .array items => do
    return "[" ++ Text.joinWith ", " (← quotedItems depth items) ++ "]"
  | depth + 1, .table members => do
    return "\x7b" ++ Text.joinWith ", " (← quotedMembers depth members) ++ "\x7d"

def quotedItems (depth : Nat) : List Toml → Except Fault (List Text)
  | [] => .ok []
  | item :: rest => do
    let first ← quotedWithin depth item
    let others ← quotedItems depth rest
    return first :: others

def quotedMembers (depth : Nat) : List (Text × Toml) → Except Fault (List Text)
  | [] => .ok []
  | (name, value) :: rest => do
    let first ← quotedWithin depth value
    let others ← quotedMembers depth rest
    return (name.quoted ++ ": " ++ first) :: others

end

def quoted [Room] (value : Toml) : Except Fault Text := value.quotedWithin (Room.wordings + 1)

end Toml

end PolicyHost
