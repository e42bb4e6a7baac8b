import PolicyHost.Decimal.Exact
import PolicyHost.Json.Basic

/-!
# Values of a host program

A host program hands over more than JSON: octets, exact decimals, dates, tuples and sets, records,
named constants, dictionaries with keys of any kind, and objects of which nothing is known here.

* `Value`: the values; `Value.ofJson`, `Value.asJson?`: to and fro between them and JSON.
* `Value.typeName`: the name of the type of a value.
-/

namespace PolicyHost

/-- A date and a time of day. -/
structure Moment where
  year : Nat
  month : Nat
  day : Nat
  hour : Nat
  minute : Nat
  second : Nat
  microsecond : Nat
deriving DecidableEq, Repr

/-- A value of a host program. `enclosing` stands for a container that encloses it, and `other` for an
object of any other type; a number tells such objects apart. -/
inductive Value
  | null
  | bool (value : Bool)
  | int (value : Int)
  | float (value : Float)
  | text (value : Text)
  | octets (value : Bytes)
  | decimal (value : Decimal.Exact)
  | moment (value : Moment)
  | list (items : List Value)
  | tuple (items : List Value)
  | set (items : List Value)
  | dict (entries : List (Value × Value))
  | record (type : Text) (fields : List (Text × Value))
  | constant (type : Text) (value : Value)
  | enclosing
  | other (type : Text) (number : Nat)

instance : Inhabited Value := ⟨.null⟩

namespace Value

mutual

def ofJson : Json → Value
  | .null => .null
  | .bool b => .bool b
  | .int n => .int n
  | .float x => .float x
  | .string t => .text t
  | .array items => .list (ofItems items)
  | .object members => .dict (ofMembers members)

def ofItems : List Json → List Value
  | [] => []
  | item :: rest => ofJson item :: ofItems rest

def ofMembers : List (Text × Json) → List (Value × Value)
  | [] => []
  | (name, value) :: rest => (.text name, ofJson value) :: ofMembers rest

end

mutual

/-- The JSON that a value is, if it is made of nothing else. -/
def asJson? : Value → Option Json
  | .null => some .null
  | .bool b => some (.bool b)
  | .int n => some (.int n)
  | .float x => some (.float x)
  | .text t => some (.string t)
  | .list items => (asItems? items).map .array
  | .dict entries => (asMembers? entries).map .object
  | _ => none

def asItems? : List Value → Option (List Json)
  | [] => some []
  | item :: rest => do
    let first ← asJson? item
    let others ← asItems? rest
    return first :: others

/-- The members that entries with names for keys are. -/
def asMembers? : List (Value × Value) → Option (List (Text × Json))
  | [] => some []
  | (.text name, value) :: rest => do
    let first ← asJson? value
    let others ← asMembers? rest
    return (name, first) :: others
  | _ :: _ => none

end

mutual

theorem asJson?_ofJson (j : Json) : asJson? (ofJson j) = some j := by
  cases j with
  | array items => simp [ofJson, asJson?, asItems?_ofItems items]
  | object members => simp [ofJson, asJson?, asMembers?_ofMembers members]
  | _ => rfl

theorem asItems?_ofItems (items : List Json) : asItems? (ofItems items) = some items := by
  cases items with
  | nil => rfl
  | cons item rest => simp [ofItems, asItems?, asJson?_ofJson item, asItems?_ofItems rest]

theorem asMembers?_ofMembers (members : List (Text × Json)) :
    asMembers? (ofMembers members) = some members := by
  cases members with
  | nil => rfl
  | cons member rest =>
    obtain ⟨name, value⟩ := member
    simp [ofMembers, asMembers?, asJson?_ofJson value, asMembers?_ofMembers rest]

end

def typeName : Value → Text
  | .null => "NoneType"
  | .bool _ => "bool"
  | .int _ => "int"
  | .float _ => "float"
  | .text _ => "str"
  | .octets _ => "bytes"
  | .decimal _ => "Decimal"
  | .moment _ => "datetime"
  | .list _ | .enclosing => "list"
  | .tuple _ => "tuple"
  | .set _ => "set"
  | .dict _ => "dict"
  | .record type _ | .constant type _ | .other type _ => type

end Value

end PolicyHost
