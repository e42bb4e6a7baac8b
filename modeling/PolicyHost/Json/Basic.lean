import PolicyHost.Table
import PolicyHost.Text.Quoted
import PolicyHost.Decimal.Layout

/-!
# JSON values

Integers have any size and are kept apart from floating-point numbers. An object keeps its members
in the order in which their names first arrived.

* `Json`: the values.
* `Json.agrees`: equality of contents: numbers agree by value, objects whatever their order.
* `Json.display`, `Json.quoted`: how a value reads in a message.
-/

namespace PolicyHost

/-- A JSON value. -/
inductive Json
  | null
  | bool (value : Bool)
  | int (value : Int)
  | float (value : Float)
  | string (value : Text)
  | array (items : List Json)
  | object (members : List (Text × Json))

instance : Inhabited Json := ⟨.null⟩

namespace Json

abbrev Members := Table Text Json

def member? (name : Text) (members : Members) : Option Json := members.get? name

mutual

/-- How many arrays and objects lie inside each other. -/
def nesting : Json → Nat
  | .array items => itemsNesting items + 1
  | .object members => membersNesting members + 1
  | _ => 0

def itemsNesting : List Json → Nat
  | [] => 0
  | item :: rest => max (nesting item) (itemsNesting rest)

def membersNesting : List (Text × Json) → Nat
  | [] => 0
  | (_, value) :: rest => max (nesting value) (membersNesting rest)

end

/-- What a message calls the kind of a value. -/
def kindName : Json → Text
  | .null => "NoneType"
  | .bool _ => "bool"
  | .int _ => "int"
  | .float _ => "float"
  | .string _ => "str"
  | .array _ => "list"
  | .object _ => "dict"

/-- The integer that a finite floating-point number is, if it is one. -/
def wholeFloat? (x : Float) : Option Int :=
  if x.isNaN || x.isInf then none
  else
    let magnitude := Decimal.Binary.ofBits x.toBits
    let shifted := magnitude.significand * 2 ^ magnitude.exponent.toNat
    let unit := 2 ^ (-magnitude.exponent).toNat
    if shifted % unit = 0 then
      let whole := (shifted / unit : Nat)
      some (if x < 0 then -(whole : Int) else whole)
    else none

/-- The whole part of a finite floating-point number, towards zero. -/
def truncate (x : Float) : Int :=
  let magnitude := Decimal.Binary.ofBits x.toBits
  let whole := magnitude.significand * 2 ^ magnitude.exponent.toNat
    / 2 ^ (-magnitude.exponent).toNat
  if x < 0 then -(whole : Int) else whole

/-- A number, where truth counts as one and falsehood as zero. -/
def number? : Json → Option (Int ⊕ Float)
  | .bool b => some (.inl (if b then 1 else 0))
  | .int n => some (.inl n)
  | .float x => some (.inr x)
  | _ => none

def numbersAgree : Int ⊕ Float → Int ⊕ Float → Bool
  | .inl a, .inl b => a == b
  | .inr x, .inr y => x == y
  | .inl a, .inr y => wholeFloat? y == some a
  | .inr x, .inl b => wholeFloat? x == some b

mutual

/-- Equality of contents: numbers agree by value, arrays item by item, objects name by name. -/
def agrees : Json → Json → Bool
  | .null, .null => true
  | .string a, .string b => a == b
  | .array a, .array b => itemsAgree a b
  | .object a, .object b => a.length == b.length && membersAgree a b
  | a, b =>
    match a.number?, b.number? with
    | some x, some y => numbersAgree x y
    | _, _ => false

def itemsAgree : List Json → List Json → Bool
  | [], [] => true
  | a :: as, b :: bs => agrees a b && itemsAgree as bs
  | _, _ => false

/-- Every member of the first list agrees with the member of that name in the second. -/
def membersAgree : List (Text × Json) → List (Text × Json) → Bool
  | [], _ => true
  | (name, a) :: rest, others =>
    (match Table.get? name others with
      | some b => agrees a b
      | none => false) && membersAgree rest others

end

/-- Floating-point numbers that are none, as messages write them. -/
def displaySpecials : Decimal.Specials := ⟨"nan", "inf", "-inf"⟩

mutual

/-- A value as part of a message: texts stand between quotation marks. -/
def quoted : Json → Text
  | .null => "None"
  | .bool true => "True"
  | .bool false => "False"
  | .int n => Text.ofInt n
  | .float x => Decimal.ofFloat displaySpecials x
  | .string t => Text.quoted t
  | .array items => "[" ++ Text.joinWith ", " (quotedItems items) ++ "]"
  | .object members => "\x7b" ++ Text.joinWith ", " (quotedMembers members) ++ "\x7d"

def quotedItems : List Json → List Text
  | [] => []
  | item :: rest => quoted item :: quotedItems rest

def quotedMembers : List (Text × Json) → List Text
  | [] => []
  | (name, value) :: rest => (Text.quoted name ++ ": " ++ quoted value) :: quotedMembers rest

end

/-- A value as a message of its own: a text stands for itself. -/
def display : Json → Text
  | .string t => t
  | value => value.quoted

end Json

end PolicyHost
