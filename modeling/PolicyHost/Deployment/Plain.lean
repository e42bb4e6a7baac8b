import PolicyHost.Platform

/-!
# Plain JSON of values

A conversion of values: it stops at what it does not know, at a container inside itself and at too deep
a nesting. Keys of dictionaries become names, and a key that becomes an earlier name replaces its value.

* `Value.keyText`: a dictionary key as the name of a member.
* `Value.toJson`: the plain JSON of a value.
* `Value.dictOf`, `Value.setOf`: dictionaries and sets of what arrives one after another.
-/

namespace PolicyHost

/-- Writes a moment with hyphens, a `T` and colons, and microseconds if there are any. -/
def Moment.write (m : Moment) : Text :=
  let date := Text.padded 4 m.year ++ "-" ++ Text.padded 2 m.month ++ "-" ++ Text.padded 2 m.day
  let time := Text.padded 2 m.hour ++ ":" ++ Text.padded 2 m.minute ++ ":" ++ Text.padded 2 m.second
  let fraction : Text := if m.microsecond = 0 then [] else "." ++ Text.padded 6 m.microsecond
  date ++ "T" ++ time ++ fraction

namespace Value

def unknownType (type : Text) : Unconverted :=
  .unserializable ("Unable to serialize unknown type: <class '" ++ type ++ "'>")

/-- A container inside itself. -/
def circular : Unconverted :=
  .fault (.raised "ValueError" "Circular reference detected (id repeated)")

def tooDeep : Unconverted := .fault (.raised "ValueError" "Maximum serialization depth exceeded")

def noKey (type : Text) : Unconverted :=
  .fault (.raised "TypeError" ("`" ++ type ++ "` not valid as object key"))

/-- Containers that may enclose a value. -/
def maxDepth : Nat := 254

def octetsText (bytes : Bytes) : Except Unconverted Text :=
  match Utf8.decode bytes with
  | .ok t => .ok t
  | .error fault =>
    .error (.fault (.raised "UnicodeDecodeError"
      (undecodable "utf-8" fault.first fault.start 1 "invalid utf-8")))

mutual

/-- A dictionary key as the name of a member. -/
def keyText : Value → Except Unconverted Text
  | .null => .ok "None"
  | .bool true => .ok "true"
  | .bool false => .ok "false"
  | .int n =>
    if n.natAbs < 10 ^ Json.maxDigits then .ok (Text.ofInt n) else .error (.fault .unwritableInteger)
  | .float x => .ok (Decimal.ofFloat Json.displaySpecials x)
  | .text t =>
    match Utf8.findHalves t with
    | none => .ok t
    | some fault => .error (.fault (.unwritable fault))
  | .octets bytes => octetsText bytes
  | .decimal d => .ok d.write
  | .moment m => .ok m.write
  | .tuple items => do return Text.joinWith "," (← keyTexts items)
  | .constant _ value => keyText value
  | .list _ => .error (noKey "list")
  | .set _ => .error (noKey "set")
  | .dict _ => .error (noKey "dict")
  | .record type _ => .error (.fault (.raised "TypeError" ("unhashable type: '" ++ type ++ "'")))
  | .enclosing => .error circular
  | .other type _ => .error (unknownType type)

def keyTexts : List Value → Except Unconverted (List Text)
  | [] => .ok []
  | item :: rest => do
    let first ← keyText item
    let others ← keyTexts rest
    return first :: others

end

/-- The number that a key is, where truth counts as one and falsehood as zero. -/
def keyNumber? : Value → Option Decimal.Exact
  | .bool b => some (.ofInt (if b then 1 else 0))
  | .int n => some (.ofInt n)
  | .float x => some (.ofFloat x)
  | .decimal d => some d
  | _ => none

mutual

/-- Keys that count as one: numbers by value, all else by type and contents. -/
def sameKey : Value → Value → Bool
  | .null, .null => true
  | .text a, .text b => a == b
  | .octets a, .octets b => a == b
  | .moment a, .moment b => a == b
  | .tuple a, .tuple b => sameKeys a b
  | .constant s a, .constant t b => s == t && sameKey a b
  | a, b =>
    match a.keyNumber?, b.keyNumber? with
    | some x, some y => x.agrees y
    | _, _ => false

/-- Tuples that count as one. -/
def sameKeys : List Value → List Value → Bool
  | [], [] => true
  | a :: as, b :: bs => sameKey a b && sameKeys as bs
  | _, _ => false

end

/-- Puts an entry into a dictionary. A key that counts as an earlier one leaves that key in place. -/
def putEntry (entries : List (Value × Value)) (key value : Value) : List (Value × Value) :=
  if entries.any fun e => sameKey e.1 key then
    entries.map fun e => if sameKey e.1 key then (e.1, value) else e
  else entries ++ [(key, value)]

def dictOf (entries : List (Value × Value)) : Value :=
  .dict (entries.foldl (fun d e => putEntry d e.1 e.2) [])

def int? : Value → Option Int
  | .int n => some n
  | _ => none

/-- The set of items that arrive one after another. A set has no order of its own: integers are
listed in ascending order, all else in order of arrival. -/
def setOf (items : List Value) : Value :=
  let kept := items.foldl
    (fun acc item => if acc.any fun other => sameKey other item then acc else acc ++ [item]) []
  match kept.mapM int? with
  | some numbers => .set ((numbers.mergeSort fun a b => a ≤ b).map .int)
  | none => .set kept

mutual

/-- The JSON form of a value that `depth` containers enclose. -/
def toJsonAt (depth : Nat) (value : Value) : Except Unconverted Json :=
  if maxDepth < depth then .error tooDeep
  else
    match value with
    | .null => .ok .null
    | .bool b => .ok (.bool b)
    | .int n => .ok (.int n)
    | .float x => .ok (.float x)
    | .text t => .ok (.string t)
    | .octets bytes => (octetsText bytes).map .string
    | .decimal d => .ok (.string d.write)
    | .moment m => .ok (.string m.write)
    | .list items | .tuple items | .set items => do
      return .array (← itemsToJson (depth + 1) items)
    | .dict entries => do return .object (← entriesToJson (depth + 1) [] entries)
    | .record _ fields => do return .object (← fieldsToJson (depth + 1) [] fields)
    | .constant _ value => toJsonAt depth value
    | .enclosing => .error circular
    | .other type _ => .error (unknownType type)

def itemsToJson (depth : Nat) : List Value → Except Unconverted (List Json)
  | [] => .ok []
  | item :: rest => do
    let first ← toJsonAt depth item
    let others ← itemsToJson depth rest
    return first :: others

/-- The JSON form of entries. A key that becomes an earlier name replaces its value. -/
def entriesToJson (depth : Nat) (done : Json.Members) : List (Value × Value) →
    Except Unconverted Json.Members
  | [] => .ok done
  | (key, value) :: rest => do
    let name ← keyText key
    let converted ← toJsonAt depth value
    entriesToJson depth (done.put name converted) rest

def fieldsToJson (depth : Nat) (done : Json.Members) : List (Text × Value) →
    Except Unconverted Json.Members
  | [] => .ok done
  | (name, value) :: rest => do
    let converted ← toJsonAt depth value
    fieldsToJson depth (done.put name converted) rest

end

def toJson (value : Value) : Except Unconverted Json := toJsonAt 0 value

@[reducible]
def conversion : Conversion Value := ⟨typeName, toJson⟩

end Value

end PolicyHost
