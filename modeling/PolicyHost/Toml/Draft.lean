import PolicyHost.Toml.Basic

/-!
# Documents under way

A document grows by headers, which open tables, and by pairs of a key and a value below them. What
has been written stays: a table is opened by a header at most once, what a dotted key has passed
through is opened by no later header, and an array or table that was written as a value is closed for
good.

* `alter`: changes the members of the table at a key.
* `Draft.openTable`, `Draft.openItem`, `Draft.enter`: the three ways to grow.
* `enterInline`: growing a table that is written as a value.
-/

namespace PolicyHost.Toml

/-- The names on the way from the root to a value. -/
abbrev Key := List Text

/-- Changes the members of the table at a key; tables that are missing on the way are made. With
`lists`, an array of tables stands for its last item. -/
def alter (lists : Bool) (change : Members → Option Members) : Key → Members → Option Members
  | [], members => change members
  | name :: rest, members =>
    match members.get? name with
    | none => do return members.put name (.table (← alter lists change rest []))
    | some (.table inner) => do return members.put name (.table (← alter lists change rest inner))
    | some (.array items) =>
      match lists, items.getLast? with
      | true, some (.table inner) => do
        let changed ← alter lists change rest inner
        return members.put name (.array (items.dropLast ++ [.table changed]))
      | _, _ => none
    | some _ => none

def addNew (name : Text) (value : Toml) (members : Members) : Option Members :=
  if members.contains name then none else some (members.put name value)

/-- Adds an empty table to the end of the array of a name, which may be new. -/
def addItem (name : Text) (members : Members) : Option Members :=
  match members.get? name with
  | none => some (members.put name (.array [.table []]))
  | some (.array items) => some (members.put name (.array (items ++ [.table []])))
  | some _ => none

/-- A value that closes its place. -/
def isContainer : Toml → Bool
  | .array _ | .table _ => true
  | _ => false

/-- A key, or one of its beginnings, is among the keys. -/
def covers (keys : List Key) (key : Key) : Bool := keys.any fun k => k.isPrefixOf key

/-- A document under way: what it holds, the keys that no header opens any more, those that become
so at the next header, and the keys whose values are closed. -/
structure Draft where
  root : Members
  opened : List Key
  pending : List Key
  closed : List Key

namespace Draft

/-- The document that holds nothing. -/
def empty : Draft := ⟨[], [], [], []⟩

def beginHeader (d : Draft) : Draft := { d with opened := d.pending ++ d.opened, pending := [] }

def openTable (d : Draft) (key : Key) : Option Draft := do
  if d.opened.contains key || covers d.closed key then none
  else
    let root ← alter true some key d.root
    return { d with root, opened := key :: d.opened }

/-- A header opens a new item of the array of tables at a key. What was known below the key is
forgotten, because it belongs to the item before. -/
def openItem (d : Draft) (key : Key) : Option Draft := do
  if covers d.closed key then none
  else
    let name ← key.getLast?
    let root ← alter true (addItem name) key.dropLast d.root
    let kept := fun (keys : List Key) => keys.filter fun k => !key.isPrefixOf k
    return { d with root, opened := key :: kept d.opened, closed := kept d.closed }

/-- The keys that a dotted key below a header passes through. -/
def passed (header key : Key) : List Key :=
  (List.range (key.length - 1)).map fun i => header ++ key.take (i + 1)

/-- Enters a value at a key below a header. -/
def enter (d : Draft) (header key : Key) (value : Toml) : Option Draft := do
  let way := passed header key
  let place := header ++ key.dropLast
  let name ← key.getLast?
  if way.any d.opened.contains || covers d.closed place then none
  else
    let root ← alter true (addNew name value) place d.root
    let closed := if isContainer value then (header ++ key) :: d.closed else d.closed
    return { d with root, pending := way ++ d.pending, closed }

end Draft

/-- Enters a value at a key of a table that is written as a value. `closed` holds the keys of such a
table whose values are closed. -/
def enterInline (members : Members) (closed : List Key) (key : Key) (value : Toml) :
    Option (Members × List Key) := do
  let name ← key.getLast?
  if covers closed key then none
  else
    let changed ← alter false (addNew name value) key.dropLast members
    return (changed, if isContainer value then key :: closed else closed)

end PolicyHost.Toml
