import PolicyHost.Files.Basic

/-!
# Trees of files

A store of files that is a value: what every place holds, and the directory that relative paths start
from. A place is the names on the way from the root.

* `Tree.locate`: the place that a path leads to, whether or not something is there.
* `Tree.kind`, `Tree.read`, `Tree.write`, `Tree.makeDirectory`: the operations.
-/

namespace PolicyHost

/-- What a place holds. -/
inductive FileEntry
  | file (contents : Bytes)
  | directory
deriving DecidableEq

def FileEntry.kind : FileEntry → FileKind
  | .file _ => .file
  | .directory => .directory

/-- The names on the way from the root. -/
abbrev Place := List Text

/-- What the places hold, and the directory that relative paths start from. -/
structure Tree where
  entries : Table Place FileEntry
  here : Place

namespace Tree

/-- Longer names, in octets, are no names of files. -/
def maxName : Nat := 255

/-- Paths of so many octets are too long. -/
def maxPath : Nat := 4096

def nameLength (name : Text) : Nat := (name.flatMap Path.pointOctets).length

/-- The tree that holds directories alone: those on the way to a place, from where paths start. -/
def under (here : Place) : Tree :=
  ⟨(List.range here.length).map fun i => (here.take (i + 1), .directory), here⟩

/-- What a place holds; the root is a directory. -/
def at? (t : Tree) (place : Place) : Option FileEntry :=
  if place = [] then some .directory else t.entries.get? place

/-- The place of a name in a directory. Two dots lead back. -/
def step (place : Place) (name : Text) : Place :=
  if name = Text.ofString ".." then place.dropLast else place ++ [name]

/-- Follows names from a place. All places before the last one have to be directories. -/
def follow (t : Tree) (place : Place) : List Text → Except FileReason Place
  | [] => .ok place
  | name :: rest =>
    match t.at? place with
    | none => .error .notFound
    | some (.file _) => .error .notDirectory
    | some .directory =>
      if maxName < nameLength name then .error .nameTooLong
      else t.follow (step place name) rest

def locate (t : Tree) (p : Path) : Except Fault Place := do
  let name ← p.octets
  let place :=
    if maxPath ≤ name.length then .error .nameTooLong
    else t.follow (if p.isAbsolute then [] else t.here) p.components
  place.mapError fun reason => .file ⟨reason, p.toText⟩

def kind (t : Tree) (p : Path) : Except Fault FileKind := do
  match t.at? (← t.locate p) with
  | some entry => return entry.kind
  | none => .error (.file ⟨.notFound, p.toText⟩)

def read (t : Tree) (p : Path) : Except Fault Bytes := do
  match t.at? (← t.locate p) with
  | some (.file contents) => return contents
  | some .directory => .error (.file ⟨.isDirectory, p.toText⟩)
  | none => .error (.file ⟨.notFound, p.toText⟩)

/-- Writes a file, in place of the one that is there if there is one. -/
def write (t : Tree) (p : Path) (contents : Bytes) : Except Fault Tree := do
  let place ← t.locate p
  match t.at? place with
  | some .directory => .error (.file ⟨.isDirectory, p.toText⟩)
  | _ => return { t with entries := t.entries.put place (.file contents) }

def makeDirectory (t : Tree) (p : Path) : Except Fault Tree :=
  match t.locate p with
  | .error .nullOctet => .error .nullInName
  | .error fault => .error fault
  | .ok place =>
    match t.at? place with
    | some _ => .error (.file ⟨.exists, p.toText⟩)
    | none => .ok { t with entries := t.entries.put place .directory }

end Tree

end PolicyHost
