import PolicyHost.Text.Quoted

/-!
# Paths

A path is a root and components. Empty components and single dots do not count, so different texts
may name one path. One slash in front is the root; exactly two are a root of their own; more than
two count as one.

* `Path.ofText`, `Path.toText`: reading and writing.
* `Path.parts`: the root, if there is one, and the components.
* `Path.parent`, `Path.name`, `Path.child`: moving about.
-/

namespace PolicyHost

/-- What stands before the components of a path. -/
inductive Root
  | relative
  | single
  | double
deriving DecidableEq, Repr

/-- A root and components. -/
structure Path where
  root : Root
  components : List Text
deriving DecidableEq

namespace Path

def rootOf (t : Text) : Root :=
  match (t.takeWhile fun (c : CodePoint) => c == '/').length with
  | 0 => .relative
  | 2 => .double
  | _ => .single

def componentsOf (t : Text) : List Text :=
  (Text.split '/' t).filter fun part => part ≠ [] ∧ part ≠ Text.ofString "."

def ofText (t : Text) : Path := ⟨rootOf t, componentsOf t⟩

def rootText : Root → Text
  | .relative => []
  | .single => "/"
  | .double => "//"

/-- Writes a path. The path of nothing is a dot. -/
def toText (p : Path) : Text :=
  match p.root, p.components with
  | .relative, [] => "."
  | root, components => rootText root ++ Text.joinWith "/" components

/-- The root, if there is one, and the components. -/
def parts (p : Path) : List Text :=
  match p.root with
  | .relative => p.components
  | root => rootText root :: p.components

def parent (p : Path) : Path := { p with components := p.components.dropLast }

/-- The last component, or nothing. -/
def name (p : Path) : Text := p.components.getLast?.getD []

def child (p : Path) (name : Text) : Path := { p with components := p.components ++ [name] }

/-- The path that starts at a root. -/
def isAbsolute (p : Path) : Bool := p.root ≠ .relative

end Path

/-- Why a file cannot be used. -/
inductive FileReason
  | notFound
  | exists
  | notDirectory
  | isDirectory
  | nameTooLong
  | forbidden
  | other
deriving DecidableEq, Repr

/-- A file that cannot be used. -/
structure FileFault where
  reason : FileReason
  path : Text
deriving DecidableEq

def FileReason.words : FileReason → Nat × Text
  | .notFound => (2, "No such file or directory")
  | .exists => (17, "File exists")
  | .notDirectory => (20, "Not a directory")
  | .isDirectory => (21, "Is a directory")
  | .nameTooLong => (36, "File name too long")
  | .forbidden => (13, "Permission denied")
  | .other => (5, "Input/output error")

def FileFault.message (fault : FileFault) : Text :=
  let (number, words) := fault.reason.words
  "[Errno " ++ Text.ofNat number ++ "] " ++ words ++ ": " ++ fault.path.quoted

end PolicyHost
