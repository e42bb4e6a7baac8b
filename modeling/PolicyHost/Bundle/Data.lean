import PolicyHost.Error

/-!
# Data documents

A bundle holds documents in directories. Together they make one tree: a document stands under the
names of its directories, objects in the same place are united, and two values in the same place of
which one is no object are in conflict.

* `mergeMembers`: an object into an object.
* `mergeAt`: a document under the names of its directories into a tree.
-/

namespace PolicyHost.Bundle

mutual

/-- Merges the value under a name into what may be there already. `path` names the document. -/
def mergeValue (path name : Text) (current : Option Json) (value : Json) : Except PolicyError Json :=
  match current, value with
  | none, value => .ok value
  | some (.object base), .object members => do return .object (← mergeMembers path base members)
  | some _, _ => .error (.keyConflict name path)

def mergeMembers (path : Text) (base : Json.Members) :
    List (Text × Json) → Except PolicyError Json.Members
  | [] => .ok base
  | (name, value) :: rest => do
    let merged ← mergeValue path name (base.get? name) value
    mergeMembers path (base.put name merged) rest

end

/-- The value at the place of a document, merged into what may be there already. -/
def mergeLeaf (path : Text) (current : Option Json) (document : Json) : Except PolicyError Json :=
  match current, document with
  | none, document => .ok document
  | some (.object base), .object members => do return .object (← mergeMembers path base members)
  | some _, _ => .error (.dataConflict path)

/-- Merges a document into a tree, under the names of its directories. -/
def mergeAt (path : Text) (tree : Json.Members) (directories : List Text) (document : Json) :
    Except PolicyError Json.Members :=
  match directories with
  | [] =>
    match document with
    | .object members => mergeMembers path tree members
    | _ => .error (.rootNotObject path)
  | [name] => do return tree.put name (← mergeLeaf path (tree.get? name) document)
  | name :: rest => do
    let inner ← match tree.get? name with
      | none => .ok []
      | some (.object members) => .ok members
      | some _ => .error (.dataConflict path)
    return tree.put name (.object (← mergeAt path inner rest document))

end PolicyHost.Bundle
