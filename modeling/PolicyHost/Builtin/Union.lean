import PolicyHost.Json.Basic

/-!
# Union of objects

Where both sides hold an object under a name, the objects are united; otherwise the later side
wins. Names stand in the order in which they first occur.
-/

namespace PolicyHost.Json

mutual

/-- A value that arrives where another may stand. -/
def overlay (current : Option Json) (value : Json) : Json :=
  match current, value with
  | some (.object base), .object members => .object (unite base members)
  | _, value => value

/-- The union of two objects. -/
def unite (base : Members) : List (Text × Json) → Members
  | [] => base
  | (name, value) :: rest => unite (base.put name (overlay (base.get? name) value)) rest

end

def members? : Json → Option Members
  | .object members => some members
  | _ => none

/-- The union of objects, one after another. -/
def uniteAll (objects : List Members) : Members := objects.foldl unite []

end PolicyHost.Json
