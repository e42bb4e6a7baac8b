import PolicyHost.Text.Basic

/-!
# Shapes of results

A caller may ask for a result of a certain shape.
-/

namespace PolicyHost

/-- What a result may have to look like. A `record` has fields with shapes of their own; members that
it does not name are ignored. -/
inductive Shape
  | int
  | text
  | bool
  | float
  | list (item : Shape)
  | dict (value : Shape)
  | optional (shape : Shape)
  | record (type : Text) (fields : List (Text × Shape))

end PolicyHost
