import PolicyHost.Error
import PolicyHost.Shape
import PolicyHost.Value

/-!
# What the program runs on

Some of what the program does is done for it, by machines and libraries that it does not know from
inside. What it relies on is taken as given.

* `Conversion`: how values of a type become plain JSON; `Conversion.plain`, `Conversion.encode`: the
  plain JSON of a value, and its document.
* `Platform`: the room of the machine, the conversion of values, and how results are put into a shape.
-/

namespace PolicyHost

/-- Why a value has no plain JSON: something in it is of a type that has none, or there is a fault. -/
inductive Unconverted
  | unserializable (reason : Text)
  | fault (fault : Fault)
deriving DecidableEq

/-- How values of a type become plain JSON. -/
class Conversion (α : Type) where
  typeName : α → Text
  toJson : α → Except Unconverted Json

namespace Conversion

variable {α : Type} [Conversion α]

/-- The plain JSON of a value; something of a type that has none is an error of the library. -/
def plain (value : α) : Except Failure Json :=
  match toJson value with
  | .ok json => .ok json
  | .error (.unserializable reason) =>
    .error (Failure.error (.unserializable (typeName value) reason))
  | .error (.fault fault) => .error (.fault fault)

/-- The document of a value: the compact text of its plain JSON in UTF-8. -/
def encode (value : α) : Except Failure Bytes := do
  let json ← plain value
  json.encode

end Conversion

/-- Why a result is in no shape: it does not match, or there is a fault. -/
inductive Misfit
  | mismatch
  | fault (fault : Fault)
deriving DecidableEq

/-- What the program runs on. -/
class Platform extends Room, Conversion Value where
  fit : Shape → Json → Except Misfit Value

end PolicyHost
