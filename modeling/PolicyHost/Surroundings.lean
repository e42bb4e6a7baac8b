import PolicyHost.Builtin.Registry
import PolicyHost.Files.Tree

/-!
# Surroundings

What a program finds around it: files, what surrounds an evaluation, and where it prints.

* `Surroundings`: what they have to offer.
* `World`: surroundings that are a value.
-/

namespace PolicyHost

/-- Files, what surrounds the next evaluation, and where a text is printed. -/
class Surroundings (m : Type → Type) extends Files m where
  ambient : m Ambient
  print : Text → m (Except Fault Unit)

/-- A tree of files, a clock in nanoseconds that stands still, the seed of the next source of random
numbers, and somebody who reads whatever is text. -/
structure World where
  tree : Tree
  now : Int
  seed : Nat

namespace World

/-- Does something with the tree that may change it, unless it faults. -/
def change (result : Tree → Except Fault Tree) : StateM World (Except Fault Unit) := fun w =>
  match result w.tree with
  | .ok tree => (.ok (), { w with tree })
  | .error fault => (.error fault, w)

def next (w : World) : Ambient × World := (⟨w.now, ⟨w.seed, 0⟩⟩, { w with seed := w.seed + 1 })

/-- Prints a text. Surrogates that stand alone cannot be shown. -/
def print (t : Text) : StateM World (Except Fault Unit) := fun w =>
  match Utf8.encode t with
  | .ok _ => (.ok (), w)
  | .error fault => (.error (.unwritable fault), w)

end World

instance : Surroundings (StateM World) where
  kind p := fun w => (w.tree.kind p, w)
  read p := fun w => (w.tree.read p, w)
  write p contents := World.change fun tree => tree.write p contents
  makeDirectory p := World.change fun tree => tree.makeDirectory p
  ambient := World.next
  print := World.print

end PolicyHost
