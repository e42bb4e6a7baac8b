import PolicyHost.Policy

/-!
# Fleets

A fleet is what lives side by side in one program: registries, which may still change, and instances,
each of which calls the builtins of one registry as they are at the time. Calls of different
instances take their turns in the order in which they reached their sandboxes.

* `register`, `extend`, `found`: what may be done with registries.
* `build`, `act`: new instances, and events of instances.
* `eval`, `gather`: one call, and calls that start together.
* `state?`: what an instance is fit for.
-/

namespace PolicyHost

/-- Registries and instances by their numbers, and the calls in sandboxes that are to be finished:
the number of the instance and of the call. -/
structure Fleet (σ : Type) where
  registries : List Registry
  instances : List (Instance σ)
  queue : List (Nat × Nat)

namespace Fleet

variable {σ : Type}

def empty : Fleet σ := ⟨[], [], []⟩

def registry (f : Fleet σ) (number : Nat) : Registry := (f.registries[number]?).getD .empty

def found (f : Fleet σ) (r : Registry) : Fleet σ × Nat :=
  ({ f with registries := f.registries ++ [r] }, f.registries.length)

def register (f : Fleet σ) (number : Nat) (name : Text) (function : Builtin.Function) : Fleet σ :=
  { f with registries := f.registries.modify number fun r => r.register name function }

/-- Adds a registry that holds what another holds now, and more. -/
def extend (f : Fleet σ) (number : Nat) (functions : List (Text × Builtin.Function)) : Fleet σ × Nat :=
  f.found ((f.registry number).extended functions)

/-- What is done with a fleet: the fleet afterwards, and what came of it. -/
abbrev Step (σ α : Type) := Fleet σ × α × List Note

variable [Platform]

/-- Builds an instance: its number. -/
def build (f : Fleet σ) (policy : Policy σ) (number : Nat) (ambient : Ambient) (data : Option Value) :
    Step σ (Except Failure Nat) :=
  match policy.build number (f.registry number) ambient data with
  | (.error failure, notes) => (f, .error failure, notes)
  | (.ok fresh, notes) =>
    ({ f with instances := f.instances ++ [fresh] }, .ok f.instances.length, notes)

/-- Outcomes of calls, by the numbers of the instance and of the call. -/
abbrev Outcomes := List ((Nat × Nat) × Outcome)

/-- An event of an instance. A call that gets into the sandbox joins the queue. -/
def act (f : Fleet σ) (number : Nat) (event : Event) : Step σ Outcomes :=
  match f.instances[number]? with
  | none => (f, [], [])
  | some i =>
    let reaction := i.step event
    let joined := reaction.result.running.filter fun call =>
      !i.running.any fun other => other.number = call.number
    ({ f with
        instances := f.instances.set number reaction.result
        queue := f.queue ++ joined.map fun call => (number, call.number) },
      reaction.outcomes.map fun o => ((number, o.1), o.2),
      reaction.notes)

def actAll (f : Fleet σ) (number : Nat) : List Event → Step σ Outcomes
  | [] => (f, [], [])
  | event :: rest =>
    let (f, outcomes, notes) := f.act number event
    let (f, later, more) := f.actAll number rest
    (f, outcomes ++ later, notes ++ more)

/-- Finishes the first call of the queue; then calls that wait may get the lock. -/
def serve (f : Fleet σ) (ambient : Ambient) : Step σ Outcomes :=
  match f.queue with
  | [] => (f, [], [])
  | (number, call) :: rest =>
    match f.instances[number]? with
    | none => ({ f with queue := rest }, [], [])
    | some i =>
      let wakes := i.waiting.map fun _ => Event.wake
      { f with queue := rest }.actAll number
        (.finish call (f.registry i.registry) ambient :: .resume :: wakes)

/-- Finishes calls, each surrounded in its own way, until the surroundings run out. -/
def drain (f : Fleet σ) : List Ambient → Step σ Outcomes
  | [] => (f, [], [])
  | ambient :: rest =>
    let (f, outcomes, notes) := f.serve ambient
    let (f, later, more) := f.drain rest
    (f, outcomes ++ later, notes ++ more)

/-- Questions come in, numbered from `first` on. -/
def arriveAll (f : Fleet σ) (first : Nat) : List (Nat × Question) → Step σ Outcomes
  | [] => (f, [], [])
  | (number, q) :: rest =>
    let (f, outcomes, notes) := f.act number (.arrive first q)
    let (f, later, more) := f.arriveAll (first + 1) rest
    (f, outcomes ++ later, notes ++ more)

/-- Questions that come in together: the outcome of each, in their order. -/
def gather (f : Fleet σ) (ambients : List Ambient) (questions : List (Nat × Question)) :
    Step σ (List Outcome) :=
  let (f, early, notes) := f.arriveAll 0 questions
  let (f, late, more) := f.drain ambients
  let outcomes := early ++ late
  let found := questions.zipIdx.map fun entry =>
    ((outcomes.find? fun o => o.1 = (entry.1.1, entry.2)).map Prod.snd).getD .cancelled
  (f, found, notes ++ more)

/-- One question: its outcome. -/
def eval (f : Fleet σ) (ambient : Ambient) (number : Nat) (q : Question) : Step σ Outcome :=
  let (f, outcomes, notes) := f.gather [ambient] [(number, q)]
  (f, (outcomes.head?).getD .cancelled, notes)

def state? (f : Fleet σ) (number : Nat) : Option InstanceState := (f.instances[number]?).map (·.state)

end Fleet

end PolicyHost
