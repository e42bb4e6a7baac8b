import PolicyHost.Deployment.Standard
import PolicyHost.Fleet
import PolicyHost.Proofs.Instance.Once
import PolicyHost.Proofs.Instance.Serial

/-!
# Instances side by side

Instances of a fleet do not notice each other. Whatever is done with a fleet, each instance goes through
the states and gives the outcomes that it would if only its own part had been done, and a question to an
instance that is built for it is answered as if there were nothing else.

* `Action`, `Reply`, `perform`: what is done with a fleet, and what comes of it.
* `alone`, `target?`, `only`: one instance of a fleet by itself, and the actions about it.
* `View`, `views`: what is seen of an instance.
* `perform_of_own`, `perform_of_other`: an action about an instance does to it what it does where the
  instance is alone, and any other action does nothing to it.
* `single`: a question to an instance that is built for it and is alone (`evaluate_eq_single`).
* `instances_isolated`: the same for runs, with what single questions are answered.
* `sideBySide`: two instances, one of which is faulted.
-/

namespace PolicyHost

namespace Fleet

variable {σ : Type}

/-- What may be done with a fleet whose registries stay as they are.

* `build`: an instance is built;
* `act`: an event of an instance;
* `serve`: the first call of the queue is finished;
* `inspect`, `evaluate`: an instance is built, looked at or asked once, and dropped. -/
inductive Action (σ : Type)
  | build (policy : Policy σ) (registry : Nat) (ambient : Ambient) (data : Option Value)
  | act (number : Nat) (event : Event)
  | serve (ambient : Ambient)
  | inspect (policy : Policy σ) (registry : Nat) (ambient : Ambient)
  | evaluate (policy : Policy σ) (registry : Nat) (first second : Ambient) (data : Option Value)
    (q : Question)

/-- What comes of an action. -/
inductive Reply
  | built (number : Except Failure Nat)
  | ended (outcomes : Outcomes)
  | described (info : Except Failure PolicyInfo)
  | answered (outcome : Outcome)

/-! ## The part of one instance -/

/-- The calls of one instance in a queue. The instance gets number zero. -/
def callsOf (k : Nat) : List (Nat × Nat) → List (Nat × Nat)
  | [] => []
  | (number, call) :: rest => if number = k then (0, call) :: callsOf k rest else callsOf k rest

/-- The fleet of one instance and its calls. The instance has number zero there. -/
def alone (f : Fleet σ) (k : Nat) : Fleet σ := ⟨f.registries, f.instances[k]?.toList, callsOf k f.queue⟩

variable {f : Fleet σ} {k : Nat}

theorem alone_instance : (f.alone k).instances[0]? = f.instances[k]? := by
  unfold alone
  cases f.instances[k]? <;> rfl

theorem alone_state : (f.alone k).state? 0 = f.state? k := by
  unfold state?
  rw [alone_instance]

theorem callsOf_append (first second : List (Nat × Nat)) :
    callsOf k (first ++ second) = callsOf k first ++ callsOf k second := by
  induction first with
  | nil => rfl
  | cons entry rest ih =>
    obtain ⟨number, call⟩ := entry
    rw [List.cons_append, callsOf, callsOf]
    split
    · exact congrArg _ ih
    · exact ih

theorem callsOf_own (calls : List Call) :
    (callsOf k (calls.map fun call => (k, call.number))) = calls.map fun call => (0, call.number) := by
  induction calls with
  | nil => rfl
  | cons call rest ih =>
    rw [List.map_cons, callsOf, if_pos rfl, ih]
    rfl

theorem callsOf_other {number : Nat} (differ : number ≠ k) (calls : List Call) :
    (callsOf k (calls.map fun call => (number, call.number))) = [] := by
  induction calls with
  | nil => rfl
  | cons call rest ih => rw [List.map_cons, callsOf, if_neg differ, ih]

/-- Outcomes of an instance by the numbers of the calls alone. -/
def byCall (outcomes : Outcomes) : List (Nat × Outcome) := outcomes.map fun o => (o.1.2, o.2)

theorem byCall_append (first second : Outcomes) :
    byCall (first ++ second) = byCall first ++ byCall second := List.map_append

/-! ## Runs -/

/-- An action about an instance where the instance is alone. -/
def Action.single : Action σ → Action σ
  | .act _ event => .act 0 event
  | other => other

/-- What is seen of an instance behind an action: the calls that ended, with their outcomes, and the state
of the instance. -/
structure View where
  outcomes : List (Nat × Outcome)
  state : Option InstanceState

/-- The calls of an instance that end with a reply. -/
def Reply.outcomes : Reply → List (Nat × Outcome)
  | .ended outcomes => outcomes.map fun o => (o.1.2, o.2)
  | .built _ | .described _ | .answered _ => []

section

variable [Platform]

def perform (f : Fleet σ) : Action σ → Fleet σ × Reply
  | .build policy registry ambient data =>
    let built := f.build policy registry ambient data
    (built.1, .built built.2.1)
  | .act number event =>
    let done := f.act number event
    (done.1, .ended done.2.1)
  | .serve ambient =>
    let served := f.serve ambient
    (served.1, .ended served.2.1)
  | .inspect policy registry ambient =>
    (f, .described (policy.inspect (f.registry registry) ambient).1)
  | .evaluate policy registry first second data q =>
    (f, .answered (policy.evaluate (f.registry registry) first second data q).1)

def performAll (f : Fleet σ) : List (Action σ) → Fleet σ
  | [] => f
  | action :: rest => performAll (f.perform action).1 rest

/-- The instance that an action is about: the one that is built, or the one in which something happens. -/
def target? (f : Fleet σ) : Action σ → Option Nat
  | .build policy registry ambient data => (f.build policy registry ambient data).2.1.toOption
  | .act number _ => some number
  | .serve _ => f.queue.head?.map Prod.fst
  | .inspect .. | .evaluate .. => none

/-- The actions about one instance in a run, as they are where it is alone. -/
def only (k : Nat) : Fleet σ → List (Action σ) → List (Action σ)
  | _, [] => []
  | f, action :: rest =>
    let later := only k (f.perform action).1 rest
    if f.target? action = some k then action.single :: later else later

def view (f : Fleet σ) (k : Nat) (action : Action σ) : View :=
  ⟨(f.perform action).2.outcomes, (f.perform action).1.state? k⟩

/-- What is seen of an instance in a run, behind the actions about it. -/
def views (k : Nat) : Fleet σ → List (Action σ) → List View
  | _, [] => []
  | f, action :: rest =>
    let later := views k (f.perform action).1 rest
    if f.target? action = some k then f.view k action :: later else later

/-- What is seen of an instance in a run, behind every action. -/
def watch (k : Nat) : Fleet σ → List (Action σ) → List View
  | _, [] => []
  | f, action :: rest => f.view k action :: watch k (f.perform action).1 rest

/-! ## Events -/

/-- An event does to the part of its instance what it does to the instance alone. -/
theorem act_alone (event : Event) :
    (f.act k event).1.alone k = ((f.alone k).act 0 event).1 ∧
      byCall (f.act k event).2.1 = byCall ((f.alone k).act 0 event).2.1 := by
  have same := alone_instance (f := f) (k := k)
  cases found : f.instances[k]? with
  | none =>
    rw [found] at same
    unfold act
    rw [found, same]
    exact ⟨rfl, rfl⟩
  | some i =>
    rw [found] at same
    have inside : k < f.instances.length := (List.getElem?_eq_some_iff.mp found).1
    unfold act
    rw [found, same]
    refine ⟨?_, ?_⟩
    · unfold alone
      dsimp only
      rw [List.getElem?_set_self inside, callsOf_append, callsOf_own, found]
      rfl
    · unfold byCall
      simp only [List.map_map]
      rfl

/-- An event of another instance does nothing to the part of an instance. -/
theorem act_other {number : Nat} (differ : number ≠ k) (event : Event) :
    (f.act number event).1.alone k = f.alone k := by
  unfold act
  cases f.instances[number]? with
  | none => rfl
  | some i =>
    unfold alone
    dsimp only
    rw [List.getElem?_set_ne differ, callsOf_append, callsOf_other differ, List.append_nil]

theorem actAll_alone (events : List Event) :
    (f.actAll k events).1.alone k = ((f.alone k).actAll 0 events).1 ∧
      byCall (f.actAll k events).2.1 = byCall ((f.alone k).actAll 0 events).2.1 := by
  induction events generalizing f with
  | nil => exact ⟨rfl, rfl⟩
  | cons event rest ih =>
    obtain ⟨fleet, outcomes⟩ := act_alone (f := f) (k := k) event
    obtain ⟨fleet', outcomes'⟩ := ih (f := (f.act k event).1)
    rw [fleet] at fleet' outcomes'
    refine ⟨fleet', ?_⟩
    change byCall (_ ++ _) = byCall (_ ++ _)
    rw [byCall_append, byCall_append]
    exact congr (congrArg _ outcomes) outcomes'

theorem actAll_other {number : Nat} (differ : number ≠ k) (events : List Event) :
    (f.actAll number events).1.alone k = f.alone k := by
  induction events generalizing f with
  | nil => rfl
  | cons event rest ih => exact (ih (f := (f.act number event).1)).trans (act_other differ event)

/-! ## Actions -/

theorem serve_alone {call : Nat} {rest : List (Nat × Nat)} (queued : f.queue = (k, call) :: rest)
    (ambient : Ambient) :
    (f.serve ambient).1.alone k = ((f.alone k).serve ambient).1 ∧
      byCall (f.serve ambient).2.1 = byCall ((f.alone k).serve ambient).2.1 := by
  let behind : Fleet σ := { f with queue := rest }
  have queued' : (f.alone k).queue = (0, call) :: (behind.alone k).queue := by
    unfold alone
    dsimp only
    rw [queued, callsOf, if_pos rfl]
  have same := alone_instance (f := f) (k := k)
  unfold serve
  rw [queued, queued']
  dsimp only
  rw [same]
  cases f.instances[k]? with
  | none => exact ⟨rfl, rfl⟩
  | some i => exact actAll_alone (f := behind) _

theorem serve_other {number call : Nat} {rest : List (Nat × Nat)}
    (queued : f.queue = (number, call) :: rest) (differ : number ≠ k) (ambient : Ambient) :
    (f.serve ambient).1.alone k = f.alone k := by
  let behind : Fleet σ := { f with queue := rest }
  have same : behind.alone k = f.alone k := by
    unfold alone
    rw [queued, callsOf, if_neg differ]
  unfold serve
  rw [queued]
  dsimp only
  cases f.instances[number]? with
  | none => exact same
  | some i => exact (actAll_other (f := behind) differ _).trans same

/-- An instance is built, and gets the next number. -/
theorem build_of_ok {policy : Policy σ} {registry : Nat} {ambient : Ambient} {data : Option Value}
    {fresh : Instance σ}
    (built : (policy.build registry (f.registry registry) ambient data).1 = .ok fresh) :
    (f.build policy registry ambient data).1 = { f with instances := f.instances ++ [fresh] } ∧
      (f.build policy registry ambient data).2.1 = .ok f.instances.length := by
  unfold build
  rcases done : policy.build registry (f.registry registry) ambient data with ⟨_ | other, notes⟩ <;>
    rw [done] at built <;> cases built
  exact ⟨rfl, rfl⟩

/-- An instance that is not built leaves the fleet as it was. -/
theorem build_of_error {policy : Policy σ} {registry : Nat} {ambient : Ambient} {data : Option Value}
    {failure : Failure}
    (failed : (policy.build registry (f.registry registry) ambient data).1 = .error failure) :
    (f.build policy registry ambient data).1 = f ∧
      (f.build policy registry ambient data).2.1 = .error failure := by
  unfold build
  rcases done : policy.build registry (f.registry registry) ambient data with ⟨_ | other, notes⟩ <;>
    rw [done] at failed <;> cases failed
  exact ⟨rfl, rfl⟩

theorem build_alone {policy : Policy σ} {registry : Nat} {ambient : Ambient} {data : Option Value}
    (built : (f.build policy registry ambient data).2.1 = .ok k) :
    (f.build policy registry ambient data).1.alone k =
      ((f.alone k).build policy registry ambient data).1 := by
  cases done : (policy.build registry (f.registry registry) ambient data).1 with
  | error failure =>
    rw [(build_of_error done).2] at built
    cases built
  | ok fresh =>
    obtain ⟨fleet, number⟩ := build_of_ok done
    rw [number] at built
    cases built
    have nobody : f.instances[f.instances.length]? = none := List.getElem?_eq_none (Nat.le_refl _)
    have single := (build_of_ok (f := f.alone f.instances.length) done).1
    rw [fleet, single]
    unfold alone
    dsimp only
    rw [List.getElem?_concat_length, nobody]
    rfl

theorem build_other {policy : Policy σ} {registry : Nat} {ambient : Ambient} {data : Option Value}
    (apart : (f.build policy registry ambient data).2.1 ≠ .ok k) :
    (f.build policy registry ambient data).1.alone k = f.alone k := by
  cases done : (policy.build registry (f.registry registry) ambient data).1 with
  | error failure => rw [(build_of_error done).1]
  | ok fresh =>
    obtain ⟨fleet, number⟩ := build_of_ok done
    have differ : k ≠ f.instances.length := by
      rintro rfl
      exact apart number
    rw [fleet]
    unfold alone
    dsimp only
    rw [List.getElem?_append]
    split
    · rfl
    · next outside =>
      have beyond : f.instances.length < k := Nat.lt_of_le_of_ne (Nat.le_of_not_lt outside) differ.symm
      rw [List.getElem?_eq_none (Nat.le_of_not_lt outside), List.getElem?_eq_none]
      exact Nat.sub_pos_of_lt beyond

/-- An action about an instance does to it what it does where the instance is alone. -/
theorem perform_of_own {action : Action σ} (own : f.target? action = some k) :
    (f.perform action).1.alone k = ((f.alone k).perform action.single).1 ∧
      f.view k action = (f.alone k).view 0 action.single := by
  have seen : ∀ {after after' : Fleet σ} {reply reply' : Reply}, after.alone k = after' →
      reply.outcomes = reply'.outcomes →
      View.mk reply.outcomes (after.state? k) = View.mk reply'.outcomes (after'.state? 0) := by
    rintro after _ reply reply' rfl outcomes
    rw [outcomes, alone_state]
  cases action with
  | build policy registry ambient data =>
    have built : (f.build policy registry ambient data).2.1 = .ok k := by
      change (f.build policy registry ambient data).2.1.toOption = some k at own
      generalize (f.build policy registry ambient data).2.1 = result at own ⊢
      cases result <;> cases own
      rfl
    have fleet := build_alone built
    exact ⟨fleet, seen fleet rfl⟩
  | act number event =>
    cases own
    obtain ⟨fleet, outcomes⟩ := act_alone (f := f) (k := k) event
    exact ⟨fleet, seen fleet outcomes⟩
  | serve ambient =>
    unfold target? at own
    rcases queued : f.queue with _ | ⟨⟨number, call⟩, rest⟩ <;> rw [queued] at own <;> cases own
    obtain ⟨fleet, outcomes⟩ := serve_alone queued ambient
    exact ⟨fleet, seen fleet outcomes⟩
  | inspect policy registry ambient => cases own
  | evaluate policy registry first second data q => cases own

/-- An action that is not about an instance does nothing to it. -/
theorem perform_of_other {action : Action σ} (apart : f.target? action ≠ some k) :
    (f.perform action).1.alone k = f.alone k := by
  cases action with
  | build policy registry ambient data =>
    refine build_other fun built => apart ?_
    show (f.build policy registry ambient data).2.1.toOption = some k
    rw [built]
    rfl
  | act number event => exact act_other (fun same => apart (congrArg some same)) event
  | serve ambient =>
    unfold target? at apart
    change (f.serve ambient).1.alone k = _
    rcases queued : f.queue with _ | ⟨⟨number, call⟩, rest⟩ <;> rw [queued] at apart
    · unfold serve
      rw [queued]
    · exact serve_other queued (fun same => apart (congrArg some same)) ambient
  | inspect policy registry ambient => rfl
  | evaluate policy registry first second data q => rfl

/-- What a run does to an instance is what the actions about it do where it is alone. -/
theorem performAll_alone (actions : List (Action σ)) :
    (f.performAll actions).alone k = (f.alone k).performAll (only k f actions) ∧
      views k f actions = watch 0 (f.alone k) (only k f actions) := by
  induction actions generalizing f with
  | nil => exact ⟨rfl, rfl⟩
  | cons action rest ih =>
    obtain ⟨fleet, seen⟩ := ih (f := (f.perform action).1)
    unfold views only
    by_cases own : f.target? action = some k
    · obtain ⟨same, view⟩ := perform_of_own own
      rw [same] at fleet seen
      rw [if_pos own, if_pos own, view]
      exact ⟨fleet, congrArg _ seen⟩
    · rw [perform_of_other own] at fleet seen
      rw [if_neg own, if_neg own]
      exact ⟨fleet, seen⟩

theorem perform_registries (action : Action σ) : (f.perform action).1.registries = f.registries := by
  -- The registries are there for every instance, also for one that the action is not about.
  have apart : f.target? action ≠ some ((f.target? action).getD 0 + 1) := by
    cases f.target? action <;> simp
  have same := congrArg registries (perform_of_other apart)
  exact same

theorem performAll_registries (actions : List (Action σ)) :
    (f.performAll actions).registries = f.registries := by
  induction actions generalizing f with
  | nil => rfl
  | cons action rest ih => exact (ih (f := (f.perform action).1)).trans (perform_registries action)

/-! ## Questions to instances of their own -/

/-- The answer to a question by an instance that is built for it where nothing else is. -/
def single (f : Fleet σ) (policy : Policy σ) (registry : Nat) (first second : Ambient) (data : Option Value)
    (q : Question) : Outcome :=
  match (Fleet.mk f.registries [] []).build policy registry first data with
  | (_, .error failure, _) => .failed failure
  | (built, .ok number, _) => (built.eval second number q).2.1

/-- What the result of a sandbox becomes. -/
def settle (shape : Option Shape) : Except Failure Bytes → Outcome
  | .ok raw => .ofExcept (decodeResult raw shape)
  | .error failure => .failed failure

def outcomeOf (i : Instance σ) (registry : Registry) (ambient : Ambient) (number : Nat) (q : Question) :
    Outcome :=
  match i.accept number q with
  | .error failure => .failed failure
  | .ok call => settle call.shape (i.sandbox.evaluate registry ambient call.id call.payload).1

theorem resume_settles {i : Instance σ} {call : Call} {result : Except Failure Bytes}
    (held : i.holder = some ⟨call, some result⟩) :
    (i.step .resume).outcomes = [(call.number, settle call.shape result)] := by
  show i.resume.outcomes = _
  unfold Instance.resume
  rw [held]
  rcases result with (cause | cause) | raw
  · dsimp only
    split <;> rfl
  · rfl
  · rfl

/-- An instance at rest with a call that has got the lock. -/
def inside (i : Instance σ) (call : Call) : Instance σ :=
  { i with state := .evaluating, holder := some ⟨call, none⟩, waiting := [], running := [call] }

theorem arrive_of_ok {i : Instance σ} (rest : i.AtRest) {number : Nat} {q : Question} {call : Call}
    (accepted : i.accept number q = .ok call) :
    i.step (.arrive number q) = (inside i call).still := by
  show i.arrive number q = _
  unfold Instance.arrive
  rw [accepted, rest.free, rest.nobody]
  unfold Instance.enter inside
  simp [rest.state, rest.quiet, rest.nobody]

/-- A question to an instance at rest has one outcome. -/
theorem eval_outcomes {i : Instance σ} (rest : i.AtRest) (registry : Registry) (ambient : Ambient)
    (number : Nat) (q : Question) :
    (i.eval registry ambient number q).outcomes = [(number, outcomeOf i registry ambient number q)] := by
  unfold outcomeOf
  cases accepted : i.accept number q with
  | error failure =>
    exact Instance.eval_of_refused rest registry ambient accepted
  | ok call =>
    have numbered : call.number = number := (Instance.accept_eq_ok_iff.mp accepted).2.number_eq
    subst numbered
    rw [(Instance.eval_of_accepted rest registry ambient call accepted).1]
    exact resume_settles rfl

/-- Events of an instance in a fleet are its events by itself. -/
theorem actAll_run {i : Instance σ} (found : f.instances[k]? = some i) (events : List Event) :
    (f.actAll k events).2.1 = (i.run events).outcomes.map fun o => ((k, o.1), o.2) := by
  induction events generalizing f i with
  | nil => rfl
  | cons event rest ih =>
    have inside : k < f.instances.length := (List.getElem?_eq_some_iff.mp found).1
    have next : (f.act k event).1.instances[k]? = some (i.step event).result := by
      unfold act
      rw [found]
      exact List.getElem?_set_self inside
    have outcomes : (f.act k event).2.1 = (i.step event).outcomes.map fun o => ((k, o.1), o.2) := by
      unfold act
      rw [found]
    change (f.act k event).2.1 ++ ((f.act k event).1.actAll k rest).2.1 =
      ((i.step event).outcomes ++ ((i.step event).result.run rest).outcomes).map _
    rw [outcomes, ih next, List.map_append]

/-- A question that comes in and is served has the outcome that comes of it. -/
theorem eval_of_outcomes {ambient : Ambient} {q : Question} {outcome : Outcome}
    (ends : (f.arriveAll 0 [(k, q)]).2.1 ++ ((f.arriveAll 0 [(k, q)]).1.drain [ambient]).2.1 =
      [((k, 0), outcome)]) : (f.eval ambient k q).2.1 = outcome := by
  unfold eval gather
  dsimp only
  rw [ends]
  simp

/-- A question to the only instance of a fleet is a question to the instance. -/
theorem eval_alone {i : Instance σ} (rest : i.AtRest) (registries : List Registry) (ambient : Ambient)
    (q : Question) :
    ((Fleet.mk registries [i] []).eval ambient 0 q).2.1 =
      outcomeOf i ((Fleet.mk registries [i] []).registry i.registry) ambient 0 q := by
  refine eval_of_outcomes ?_
  change ((Fleet.mk registries [i] []).act 0 (.arrive 0 q)).2.1 ++ [] ++
    ((((Fleet.mk registries [i] []).act 0 (.arrive 0 q)).1.serve ambient).2.1 ++ []) = _
  rw [List.append_nil, List.append_nil]
  cases accepted : i.accept 0 q with
  | error failure =>
    have nobody : ((Fleet.mk registries [i] []).act 0 (.arrive 0 q)) =
        (⟨registries, [i], []⟩, [((0, 0), .failed failure)], []) := by
      unfold act
      dsimp only
      simp [Instance.arrive_of_refused accepted, rest.quiet]
    rw [nobody]
    unfold outcomeOf
    rw [accepted]
    rfl
  | ok call =>
    have enters : (Fleet.mk registries [i] []).act 0 (.arrive 0 q) =
        (⟨registries, [inside i call], [(0, call.number)]⟩, [], []) := by
      unfold act
      dsimp only
      simp [arrive_of_ok rest accepted, rest.quiet, inside, Instance.still]
    have numbered : call.number = 0 := (Instance.accept_eq_ok_iff.mp accepted).2.number_eq
    have later := eval_outcomes rest ((Fleet.mk registries [i] []).registry i.registry) ambient 0 q
    unfold Instance.eval at later
    rw [Instance.run_cons, arrive_of_ok rest accepted] at later
    rw [enters]
    change ((Fleet.mk registries [inside i call] []).actAll 0 _).2.1 = _
    rw [actAll_run (i := inside i call) rfl, numbered]
    exact congrArg (List.map fun o => ((0, o.1), o.2)) later

/-- Policies build instances that differ in nothing but the number of the registry. -/
theorem build_number (policy : Policy σ) (number : Nat) (registry : Registry) (ambient : Ambient)
    (data : Option Value) :
    (policy.build number registry ambient data).1 =
      (policy.build 0 registry ambient data).1.map fun i => { i with registry := number } := by
  unfold Policy.build
  cases Policy.encodeData data with
  | error failure => rfl
  | ok document =>
    dsimp only
    generalize Sandbox.instantiate policy.guest registry ambient document =
      instantiated
    obtain ⟨_ | sandbox, notes⟩ := instantiated <;> rfl

theorem single_of_ok {policy : Policy σ} {registry : Nat} {first second : Ambient} {data : Option Value}
    {q : Question} {i : Instance σ}
    (built : (policy.build registry (f.registry registry) first data).1 = .ok i) :
    f.single policy registry first second data q = outcomeOf i (f.registry i.registry) second 0 q := by
  obtain ⟨fleet, number⟩ := build_of_ok (f := ⟨f.registries, [], []⟩) built
  have answered := eval_alone (Policy.build_atRest built) f.registries second q
  unfold single
  generalize (Fleet.mk f.registries [] []).build policy registry first data = done at fleet number ⊢
  obtain ⟨after, _, notes⟩ := done
  cases fleet
  cases number
  exact answered

theorem single_of_error {policy : Policy σ} {registry : Nat} {first second : Ambient} {data : Option Value}
    {q : Question} {failure : Failure}
    (failed : (policy.build registry (f.registry registry) first data).1 = .error failure) :
    f.single policy registry first second data q = .failed failure := by
  obtain ⟨-, number⟩ := build_of_error (f := ⟨f.registries, [], []⟩) failed
  unfold single
  generalize (Fleet.mk f.registries [] []).build policy registry first data = done at number ⊢
  obtain ⟨after, _, notes⟩ := done
  cases number
  rfl

/-- A question to an instance that is built for it is answered as if nothing else were there. -/
theorem evaluate_eq_single (policy : Policy σ) (registry : Nat) (first second : Ambient) (data : Option Value)
    (q : Question) :
    (policy.evaluate (f.registry registry) first second data q).1 =
      f.single policy registry first second data q := by
  have numbered := build_number policy registry (f.registry registry) first data
  unfold Policy.evaluate
  cases built : policy.build 0 (f.registry registry) first data with
  | mk result notes =>
    rw [built] at numbered
    cases result with
    | error failure => exact (single_of_error numbered).symm
    | ok i =>
      have atRest : i.AtRest := Policy.build_atRest (congrArg Prod.fst built)
      rw [single_of_ok numbered]
      dsimp only
      rw [eval_outcomes atRest]
      rfl

/-- Instances are isolated. Whatever is done with a fleet, builds and questions that fail included, each
instance gives the outcomes, goes through the states and ends up as where only the actions about it are
done. A question to an instance of its own is answered as where nothing else is, whatever was done before. -/
theorem instances_isolated (f : Fleet σ) (actions : List (Action σ)) :
    (∀ k, views k f actions = watch 0 (f.alone k) (only k f actions) ∧
        (f.performAll actions).instances[k]? =
          ((f.alone k).performAll (only k f actions)).instances[0]?) ∧
      ∀ policy registry first second data q,
        ((f.performAll actions).perform (.evaluate policy registry first second data q)).2 =
          .answered (f.single policy registry first second data q) := by
  constructor
  · intro k
    obtain ⟨fleet, seen⟩ := performAll_alone (f := f) (k := k) actions
    refine ⟨seen, ?_⟩
    rw [← fleet, alone_instance]
  · intro policy registry first second data q
    have same : (f.performAll actions).single policy registry first second data q =
        f.single policy registry first second data q := by
      unfold single
      rw [performAll_registries]
    exact congrArg Reply.answered ((evaluate_eq_single policy registry first second data q).trans same)

end

/-! ## A fleet of two -/

/-- A sandbox whose guest traps wherever it is called. -/
def trapping : Sandbox Nat :=
  let guest : Guest Nat := { Instance.tally.guest with call := fun _ _ _ => .trapped .unreachable }
  { Instance.tally with guest }

/-- An instance that counts its calls, and one that traps. -/
def sideBySide : Fleet Nat := ⟨[.empty], [.ofSandbox Instance.tally 0 false, .ofSandbox trapping 0 false], []⟩

def count : Question := ⟨"count", .null, none⟩

def moment : Ambient := ⟨0, ⟨1, 0⟩⟩

/-- Both are asked, and both are asked again when the second one is faulted. -/
def interleaved : List (Action Nat) :=
  [.act 1 (.arrive 0 count), .act 0 (.arrive 1 count), .serve moment, .serve moment,
    .act 1 (.arrive 2 count), .act 0 (.arrive 3 count), .serve moment]

attribute [local instance] Deployment.platform in
/-- The second instance is faulted, and the first one goes on as if it were alone. -/
theorem sideBySide_isolated :
    (views 1 sideBySide interleaved).map View.state = [some .evaluating, some .faulted, some .faulted] ∧
      (views 0 sideBySide interleaved).map View.state =
        [some .evaluating, some .built, some .evaluating, some .built] ∧
      views 0 sideBySide interleaved = watch 0 (sideBySide.alone 0) (only 0 sideBySide interleaved) := by
  obtain ⟨seen, -⟩ := (instances_isolated sideBySide interleaved).1 0
  exact ⟨by decide +kernel, by decide +kernel, seen⟩

end Fleet

end PolicyHost
