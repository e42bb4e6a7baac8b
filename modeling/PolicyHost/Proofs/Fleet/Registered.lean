import Mathlib.Data.List.Induction
import PolicyHost.Proofs.Fleet.Isolation
import PolicyHost.Proofs.Sandbox.Reach
import PolicyHost.Proofs.Sandbox.Requirements

/-!
# Builtins that stay callable

A build looks once whether the builtins that a guest may ask for are registered; a call looks for its
builtin each time, in a registry that may have changed since. Nothing that may be done with registries takes
a function away, and nothing that is done with other registries touches the one of an instance. So a call
never finds a name empty, and it gets the function that was registered last.

* `Deed`, `undergo`: whatever may be done with a fleet, its registries included.
* `lastRegistered`: the function that was registered last under a name.
* `bindings_undergo`: an instance keeps its guest, its table and its registry.
* `get?_undergo`, `get?_undergoAll`: what a deed does to the functions of a registry, and what deeds do.
* `CallsLatest`, `builtins_stay_callable`: by which functions requests are answered.
-/

namespace PolicyHost

namespace Fleet

open Sandbox (Session Reach respondBy)

variable {σ : Type}

/-- What may be done with a fleet.

* `found`: a registry is added, such as one of standard builtins;
* `register`: a function is registered in one of the registries;
* `extend`: a registry is added that holds what another holds, and more;
* `perform`: anything that leaves the registries as they are. -/
inductive Deed (σ : Type)
  | found (registry : Registry)
  | register (number : Nat) (name : Text) (function : Builtin.Function)
  | extend (number : Nat) (functions : List (Text × Builtin.Function))
  | perform (action : Action σ)

def undergo [Platform] (f : Fleet σ) : Deed σ → Fleet σ
  | .found registry => (f.found registry).1
  | .register number name function => f.register number name function
  | .extend number functions => (f.extend number functions).1
  | .perform action => (f.perform action).1

def undergoAll [Platform] (f : Fleet σ) (deeds : List (Deed σ)) : Fleet σ := deeds.foldl undergo f

/-- The function that a deed registers under a name in a registry. -/
def Deed.gives? (number : Nat) (name : Text) : Deed σ → Option Builtin.Function
  | .register other key function => if other = number ∧ key = name then some function else none
  | .found _ | .extend .. | .perform _ => none

/-- The function registered last under a name in a registry: by the last deed that registers one, or else
before all of them. -/
def lastRegistered (f : Fleet σ) (number : Nat) (name : Text) (deeds : List (Deed σ)) :
    Option Builtin.Function :=
  (deeds.reverse.findSome? (Deed.gives? number name)).or ((f.registry number).functions.get? name)

variable {f : Fleet σ} {number k : Nat} {name : Text}

theorem undergoAll_append [Platform] (first second : List (Deed σ)) :
    f.undergoAll (first ++ second) = (f.undergoAll first).undergoAll second := List.foldl_append

/-- One more deed registers the last function, unless it registers none there. -/
theorem lastRegistered_concat (deeds : List (Deed σ)) (deed : Deed σ) :
    f.lastRegistered number name (deeds ++ [deed]) =
      (deed.gives? number name).or (f.lastRegistered number name deeds) := by
  unfold lastRegistered
  rw [List.reverse_append, List.reverse_singleton, List.singleton_append, List.findSome?_cons]
  cases deed.gives? number name <;> rfl

/-! ## Instances -/

/-- What the builtins of an instance are called by. -/
structure Binding (σ : Type) where
  guest : Guest σ
  builtins : Table Int Text
  registry : Nat

def binding (i : Instance σ) : Binding σ := ⟨i.sandbox.guest, i.sandbox.builtins, i.registry⟩

def bindings (f : Fleet σ) : List (Binding σ) := f.instances.map binding

theorem binding_enter (i : Instance σ) (call : Call) : binding (i.enter call).result = binding i := by
  unfold Instance.enter
  split <;> rfl

theorem binding_step [Platform] (i : Instance σ) (event : Event) : binding
    (i.step event).result = binding i := by
  have leads := Instance.step_leads i event
  generalize i.step event = reaction at leads
  cases leads with
  | entered _ _ _ => exact binding_enter i _
  | @woken call rest _ _ => exact binding_enter { i with waiting := rest } call
  | _ => rfl

theorem bindings_act [Platform] (event : Event) : (f.act number event).1.bindings = f.bindings := by
  unfold act
  cases found : f.instances[number]? with
  | none => rfl
  | some i =>
    obtain ⟨inside, rfl⟩ := List.getElem?_eq_some_iff.mp found
    change (f.instances.set number (f.instances[number].step event).result).map binding = f.bindings
    rw [List.map_set, binding_step, ← List.map_set, List.set_getElem_self]
    rfl

theorem bindings_actAll [Platform] (events : List Event) :
    (f.actAll number events).1.bindings = f.bindings := by
  induction events generalizing f with
  | nil => rfl
  | cons event rest ih => exact (ih (f := (f.act number event).1)).trans (bindings_act event)

theorem bindings_serve [Platform] (ambient : Ambient) : (f.serve ambient).1.bindings = f.bindings := by
  unfold serve
  split
  · rfl
  · next rest _ =>
    split
    · rfl
    · exact bindings_actAll (f := { f with queue := rest }) _

/-- Instances keep what they have been built with, and only new ones join them. -/
theorem bindings_undergo [Platform] (deed : Deed σ) : f.bindings <+: (f.undergo deed).bindings := by
  have same {after : Fleet σ} (kept : after.bindings = f.bindings) : f.bindings <+: after.bindings :=
    kept ▸ List.prefix_rfl
  cases deed with
  | found registry => exact same rfl
  | register number name function => exact same rfl
  | extend number functions => exact same rfl
  | perform action =>
    cases action with
    | act number event => exact same (bindings_act event)
    | serve ambient => exact same (bindings_serve ambient)
    | inspect policy registry ambient => exact same rfl
    | evaluate policy registry first second data q => exact same rfl
    | build policy registry ambient data =>
      change f.bindings <+: (f.build policy registry ambient data).1.bindings
      cases done : (policy.build registry (f.registry registry) ambient data).1 with
      | error failure => exact same (congrArg bindings (build_of_error done).1)
      | ok fresh =>
        rw [(build_of_ok done).1, bindings, bindings, List.map_append]
        exact List.prefix_append _ _

theorem bindings_undergoAll [Platform] (deeds : List (Deed σ)) : f.bindings <+:
    (f.undergoAll deeds).bindings := by
  induction deeds generalizing f with
  | nil => exact List.prefix_rfl
  | cons deed rest ih => exact (bindings_undergo deed).trans ih

/-- An instance is still there after deeds, with what its builtins are called by. -/
theorem exists_instance [Platform] {i : Instance σ} (there : f.instances[k]? = some i) (deeds : List (Deed σ)) :
    ∃ later, (f.undergoAll deeds).instances[k]? = some later ∧ binding later = binding i := by
  have bound : f.bindings[k]? = some (binding i) := by rw [bindings, List.getElem?_map, there]; rfl
  obtain ⟨new, joined⟩ := bindings_undergoAll (f := f) deeds
  have kept : (f.undergoAll deeds).bindings[k]? = some (binding i) := by
    rw [← joined, List.getElem?_append_left (List.getElem?_eq_some_iff.mp bound).1, bound]
  rw [bindings, List.getElem?_map] at kept
  exact Option.map_eq_some_iff.mp kept

/-! ## Registries -/

theorem registries_undergo [Platform] (deed : Deed σ) : f.registries.length ≤
    (f.undergo deed).registries.length := by
  have joins (r : Registry) : f.registries.length ≤ (f.registries ++ [r]).length := by simp
  cases deed with
  | found registry => exact joins registry
  | register number name function => exact Nat.le_of_eq (List.length_modify _ _ _).symm
  | extend number functions => exact joins _
  | perform action => exact Nat.le_of_eq (congrArg List.length (perform_registries action)).symm

theorem registries_undergoAll [Platform] (deeds : List (Deed σ)) :
    f.registries.length ≤ (f.undergoAll deeds).registries.length := by
  induction deeds generalizing f with
  | nil => exact Nat.le_refl _
  | cons deed rest ih => exact Nat.le_trans (registries_undergo deed) ih

/-- A registry that is added leaves those that are there as they are. -/
theorem registry_found (inside : number < f.registries.length) (registry : Registry) :
    (f.found registry).1.registry number = f.registry number := by
  unfold found Fleet.registry
  rw [List.getElem?_append_left inside]

theorem registry_register (inside : number < f.registries.length) (other : Nat) (key : Text)
    (function : Builtin.Function) :
    (f.register other key function).registry number =
      if other = number then (f.registry number).register key function else f.registry number := by
  unfold register Fleet.registry
  rw [List.getElem?_modify, List.getElem?_eq_getElem inside]
  split <;> rfl

/-- Under a name there is what a deed registers there, and what was there before if it registers nothing. -/
theorem get?_undergo [Platform] (inside : number < f.registries.length) (name : Text) (deed : Deed σ) :
    ((f.undergo deed).registry number).functions.get? name =
      (deed.gives? number name).or ((f.registry number).functions.get? name) := by
  cases deed with
  | found registry =>
    change ((f.found registry).1.registry number).functions.get? name = _
    rw [registry_found inside]
    rfl
  | extend other functions =>
    change ((f.found _).1.registry number).functions.get? name = _
    rw [registry_found inside]
    rfl
  | perform action =>
    unfold Fleet.registry
    change (((f.perform action).1.registries[number]?).getD .empty).functions.get? name = _
    rw [perform_registries]
    rfl
  | register other key function =>
    change ((f.register other key function).registry number).functions.get? name = _
    rw [registry_register inside, Deed.gives?]
    by_cases own : other = number
    · rw [if_pos own, Registry.register, Table.get?_put]
      by_cases same : key = name
      · rw [if_pos same, if_pos ⟨own, same⟩, Option.some_or]
      · rw [if_neg same, if_neg fun both => same both.2, Option.none_or]
    · rw [if_neg own, if_neg fun both => own both.1, Option.none_or]

/-- Under a name there is what was registered there last, by induction on the deeds from the last one on. -/
theorem get?_undergoAll [Platform] (inside : number < f.registries.length) (name : Text)
    (deeds : List (Deed σ)) :
    ((f.undergoAll deeds).registry number).functions.get? name = f.lastRegistered number name deeds := by
  induction deeds using List.reverseRecOn with
  | nil => rfl
  | append_singleton deeds deed ih =>
    have there := Nat.lt_of_lt_of_le inside (registries_undergoAll deeds)
    rw [undergoAll_append, lastRegistered_concat, ← ih]
    exact get?_undergo there name deed

/-! ## Calls -/

/-- A number for which there is no registry stands for an empty one. -/
theorem inside_of_contains (registered : (f.registry number).contains name = true) :
    number < f.registries.length := by
  by_contra outside
  have empty : f.registry number = .empty := by
    rw [Fleet.registry, List.getElem?_eq_none (Nat.le_of_not_lt outside)]
    rfl
  rw [empty] at registered
  cases registered

/-- A name under which there has been a function has one for good, and it is called by the name. -/
theorem exists_lastRegistered [Platform] (registered : (f.registry number).contains name = true)
    (deeds : List (Deed σ)) :
    ∃ function, f.lastRegistered number name deeds = some function ∧
      ((f.undergoAll deeds).registry number).call name = function := by
  have held := get?_undergoAll (inside_of_contains registered) name deeds
  obtain ⟨first, before⟩ := Option.isSome_iff_exists.mp registered
  cases last : f.lastRegistered number name deeds with
  | none =>
    rw [lastRegistered, before] at last
    cases (Option.or_eq_none_iff.mp last).2
  | some function =>
    refine ⟨function, rfl, funext fun args => ?_⟩
    rw [Registry.call, held, last]

/-- How the builtins of an instance are called once deeds have been done with a fleet.

* `found`: whatever is done, under a name in the table there is a function that was registered last, and it
  is the one that the registry of the instance calls by this name;
* `apart`: a deed that registers nothing in this registry does not change which one it is;
* `answers`: requests are answered by these functions, and if more is done meanwhile, by those that have been
  registered last when they are called;
* `evaluates`: so are the requests of a whole evaluation. -/
structure CallsLatest [Platform] (f : Fleet σ) (deeds : List (Deed σ)) (i : Instance σ) : Prop where
  found : ∀ id name, i.sandbox.builtins.get? id = some name → ∀ done, ∃ function,
    f.lastRegistered i.registry name done = some function ∧
      ((f.undergoAll done).registry i.registry).call name = function
  apart : ∀ id name, i.sandbox.builtins.get? id = some name → ∀ done deed,
    (∀ key function, deed ≠ .register i.registry key function) →
      ((f.undergoAll (done ++ [deed])).registry i.registry).call name =
        ((f.undergoAll done).registry i.registry).call name
  answers : ∀ (meanwhile : Session σ → List (Deed σ)) (reach : Reach σ),
    (∀ id name, i.sandbox.builtins.get? id = some name → ∀ session,
      f.lastRegistered i.registry name (deeds ++ meanwhile session) = some (reach session name)) →
    ∀ depth, respondBy i.sandbox.guest i.sandbox.builtins
        (fun session => (((f.undergoAll deeds).undergoAll (meanwhile session)).registry i.registry).call) depth =
      respondBy i.sandbox.guest i.sandbox.builtins reach depth
  evaluates : ∀ reach : Text → Builtin.Function,
    (∀ id name, i.sandbox.builtins.get? id = some name →
      f.lastRegistered i.registry name deeds = some (reach name)) →
    ∀ ambient id payload,
      i.sandbox.evaluate ((f.undergoAll deeds).registry i.registry) ambient id payload =
        i.sandbox.evaluateBy
          (respondBy i.sandbox.guest i.sandbox.builtins (fun _ => reach) Room.requests) ambient id payload

/-- If the names in the table of an instance are registered once, its builtins are called as they should. -/
theorem CallsLatest.of_registered [Platform] {i : Instance σ}
    (registered : ∀ id name, i.sandbox.builtins.get? id = some name →
      (f.registry i.registry).contains name = true) (deeds : List (Deed σ)) : CallsLatest f deeds i := by
  have called {id : Int} {name : Text} (named : i.sandbox.builtins.get? id = some name) {done : List (Deed σ)}
      {function : Builtin.Function} (last : f.lastRegistered i.registry name done = some function) :
      ((f.undergoAll done).registry i.registry).call name = function := by
    obtain ⟨other, last', calls⟩ := exists_lastRegistered (registered id name named) done
    exact calls.trans (Option.some.inj (last'.symm.trans last))
  refine ⟨fun id name named done => exists_lastRegistered (registered id name named) done, ?_, ?_, ?_⟩
  · intro id name named done deed elsewhere
    obtain ⟨function, last, calls⟩ := exists_lastRegistered (registered id name named) done
    have idle : deed.gives? i.registry name = none := by
      cases deed with
      | register other key function =>
        exact if_neg fun (own : other = _ ∧ key = name) => elsewhere key function (own.1 ▸ rfl)
      | found _ | extend _ _ | perform _ => rfl
    have still : f.lastRegistered i.registry name (done ++ [deed]) = some function := by
      rw [lastRegistered_concat, idle, Option.none_or, last]
    rw [called named still, calls]
  · intro meanwhile reach latest depth
    refine Sandbox.respondBy_congr (fun id name named session => ?_) depth
    rw [← undergoAll_append]
    exact called named (latest id name named session)
  · intro reach latest ambient id payload
    rw [Sandbox.evaluate_eq_evaluateBy]
    refine congrArg (i.sandbox.evaluateBy · ambient id payload) ?_
    exact Sandbox.respondBy_congr (fun id name named _ => called named (latest id name named)) _

/-! ## Instances that have been built -/

/-- A build that succeeds adds an instance of the registry, which holds all names in its table. -/
theorem build_requires [Platform] {policy : Policy σ} {ambient : Ambient} {data : Option Value}
    (built : (f.build policy number ambient data).2.1 = .ok k) :
    ∃ fresh : Instance σ, (f.build policy number ambient data).1.instances[k]? = some fresh ∧
      (f.build policy number ambient data).1.registries = f.registries ∧ fresh.registry = number ∧
      ∀ id name, fresh.sandbox.builtins.get? id = some name → (f.registry number).contains name = true := by
  cases done : (policy.build number (f.registry number) ambient data).1 with
  | error failure =>
    rw [(build_of_error done).2] at built
    cases built
  | ok fresh =>
    obtain ⟨fleet, numbered⟩ := build_of_ok done
    rw [numbered] at built
    cases built
    refine ⟨fresh, ?_, by rw [fleet], ?_⟩
    · rw [fleet]
      exact List.getElem?_concat_length
    · unfold Policy.build at done
      cases encoded : Policy.encodeData data with
      | error failure =>
        rw [encoded] at done
        cases done
      | ok document =>
        rw [encoded] at done
        dsimp only at done
        rcases ended : Sandbox.instantiate policy.guest (f.registry number)
          ambient document with ⟨failure | sandbox, notes⟩ <;> rw [ended] at done <;> cases done
        obtain ⟨tables, ids, -, -, turned, registered⟩ :=
          Sandbox.instantiate_requires (congrArg Prod.fst ended)
        refine ⟨rfl, fun id name named => registered id name ?_⟩
        change sandbox.builtins.get? id = some name at named
        rw [turned] at named
        exact Sandbox.get?_numbered.mp named

/-- The builtins that a build has found stay callable. Whatever is done later on with the fleet, its
registries and its instances, the instance is still there with its table and its registry, and each of its
numbers stands for the function registered last under its name in this registry. -/
theorem builtins_stay_callable [Platform] {policy : Policy σ} {ambient : Ambient} {data : Option Value}
    (built : (f.build policy number ambient data).2.1 = .ok k) (deeds : List (Deed σ)) :
    let start := (f.build policy number ambient data).1
    ∃ fresh i : Instance σ, start.instances[k]? = some fresh ∧
      (start.undergoAll deeds).instances[k]? = some i ∧ i.registry = number ∧
      i.sandbox.guest = fresh.sandbox.guest ∧ i.sandbox.builtins = fresh.sandbox.builtins ∧
      CallsLatest start deeds i := by
  intro start
  obtain ⟨fresh, there, same, own, registered⟩ := build_requires built
  obtain ⟨i, later, bound⟩ := exists_instance there deeds
  have guest : i.sandbox.guest = fresh.sandbox.guest := congrArg Binding.guest bound
  have builtins : i.sandbox.builtins = fresh.sandbox.builtins := congrArg Binding.builtins bound
  have registry : i.registry = number := (congrArg Binding.registry bound).trans own
  refine ⟨fresh, i, there, later, registry, guest, builtins, .of_registered (fun id name named => ?_) deeds⟩
  rw [builtins] at named
  have known := registered id name named
  rw [registry, Fleet.registry, same]
  exact known

/-! ## A guest with one builtin -/

/-- A guest that asks for the builtin of number seven, which it knows by one name, and gives its result. -/
def asker : Guest Unit :=
  { Sandbox.lister Sandbox.knownAlone with
    call := fun name args store =>
      if name = "eval" then .asked (.builtin 7 0 []) store fun value store => .returned (some value) store
      else (Sandbox.lister Sandbox.knownAlone).call name args store }

/-- A builtin that always gives the same truth value. -/
def constant (b : Bool) : Builtin.Function := fun _ => return .bool b

/-- The name of the builtin gets another function, and other functions in other registries. -/
def renewed : List (Deed Unit) :=
  [.found .standard, .register 0 "known" (constant true), .extend 0 [("known", constant false)],
    .register 1 "known" (constant false)]

attribute [local instance] Deployment.platform in
/-- The number of the guest stands for the function that has been registered since in its registry. -/
theorem asker_stays_callable :
    let built := (Fleet.mk [Sandbox.lone] [] []).build ⟨asker, "", 0⟩ 0 Sandbox.someAmbient none
    built.2.1 = .ok 0 ∧ ∃ i, (built.1.undergoAll renewed).instances[0]? = some i ∧
      i.sandbox.builtins.get? (7 : Int) = some (Text.ofString "known") ∧
      ((built.1.undergoAll renewed).registry 0).call "known" = constant true := by
  intro built
  have done : built.2.1.toOption = some 0 := by decide +kernel
  have numbered : built.2.1 = .ok 0 := by
    cases result : built.2.1 with
    | error failure =>
      rw [result] at done
      cases done
    | ok number =>
      rw [result] at done
      exact congrArg Except.ok (Option.some.inj done)
  have table : (built.1.instances[0]?.bind fun i => i.sandbox.builtins.get? (7 : Int)) =
      some (Text.ofString "known") := by decide +kernel
  obtain ⟨fresh, i, there, later, registry, -, builtins, calls⟩ := builtins_stay_callable numbered renewed
  have named : i.sandbox.builtins.get? (7 : Int) = some (Text.ofString "known") := by
    rw [builtins]
    change (built.1.instances[0]?.bind _) = _ at table
    rw [there] at table
    exact table
  obtain ⟨function, last, called⟩ := calls.found 7 "known" named renewed
  rw [registry] at last called
  refine ⟨numbered, i, later, named, called.trans ?_⟩
  exact (Option.some.inj last).symm

end Fleet

end PolicyHost
