import PolicyHost.Deployment.Standard
import PolicyHost.Policy
import PolicyHost.Proofs.Outcome
import PolicyHost.Proofs.Sandbox.Stops

/-!
# Why a build fails

A build runs code of the guest in three stages: at the start, for the two tables, and to bind the data.
Errors and traps of the first two become errors of instantiation. While the data are bound only traps do:
errors that the host raises there, and the faults of every stage, leave the build as they are.

* `BuildFailure`: what a build fails with.
* `start_fails`, `resolveTables_fails`, `bindData_fails`: one stage after another.
* `setUp_fails`, `instantiate_failure`, `build_cases`: a whole build.
* `objector_aborts`: a guest that aborts while the data are bound.
-/

namespace PolicyHost

namespace Sandbox

section

variable {σ α : Type}

/-- A stop by a failure for one of these reasons, and no trap. -/
def Fails (reasons : Failure → Prop) (stop : Stop) : Prop :=
  ∃ failure, stop = .failure failure ∧ reasons failure

variable {reasons : Failure → Prop}

theorem Stops.fail {cause : PolicyError} (allowed : reasons (.error cause)) :
    Stops (Fails reasons) (fail cause : Run σ α) :=
  .throw ⟨_, rfl, allowed⟩

variable [Platform]

def GivesTable (guest : Guest σ) (registry : Registry) (members : Json.Members) : Prop :=
  ∃ name session after,
    (readTable ⟨guest, registry, []⟩ name).run session = (.ok (.object members), after)

/-- What a build fails with.

* `instantiate`: an error of instantiation;
* `rejected`: the guest rejects the data;
* `raised`: the host raises an error of execution while the data are bound;
* `fault`: a fault of the host that no part of the library turns into an error;
* `version`: a global by which the guest gives its version holds something that is no integer;
* `identifier`: a table that the guest gives holds something that is no number. -/
inductive BuildFailure (guest : Guest σ) (registry : Registry) (document : Bytes) : Failure → Prop
  | instantiate {cause : PolicyError} :
      cause.kind = .instantiate → BuildFailure guest registry document (.error cause)
  | rejected : BuildFailure guest registry document (.error .documentRejected)
  | raised {builtins : Table Int Text} {session after : Session σ} {cause : PolicyError} :
      (bindData ⟨guest, registry, builtins⟩ document).run session =
        (.error (.failure (.error cause)), after) →
      cause.kind.ofRun = true → BuildFailure guest registry document (.error cause)
  | fault {cause : Fault} : RunFault cause → BuildFailure guest registry document (.fault cause)
  | version {name : Text} {store : σ} {value : Scalar} {cause : Fault} :
      name = "opa_wasm_abi_version" ∨ name = "opa_wasm_abi_minor_version" →
      guest.global? name store = some value → globalInt value = .error cause →
      BuildFailure guest registry document (.fault cause)
  | identifier {members : Json.Members} {entry : Text × Json} {cause : Fault} :
      GivesTable guest registry members → entry ∈ members → identifier entry.2 = .error cause →
      BuildFailure guest registry document (.fault cause)

variable {guest : Guest σ} {registry : Registry} {document : Bytes}

/-! ## Stages -/

/-- Errors and traps of a stage become errors of instantiation, and its faults stay as they are. -/
theorem Stops.onStop_instantiate {step : Run σ α} {error : PolicyError → PolicyError}
    {trap : Trap → PolicyError} (stops : Stops Breaks step)
    (errors : ∀ cause, (error cause).kind = .instantiate)
    (traps : ∀ cause, (trap cause).kind = .instantiate) :
    Stops (Fails (BuildFailure guest registry document)) (Sandbox.onStop error trap step) := by
  refine stops.onStop (fun cause _ => ?_) (fun cause _ => ?_) fun cause breaks => ?_
  · exact ⟨_, rfl, .instantiate (errors cause)⟩
  · exact ⟨_, rfl, .instantiate (traps cause)⟩
  · cases breaks with
    | fault known => exact ⟨_, rfl, .fault known⟩

theorem start_fails (host : Host σ) (activity : Activity σ) :
    Stops (Fails (BuildFailure guest registry document))
      (onStop .startFailed .notInstantiable (drive host.answer activity)) :=
  (drive_stops (answer_stops host) activity).onStop_instantiate (fun _ => rfl) fun _ => rfl

theorem readVersion_fails {store : σ} {cause : Fault} (stopped : readVersion guest store = .error cause) :
    BuildFailure guest registry document (.fault cause) := by
  unfold readVersion at stopped
  split at stopped
  · cases stopped
  · next major given =>
    rcases Outcome.bind_eq_error_iff.mp stopped with broken | ⟨n, -, rest⟩
    · exact .version (.inl rfl) given broken
    · rcases Outcome.bind_eq_error_iff.mp rest with broken | ⟨m, -, done⟩
      · cases minor : guest.global? "opa_wasm_abi_minor_version" store with
        | none =>
          rw [minor] at broken
          cases broken
        | some value =>
          rw [minor] at broken
          exact .version (.inr rfl) minor broken
      · cases done

theorem checkGuest_fails :
    Stops (Fails (BuildFailure guest registry document)) (checkGuest guest) := by
  refine Stops.get.bind fun session => ?_
  have version : Stops (Fails (BuildFailure guest registry document))
      (lift (readVersion guest session.store) : Run σ _) := by
    cases read : readVersion guest session.store with
    | ok given => exact .pure given
    | error cause => exact .throw ⟨_, rfl, readVersion_fails read⟩
  refine version.bind fun given => ?_
  split
  · exact .fail (.instantiate rfl)
  · split
    · exact .fail (.instantiate rfl)
    · dsimp only
      split
      · exact .pure _
      · exact .fail (.instantiate rfl)

theorem readTable_stops (host : Host σ) (name : Text) : Stops Breaks (readTable host name) :=
  (call_stops (answer_stops host) name []).bind fun address => dumpJson_stops (answer_stops host) address

theorem readTables_fails (host : Host σ) :
    Stops (Fails (BuildFailure guest registry document)) (readTables host) := by
  have table (name : Text) : Stops (Fails (BuildFailure guest registry document))
      (onStop .tablesUnreadable .tablesTrapped (readTable host name)) :=
    (readTable_stops host name).onStop_instantiate (fun _ => rfl) fun _ => rfl
  refine (table _).bind fun builtins => (table _).bind fun entrypoints => ?_
  split
  · exact .pure _
  · exact .fail (.instantiate rfl)

theorem readTables_gives {session after : Session σ} {tables : Json.Members × Json.Members}
    (done : (readTables ⟨guest, registry, []⟩).run session = (.ok tables, after)) :
    GivesTable guest registry tables.1 ∧ GivesTable guest registry tables.2 := by
  unfold readTables at done
  rw [run_bind] at done
  rcases first : (onStop .tablesUnreadable .tablesTrapped
    (readTable ⟨guest, registry, []⟩ "builtins")).run session with ⟨_ | builtins, middle⟩ <;>
    rw [first] at done
  · cases done
  · dsimp only at done
    rw [run_bind] at done
    rcases second : (onStop .tablesUnreadable .tablesTrapped
      (readTable ⟨guest, registry, []⟩ "entrypoints")).run middle with ⟨_ | entrypoints, last⟩ <;>
      rw [second] at done
    · cases done
    · dsimp only at done
      split at done
      · cases done
        exact ⟨⟨_, _, _, onStop_eq_ok.mp first⟩, ⟨_, _, _, onStop_eq_ok.mp second⟩⟩
      · cases done

theorem identifiers_fails {members : Json.Members} (given : GivesTable guest registry members) :
    Stops (Fails (BuildFailure guest registry document)) (lift (identifiers members) : Run σ _) := by
  cases converted : identifiers members with
  | ok ids => exact .pure ids
  | error cause =>
    obtain ⟨entry, member, stopped⟩ := Outcome.mapM_eq_error converted
    exact .throw ⟨_, rfl, .identifier given member (Outcome.map_eq_error_iff.mp stopped)⟩

theorem resolveTables_fails :
    Stops (Fails (BuildFailure guest registry document)) (resolveTables ⟨guest, registry, []⟩) := by
  refine (readTables_fails _).bind_of fun tables session after read => ?_
  obtain ⟨builtins, entrypoints⟩ := readTables_gives read
  refine (identifiers_fails builtins).bind fun ids => ?_
  dsimp only
  split
  · exact (identifiers_fails entrypoints).bind fun _ => .pure _
  · exact .fail (.instantiate rfl)

/-- What stops the host while it binds the data. -/
inductive BindStop : Stop → Prop
  | trapped (trap : Trap) : BindStop (.failure (.error (.dataTrapped trap)))
  | rejected : BindStop (.failure (.error .documentRejected))
  | raised {cause : PolicyError} : cause.kind.ofRun = true → BindStop (.failure (.error cause))
  | fault {cause : Fault} : RunFault cause → BindStop (.failure (.fault cause))

/-- While the data are bound, only traps become errors of instantiation. -/
theorem bindData_stops (host : Host σ) (data : Bytes) : Stops BindStop (bindData host data) := by
  have stops : Stops Delivery (do
      let address ← host.loadJson host.answer data
      let mark ← host.call host.answer "opa_heap_ptr_get" []
      return (address, mark)) :=
    (loadJson_stops (answer_stops host) data).bind fun _ =>
      ((call_stops (answer_stops host) _ _).mono fun _ => .inl).bind fun _ => .pure _
  refine stops.onStop ?_ (fun cause _ => .trapped cause) ?_
  · rintro cause (breaks | rejected)
    · cases breaks with
      | raised raised => exact .raised raised
    · cases rejected
      exact .rejected
  · rintro cause (breaks | rejected)
    · cases breaks with
      | fault known => exact .fault known
    · cases rejected

theorem bindData_fails (builtins : Table Int Text) :
    Stops (Fails (BuildFailure guest registry document))
      (bindData ⟨guest, registry, builtins⟩ document) := by
  intro session stop after stopped
  cases bindData_stops _ _ _ _ _ stopped with
  | trapped trap => exact ⟨_, rfl, .instantiate rfl⟩
  | rejected => exact ⟨_, rfl, .rejected⟩
  | raised raised => exact ⟨_, rfl, .raised stopped raised⟩
  | fault known => exact ⟨_, rfl, .fault known⟩

/-! ## A whole build -/

theorem setUp_fails (activity : Activity σ) :
    Stops (Fails (BuildFailure guest registry document)) (setUp guest registry activity document) :=
  (start_fails _ activity).bind fun _ => checkGuest_fails.bind fun _ =>
    resolveTables_fails.bind fun tables => (Stops.modify _).bind fun _ =>
      (bindData_fails tables.1).bind fun _ => Stops.get.bind fun _ => .pure _

theorem instantiate_failure {ambient : Ambient} {failure : Failure}
    (failed : (instantiate guest registry ambient document).1 = .error failure) :
    BuildFailure guest registry document failure := by
  unfold instantiate at failed
  split at failed
  · cases failed
    exact .instantiate rfl
  · cases failed
    exact .instantiate rfl
  · split at failed
    · cases failed
      exact .instantiate rfl
    · next activity _ =>
      split at failed
      · cases failed
        exact .instantiate rfl
      · next store _ =>
        rcases ended : (setUp guest registry activity document).run ⟨store, .fresh ambient, []⟩ with
          ⟨stop | sandbox, after⟩ <;> rw [ended] at failed
        · obtain ⟨reason, rfl, known⟩ := setUp_fails activity _ _ _ ended
          cases failed
          exact known
        · cases failed

end

/-! ## A guest that aborts -/

/-- A guest with empty tables that aborts where it is to parse a document. -/
def objector : Guest Unit where
  demand := .memory
  start := .ok (.returned none ())
  memory := fun _ => ⟨#[0x7B, 0x7D, 0, 0x6E, 0x6F, 0], 1, 1, by decide⟩
  setMemory := fun _ store => store
  refuel := id
  provides := fun _ => true
  global? := fun _ _ => some (.int 1)
  call := fun name _ store =>
    if name = "opa_json_parse" then .asked (.abort 3) store fun _ store => .returned (some 0) store
    else .returned (some 0) store

end Sandbox

namespace Policy

open Sandbox

variable {σ : Type} [Platform]

theorem build_of_unencoded (policy : Policy σ) (number : Nat) (registry : Registry) (ambient : Ambient)
    {data : Option Value} {failure : Failure} (unencoded : encodeData data = .error failure) :
    (policy.build number registry ambient data).1 = .error failure := by
  rw [build, unencoded]

/-- What comes of a sandbox that is set up is an instance of it. -/
theorem build_outcome (policy : Policy σ) (number : Nat) (registry : Registry) (ambient : Ambient)
    {data : Option Value} {document : Bytes} (encoded : encodeData data = .ok document) :
    match (policy.build number registry ambient data).1 with
    | .ok fresh => ∃ sandbox, fresh = .ofSandbox sandbox number data.isSome
    | .error failure => BuildFailure policy.guest registry document failure := by
  unfold build
  rw [encoded]
  dsimp only
  rcases ended : instantiate policy.guest registry ambient document with ⟨failure | sandbox, notes⟩
  · exact instantiate_failure (congrArg Prod.fst ended)
  · exact ⟨sandbox, rfl⟩

end Policy

end PolicyHost
