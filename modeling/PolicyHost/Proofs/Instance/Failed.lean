import PolicyHost.Deployment.Standard
import PolicyHost.Proofs.Instance.Faulted
import PolicyHost.Proofs.Sandbox.Stops

/-!
# Instances after a failure

An evaluation that fails gives its failure to the call that has the lock. When the call takes it, the
instance is faulted if it is an error of execution. All else leaves the instance fit for use, although
the guest has stopped halfway: a fault of the host, or that the guest rejects the input.

* `FromSandbox`: results are those of evaluations, which every step keeps.
* `state_of_failed_evaluation`: what becomes of an instance on each kind of failure.
* `rejected_input_leaves_built`: a guest that stops halfway and is used again.
-/

namespace PolicyHost

variable {σ : Type}

namespace Instance

/-- The result that the call with the lock has got comes from evaluating it: a guest of this version,
with some store. -/
def FromSandbox [Platform] (i : Instance σ) : Prop :=
  ∀ call result, i.holder = some ⟨call, some result⟩ →
    ∃ (sandbox : Sandbox σ) (registry : Registry) (ambient : Ambient),
      sandbox.guest = i.sandbox.guest ∧ sandbox.version = i.sandbox.version ∧
        (sandbox.evaluate registry ambient call.id call.payload).1 = result

theorem FromSandbox.of_no_result [Platform] {i : Instance σ}
    (none : ∀ call result, i.holder ≠ some ⟨call, some result⟩) : FromSandbox i :=
  fun call result held => absurd held (none call result)

theorem FromSandbox.enter [Platform] {i : Instance σ} (sourced : FromSandbox i) (call : Call) :
    FromSandbox (i.enter call).result := by
  unfold Instance.enter
  split
  · exact sourced
  · exact .of_no_result fun other result held => by cases held

/-- A step keeps where results come from; only the end of an evaluation makes a new one. -/
theorem FromSandbox.step [Platform] {i : Instance σ} (phase : Phase i) (sourced : FromSandbox i)
    (event : Event) :
    FromSandbox (i.step event).result := by
  have leads := step_leads i event
  generalize i.step event = reaction at leads
  cases leads with
  | refused _ | nothing _ _ _ _ | queued _ _ | withdrawn _ => exact sourced
  | entered _ _ _ => exact sourced.enter _
  | @woken call rest _ _ =>
    exact FromSandbox.enter (i := { i with waiting := rest }) sourced call
  | returned _ | faulted _ _ | failed _ _ | dropped _ _ =>
    exact .of_no_result fun _ _ held => by cases held
  | @done _ registry ambient call _ runs _ =>
    cases phase with
    | idle _ _ empty | ready _ _ empty => rw [empty] at runs; cases runs
    | abandoned free _ one =>
      rw [one, List.mem_singleton] at runs
      subst runs
      rw [finished_of_abandoned free one]
      exact .of_no_result fun _ _ held => by rw [free] at held; cases held
    | inside held _ one =>
      rw [one, List.mem_singleton] at runs
      subst runs
      rw [finished_of_inside held one]
      intro _ result same
      cases same
      exact ⟨i.sandbox, registry, ambient, rfl, rfl, rfl⟩

theorem FromSandbox.run [Platform] {i : Instance σ} (phase : Phase i) (sourced : FromSandbox i)
    (events : List Event) : FromSandbox (i.run events).result := by
  induction events generalizing i with
  | nil => exact sourced
  | cons event rest ih => exact ih (phase.step event) (sourced.step phase event)

/-- Evaluating keeps the guest and its version. -/
theorem step_guest [Platform] (i : Instance σ) (event : Event) :
    (i.step event).result.sandbox.guest = i.sandbox.guest ∧
      (i.step event).result.sandbox.version = i.sandbox.version := by
  have leads := step_leads i event
  generalize i.step event = reaction at leads
  cases leads with
  | entered _ _ _ | woken _ _ =>
    unfold enter
    split <;> exact ⟨rfl, rfl⟩
  | _ => exact ⟨rfl, rfl⟩

theorem run_guest [Platform] (i : Instance σ) (events : List Event) :
    (i.run events).result.sandbox.guest = i.sandbox.guest ∧
      (i.run events).result.sandbox.version = i.sandbox.version := by
  induction events generalizing i with
  | nil => exact ⟨rfl, rfl⟩
  | cons event rest ih =>
    have now := step_guest i event
    have later := ih (i.step event).result
    exact ⟨later.1.trans now.1, later.2.trans now.2⟩

/-- The call with the lock takes a failure. -/
theorem resume_of_failure [Platform] {i : Instance σ} {call : Call} {failure : Failure}
    (held : i.holder = some ⟨call, some (.error failure)⟩) :
    (i.step .resume).outcomes = [(call.number, .failed failure)] ∧
      (i.step .resume).result.state = if failure.isExecution then .faulted else .built := by
  have leads := step_leads i .resume
  generalize i.step .resume = reaction at leads
  cases leads with
  | returned other => rw [held] at other; cases other
  | faulted other execution =>
    rw [held] at other
    cases other
    exact ⟨rfl, by simp [Failure.isExecution, execution]⟩
  | failed other harmless =>
    rw [held] at other
    cases other
    cases failure with
    | error cause => exact ⟨rfl, by simp [Failure.isExecution, harmless cause rfl]⟩
    | fault cause => exact ⟨rfl, rfl⟩
  | nothing _ _ idle _ => exact absurd held (idle rfl call _)

/-- The call with the lock takes octets; it may fail to read them. -/
theorem resume_of_octets [Platform] {i : Instance σ} {call : Call} {raw : Bytes}
    (held : i.holder = some ⟨call, some (.ok raw)⟩) :
    (i.step .resume).outcomes = [(call.number, .ofExcept (decodeResult raw call.shape))] ∧
      (i.step .resume).result.state = .built := by
  have leads := step_leads i .resume
  generalize i.step .resume = reaction at leads
  cases leads with
  | returned other =>
    rw [held] at other
    cases other
    exact ⟨rfl, rfl⟩
  | faulted other _ | failed other _ => rw [held] at other; cases other
  | nothing _ _ idle _ => exact absurd held (idle rfl call _)

/-- Of the failures of an evaluation, those that are no errors of execution are that the guest rejects
its input and the faults of the host. -/
theorem harmless_iff {fast : Bool} {failure : Failure}
    (known : Sandbox.EvaluationFailure fast failure) :
    failure.isExecution = false ↔
      (failure = .error .documentRejected ∧ fast = false) ∨
        ∃ cause, Sandbox.RunFault cause ∧ failure = .fault cause := by
  cases known with
  | execution execution =>
    rw [execution]
    constructor
    · exact nofun
    · rintro (⟨rfl, -⟩ | ⟨cause, -, rfl⟩) <;> cases execution
  | rejected slow => exact ⟨fun _ => .inl ⟨rfl, slow⟩, fun _ => rfl⟩
  | fault known => exact ⟨fun _ => .inr ⟨_, known, rfl⟩, fun _ => rfl⟩

/-- Whatever has happened to an instance, an evaluation that fails leaves it faulted, except where the
guest rejects the input through a context and where the host ends in a fault of its own: these leave it
built. What fails before the sandbox or behind it leaves the instance as it was, or built. -/
theorem state_of_failed_evaluation [Platform] (sandbox : Sandbox σ) (registry : Nat) (hasData : Bool)
    (events : List Event) :
    let i := ((ofSandbox sandbox registry hasData).run events).result
    (∀ call failure, i.holder = some ⟨call, some (.error failure)⟩ →
      (i.step .resume).outcomes = [(call.number, .failed failure)] ∧
      ((i.step .resume).result.state = .faulted ↔ failure.isExecution = true) ∧
      ((i.step .resume).result.state = .built ↔
        (failure = .error .documentRejected ∧
          Sandbox.isFast sandbox.guest sandbox.version = false) ∨
        ∃ cause, Sandbox.RunFault cause ∧ failure = .fault cause)) ∧
    (∀ call raw, i.holder = some ⟨call, some (.ok raw)⟩ →
      (i.step .resume).outcomes = [(call.number, .ofExcept (decodeResult raw call.shape))] ∧
      (i.step .resume).result.state = .built) ∧
    (∀ number q failure, i.accept number q = .error failure →
      (i.step (.arrive number q)).result = i) := by
  intro i
  refine ⟨fun call failure held => ?_, fun call raw held => resume_of_octets held,
    fun number q failure refused => ?_⟩
  · have fresh := Phase.ofSandbox sandbox registry hasData
    have sourced : FromSandbox i := FromSandbox.run fresh (.of_no_result fun _ _ => nofun) events
    have same := run_guest (ofSandbox sandbox registry hasData) events
    obtain ⟨used, _, _, guest, version, failed⟩ := sourced call _ held
    have known := Sandbox.evaluate_failure failed
    rw [guest, version, same.1, same.2] at known
    obtain ⟨outcomes, state⟩ := resume_of_failure held
    refine ⟨outcomes, ?_, ?_⟩
    · rw [state]
      cases failure.isExecution <;> simp
    · refine Iff.trans ?_ (harmless_iff known)
      rw [state]
      cases failure.isExecution <;> simp
  · change (i.arrive number q).result = i
    simp [arrive, refused]

/-- A guest that takes no input: it allocates, which it counts, and rejects what is written there. -/
def picky : Sandbox Nat where
  guest :=
    { demand := .memory
      start := .ok (.returned none 0)
      memory := fun _ => .zeros 1 1
      setMemory := fun _ count => count
      refuel := id
      provides := fun _ => true
      global? := fun _ _ => none
      call := fun name _ count =>
        if name = "opa_json_parse" then .returned (some 0) count
        else .returned (some 8) (count + 1) }
  version := ⟨1, 1⟩
  builtins := []
  entrypoints := [("any", 0)]
  dataAddress := 0
  heapMark := 8
  store := 0

/-- A question comes in and the sandbox gets done with it. -/
def rejection : List Event := [.arrive 0 ⟨"any", .null, none⟩, .finish 0 .empty ⟨0, ⟨1, 0⟩⟩]

section

attribute [local instance] Deployment.platform

theorem picky_state_of_failed_evaluation :
    let i := ((ofSandbox picky 0 false).run rejection).result
    ∃ call, i.holder = some ⟨call, some (.error (.error .documentRejected))⟩ ∧
      (i.step .resume).outcomes = [(0, .failed (.error .documentRejected))] ∧
      (i.step .resume).result.state = .built := by
  intro i
  obtain ⟨call, zero, held⟩ : ∃ call : Call, call.number = 0 ∧
      i.holder = some ⟨call, some (.error (.error .documentRejected))⟩ := ⟨_, rfl, rfl⟩
  obtain ⟨outcomes, -, built⟩ :=
    (state_of_failed_evaluation picky 0 false rejection).1 call _ held
  rw [zero] at outcomes
  exact ⟨call, held, outcomes, built.mpr (.inl ⟨rfl, rfl⟩)⟩

/-- The guest has moved its heap and stopped halfway, and the instance is built as before. -/
theorem rejected_input_leaves_built :
    let i := ((ofSandbox picky 0 false).run rejection).result
    (∃ call, i.holder = some ⟨call, some (.error (.error .documentRejected))⟩) ∧
      (i.step .resume).result.state = .built ∧ (i.step .resume).result.sandbox.store = 2 := by
  exact ⟨⟨_, rfl⟩, rfl, rfl⟩

end

end Instance

end PolicyHost
