import PolicyHost.Deployment.Standard
import PolicyHost.Proofs.Sandbox.Record

/-!
# The failure that is reported

When an answer of the host to its guest fails, at whatever depth, the evaluation fails with that very
failure: it is not lost in a trap, nothing wraps it on the way, and nothing from before takes its place.

* `first_failure_reported`: the failure taken down first is the one that the evaluation ends in.
* `nested`: a guest in which an answer fails while another one is prepared.
-/

namespace PolicyHost.Sandbox

variable {σ : Type}

/-- The first failure that is taken down is what the evaluation fails with, whether it passes the guest as
itself or as a trap, and whatever has been taken down before. -/
theorem first_failure_reported [Platform] (sandbox : Sandbox σ) (passage : Passage σ) (left : Record)
    (registry : Registry) (ambient : Ambient) (id : Int) (payload : Bytes) {cause : PolicyError}
    (first : (Record.failures
      (sandbox.recordedEvaluate passage left registry ambient id payload).2).head? = some cause) :
    (sandbox.recordedEvaluate passage left registry ambient id payload).1 = .error (.error cause) ∧
      (sandbox.evaluate registry ambient id payload).1 = .error (.error cause) ∧
      (cause.kind = .abort ∨ cause.kind = .builtin) := by
  have recorded := recordedEvaluate_recorded sandbox passage left registry ambient id payload
  have some : Record.failures (sandbox.recordedEvaluate passage left registry ambient id payload).2 ≠ [] := by
    intro none
    rw [none] at first
    cases first
  have same := recorded.result (.inl some)
  rw [recorded.failures] at first
  have only : (sandbox.evaluate registry ambient id payload).1 = .error (.error cause) ∧ Reported cause := by
    generalize (sandbox.evaluate registry ambient id payload).1 = result at first
    unfold reportedIn at first
    split at first
    · next other =>
      split at first
      · next counts =>
        cases first
        exact ⟨rfl, counts⟩
      · cases first
    · cases first
  exact ⟨same.trans only.1, only⟩

/-- A guest without a store. To evaluate it asks for the builtin of number zero. To give the text of the
argument it asks for another one, of a number that is not known. -/
def nested : Guest Unit where
  demand := .memory
  start := .ok (.returned none ())
  memory _ := .zeros 1 1
  setMemory _ store := store
  refuel store := store
  provides _ := true
  global? _ _ := none
  call name _ store :=
    if name = fastExport then .asked (.builtin 0 0 [8]) store fun _ => .returned (some 8)
    else .asked (.builtin 7 0 []) store fun _ => .returned (some 8)

attribute [local instance] Deployment.platform in
/-- The failure of the request that lies inside another one comes out, though it passes the guest as a
trap both times, and though another failure is left from before. -/
theorem nested_first_failure_reported :
    let sandbox : Sandbox Unit := ⟨nested, ⟨1, 2⟩, [(0, "time.now_ns")], [], 0, 0, ()⟩
    let outcome := sandbox.recordedEvaluate (fun _ _ _ => some .unreachable) [.failed (.aborted "before")]
      .standard ⟨0, ⟨0, 0⟩⟩ 0 []
    (Record.failures outcome.2).head? = some (.builtinUnknown 7) ∧
      outcome.1 = .error (.error (.builtinUnknown 7)) ∧
      (sandbox.evaluate .standard ⟨0, ⟨0, 0⟩⟩ 0 []).1 = .error (.error (.builtinUnknown 7)) := by
  intro sandbox outcome
  have first : (Record.failures outcome.2).head? = some (.builtinUnknown 7) := rfl
  obtain ⟨recorded, evaluated, _⟩ := first_failure_reported _ _ _ _ _ _ _ first
  exact ⟨first, recorded, evaluated⟩

end PolicyHost.Sandbox
