import PolicyHost.Proofs.Instance.Failed
import PolicyHost.Proofs.Instance.Relay
import PolicyHost.Proofs.Sandbox.Build
import PolicyHost.Proofs.Value.Border

/-!
# Instances for one question

A policy can be asked once: an instance is built for the question and dropped after it. The question is
answered, or it fails at one of six stages.

* `Instance.accept_failure`: why a call is refused.
* `Policy.AskFailure`: the stages, and what fails there; `Policy.evaluate_cases`.
* `Policy.inspect_failure`: what looking at a policy fails with.
-/

namespace PolicyHost

namespace Instance

variable {σ : Type}

/-- What is refused by an instance that is fit for use: an entrypoint that it does not have, or an input
without a document. -/
theorem accept_failure [Platform] {i : Instance σ} (rest : i.AtRest) {number : Nat} {q : Question}
    {failure : Failure} (refused : i.accept number q = .error failure) :
    (∃ cause, failure = .error cause ∧ cause.kind = .notFound) ∨ Conversion.encode q.input = .error failure := by
  unfold accept at refused
  rw [rest.state, if_neg nofun] at refused
  split at refused
  · cases refused
    exact .inl ⟨_, rfl, rfl⟩
  · rcases Outcome.bind_eq_error_iff.mp refused with unwritten | ⟨payload, -, ⟨⟩⟩
    exact .inr unwritten

theorem accept_number [Platform] {i : Instance σ} {number : Nat} {q : Question} {call : Call}
    (accepted : i.accept number q = .ok call) : call.number = number ∧ call.shape = q.shape := by
  unfold accept at accepted
  split at accepted
  · cases accepted
  · split at accepted
    · cases accepted
    · obtain ⟨payload, -, ⟨⟩⟩ := Outcome.bind_eq_ok_iff.mp accepted
      exact ⟨rfl, rfl⟩

end Instance

namespace Policy

open Sandbox Instance

variable {σ : Type} [Platform]

/-- What fails when a policy is asked once.

* `data`: the data have no document;
* `build`: no instance can be built;
* `entrypoint`: the policy does not have the entrypoint;
* `input`: the input has no document;
* `sandbox`: the evaluation fails;
* `result`: its result is not read. -/
inductive AskFailure (policy : Policy σ) (registry : Registry) (data : Option Value) (q : Question) :
    Failure → Prop
  | data {value : Value} {failure : Failure} :
      data = some value → Conversion.encode value = .error failure → AskFailure policy registry data q failure
  | build {document : Bytes} {failure : Failure} :
      encodeData data = .ok document →
      BuildFailure policy.guest registry document failure →
      AskFailure policy registry data q failure
  | entrypoint {cause : PolicyError} :
      cause.kind = .notFound → AskFailure policy registry data q (.error cause)
  | input {failure : Failure} :
      Conversion.encode q.input = .error failure → AskFailure policy registry data q failure
  | sandbox {fast : Bool} {failure : Failure} :
      EvaluationFailure fast failure → AskFailure policy registry data q failure
  | result {raw : Bytes} {failure : Failure} :
      decodeResult raw q.shape = .error failure → AskFailure policy registry data q failure

/-- What is built is an instance in which nothing goes on. -/
theorem build_atRest {policy : Policy σ} {number : Nat} {registry : Registry} {ambient : Ambient}
    {data : Option Value} {fresh : Instance σ}
    (built : (policy.build number registry ambient data).1 = .ok fresh) :
    fresh.AtRest := by
  cases encoded : encodeData data with
  | error failure => cases built.symm.trans (policy.build_of_unencoded number registry ambient encoded)
  | ok document =>
    have outcome := policy.build_outcome number registry ambient encoded
    rw [built] at outcome
    obtain ⟨sandbox, rfl⟩ := outcome
    exact .ofSandbox sandbox number data.isSome

/-- What asking an instance in which nothing goes on comes to. -/
theorem eval_cases (policy : Policy σ) (registry : Registry) (ambient : Ambient) (data : Option Value)
    {fresh : Instance σ} (rest : fresh.AtRest) (q : Question) :
    ∃ outcome, (fresh.eval registry ambient 0 q).outcomes = [(0, outcome)] ∧
      match outcome with
      | .returned value => ∃ raw, decodeResult raw q.shape = .ok value
      | .failed failure => AskFailure policy registry data q failure
      | .cancelled => False := by
  cases accepted : fresh.accept 0 q with
  | error failure =>
    refine ⟨.failed failure, eval_of_refused rest registry ambient accepted, ?_⟩
    rcases accept_failure rest accepted with ⟨cause, rfl, kind⟩ | unwritten
    · exact .entrypoint kind
    · exact .input unwritten
  | ok call =>
    obtain ⟨same, shape⟩ := accept_number accepted
    have alone := (eval_of_accepted rest registry ambient call (same ▸ accepted)).1
    rw [same] at alone
    cases evaluated : (fresh.sandbox.evaluate registry ambient call.id call.payload).1 with
    | error failure =>
      have held : (fresh.done call registry ambient).holder = some ⟨call, some (.error failure)⟩ := by
        rw [done, evaluated]
      refine ⟨.failed failure, ?_, .sandbox (evaluate_failure evaluated)⟩
      rw [alone, (resume_of_failure held).1, same]
    | ok raw =>
      have held : (fresh.done call registry ambient).holder = some ⟨call, some (.ok raw)⟩ := by
        rw [done, evaluated]
      refine ⟨.ofExcept (decodeResult raw q.shape), ?_, ?_⟩
      · rw [alone, (resume_of_octets held).1, same, shape]
      · cases decoded : decodeResult raw q.shape with
        | ok value => exact ⟨raw, decoded⟩
        | error failure => exact .result decoded

/-- A policy that is asked once returns what it has given, or fails in one of the ways named. -/
theorem evaluate_cases (policy : Policy σ) (registry : Registry) (first second : Ambient)
    (data : Option Value) (q : Question) :
    match (policy.evaluate registry first second data q).1 with
    | .returned value => ∃ raw, decodeResult raw q.shape = .ok value
    | .failed failure => AskFailure policy registry data q failure
    | .cancelled => False := by
  unfold evaluate
  rcases ended : policy.build 0 registry first data with ⟨failure | fresh, notes⟩
  · have built : (policy.build 0 registry first data).1 = .error failure := congrArg Prod.fst ended
    cases encoded : encodeData data with
    | error unwritten =>
      cases built.symm.trans (policy.build_of_unencoded 0 registry first encoded)
      cases data with
      | none => cases encoded
      | some value => exact .data rfl encoded
    | ok document =>
      have outcome := policy.build_outcome 0 registry first encoded
      rw [built] at outcome
      exact .build encoded outcome
  · obtain ⟨outcome, outcomes, known⟩ :=
      eval_cases policy registry second data (build_atRest (congrArg Prod.fst ended)) q
    simp only [outcomes]
    exact known

/-- Looking at a policy fails as building an instance without data does. -/
theorem inspect_failure {policy : Policy σ} {registry : Registry} {ambient : Ambient} {failure : Failure}
    (stopped : (policy.inspect registry ambient).1 = .error failure) :
    BuildFailure policy.guest registry emptyData failure := by
  have building := policy.build_outcome 0 registry ambient (rfl : encodeData none = .ok emptyData)
  unfold inspect at stopped
  rcases ended : policy.build 0 registry ambient none with ⟨cause | fresh, notes⟩
  · rw [ended] at stopped building
    cases stopped
    exact building
  · rw [ended] at stopped
    cases stopped

end Policy

end PolicyHost
