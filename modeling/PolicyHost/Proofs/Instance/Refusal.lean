import Mathlib.Data.List.Nodup
import PolicyHost.Proofs.Instance.Failed

/-!
# Refused calls

A call is refused when its entrypoint is not known or when the instance is faulted. It never gets into
the sandbox: it is refused as it comes in, or when its turn comes and the instance has been faulted
meanwhile. So a call that has the lock is not refused any more, and neither is a call that is next in
line for a free lock, for whatever comes in behind it has to wait.

* `refused_cases`: the two places where calls are refused.
* `Admitted`: calls that are not refused any more. Every step keeps it (`Admitted.step`), so no run
  refuses them (`Admitted.not_refused`).
* `pending`: the calls that wait or are still to come. A call that is refused is not among them any
  more (`not_pending_of_refused`).
-/

namespace PolicyHost

variable {σ : Type}

/-- A call that ends so has been refused: its entrypoint is not known, or the instance is faulted. -/
def Outcome.isRefusal : Outcome → Bool
  | .failed (.error cause) => cause.kind == .notFound || cause.kind == .faulted
  | _ => false

/-- The number under which an event brings in a question. -/
def Event.arrival? : Event → Option Nat
  | .arrive number _ => some number
  | _ => none

/-- The numbers under which questions come in, in their order. -/
def arrivals (events : List Event) : List Nat := events.filterMap Event.arrival?

/-- Among the outcomes is that a call of this number has been refused. -/
def Refused (number : Nat) (outcomes : List (Nat × Outcome)) : Prop :=
  ∃ outcome, (number, outcome) ∈ outcomes ∧ outcome.isRefusal = true

theorem refused_append {number : Nat} {first later : List (Nat × Outcome)} :
    Refused number (first ++ later) ↔ Refused number first ∨ Refused number later := by
  simp only [Refused, List.mem_append, or_and_right, exists_or]

@[simp] theorem arrivals_arrive (number : Nat) (q : Question) (rest : List Event) :
    arrivals (.arrive number q :: rest) = number :: arrivals rest := rfl

theorem arrivals_cons_of_other {event : Event} (other : ∀ number q, event ≠ .arrive number q)
    (rest : List Event) : arrivals (event :: rest) = arrivals rest := by
  cases event with
  | arrive number q => exact absurd rfl (other number q)
  | _ => rfl

/-- Octets that cannot be read are no refusal. -/
theorem decodeResult_isRefusal [Platform] (raw : Bytes) (shape : Option Shape) :
    (Outcome.ofExcept (decodeResult raw shape)).isRefusal = false := by
  unfold decodeResult
  split
  · next flaw _ =>
    cases flaw with
    | text fault => cases fault <;> rfl
    | _ => rfl
  · split
    · rfl
    · split <;> rfl

namespace Instance

theorem enter_of_usable {i : Instance σ} (usable : i.state ≠ .faulted) (call : Call) :
    i.enter call = still { i with
      state := .evaluating
      holder := some ⟨call, none⟩
      running := i.running ++ [call] } := by
  simp [enter, usable]

/-- The result that a call takes is no refusal: evaluations do not fail in this way. -/
theorem FromSandbox.isRefusal [Platform] {i : Instance σ} (sourced : FromSandbox i) {call : Call}
    {failure : Failure} (held : i.holder = some ⟨call, some (.error failure)⟩) :
    (Outcome.failed failure).isRefusal = false := by
  obtain ⟨sandbox, registry, ambient, -, -, failed⟩ := sourced call _ held
  cases failure with
  | fault cause => rfl
  | error cause =>
    obtain ⟨known, usable⟩ := Sandbox.evaluate_kind failed
    simp [Outcome.isRefusal, known, usable]

/-- A call is refused as it comes in, or when it is woken on a faulted instance. -/
theorem refused_cases [Platform] {i : Instance σ} (sourced : FromSandbox i) {event : Event} {number : Nat}
    (refused : Refused number (i.step event).outcomes) :
    (∃ q failure, event = .arrive number q ∧ i.accept number q = .error failure) ∨
      (event = .wake ∧ i.holder = none ∧ i.state = .faulted ∧
        ∃ call rest, i.waiting = call :: rest ∧ call.number = number) := by
  obtain ⟨outcome, ends, refusal⟩ := refused
  have leads := step_leads i event
  generalize i.step event = reaction at leads ends
  cases leads with
  | refused unaccepted =>
    cases List.mem_singleton.mp ends
    exact .inl ⟨_, _, rfl, unaccepted⟩
  | entered accepted _ _ =>
    rw [enter_of_usable (accept_eq_ok_iff.mp accepted).1] at ends
    cases ends
  | @woken call rest free waits =>
    by_cases faulty : i.state = .faulted
    · rw [enter_of_faulted (i := { i with waiting := rest }) faulty] at ends
      cases List.mem_singleton.mp ends
      exact .inr ⟨rfl, free, faulty, call, rest, waits, rfl⟩
    · rw [enter_of_usable (i := { i with waiting := rest }) faulty] at ends
      cases ends
  | queued _ _ | done _ _ | nothing _ _ _ _ => cases ends
  | returned _ =>
    cases List.mem_singleton.mp ends
    rw [decodeResult_isRefusal] at refusal
    cases refusal
  | faulted held _ | failed held _ =>
    cases List.mem_singleton.mp ends
    rw [sourced.isRefusal held] at refusal
    cases refusal
  | dropped _ _ | withdrawn _ =>
    cases List.mem_singleton.mp ends
    cases refusal

/-- A call waits because it did so before, or because it has come in and been accepted. -/
theorem mem_waiting_step [Platform] {i : Instance σ} {event : Event} {call : Call}
    (waits : call ∈ (i.step event).result.waiting) :
    call ∈ i.waiting ∨ ∃ q, event = .arrive call.number q ∧ i.accept call.number q = .ok call := by
  have leads := step_leads i event
  generalize i.step event = reaction at leads waits
  cases leads with
  | entered _ _ _ => exact .inl (by rwa [waiting_enter] at waits)
  | woken _ before =>
    rw [waiting_enter] at waits
    exact .inl (by rw [before]; exact List.mem_cons_of_mem _ waits)
  | queued accepted _ =>
    rcases List.mem_append.mp waits with earlier | last
    · exact .inl earlier
    · cases List.mem_singleton.mp last
      have number_eq := (accept_eq_ok_iff.mp accepted).2.number_eq
      subst number_eq
      exact .inr ⟨_, rfl, accepted⟩
  | withdrawn _ => exact .inl (List.mem_filter.mp waits).1
  | _ => exact .inl waits

/-! ## Calls that are not refused any more -/

/-- No call of this number is refused any more, unless one comes in: none waits, or the only one that
waits is next in line for the free lock of an instance that is not faulted. -/
inductive Admitted (number : Nat) (i : Instance σ) : Prop
  | absent : (∀ call ∈ i.waiting, call.number ≠ number) → Admitted number i
  | next {call : Call} {rest : List Call} :
      i.holder = none → i.state ≠ .faulted → i.waiting = call :: rest →
      (∀ other ∈ rest, other.number ≠ number) → Admitted number i

theorem Admitted.step [Platform] {i : Instance σ} {number : Nat} (admitted : Admitted number i) {event : Event}
    (other : ∀ q, event ≠ .arrive number q) : Admitted number (i.step event).result := by
  cases admitted with
  | absent absent =>
    refine .absent fun call waits same => ?_
    rcases mem_waiting_step waits with before | ⟨q, arrives, -⟩
    · exact absent call before same
    · exact other q (same ▸ arrives)
  | @next call rest free usable waits absent =>
    have leads := step_leads i event
    generalize i.step event = reaction at leads
    cases leads with
    | refused _ | nothing _ _ _ _ => exact .next free usable waits absent
    | entered _ _ empty => rw [waits] at empty; cases empty
    | @queued _ q last accepted _ =>
      -- What comes in waits behind the call that is next.
      have behind : i.waiting ++ [last] = call :: (rest ++ [last]) := by rw [waits]; rfl
      refine .next free usable behind fun call' later same => ?_
      rcases List.mem_append.mp later with earlier | comes
      · exact absent call' earlier same
      · cases List.mem_singleton.mp comes
        rw [(accept_eq_ok_iff.mp accepted).2.number_eq] at same
        exact other q (same ▸ rfl)
    | @woken first later _ waits' =>
      rw [waits] at waits'
      cases waits'
      refine .absent ?_
      rw [waiting_enter]
      exact absent
    | done _ _ => exact .next (by simp [finished, free]) usable waits absent
    | returned held | faulted held _ | failed held _ | dropped held _ => rw [free] at held; cases held
    | @withdrawn number' _ =>
      by_cases same : call.number = number'
      · refine .absent fun call' left => absent call' ?_
        have member := (List.mem_filter.mp left).1
        rw [waits, List.mem_cons] at member
        rcases member with rfl | later
        · simp [same] at left
        · exact later
      · have left : (i.waiting.filter fun call => call.number ≠ number') =
            call :: rest.filter fun call => call.number ≠ number' := by
          simp [waits, same]
        exact .next free usable left fun call' left => absent call' (List.mem_filter.mp left).1

/-- No run refuses a call that is not refused any more. -/
theorem Admitted.not_refused [Platform] {i : Instance σ} {number : Nat} (phase : Phase i)
    (sourced : FromSandbox i) (admitted : Admitted number i) {events : List Event}
    (fresh : number ∉ arrivals events) : ¬ Refused number (i.run events).outcomes := by
  induction events generalizing i with
  | nil => rintro ⟨_, ends, _⟩; cases ends
  | cons event rest ih =>
    have other : ∀ q, event ≠ .arrive number q := by
      rintro q rfl
      exact fresh (by simp)
    have later : number ∉ arrivals rest := fun member =>
      fresh (((List.sublist_cons_self event rest).filterMap _).subset member)
    rw [run_cons]
    intro refused
    rcases refused_append.mp refused with now | then_
    · rcases refused_cases sourced now with
        ⟨q, _, arrives, -⟩ | ⟨-, -, faulty, call, later, waits, same⟩
      · exact other q arrives
      · cases admitted with
        | absent absent => exact absent call (by simp [waits]) same
        | next _ usable _ _ => exact usable faulty
    · exact ih (phase.step event) (sourced.step phase event) (admitted.step other) later then_

/-! ## Calls that wait or are still to come -/

/-- The numbers of the calls that wait and of those that are still to come in. -/
def pending (i : Instance σ) (events : List Event) : List Nat :=
  i.waiting.map Call.number ++ arrivals events

theorem pending_step [Platform] (i : Instance σ) (event : Event) (rest : List Event) :
    ((i.step event).result.pending rest).Sublist (i.pending (event :: rest)) := by
  have grows : (arrivals rest).Sublist (arrivals (event :: rest)) :=
    (List.sublist_cons_self event rest).filterMap _
  have leads := step_leads i event
  generalize i.step event = reaction at leads
  unfold pending
  cases leads with
  | entered _ _ _ => rw [waiting_enter]; exact .append_left grows _
  | woken _ waits =>
    rw [waiting_enter, waits]
    exact ((List.sublist_cons_self _ _).map _).append grows
  | queued accepted _ =>
    rw [← (accept_eq_ok_iff.mp accepted).2.number_eq]
    simp [still]
  | withdrawn _ => exact (List.filter_sublist.map _).append grows
  | _ => exact .append_left grows _

/-- A call that is refused neither waits any more nor is still to come in. -/
theorem not_pending_of_refused [Platform] {i : Instance σ} (sourced : FromSandbox i) {event : Event}
    {rest : List Event} (distinct : (i.pending (event :: rest)).Nodup) {number : Nat}
    (refused : Refused number (i.step event).outcomes) :
    number ∉ (i.step event).result.pending rest := by
  rcases refused_cases sourced refused with
    ⟨q, failure, rfl, unaccepted⟩ | ⟨rfl, free, faulty, call, later, waits, rfl⟩
  · have same : (i.step (.arrive number q)).result = i := by
      simp [step, arrive, unaccepted]
    rw [pending, arrivals_arrive, List.nodup_middle] at distinct
    rw [same]
    exact (List.nodup_cons.mp distinct).1
  · have woken : (i.step .wake).result.pending rest = later.map Call.number ++ arrivals rest := by
      simp [step, wake, free, waits, enter, faulty, pending]
    rw [pending, waits, arrivals_cons_of_other (by simp)] at distinct
    rw [woken]
    exact (List.nodup_cons.mp distinct).1

/-- A call has the lock because it had it before, because it was woken, or because it has come in and
found the lock free; the latter two only on an instance that is not faulted. -/
theorem holder_step [Platform] {i : Instance σ} {event : Event} {holder : Holder}
    (held : (i.step event).result.holder = some holder) :
    (∃ before, i.holder = some before ∧ before.call = holder.call) ∨
    (i.holder = none ∧ i.state ≠ .faulted ∧ ∃ rest, i.waiting = holder.call :: rest) ∨
    (i.holder = none ∧ i.waiting = [] ∧ ∃ q, event = .arrive holder.call.number q ∧
      i.accept holder.call.number q = .ok holder.call) := by
  have leads := step_leads i event
  generalize i.step event = reaction at leads held
  cases leads with
  | entered accepted free empty =>
    obtain ⟨usable, asks⟩ := accept_eq_ok_iff.mp accepted
    have number_eq := asks.number_eq
    subst number_eq
    rw [enter_of_usable usable] at held
    cases held
    exact .inr (.inr ⟨free, empty, _, rfl, accepted⟩)
  | @woken call rest free waits =>
    by_cases faulty : i.state = .faulted
    · rw [enter_of_faulted (i := { i with waiting := rest }) faulty] at held
      exact .inl ⟨holder, held, rfl⟩
    · rw [enter_of_usable (i := { i with waiting := rest }) faulty] at held
      cases held
      exact .inr (.inl ⟨free, faulty, rest, waits⟩)
  | @done _ registry ambient call _ _ _ =>
    obtain ⟨before, held', rfl⟩ := Option.map_eq_some_iff.mp held
    refine .inl ⟨before, held', ?_⟩
    dsimp only
    split <;> rfl
  | returned _ | faulted _ _ | failed _ _ | dropped _ _ => cases held
  | _ => exact .inl ⟨holder, held, rfl⟩

end Instance

end PolicyHost
