import PolicyHost.Deployment.Standard
import PolicyHost.Proofs.Instance.Serial

/-!
# Faulted instances

A fault is for good. Once an instance is faulted, no event makes it fit for use again, nothing gets
into its sandbox any more, and whoever still waits for the lock is refused when its turn comes.

* `started`: the calls that get into the sandbox.
* `Refuses`: what events come to on a faulted instance, and how this adds up over a run
  (`refuses_step`, `Refuses.andThen`, `refuses_run`).
* `faulted_for_good`: what holds of every instance that events can lead to.
-/

namespace PolicyHost

variable {σ : Type}

/-- An event at which the first call that waits finds the lock free. -/
def Event.isWake : Event → Bool
  | .wake => true
  | _ => false

namespace Instance

/-- The calls that get into the sandbox, in their order. -/
def started [Platform] (i : Instance σ) : List Event → List Call
  | [] => []
  | event :: rest =>
    let next := (i.step event).result
    (next.running.filter fun call => !i.running.any fun other => other.number = call.number)
      ++ next.started rest

/-! ## On a faulted instance -/

/-- What events come to on a faulted instance.

* `state`: it stays faulted;
* `running`: of the calls in the sandbox, some may be done, and none is new;
* `started`: no call gets into the sandbox;
* `ends`: a call that ends is refused, or is given up by an event;
* `settles`: a call that waited still waits, or is refused, or is given up by an event;
* `drains`: every event that wakes a call leaves one call less to wait. -/
structure Refuses [Platform] (i : Instance σ) (events : List Event) (r : Reaction σ) : Prop where
  state : r.result.state = .faulted
  running : r.result.running.Sublist i.running
  started : i.started events = []
  ends : ∀ o ∈ r.outcomes,
    o.2 = .failed (.error .instanceFaulted) ∨ (o.2 = .cancelled ∧ .cancel o.1 ∈ events)
  settles : ∀ call ∈ i.waiting, call ∈ r.result.waiting ∨
    (call.number, .failed (.error .instanceFaulted)) ∈ r.outcomes ∨
    ((call.number, .cancelled) ∈ r.outcomes ∧ .cancel call.number ∈ events)
  drains : r.result.waiting.length ≤ i.waiting.length - events.countP Event.isWake

theorem Refuses.still [Platform] {i : Instance σ} (faulted : i.state = .faulted) :
    Refuses i [] i.still where
  state := faulted
  running := List.Sublist.refl _
  started := rfl
  ends _ member := nomatch member
  settles _ waits := .inl waits
  drains := Nat.le_refl _

/-- Nothing has started where every call in the sandbox was there before. -/
theorem started_singleton [Platform] {i : Instance σ} {event : Event}
    (old : (i.step event).result.running.Sublist i.running) : i.started [event] = [] := by
  simp only [started, List.append_nil, List.filter_eq_nil_iff, Bool.not_eq_true, Bool.not_eq_false',
    List.any_eq_true, decide_eq_true_eq]
  exact fun call runs => ⟨call, old.subset runs, rfl⟩

/-- Events one after another. -/
theorem Refuses.andThen [Platform] {i : Instance σ} {event : Event} {rest : List Event}
    {next : Instance σ → Reaction σ} (first : Refuses i [event] (i.step event))
    (later : Refuses (i.step event).result rest (next (i.step event).result)) :
    Refuses i (event :: rest) ((i.step event).andThen next) where
  state := later.state
  running := later.running.trans first.running
  started := by
    have now : i.started [event] = [] := first.started
    simp only [Instance.started, List.append_nil] at now
    simp only [Instance.started, now, List.nil_append]
    exact later.started
  ends o member := by
    rcases List.mem_append.mp member with now | then_
    · exact (first.ends o now).imp_right fun given =>
        ⟨given.1, List.mem_cons.mpr (.inl (List.mem_singleton.mp given.2))⟩
    · exact (later.ends o then_).imp_right fun given => ⟨given.1, List.mem_cons_of_mem _ given.2⟩
  settles call waits := by
    rcases first.settles call waits with still | refused | ⟨cancelled, given⟩
    · rcases later.settles call still with still | refused | ⟨cancelled, given⟩
      · exact .inl still
      · exact .inr (.inl (List.mem_append_right _ refused))
      · exact .inr (.inr ⟨List.mem_append_right _ cancelled, List.mem_cons_of_mem _ given⟩)
    · exact .inr (.inl (List.mem_append_left _ refused))
    · rw [List.mem_singleton] at given
      exact .inr (.inr ⟨List.mem_append_left _ cancelled, List.mem_cons.mpr (.inl given)⟩)
  drains := by
    have now := first.drains
    have then_ := later.drains
    change (next (i.step event).result).result.waiting.length ≤ _
    rw [← List.singleton_append, List.countP_append]
    omega

/-- A faulted instance is not held: whoever has the lock is evaluating. -/
theorem Phase.free_of_faulted {i : Instance σ} (phase : Phase i) (faulted : i.state = .faulted) :
    i.holder = none := by
  cases phase with
  | idle free _ _ | abandoned free _ _ => exact free
  | inside _ state _ | ready _ state _ => rw [faulted] at state; cases state

theorem enter_of_faulted {i : Instance σ} (faulted : i.state = .faulted) (call : Call) :
    i.enter call = ⟨i, [(call.number, .failed (.error .instanceFaulted))], []⟩ := by
  simp [enter, faulted]

theorem refuses_step [Platform] {i : Instance σ} (phase : Phase i) (faulted : i.state = .faulted)
    (event : Event) : Refuses i [event] (i.step event) := by
  have free := phase.free_of_faulted faulted
  have leads := step_leads i event
  have begin := @started_singleton _ _ i event
  generalize i.step event = reaction at leads begin
  cases leads with
  | @refused number q failure refused =>
    rw [accept_of_faulted faulted] at refused
    cases refused
    have old : i.running.Sublist i.running := .refl _
    exact ⟨faulted, old, begin old, by simp, fun _ waits => .inl waits, by simp [Event.isWake]⟩
  | entered accepted _ _ | queued accepted _ =>
    rw [accept_of_faulted faulted] at accepted
    cases accepted
  | @woken call rest _ waits =>
    rw [enter_of_faulted (i := { i with waiting := rest }) faulted] at begin ⊢
    have old : i.running.Sublist i.running := .refl _
    refine ⟨faulted, old, begin old, by simp, fun other member => ?_, by simp [waits, Event.isWake]⟩
    rw [waits, List.mem_cons] at member
    rcases member with rfl | later
    · exact .inr (.inl (List.mem_singleton.mpr rfl))
    · exact .inl later
  | @done number registry ambient call notes runs same =>
    have old : (i.finished call registry ambient).running.Sublist i.running := List.filter_sublist
    exact ⟨faulted, old, begin old, nofun, fun _ waits => .inl waits, Nat.le_refl _⟩
  | returned held | faulted held _ | failed held _ | dropped held _ =>
    rw [free] at held
    cases held
  | @withdrawn number _ =>
    have old : i.running.Sublist i.running := .refl _
    refine ⟨faulted, old, begin old, by simp, fun call waits => ?_, List.length_filter_le _ _⟩
    by_cases same : call.number = number
    · subst same
      exact .inr (.inr ⟨List.mem_singleton.mpr rfl, List.mem_singleton.mpr rfl⟩)
    · exact .inl (List.mem_filter.mpr ⟨waits, by simpa using same⟩)
  | nothing wakes _ _ _ =>
    have old : i.running.Sublist i.running := .refl _
    refine ⟨faulted, old, begin old, nofun, fun _ waits => .inl waits, ?_⟩
    cases event with
    | wake =>
      have nobody : i.waiting = [] := by
        by_contra waits
        exact wakes rfl ⟨free, waits⟩
      simp [still, nobody]
    | _ => exact Nat.le_refl _

theorem refuses_run [Platform] {i : Instance σ} (phase : Phase i) (faulted : i.state = .faulted)
    (events : List Event) : Refuses i events (i.run events) := by
  induction events generalizing i with
  | nil => exact .still faulted
  | cons event rest ih =>
    have first := refuses_step phase faulted event
    rw [run_cons]
    exact first.andThen (ih (phase.step event) first.state)

/-! ## On every instance -/

/-- Whoever evaluates has the lock. -/
theorem Phase.state_of_free {i : Instance σ} (phase : Phase i) (free : i.holder = none) :
    i.state = .built ∨ i.state = .faulted := by
  have quiet : i.state ≠ .evaluating := by
    cases phase with
    | idle _ state _ => exact state
    | abandoned _ faulted _ => simp [faulted]
    | inside held _ _ | ready held _ _ => rw [free] at held; cases held
  cases state : i.state with
  | built => exact .inl rfl
  | faulted => exact .inr rfl
  | evaluating => exact absurd state quiet

/-- Whatever has happened to an instance: while nobody has the lock it is built or faulted; and once
it is faulted it stays so, nothing gets into its sandbox any more, and each call that waits is refused
unless it is given up. None of them waits longer than until as many have been woken as waited. -/
theorem faulted_for_good [Platform] (sandbox : Sandbox σ) (registry : Nat) (hasData : Bool)
    (before : List Event) :
    let i := ((ofSandbox sandbox registry hasData).run before).result
    (i.holder = none → i.state = .built ∨ i.state = .faulted) ∧
      (i.state = .faulted → ∀ later : List Event,
        Refuses i later (i.run later) ∧
          (i.waiting.length ≤ later.countP Event.isWake → (i.run later).result.waiting = [])) := by
  intro i
  have phase : Phase i := (Phase.ofSandbox sandbox registry hasData).run before
  refine ⟨phase.state_of_free, fun faulted later => ?_⟩
  have refuses := refuses_run phase faulted later
  refine ⟨refuses, fun enough => ?_⟩
  have drains := refuses.drains
  exact List.eq_nil_of_length_eq_zero (by omega)

section

attribute [local instance] Deployment.platform

/-- What becomes of three questions when the first is given up in the sandbox. -/
def abandoned : Instance Nat :=
  let count : Question := ⟨"count", .null, none⟩
  ((ofSandbox tally 0 false).run
    [.arrive 0 count, .arrive 1 count, .arrive 2 count, .cancel 0]).result

/-- The sandbox gets done with the call that nobody waits for; of those that wait, one is given up and
one is woken. -/
def afterwards : List Event := [.finish 0 .empty ⟨0, ⟨1, 0⟩⟩, .cancel 2, .wake, .wake]

theorem abandoned_faulted_for_good :
    abandoned.holder.isNone ∧ abandoned.state = .faulted ∧
      abandoned.waiting.map Call.number = [1, 2] ∧
      Refuses abandoned afterwards (abandoned.run afterwards) ∧
      (abandoned.run afterwards).result.waiting = [] := by
  have faulted : abandoned.state = .faulted := by decide +kernel
  have waits : abandoned.waiting.map Call.number = [1, 2] := by decide +kernel
  have enough : abandoned.waiting.length ≤ afterwards.countP Event.isWake := by decide +kernel
  have refusal : abandoned.state = .faulted → ∀ later : List Event,
      Refuses abandoned later (abandoned.run later) ∧
        (abandoned.waiting.length ≤ later.countP Event.isWake →
          (abandoned.run later).result.waiting = []) :=
    (faulted_for_good tally 0 false _).2
  obtain ⟨refuses, drained⟩ := refusal faulted afterwards
  exact ⟨by decide +kernel, faulted, waits, refuses, drained enough⟩

end

end Instance

end PolicyHost
