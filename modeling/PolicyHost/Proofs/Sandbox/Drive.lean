import PolicyHost.Sandbox.Host

/-!
# Activities one after another

Driving an activity that goes on as another one is driving the first and then the other. The two
differ in one respect: a trap drops the store of the guest, so they leave different stores behind if
the guest traps.

* `Activity.andThen`: an activity that goes on as another one.
* `Coincide`: outcomes that are the same, but for the store behind a trap.
* `drive_store`, `drive_andThen`: driving does not depend on the store before it, and takes activities
  one after another.
-/

namespace PolicyHost

/-- An activity that goes on as another one when it has returned. -/
def Activity.andThen {σ : Type} (next : Option Int → σ → Activity σ) : Activity σ → Activity σ
  | .returned result store => next result store
  | .trapped trap => .trapped trap
  | .asked request store resume =>
    .asked request store fun number store => andThen next (resume number store)

/-- An activity that returns a value, if it returns. -/
inductive Activity.GivesValue {σ : Type} : Activity σ → Prop
  | returned (value : Int) (store : σ) : GivesValue (.returned (some value) store)
  | trapped (trap : Trap) : GivesValue (.trapped trap)
  | asked {request : Request} {store : σ} {resume : Int → σ → Activity σ} :
      (∀ number store, GivesValue (resume number store)) → GivesValue (.asked request store resume)

namespace Sandbox

variable {σ α β : Type}

/-- Two outcomes are the same, except that the stores may differ after a trap. -/
structure Coincide (x y : Except Stop α × Session σ) : Prop where
  result : x.1 = y.1
  context : x.2.context = y.2.context
  notes : x.2.notes = y.2.notes
  store : (∀ trap, x.1 ≠ .error (.trap trap)) → x.2.store = y.2.store

theorem Coincide.refl (x : Except Stop α × Session σ) : Coincide x x :=
  ⟨rfl, rfl, rfl, fun _ => rfl⟩

theorem Coincide.trans {x y z : Except Stop α × Session σ} (first : Coincide x y)
    (second : Coincide y z) : Coincide x z where
  result := first.result.trans second.result
  context := first.context.trans second.context
  notes := first.notes.trans second.notes
  store untrapped := (first.store untrapped).trans (second.store (first.result ▸ untrapped))

theorem run_bind (first : Run σ α) (next : α → Run σ β) (session : Session σ) :
    (first >>= next).run session =
      match first.run session with
      | (.ok value, session) => (next value).run session
      | (.error stop, session) => (.error stop, session) := by
  change (match first.run session with | (r, s) => (ExceptT.bindCont next r).run s) = _
  rcases first.run session with ⟨_ | _, _⟩ <;> rfl

/-- What follows a step that has a value. -/
theorem run_bind_ok {first : Run σ α} {value : α} {session after : Session σ}
    (done : first.run session = (.ok value, after)) (next : α → Run σ β) :
    (first >>= next).run session = (next value).run after := by
  rw [run_bind, done]

theorem run_bind_eq_ok {first : Run σ α} {next : α → Run σ β} {session after : Session σ} {result : β} :
    (first >>= next).run session = (.ok result, after) ↔
      ∃ value middle, first.run session = (.ok value, middle) ∧
        (next value).run middle = (.ok result, after) := by
  rw [run_bind]
  rcases first.run session with ⟨stop | value, middle⟩
  · exact ⟨nofun, fun ⟨_, _, ran, _⟩ => nomatch ran⟩
  · constructor
    · exact fun done => ⟨value, middle, rfl, done⟩
    · rintro ⟨_, _, ⟨⟩, done⟩
      exact done

/-- Nothing follows a step that stops. -/
theorem run_bind_error {first : Run σ α} {stop : Stop} {session after : Session σ}
    (done : first.run session = (.error stop, after)) (next : α → Run σ β) :
    (first >>= next).run session = (.error stop, after) := by
  rw [run_bind, done]

/-- Steps that coincide and go on in the same way coincide as a whole. -/
theorem Coincide.bind {first second : Run σ α} {next after : α → Run σ β} {s t : Session σ}
    (steps : Coincide (first.run s) (second.run t))
    (rest : ∀ value middle, first.run s = (.ok value, middle) →
      Coincide ((next value).run middle) ((after value).run middle)) :
    Coincide ((first >>= next).run s) ((second >>= after).run t) := by
  rw [run_bind, run_bind]
  rcases one : first.run s with ⟨result, middle⟩
  rcases other : second.run t with ⟨result', middle'⟩
  rw [one, other] at steps
  obtain ⟨same, context, notes, store⟩ := steps
  dsimp only at same context notes store
  subst same
  cases result with
  | error stop => exact ⟨rfl, context, notes, fun untrapped => store fun trap stopped =>
      untrapped trap (by cases stopped; rfl)⟩
  | ok value =>
    -- A value is no trap, so the rest starts from one session.
    have sessions : middle = middle' := by
      obtain ⟨_, _, _⟩ := middle
      obtain ⟨_, _, _⟩ := middle'
      dsimp only at context notes store
      rw [context, notes, store nofun]
    subst sessions
    exact rest value middle one

/-! ## Driving -/

variable (answer : Request → Run σ Int)

/-- Driving does not depend on the store before it. -/
theorem drive_store (activity : Activity σ) (session : Session σ) (store : σ) :
    Coincide ((drive answer activity).run session)
      ((drive answer activity).run { session with store }) := by
  cases activity with
  | returned result after => exact .refl _
  | trapped trap => exact ⟨rfl, rfl, rfl, fun untrapped => absurd rfl (untrapped trap)⟩
  | asked request after resume => exact .refl _

/-- Driving an activity that goes on as another one is driving both, by induction on the first. -/
theorem drive_andThen (next : Option Int → σ → Activity σ) (first : Activity σ)
    (session : Session σ) :
    Coincide ((drive answer (first.andThen next)).run session)
      ((drive answer first >>= fun result => do
        drive answer (next result (← get).store)).run session) := by
  induction first generalizing session with
  -- The next activity starts before the store of the first one has been put back.
  | returned result store => exact drive_store answer (next result store) session store
  | trapped trap => exact .refl _
  | asked request store resume ih =>
    have later : Coincide
        ((answer request >>= fun number => do
          drive answer ((resume number (← get).store).andThen next)).run { session with store })
        ((answer request >>= fun number => do
          let result ← drive answer (resume number (← get).store)
          drive answer (next result (← get).store)).run { session with store }) :=
      .bind (.refl _) fun number middle _ => ih number middle.store middle
    simp only [Activity.andThen, drive, bind_assoc]
    exact later

/-- A call that gives a value goes on with it. -/
theorem drive_givesValue {activity : Activity σ} (gives : activity.GivesValue) {session after : Session σ}
    {result : Option Int} (done : (drive answer activity).run session = (.ok result, after)) :
    ∃ value, result = some value := by
  induction gives generalizing session with
  | returned value store =>
    cases done
    exact ⟨value, rfl⟩
  | trapped trap => cases done
  | @asked request store resume _ ih =>
    change (answer request >>= fun number => do
      drive answer (resume number (← get).store)).run { session with store } = _ at done
    rw [run_bind] at done
    rcases answered : (answer request).run { session with store } with ⟨_ | number, middle⟩
    · rw [answered] at done
      cases done
    · rw [answered] at done
      exact ih number middle.store done

end Sandbox

end PolicyHost
