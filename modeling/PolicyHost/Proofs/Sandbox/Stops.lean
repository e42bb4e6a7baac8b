import PolicyHost.Proofs.Sandbox.Drive
import PolicyHost.Sandbox.Basic

/-!
# Why an evaluation fails

An evaluation runs through code of the guest, through requests that the host answers at any depth, and
through builtins, and any of them may stop it. Whatever builtins do, few kinds of failures come out.

* `Stops`: the reasons for which a step may stop, and how they add up along a chain of steps.
* `Breaks`, `Inside`: what stops a guest that the host drives (`respond_breaks`, `drive_stops`).
* `evaluate_failure`: an evaluation fails by an error of execution, by a fault of the host, or, through
  a context, because the guest rejects its input.
-/

namespace PolicyHost

def Failure.isExecution : Failure → Bool
  | .error cause => cause.kind.isExecution
  | .fault _ => false

/-- Kinds of the errors that the host raises while it drives a guest: those of execution, save the ones
with which a call is refused. -/
def ErrorKind.ofRun : ErrorKind → Bool
  | .execute | .abort | .builtin => true
  | _ => false

theorem ErrorKind.isExecution_of_ofRun {kind : ErrorKind} (raised : kind.ofRun = true) :
    kind.isExecution = true := by
  cases kind <;> first | rfl | cases raised

namespace Sandbox

variable {σ α β : Type}

/-! ## Reasons to stop -/

def Stops (reasons : Stop → Prop) (step : Run σ α) : Prop :=
  ∀ session stop after, step.run session = (.error stop, after) → reasons stop

variable {reasons : Stop → Prop}

/-- A step that goes on in every session stops for no reason. -/
theorem Stops.of_ok {step : Run σ α} (value : Session σ → α) (after : Session σ → Session σ)
    (goes : ∀ session, step.run session = (.ok (value session), after session)) :
    Stops reasons step := by
  intro session stop later stopped
  rw [goes] at stopped
  cases stopped

theorem Stops.pure (value : α) : Stops reasons (pure value : Run σ α) :=
  .of_ok (fun _ => value) id fun _ => rfl

theorem Stops.modify (change : Session σ → Session σ) :
    Stops reasons (modify change : Run σ Unit) :=
  .of_ok (fun _ => ()) change fun _ => rfl

theorem Stops.get : Stops reasons (MonadState.get : Run σ (Session σ)) := .of_ok id id fun _ => rfl

theorem Stops.throw {stop : Stop} (allowed : reasons stop) :
    Stops reasons (throw stop : Run σ α) := by
  intro session other after stopped
  cases stopped
  exact allowed

/-- What follows a step may count on what the step has yielded. -/
theorem Stops.bind_of {step : Run σ α} {next : α → Run σ β} (first : Stops reasons step)
    (later : ∀ value session after, step.run session = (.ok value, after) →
      Stops reasons (next value)) : Stops reasons (step >>= next) := by
  intro session stop after stopped
  rw [run_bind] at stopped
  rcases done : step.run session with ⟨_ | value, middle⟩ <;> rw [done] at stopped
  · cases stopped
    exact first _ _ _ done
  · exact later value _ _ done _ _ _ stopped

theorem Stops.bind {step : Run σ α} {next : α → Run σ β} (first : Stops reasons step)
    (later : ∀ value, Stops reasons (next value)) : Stops reasons (step >>= next) :=
  first.bind_of fun value _ _ _ => later value

theorem Stops.mono {others : Stop → Prop} {step : Run σ α} (stops : Stops reasons step)
    (weaker : ∀ stop, reasons stop → others stop) : Stops others step :=
  fun session stop after stopped => weaker stop (stops session stop after stopped)

theorem run_tryCatch (step : Run σ α) (handle : Stop → Run σ α) (session : Session σ) :
    (tryCatch step handle).run session =
      match step.run session with
      | (.ok value, after) => (.ok value, after)
      | (.error caught, after) => (handle caught).run after := by
  simp only [tryCatch, tryCatchThe, MonadExceptOf.tryCatch, ExceptT.tryCatch, ExceptT.run, ExceptT.mk,
    bind, StateT.bind]
  rcases step session with ⟨_ | _, _⟩ <;> rfl

/-- A handler leaves what a step yields as it is, and yields nothing itself. -/
theorem onStop_eq_ok {error : PolicyError → PolicyError} {trap : Trap → PolicyError} {step : Run σ α}
    {session after : Session σ} {value : α} :
    (onStop error trap step).run session = (.ok value, after) ↔ step.run session = (.ok value, after) := by
  unfold onStop
  rw [run_tryCatch]
  generalize step.run session = outcome
  obtain ⟨((cause | cause) | cause) | found, last⟩ := outcome
  · exact ⟨nofun, nofun⟩
  · exact ⟨nofun, nofun⟩
  · exact ⟨nofun, nofun⟩
  · exact Iff.rfl

/-- What is caught counts no more; what the handler stops for counts instead. -/
theorem Stops.tryCatch {others : Stop → Prop} {step : Run σ α} {handle : Stop → Run σ α}
    (stops : Stops reasons step) (handles : ∀ stop, reasons stop → Stops others (handle stop)) :
    Stops others (tryCatch step handle) := by
  intro session stop after stopped
  rw [run_tryCatch] at stopped
  rcases done : step.run session with ⟨caught | value, middle⟩ <;> rw [done] at stopped
  · exact handles caught (stops _ _ _ done) _ _ _ stopped
  · cases stopped

/-- What replaces an error or a trap counts in its stead. -/
theorem Stops.onStop {others : Stop → Prop} {step : Run σ α} {error : PolicyError → PolicyError}
    {trap : Trap → PolicyError} (stops : Stops reasons step)
    (errors : ∀ cause, reasons (.failure (.error cause)) → others (.failure (.error (error cause))))
    (traps : ∀ cause, reasons (.trap cause) → others (.failure (.error (trap cause))))
    (faults : ∀ cause, reasons (.failure (.fault cause)) → others (.failure (.fault cause))) :
    Stops others (Sandbox.onStop error trap step) := by
  refine stops.tryCatch fun stop reason => ?_
  rcases stop with (cause | cause) | cause
  · exact .throw (errors cause reason)
  · exact .throw (faults cause reason)
  · exact .throw (traps cause reason)

theorem Stops.mapM {step : α → Run σ β} (each : ∀ a, Stops reasons (step a)) (items : List α) :
    Stops reasons (items.mapM step) := by
  induction items with
  | nil => exact .pure []
  | cons item rest ih =>
    rw [List.mapM_cons]
    exact (each item).bind fun _ => ih.bind fun _ => .pure _

/-! ## What stops a guest -/

/-- Faults in which a run of a guest may end: the host writes outside of the memory, a function gives
no result where there has to be one, requests or documents lie too deep inside each other, or a number
is too long to be read. -/
inductive RunFault : Fault → Prop
  | memoryRange : RunFault .memoryRange
  | noResult : RunFault .noResult
  | tooDeep : RunFault .tooDeep
  | longInteger (digits : Nat) : RunFault (.longInteger digits)

/-- What stops a guest that the host drives: a trap, an error of execution, or one of those faults. -/
inductive Inside : Stop → Prop
  | trap (trap : Trap) : Inside (.trap trap)
  | execution {cause : PolicyError} : cause.kind.isExecution = true → Inside (.failure (.error cause))
  | fault {cause : Fault} : RunFault cause → Inside (.failure (.fault cause))

/-- What breaks a run of a guest off, in more detail: its errors of execution are those that the host
raises itself. -/
inductive Breaks : Stop → Prop
  | trap (trap : Trap) : Breaks (.trap trap)
  | raised {cause : PolicyError} : cause.kind.ofRun = true → Breaks (.failure (.error cause))
  | fault {cause : Fault} : RunFault cause → Breaks (.failure (.fault cause))

theorem Breaks.inside {stop : Stop} (breaks : Breaks stop) : Inside stop := by
  cases breaks with
  | trap trap => exact .trap trap
  | raised raised => exact .execution (ErrorKind.isExecution_of_ofRun raised)
  | fault known => exact .fault known

/-- What stops the host when it hands a document over: the guest may reject the document. -/
def Delivery (stop : Stop) : Prop := Breaks stop ∨ stop = .failure (.error .documentRejected)

variable {host : Host σ} {answer : Request → Run σ Int}

theorem drive_stops (answers : ∀ request, Stops Breaks (answer request)) (activity : Activity σ) :
    Stops Breaks (drive answer activity) := by
  induction activity with
  | returned result store => exact (Stops.modify _).bind fun _ => .pure result
  | trapped trap => exact .throw (.trap trap)
  | asked request store resume ih =>
    exact (Stops.modify _).bind fun _ => (answers request).bind fun number =>
      Stops.get.bind fun session => ih number session.store

theorem call?_stops (answers : ∀ request, Stops Breaks (answer request)) (name : Text)
    (args : List Int) : Stops Breaks (host.call? answer name args) :=
  Stops.get.bind fun _ => drive_stops answers _

theorem call_stops (answers : ∀ request, Stops Breaks (answer request)) (name : Text)
    (args : List Int) : Stops Breaks (host.call answer name args) := by
  refine (call?_stops answers name args).bind fun result => ?_
  cases result with
  | none => exact .throw (.fault .noResult)
  | some number => exact .pure number

theorem memory_stops : Stops reasons host.memory := Stops.get.bind fun _ => .pure _

theorem place_stops (start : Int) (data : Bytes) : Stops Breaks (host.place start data) := by
  refine memory_stops.bind fun memory => ?_
  cases memory.place? start data with
  | none => exact .throw (.fault .memoryRange)
  | some written => exact .modify _

theorem cString_stops (address : Int) : Stops Breaks (host.cString address) := by
  refine memory_stops.bind fun memory => ?_
  cases memory.cString? address with
  | none => exact .throw (.raised rfl)
  | some bytes => exact .pure bytes

theorem loadJson_stops (answers : ∀ request, Stops Breaks (answer request)) (document : Bytes) :
    Stops Delivery (host.loadJson answer document) := by
  refine ((call_stops answers _ _).mono fun _ => .inl).bind fun address => ?_
  refine ((place_stops address document).mono fun _ => .inl).bind fun _ => ?_
  refine ((call?_stops answers _ _).mono fun _ => .inl).bind fun result => ?_
  split
  · exact .throw (.inr rfl)
  · exact .throw (.inr rfl)
  · exact .pure _

theorem dumpText_stops (answers : ∀ request, Stops Breaks (answer request)) (value : Int) :
    Stops Breaks (host.dumpText answer value) :=
  (call_stops answers _ _).bind fun address => cString_stops address

/-- A document that is not read is an error of execution, or it lies beyond the limits of the reader. -/
theorem breaks_guestJson (flaw : Json.OctetFault) : Breaks (.failure (flaw.failure .guestJson)) := by
  unfold Json.OctetFault.failure
  split
  · exact .fault (.longInteger _)
  · exact .fault .tooDeep
  · exact .raised rfl

theorem dumpJson_stops [Platform] (answers : ∀ request, Stops Breaks (answer request)) (value : Int) :
    Stops Breaks (host.dumpJson answer value) := by
  refine (dumpText_stops answers value).bind fun text => ?_
  cases Json.readOctets text with
  | error flaw => exact .throw (breaks_guestJson flaw)
  | ok document => exact .pure document

/-- Whatever a builtin fails with becomes an error of builtins. -/
theorem wrapFailure_ofRun (name : Text) (failure : Failure) :
    (wrapFailure name failure).kind.ofRun = true := by
  cases failure with
  | fault cause => rfl
  | error cause =>
    simp only [wrapFailure]
    split
    · next own => rw [own]; rfl
    · rfl

theorem callBuiltin_stops [Platform] (name : Text) (args : List Json) :
    Stops Breaks (host.callBuiltin name args) := by
  refine Stops.get.bind fun session => (Stops.modify _).bind fun _ => ?_
  split
  · exact .pure _
  · next failure _ => exact .throw (.raised (wrapFailure_ofRun name failure))

/-- A guest that rejects the result of a builtin stops by an error of builtins. -/
theorem handOver_stops (answers : ∀ request, Stops Breaks (answer request)) (name : Text)
    (document : Bytes) : Stops Breaks (host.handOver answer name document) := by
  refine (loadJson_stops answers document).tryCatch fun stop delivery => ?_
  rcases delivery with breaks | rejected
  · cases breaks with
    | trap trap => exact .throw (.trap trap)
    | fault known => exact .throw (.fault known)
    | @raised cause raised =>
      dsimp only
      split
      · exact .throw (.raised rfl)
      · exact .throw (.raised raised)
  · subst rejected
    exact .throw (.raised rfl)

/-- Requests that lie inside each other stop for the same reasons, by induction on how deep they may
lie. -/
theorem respond_breaks [Platform] (host : Host σ) (depth : Nat) (request : Request) :
    Stops Breaks (host.respond depth request) := by
  induction depth generalizing request with
  | zero => exact .throw (.fault .tooDeep)
  | succ depth ih =>
    cases request with
    | abort address =>
      exact (cString_stops address).bind fun _ => (Stops.modify _).bind fun _ =>
        .throw (.raised rfl)
    | println address =>
      exact (cString_stops address).bind fun _ => (Stops.modify _).bind fun _ => .pure 0
    | builtin id context args =>
      unfold Host.respond
      cases host.builtins.get? id with
      | none => exact .throw (.raised rfl)
      | some name =>
        exact (Stops.mapM (dumpJson_stops ih) args).bind fun documents =>
          (callBuiltin_stops name documents).bind fun document => handOver_stops ih name document

theorem respond_stops [Platform] (host : Host σ) (depth : Nat) (request : Request) :
    Stops Inside (host.respond depth request) :=
  (respond_breaks host depth request).mono fun _ => Breaks.inside

theorem answer_stops [Platform] (host : Host σ) (request : Request) : Stops Breaks (host.answer request) :=
  respond_breaks host Room.requests request

/-! ## What stops an evaluation -/

theorem ensureCapacity_stops (stop : Int) : Stops Breaks (ensureCapacity host stop) := by
  refine memory_stops.bind fun memory => ?_
  split
  · exact .pure ()
  · dsimp only
    split
    · exact .modify _
    · exact .throw (.raised rfl)

theorem fastEvaluate_stops [Platform] (sandbox : Sandbox σ) (id : Int) (payload : Bytes) :
    Stops Breaks (fastEvaluate sandbox host id payload) :=
  (ensureCapacity_stops _).bind fun _ => (place_stops _ _).bind fun _ =>
    (call_stops (answer_stops host) _ _).bind fun result => cString_stops result

theorem contextEvaluate_stops [Platform] (sandbox : Sandbox σ) (id : Int) (payload : Bytes) :
    Stops Delivery (contextEvaluate sandbox host id payload) := by
  have call? : ∀ name args, Stops Delivery (host.call? host.answer name args) := fun name args =>
    (call?_stops (answer_stops host) name args).mono fun _ => .inl
  have call : ∀ name args, Stops Delivery (host.call host.answer name args) := fun name args =>
    (call_stops (answer_stops host) name args).mono fun _ => .inl
  refine (call? _ _).bind fun _ => (loadJson_stops (answer_stops host) payload).bind fun input => ?_
  refine (call _ _).bind fun context => (call? _ _).bind fun _ => (call? _ _).bind fun _ => ?_
  refine (call? _ _).bind fun _ => (call? _ _).bind fun code => ?_
  have finish : Stops Delivery (host.call host.answer "opa_eval_ctx_get_result" [context] >>=
      fun result => host.dumpText host.answer result) :=
    (call _ _).bind fun result => (dumpText_stops (answer_stops host) result).mono fun _ => .inl
  split
  · exact finish
  · exact finish
  · exact .throw (.inl (.raised rfl))

/-- What an evaluation fails with.

* `execution`: an error of execution;
* `rejected`: the guest rejects the input, which it is only asked to parse through a context;
* `fault`: a fault of the host that no part of the library turns into an error. -/
inductive EvaluationFailure (fast : Bool) : Failure → Prop
  | execution {failure : Failure} : failure.isExecution = true → EvaluationFailure fast failure
  | rejected : fast = false → EvaluationFailure fast (.error .documentRejected)
  | fault {cause : Fault} : RunFault cause → EvaluationFailure fast (.fault cause)

/-- What stops an evaluation, in more detail: its errors of execution are those that the host raises. -/
inductive EvaluationStop (fast : Bool) : Stop → Prop
  | raised {cause : PolicyError} :
      cause.kind.ofRun = true → EvaluationStop fast (.failure (.error cause))
  | rejected : fast = false → EvaluationStop fast (.failure (.error .documentRejected))
  | fault {cause : Fault} : RunFault cause → EvaluationStop fast (.failure (.fault cause))

theorem EvaluationStop.of_breaks {fast : Bool} {failure : Failure}
    (breaks : Breaks (.failure failure)) : EvaluationStop fast (.failure failure) := by
  cases breaks with
  | raised raised => exact .raised raised
  | fault known => exact .fault known

/-- A trap that ends an evaluation is an error of execution, and all else stays as it is. -/
theorem runEvaluation_stops [Platform] (sandbox : Sandbox σ) (id : Int) (payload : Bytes) :
    Stops (EvaluationStop (isFast sandbox.guest sandbox.version))
      (runEvaluation sandbox host id payload) := by
  unfold runEvaluation
  cases isFast sandbox.guest sandbox.version with
  | true =>
    exact (fastEvaluate_stops sandbox id payload).onStop (fun _ => .of_breaks) (fun _ _ => .raised rfl)
      (fun _ => .of_breaks)
  | false =>
    refine (contextEvaluate_stops sandbox id payload).onStop ?_ (fun _ _ => .raised rfl) ?_
    · rintro cause (breaks | rejected)
      · exact .of_breaks breaks
      · cases rejected
        exact .rejected rfl
    · rintro cause (breaks | rejected)
      · exact .of_breaks breaks
      · cases rejected

variable {sandbox : Sandbox σ} {registry : Registry} {ambient : Ambient} {id : Int} {payload : Bytes}

theorem evaluate_stop [Platform] {failure : Failure}
    (failed : (sandbox.evaluate registry ambient id payload).1 = .error failure) :
    EvaluationStop (isFast sandbox.guest sandbox.version) (.failure failure) := by
  unfold evaluate at failed
  dsimp only at failed
  generalize stopped : (runEvaluation sandbox ⟨sandbox.guest, registry, sandbox.builtins⟩ id
    payload).run ⟨sandbox.guest.refuel sandbox.store, .fresh ambient, []⟩ = outcome at failed
  rcases outcome with ⟨stop | value, after⟩
  · have known := runEvaluation_stops sandbox id payload _ _ _ stopped
    cases failed
    cases known with
    | raised raised => exact .raised raised
    | rejected slow => exact .rejected slow
    | fault known => exact .fault known
  · cases failed

theorem evaluate_failure [Platform] {failure : Failure}
    (failed : (sandbox.evaluate registry ambient id payload).1 = .error failure) :
    EvaluationFailure (isFast sandbox.guest sandbox.version) failure := by
  cases evaluate_stop failed with
  | raised raised => exact .execution (ErrorKind.isExecution_of_ofRun raised)
  | rejected slow => exact .rejected slow
  | fault known => exact .fault known

/-- An evaluation never fails as a call does that is refused. -/
theorem evaluate_kind [Platform] {cause : PolicyError}
    (failed : (sandbox.evaluate registry ambient id payload).1 = .error (.error cause)) :
    cause.kind ≠ .notFound ∧ cause.kind ≠ .faulted := by
  cases evaluate_stop failed with
  | raised raised => constructor <;> intro same <;> rw [same] at raised <;> cases raised
  | rejected slow => exact ⟨nofun, nofun⟩

end Sandbox

end PolicyHost
