import PolicyHost.Builtin.Standard
import PolicyHost.Proofs.Json.Place
import PolicyHost.Proofs.Text.Decimal

/-!
# The cache of an evaluation

Of the standard builtins two make use of the cache: one makes random identifiers, the other random
numbers. A call of one of them makes an entry if there is none yet, and gives what the entry holds.
No call does anything else to the cache.

* `Invocation`: a call of a builtin; `Context.after`: the context behind calls one after another.
* `LeavesCache`: actions that leave the cache as it is; `call_cases` says which calls are not of
  this kind.
* `CacheStep`: what one call does to the cache (`run_cacheStep`), and from it what calls one after
  another do (`after_keeps`).
* `identifierKey_ne_numberKey`, `numberKey_inj`: keys that look alike are the same.
* `InRange`: random numbers in the cache lie below their bounds (`inRange_after`).
* `Reads`, `Share`: the entry that a call gives, and calls that give the same entry.
-/

namespace PolicyHost.Builtin

variable {α β : Type}

/-- A call of a builtin. -/
structure Invocation where
  name : Text
  args : List Json

/-- What a call comes to, and the context that it leaves behind. -/
def Invocation.run (i : Invocation) (registry : Registry) (context : Context) :
    Except Failure Value × Context :=
  (registry.call i.name i.args).run context

/-- The context behind calls one after another, successful or not. -/
def Context.after (context : Context) (registry : Registry) : List Invocation → Context
  | [] => context
  | i :: rest => Context.after (i.run registry context).2 registry rest

theorem Context.after_cons (context : Context) (registry : Registry) (i : Invocation)
    (rest : List Invocation) :
    context.after registry (i :: rest) = (i.run registry context).2.after registry rest := rfl

/-- A random identifier is asked for under a name. -/
def Invocation.identifier (name : Text) : Invocation := ⟨"uuid.rfc4122", [.string name]⟩

/-- A random number below the magnitude of `n` is asked for under a name. -/
def Invocation.number (name : Text) (n : Int) : Invocation :=
  ⟨"rand.intn", [.string name, .int n]⟩

/-! ## Actions that leave the cache as it is -/

/-- Whatever the action comes to, the cache is as it was. -/
def LeavesCache (action : Action α) : Prop :=
  ∀ context : Context, (action.run context).2.cache = context.cache

theorem run_bind (action : Action α) (next : α → Action β) (context : Context) :
    (action >>= next).run context =
      match action.run context with
      | (.ok value, after) => (next value).run after
      | (.error failure, after) => (.error failure, after) := by
  change (match action.run context with | (r, c) => (ExceptT.bindCont next r).run c) = _
  rcases action.run context with ⟨_ | _, _⟩ <;> rfl

theorem LeavesCache.pure (value : α) : LeavesCache (pure value : Action α) := fun _ => rfl

theorem LeavesCache.throw (failure : Failure) : LeavesCache (throw failure : Action α) := fun _ => rfl

theorem LeavesCache.get : LeavesCache (MonadState.get : Action Context) := fun _ => rfl

theorem LeavesCache.bind {action : Action α} {next : α → Action β} (first : LeavesCache action)
    (later : ∀ value, LeavesCache (next value)) : LeavesCache (action >>= next) := by
  intro context
  have kept := first context
  rw [run_bind]
  rcases done : action.run context with ⟨failure | value, after⟩ <;> rw [done] at kept
  · exact kept
  · exact (later value after).trans kept

theorem LeavesCache.draw (bound : Nat) : LeavesCache (draw bound) := fun _ => rfl

theorem LeavesCache.text (function : Text) (operand : Json) : LeavesCache (text function operand) := by
  cases operand <;> exact fun _ => rfl

theorem LeavesCache.writable (result : Except Utf8.Unwritable α) : LeavesCache (writable result) := by
  cases result <;> exact fun _ => rfl

theorem LeavesCache.readable (result : Except Numeral.Fault α) : LeavesCache (readable result) := by
  cases result <;> exact fun _ => rfl

theorem LeavesCache.nullary {f : Action Value} (leaves : LeavesCache f) (args : List Json) :
    LeavesCache (nullary f args) := by
  match args with
  | [] => exact leaves
  | _ :: _ => exact .throw _

theorem LeavesCache.unary {f : Json → Action Value} (leaves : ∀ a, LeavesCache (f a))
    (args : List Json) : LeavesCache (unary f args) := by
  match args with
  | [a] => exact leaves a
  | [] | _ :: _ :: _ => exact .throw _

theorem LeavesCache.binary {f : Json → Json → Action Value} (leaves : ∀ a b, LeavesCache (f a b))
    (args : List Json) : LeavesCache (binary f args) := by
  match args with
  | [a, b] => exact leaves a b
  | [] | [_] | _ :: _ :: _ :: _ => exact .throw _

theorem LeavesCache.onOctets (function : Text) (f : Bytes → Text) (args : List Json) :
    LeavesCache (onOctets function f args) := by
  refine .unary (fun operand => ?_) args
  exact ((LeavesCache.text function operand).bind fun t => .writable (Utf8.encode t)).bind fun _ => .pure _

theorem LeavesCache.version (operand : Json) : LeavesCache (version operand) := by
  refine (LeavesCache.text _ operand).bind fun t => ?_
  cases Semver.parse? t with
  | none => exact .throw _
  | some v => exact (LeavesCache.readable v.core).bind fun _ => .pure _

/-! ## The two builtins that use the cache -/

def identifierKey (name : Text) : Text := "uuid.rfc4122:" ++ name

def numberKey (name : Text) (bound : Nat) : Text := "rand.intn:" ++ name ++ ":" ++ Text.ofNat bound

/-- A random number below a bound as a value. -/
def randomNumber (bound : Nat) : Action Value := do return .int (← draw bound)

theorem randomBelow_run (name : Text) {n : Int} (nonzero : n ≠ 0)
    (short : n.natAbs < 10 ^ Json.maxDigits) :
    randomBelow [.string name, .int n] =
      memo (numberKey name n.natAbs) (randomNumber n.natAbs) := by
  have positive : n.natAbs ≠ 0 := Int.natAbs_ne_zero.mpr nonzero
  change (if n.natAbs = 0 then _ else if 10 ^ Json.maxDigits ≤ n.natAbs then _ else _) = _
  rw [if_neg positive, if_neg (Nat.not_le.mpr short)]
  rfl

/-- All other standard builtins leave the cache as it is. -/
theorem standard_cases {name : Text} {f : Function} (member : (name, f) ∈ standard) :
    (name = "uuid.rfc4122" ∧ f = identifier) ∨ (name = "rand.intn" ∧ f = randomBelow) ∨
      ∀ args, LeavesCache (f args) := by
  have readsText : ∀ function, ∀ next : Text → Action Value, (∀ t, LeavesCache (next t)) →
      ∀ args, LeavesCache (unary (fun operand => text function operand >>= next) args) :=
    fun function next leaves => .unary fun operand => (LeavesCache.text function operand).bind leaves
  simp only [standard, List.mem_cons, List.not_mem_nil, or_false, Prod.mk.injEq] at member
  rcases member with ⟨-, rfl⟩ | ⟨-, rfl⟩ | ⟨-, rfl⟩ | ⟨-, rfl⟩ | ⟨-, rfl⟩ | ⟨-, rfl⟩ | ⟨-, rfl⟩ |
    ⟨-, rfl⟩ | ⟨-, rfl⟩ | ⟨-, rfl⟩ | ⟨-, rfl⟩ | own | own | ⟨-, rfl⟩ | ⟨-, rfl⟩ | ⟨-, rfl⟩ | ⟨-, rfl⟩
  · exact .inr (.inr (.nullary (LeavesCache.get.bind fun _ => .pure _)))
  · exact .inr (.inr (.onOctets _ _))
  · exact .inr (.inr (.onOctets _ _))
  · exact .inr (.inr (.onOctets _ _))
  · exact .inr (.inr (.onOctets _ _))
  · exact .inr (.inr (.onOctets _ _))
  · refine .inr (.inr (readsText _ _ fun t => ?_))
    split
    · exact .pure _
    · exact .throw _
  · exact .inr (.inr (readsText _ _ fun t => .pure _))
  · exact .inr (.inr (readsText _ _ fun t => (LeavesCache.writable _).bind fun _ => .pure _))
  · exact .inr (.inr (readsText _ _ fun t => .pure _))
  · refine .inr (.inr (.unary fun operand => ?_))
    split
    · exact (LeavesCache.writable _).bind fun _ => .pure _
    · exact .throw _
  · exact .inl own
  · exact .inr (.inl own)
  · refine .inr (.inr (.unary fun operand => ?_))
    split
    · split
      · exact .pure _
      · exact .throw _
    · exact .throw _
  · exact .inr (.inr (.nullary (.pure _)))
  · refine .inr (.inr (.unary fun operand => ?_))
    split <;> exact .pure _
  · refine .inr (.inr (.binary fun left right => ?_))
    exact (LeavesCache.version left).bind fun _ => (LeavesCache.version right).bind fun _ =>
      (LeavesCache.readable _).bind fun _ => .pure _

theorem randomBelow_long (name : Text) {n : Int} (long : 10 ^ Json.maxDigits ≤ n.natAbs) :
    randomBelow [.string name, .int n] = throw (.fault .unwritableInteger) := by
  have positive : (0 : Nat) < 10 ^ Json.maxDigits := Nat.pow_pos (Nat.succ_pos 9)
  change (if n.natAbs = 0 then _ else if 10 ^ Json.maxDigits ≤ n.natAbs then _ else _) = _
  rw [if_neg (Nat.ne_of_gt (Nat.lt_of_lt_of_le positive long)), if_pos long]

theorem functions_standard : Registry.standard.functions = standard := rfl

theorem call_identifier (args : List Json) :
    Registry.standard.call "uuid.rfc4122" args = identifier args := rfl

theorem call_randomBelow (args : List Json) :
    Registry.standard.call "rand.intn" args = randomBelow args := rfl

/-- A call of a standard builtin asks for a random identifier, or for a random number below a bound that
is not zero, or leaves the cache as it is. -/
theorem call_cases (i : Invocation) :
    (∃ name, i = .identifier name) ∨
      (∃ name n, i = .number name n ∧ n ≠ 0 ∧ n.natAbs < 10 ^ Json.maxDigits) ∨
      LeavesCache (Registry.standard.call i.name i.args) := by
  obtain ⟨function, args⟩ := i
  unfold Registry.call
  cases found : Registry.standard.functions.get? function with
  | none => exact .inr (.inr (.throw _))
  | some f =>
    rw [functions_standard] at found
    have member : (function, f) ∈ standard := Table.mem_of_get? found
    rcases standard_cases member with ⟨rfl, rfl⟩ | ⟨rfl, rfl⟩ | leaves
    · match args with
      | [] | _ :: _ :: _ => exact .inr (.inr (.throw _))
      | [operand] =>
        cases operand with
        | string name => exact .inl ⟨name, rfl⟩
        | _ => exact .inr (.inr (.throw _))
    · match args with
      | [] | [_] | _ :: _ :: _ :: _ => exact .inr (.inr (.throw _))
      | [operand, bound] =>
        cases operand with
        | string name =>
          cases bound with
          | int n =>
            by_cases zero : n = 0
            · subst zero
              exact .inr (.inr (.pure _))
            · rcases Nat.lt_or_ge n.natAbs (10 ^ Json.maxDigits) with short | long
              · exact .inr (.inl ⟨name, n, rfl, zero, short⟩)
              · refine .inr (.inr ?_)
                change LeavesCache (randomBelow [.string name, .int n])
                rw [randomBelow_long name long]
                exact .throw _
          | _ => exact .inr (.inr (.throw _))
        | _ => exact .inr (.inr (.throw _))
    · exact .inr (.inr (leaves args))

/-! ## What a call does to the cache -/

/-- A call leaves the cache as it is, or it succeeds and makes one entry of its value. -/
inductive CacheStep (result : Except Failure Value) (before : Table Text Value) :
    Table Text Value → Prop
  | same : CacheStep result before before
  | made {key : Text} {value : Value} : result = .ok value → before.get? key = none →
      CacheStep result before (before.put key value)

theorem memo_of_held {key : Text} {make : Action Value} {value : Value} {context : Context}
    (held : context.cache.get? key = some value) : (memo key make).run context = (.ok value, context) := by
  have now : (get : Action Context).run context = (.ok context, context) := rfl
  unfold memo
  rw [run_bind, now]
  dsimp only
  rw [held]
  rfl

theorem memo_of_absent {key : Text} (make : Action Value) {context : Context}
    (absent : context.cache.get? key = none) :
    (memo key make).run context =
      match make.run context with
      | (.ok value, after) => (.ok value, { after with cache := after.cache.put key value })
      | (.error failure, after) => (.error failure, after) := by
  have now : (get : Action Context).run context = (.ok context, context) := rfl
  unfold memo
  rw [run_bind, now]
  dsimp only
  rw [absent]
  dsimp only
  rw [run_bind]
  rcases make.run context with ⟨_ | _, _⟩ <;> rfl

/-- The entry is made of the value that is given. -/
theorem memo_made {key : Text} {make : Action Value} (leaves : LeavesCache make) {value : Value}
    {context : Context} (absent : context.cache.get? key = none)
    (done : ((memo key make).run context).1 = .ok value) :
    (make.run context).1 = .ok value ∧
      ((memo key make).run context).2.cache = context.cache.put key value := by
  have kept := leaves context
  rw [memo_of_absent make absent] at done ⊢
  rcases made : make.run context with ⟨failure | other, after⟩ <;> rw [made] at done kept
  · cases done
  · cases done
    exact ⟨rfl, congrArg (Table.put key value) kept⟩

theorem memo_cacheStep (key : Text) {make : Action Value} (leaves : LeavesCache make)
    (context : Context) :
    CacheStep ((memo key make).run context).1 context.cache ((memo key make).run context).2.cache := by
  cases present : context.cache.get? key with
  | some value =>
    rw [memo_of_held present]
    exact .same
  | none =>
    rcases done : ((memo key make).run context).1 with failure | value
    · have kept := leaves context
      rw [memo_of_absent make present] at done ⊢
      rcases made : make.run context with ⟨other | other, after⟩ <;> rw [made] at done kept
      · exact kept ▸ .same
      · cases done
    · rw [(memo_made leaves present done).2]
      exact .made rfl present

theorem Invocation.identifier_run (name : Text) (context : Context) :
    (Invocation.identifier name).run .standard context =
      (memo (identifierKey name) randomIdentifier).run context :=
  congrArg (fun action => action.run context) (call_identifier [.string name])

theorem Invocation.number_run (name : Text) {n : Int} (nonzero : n ≠ 0)
    (short : n.natAbs < 10 ^ Json.maxDigits) (context : Context) :
    (Invocation.number name n).run .standard context =
      (memo (numberKey name n.natAbs) (randomNumber n.natAbs)).run context := by
  unfold Invocation.run Invocation.number
  rw [call_randomBelow, randomBelow_run name nonzero short]

theorem leavesCache_randomNumber (bound : Nat) : LeavesCache (randomNumber bound) :=
  (LeavesCache.draw bound).bind fun _ => .pure _

theorem leavesCache_randomIdentifier : LeavesCache randomIdentifier :=
  (LeavesCache.draw _).bind fun _ => .pure _

/-- What one call does to the cache. -/
theorem run_cacheStep (i : Invocation) (context : Context) :
    CacheStep (i.run .standard context).1 context.cache (i.run .standard context).2.cache := by
  rcases call_cases i with ⟨name, rfl⟩ | ⟨name, n, rfl, nonzero, short⟩ | leaves
  · rw [Invocation.identifier_run]
    exact memo_cacheStep (identifierKey name) leavesCache_randomIdentifier context
  · rw [Invocation.number_run name nonzero short]
    exact memo_cacheStep _ (leavesCache_randomNumber _) context
  · have kept : (i.run .standard context).2.cache = context.cache := leaves context
    exact kept ▸ .same

theorem CacheStep.keeps {result : Except Failure Value} {before after : Table Text Value}
    (step : CacheStep result before after) {key : Text} {value : Value}
    (held : before.get? key = some value) : after.get? key = some value := by
  cases step with
  | same => exact held
  | @made other _ _ absent =>
    have differ : key ≠ other := by
      rintro rfl
      cases held.symm.trans absent
    exact (Table.get?_put_of_ne differ _ before).trans held

/-- A call that fails leaves the cache as it was. -/
theorem cache_of_failure {i : Invocation} {context : Context} {failure : Failure}
    (failed : (i.run .standard context).1 = .error failure) :
    (i.run .standard context).2.cache = context.cache := by
  have step := run_cacheStep i context
  generalize (i.run .standard context).2.cache = after at step ⊢
  cases step with
  | same => rfl
  | made succeeded => cases failed.symm.trans succeeded

/-- An entry stays, whatever calls follow. -/
theorem after_keeps (calls : List Invocation) {context : Context} {key : Text} {value : Value}
    (held : context.cache.get? key = some value) :
    (context.after .standard calls).cache.get? key = some value := by
  induction calls generalizing context with
  | nil => exact held
  | cons i rest ih =>
    rw [Context.after_cons]
    exact ih ((run_cacheStep i context).keeps held)

/-! ## Keys -/

/-- The last separator is found again behind names that have it too. -/
theorem append_separator_inj {α : Type} {separator : α} {a b d e : List α} (left : separator ∉ d)
    (right : separator ∉ e) (same : a ++ separator :: d = b ++ separator :: e) : a = b ∧ d = e := by
  have none_before : ∀ {x y z : List α}, separator ∉ y → separator :: y = x ++ separator :: z → x = [] := by
    intro x y z outside split
    cases x with
    | nil => rfl
    | cons first rest =>
      have tail : y = rest ++ separator :: z := List.tail_eq_of_cons_eq split
      exact absurd (tail ▸ List.mem_append_right rest List.mem_cons_self) outside
  rcases List.append_eq_append_iff.mp same with ⟨x, rfl, split⟩ | ⟨x, rfl, split⟩
  · cases none_before left split
    exact ⟨(List.append_nil a).symm, List.tail_eq_of_cons_eq split⟩
  · cases none_before right split
    exact ⟨List.append_nil b, (List.tail_eq_of_cons_eq split).symm⟩

theorem separator_notMem_ofNat (n : Nat) : (':' : CodePoint) ∉ Text.ofNat n := by
  intro member
  cases Text.isDigit_of_mem_ofNat member

/-- Names and bounds with the same key are the same, whatever characters the names have. -/
theorem numberKey_inj {a b : Text} {n m : Nat} (same : numberKey a n = numberKey b m) :
    a = b ∧ n = m := by
  unfold numberKey at same
  simp only [List.append_assoc] at same
  have behind := List.append_cancel_left same
  obtain ⟨names, bounds⟩ :=
    append_separator_inj (separator_notMem_ofNat n) (separator_notMem_ofNat m) behind
  refine ⟨names, ?_⟩
  rw [← Text.digitsValue_ofNat n, ← Text.digitsValue_ofNat m, bounds]

theorem identifierKey_inj {a b : Text} (same : identifierKey a = identifierKey b) : a = b :=
  List.append_cancel_left same

/-- The keys of the two builtins differ in their first character. -/
theorem identifierKey_ne_numberKey (a b : Text) (n : Nat) : identifierKey a ≠ numberKey b n := by
  intro same
  have first := congrArg List.head? same
  cases first

/-! ## Calls that read an entry -/

/-- The call gives what the entry of a key holds, and makes the entry if there is none. -/
structure Invocation.Reads (i : Invocation) (key : Text) : Prop where
  held : ∀ context value, context.cache.get? key = some value →
    i.run .standard context = (.ok value, context)
  made : ∀ context value, context.cache.get? key = none → (i.run .standard context).1 = .ok value →
    (i.run .standard context).2.cache = context.cache.put key value

/-- Two calls read the same entry. -/
def Invocation.Share (i j : Invocation) : Prop := ∃ key, i.Reads key ∧ j.Reads key

theorem reads_identifier (name : Text) : (Invocation.identifier name).Reads (identifierKey name) where
  held context _ held := by
    rw [Invocation.identifier_run]
    exact memo_of_held held
  made context value absent done := by
    rw [Invocation.identifier_run] at done ⊢
    exact (memo_made leavesCache_randomIdentifier absent done).2

theorem reads_number (name : Text) {n : Int} (nonzero : n ≠ 0)
    (short : n.natAbs < 10 ^ Json.maxDigits) :
    (Invocation.number name n).Reads (numberKey name n.natAbs) where
  held context _ held := by
    rw [Invocation.number_run name nonzero short]
    exact memo_of_held held
  made context value absent done := by
    rw [Invocation.number_run name nonzero short] at done ⊢
    exact (memo_made (leavesCache_randomNumber _) absent done).2

/-- A call reads one entry only: two entries could hold different values. -/
theorem Invocation.Reads.unique {i : Invocation} {key other : Text} (one : i.Reads key)
    (two : i.Reads other) : key = other := by
  by_contra differ
  let context : Context := ⟨0, ⟨0, 0⟩, [(key, .int 0), (other, .int 1)]⟩
  have first := one.held context (.int 0) (if_pos rfl)
  have second := two.held context (.int 1) ((if_neg differ).trans (if_pos rfl))
  cases first.symm.trans second

theorem share_identifier_iff (a b : Text) :
    (Invocation.identifier a).Share (.identifier b) ↔ a = b := by
  constructor
  · rintro ⟨key, one, two⟩
    exact identifierKey_inj (((reads_identifier a).unique one).trans (two.unique (reads_identifier b)))
  · rintro rfl
    exact ⟨_, reads_identifier a, reads_identifier a⟩

theorem share_number_iff {a b : Text} {n m : Int} (nonzero : n ≠ 0) (nonzero' : m ≠ 0)
    (short : n.natAbs < 10 ^ Json.maxDigits) (short' : m.natAbs < 10 ^ Json.maxDigits) :
    (Invocation.number a n).Share (.number b m) ↔ a = b ∧ n.natAbs = m.natAbs := by
  have first := reads_number a nonzero short
  have second := reads_number b nonzero' short'
  constructor
  · rintro ⟨key, one, two⟩
    exact numberKey_inj ((first.unique one).trans (two.unique second))
  · rintro ⟨rfl, bounds⟩
    exact ⟨_, first, bounds ▸ second⟩

theorem not_share_number_identifier {a b : Text} {n : Int} (nonzero : n ≠ 0)
    (short : n.natAbs < 10 ^ Json.maxDigits) :
    ¬(Invocation.number a n).Share (.identifier b) := by
  rintro ⟨key, one, two⟩
  refine identifierKey_ne_numberKey b a n.natAbs ?_
  exact ((reads_identifier b).unique two).trans (one.unique (reads_number a nonzero short))

theorem Invocation.Reads.entry {i : Invocation} {key : Text} (reads : i.Reads key) {context after : Context}
    {value : Value} (done : i.run .standard context = (.ok value, after)) :
    after.cache.get? key = some value := by
  cases present : context.cache.get? key with
  | some other =>
    have given := reads.held context other present
    cases done.symm.trans given
    exact present
  | none =>
    have made := reads.made context value present (congrArg Prod.fst done)
    rw [done] at made
    exact made ▸ Table.get?_put_self key value context.cache

/-- Calls that read the same entry give the same value, whatever calls lie between them. -/
theorem Invocation.Share.equal {i j : Invocation} (share : i.Share j) {context after : Context}
    {value : Value}
    (done : i.run .standard context = (.ok value, after)) (between : List Invocation) :
    (j.run .standard (after.after .standard between)).1 = .ok value := by
  obtain ⟨key, one, two⟩ := share
  have held := after_keeps between (one.entry done)
  rw [two.held _ _ held]

/-! ## Calls that succeed -/

def Invocation.Succeeds (i : Invocation) : Prop :=
  ∃ context value, (i.run .standard context).1 = .ok value

theorem Invocation.Succeeds.short {name : Text} {n : Int} (succeeds : (Invocation.number name n).Succeeds) :
    n.natAbs < 10 ^ Json.maxDigits := by
  obtain ⟨context, value, done⟩ := succeeds
  by_contra long
  have stops := randomBelow_long name (Nat.le_of_not_lt long)
  unfold Invocation.run Invocation.number at done
  rw [call_randomBelow, stops] at done
  cases done

/-- Random numbers are only given for a name and a number. -/
theorem eq_number_of_succeeds {args : List Json} (succeeds : (Invocation.mk "rand.intn" args).Succeeds) :
    ∃ name n, Invocation.mk "rand.intn" args = .number name n := by
  obtain ⟨context, value, done⟩ := succeeds
  unfold Invocation.run at done
  rw [call_randomBelow] at done
  match args with
  | [] | [_] | _ :: _ :: _ :: _ => cases done
  | [operand, bound] =>
    cases operand with
    | string name =>
      cases bound with
      | int n => exact ⟨name, n, rfl⟩
      | _ => cases done
    | _ => cases done

/-- Random identifiers are only given for a name. -/
theorem eq_identifier_of_succeeds {args : List Json}
    (succeeds : (Invocation.mk "uuid.rfc4122" args).Succeeds) :
    ∃ name, Invocation.mk "uuid.rfc4122" args = .identifier name := by
  obtain ⟨context, value, done⟩ := succeeds
  unfold Invocation.run at done
  rw [call_identifier] at done
  match args with
  | [] | _ :: _ :: _ => cases done
  | [operand] =>
    cases operand with
    | string name => exact ⟨name, rfl⟩
    | _ => cases done

/-! ## Random numbers -/

/-- Random numbers in the cache lie below the bounds in their keys. -/
def InRange (cache : Table Text Value) : Prop :=
  ∀ name bound value, cache.get? (numberKey name bound) = some value →
    ∃ k : Nat, value = .int k ∧ k < bound

theorem randomNumber_inRange {bound : Nat} (positive : 0 < bound) {context : Context} {value : Value}
    (done : ((randomNumber bound).run context).1 = .ok value) : ∃ k : Nat, value = .int k ∧ k < bound := by
  cases done
  exact ⟨_, rfl, Nat.mod_lt _ positive⟩

theorem inRange_put_identifier {cache : Table Text Value} (inRange : InRange cache) (name : Text)
    (value : Value) : InRange (cache.put (identifierKey name) value) := by
  intro other bound found held
  rw [Table.get?_put_of_ne (identifierKey_ne_numberKey name other bound).symm] at held
  exact inRange other bound found held

theorem inRange_put_number {cache : Table Text Value} (inRange : InRange cache) (name : Text)
    {bound k : Nat} (below : k < bound) : InRange (cache.put (numberKey name bound) (.int k)) := by
  intro other bound' found held
  by_cases same : numberKey other bound' = numberKey name bound
  · obtain ⟨rfl, rfl⟩ := numberKey_inj same
    rw [Table.get?_put_self] at held
    cases held
    exact ⟨k, rfl, below⟩
  · rw [Table.get?_put_of_ne same] at held
    exact inRange other bound' found held

theorem inRange_run {context : Context} (inRange : InRange context.cache) (i : Invocation) :
    InRange (i.run .standard context).2.cache := by
  rcases call_cases i with ⟨name, rfl⟩ | ⟨name, n, rfl, nonzero, short⟩ | leaves
  · cases present : context.cache.get? (identifierKey name) with
    | some value =>
      rw [(reads_identifier name).held context value present]
      exact inRange
    | none =>
      rcases done : ((Invocation.identifier name).run .standard context).1 with failure | value
      · exact cache_of_failure done ▸ inRange
      · rw [(reads_identifier name).made context value present done]
        exact inRange_put_identifier inRange name value
  · cases present : context.cache.get? (numberKey name n.natAbs) with
    | some value =>
      rw [(reads_number name nonzero short).held context value present]
      exact inRange
    | none =>
      rcases done : ((Invocation.number name n).run .standard context).1 with failure | value
      · exact cache_of_failure done ▸ inRange
      · rw [(reads_number name nonzero short).made context value present done]
        rw [Invocation.number_run name nonzero short] at done
        obtain ⟨k, rfl, below⟩ := randomNumber_inRange (Int.natAbs_pos.mpr nonzero)
          (memo_made (leavesCache_randomNumber _) present done).1
        exact inRange_put_number inRange name below
  · have kept : (i.run .standard context).2.cache = context.cache := leaves context
    exact kept ▸ inRange

theorem inRange_after {context : Context} (inRange : InRange context.cache) (calls : List Invocation) :
    InRange (context.after .standard calls).cache := by
  induction calls generalizing context with
  | nil => exact inRange
  | cons i rest ih =>
    rw [Context.after_cons]
    exact ih (inRange_run inRange i)

/-- A random number lies below the magnitude of the number that it is asked for with. -/
theorem number_inRange {context : Context} (inRange : InRange context.cache) {name : Text} {n : Int}
    (nonzero : n ≠ 0) (short : n.natAbs < 10 ^ Json.maxDigits) {value : Value}
    (done : ((Invocation.number name n).run .standard context).1 = .ok value) :
    ∃ k : Nat, value = .int k ∧ k < n.natAbs := by
  have entry := (reads_number name nonzero short).entry (Prod.ext done rfl)
  exact inRange_run inRange (.number name n) name n.natAbs value entry

end PolicyHost.Builtin
