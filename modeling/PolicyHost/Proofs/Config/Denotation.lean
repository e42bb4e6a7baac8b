import PolicyHost.Proofs.Config.Layers
import PolicyHost.Proofs.Json.Whole
import PolicyHost.Proofs.Text.Spelling

/-!
# What values count as limits

A value denotes an integer if it is one, or a floating-point number that is whole, or a text that spells
one. Such an integer is the limit unless it is negative. Other values are errors of the configuration, save
for a fraction, of which the whole part counts, an infinite number, and a container that no message can
repeat. Beside them only octets that are no text, and documents beyond the limits of their reader, end in a
failure that is no error of the configuration.

* `Toml.Denotes`, `Toml.NoNumber`, `Toml.Plain`: the integers that values denote, and the values that denote
  none.
* `Verdict`, `limitOf_eq_iff`: what a value comes to.
* `FileFailure`, `LoadOutcome`: what a load comes to.
* `limits_denoted`: all of it, and what a load comes to if the values are plain.
* `fraction_counts`: fractions, an infinite number, and an octet that is no text.
-/

namespace PolicyHost

namespace Toml

/-- The integer that a value denotes. -/
inductive Denotes : Toml → Int → Prop
  | int (n : Int) : Denotes (.int n) n
  | float {x : Float} {n : Int} : Json.Finite x → Json.rational x = n → Denotes (.float x) n
  | string {t : Text} {n : Int} : Numeral.Spells t n → Denotes (.string t) n

/-- A value that is neither a number nor a truth value, and spells no integer. -/
inductive NoNumber : Toml → Prop
  | float {x : Float} : x.isNaN = true → NoNumber (.float x)
  | string {t : Text} : (∀ n, ¬ Numeral.Spells t n) → NoNumber (.string t)
  | stamp (s : Stamp) : NoNumber (.stamp s)
  | array (items : List Toml) : NoNumber (.array items)
  | table (members : Members) : NoNumber (.table members)

/-- A value that is neither a fraction nor infinite, nor a container that no message can repeat. -/
structure Plain [Room] (value : Toml) : Prop where
  whole : ∀ x, value = .float x → ¬ Json.Fraction x ∧ x.isInf = false
  quotable : value.isContainer = true → ∃ words, value.quoted = .ok words

theorem Plain.of_leaf [Room] {value : Toml} (leaf : value.isContainer = false) (other : ∀ x, value ≠ .float x) :
    value.Plain where
  whole x same := absurd same (other x)
  quotable container := by
    rw [leaf] at container
    cases container

/-- Only containers and integers may be more than a message can repeat. -/
theorem isContainer_or_int [Room] {value : Toml} {flaw : Fault} (unquoted : value.quoted = .error flaw) :
    value.isContainer = true ∨ ∃ n, value = .int n := by
  rw [quoted, quotedWithin.eq_def] at unquoted
  cases value with
  | bool b => cases b <;> cases unquoted
  | int n => exact .inr ⟨n, rfl⟩
  | float _ | string _ | stamp _ => cases unquoted
  | array _ | table _ => exact .inl rfl

theorem NoNumber.isContainer [Room] {value : Toml} (odd : value.NoNumber) {flaw : Fault}
    (unquoted : value.quoted = .error flaw) : value.isContainer = true := by
  rcases isContainer_or_int unquoted with container | ⟨n, rfl⟩
  · exact container
  · cases odd

end Toml

namespace Config

/-! ## Values -/

/-- What the value of a setting comes to.

* `limit`, `negative`: the integer that it denotes;
* `floor`, `zero`, `below`: of a fraction, the whole part;
* `infinite`, `boolean`: an infinite number, and a truth value;
* `refused`, `tooDeep`, `unwritable`: anything else, which the message repeats if it can. -/
inductive Verdict [Room] (s : Setting) : Toml → Except Failure Int → Prop
  | limit {value : Toml} {n : Int} : value.Denotes n → 0 ≤ n → Verdict s value (.ok n)
  | negative {value : Toml} {n : Int} :
      value.Denotes n → n < 0 → Verdict s value (.error (.error (.limitNegative s.name)))
  | floor {x : Float} :
      Json.Fraction x → 0 ≤ Json.rational x → Verdict s (.float x) (.ok ⌊Json.rational x⌋)
  | zero {x : Float} :
      Json.Fraction x → -1 < Json.rational x → Json.rational x < 0 → Verdict s (.float x) (.ok 0)
  | below {x : Float} :
      Json.Fraction x → Json.rational x ≤ -1 → Verdict s (.float x) (.error (.error (.limitNegative s.name)))
  | infinite {x : Float} :
      x.isNaN = false → x.isInf = true → Verdict s (.float x) (.error (.fault .infiniteNumber))
  | boolean (b : Bool) : Verdict s (.bool b) (.error (.error (.limitBoolean s.name)))
  | refused {value : Toml} {words : Text} :
      value.NoNumber → value.quoted = .ok words →
      Verdict s value (.error (.error (.limitNotInteger s.name words)))
  | tooDeep {value : Toml} :
      value.isContainer = true → value.quoted = .error .tooDeep → Verdict s value (.error (.fault .tooDeep))
  | unwritable {value : Toml} {flaw : Toml.Fault} :
      value.isContainer = true → value.quoted = .error flaw → flaw ≠ .tooDeep →
      Verdict s value (.error (.fault .unwritableInteger))

variable {s : Setting} {value : Toml}

theorem integerOf_float [Room] {x : Float} (finite : Json.Finite x) :
    integerOf s (.float x) =
      .ok (if 0 ≤ Json.rational x then ⌊Json.rational x⌋ else ⌈Json.rational x⌉) := by
  rw [← Json.truncate_eq]
  simp only [integerOf, finite.1, finite.2, Bool.false_eq_true, if_false]

theorem integerOf_string [Room] (t : Text) :
    integerOf s (.string t) =
      match Numeral.read t with
      | .ok n => .ok n
      | .error _ => .error (refuse s (.string t)) := rfl

theorem integerOf_of_denotes [Room] {n : Int} (denotes : value.Denotes n) : integerOf s value = .ok n := by
  cases denotes with
  | int n => rfl
  | float finite whole =>
    rw [integerOf_float finite, whole, Int.floor_intCast, Int.ceil_intCast, ite_self]
  | string spells => rw [integerOf_string, spells.read_eq]

theorem integerOf_of_noNumber [Room] (odd : value.NoNumber) : integerOf s value = .error (refuse s value) := by
  cases odd with
  | float none => simp only [integerOf, none, if_true]
  | @string t none =>
    rw [integerOf_string]
    cases read : Numeral.read t with
    | ok n => exact absurd (Numeral.read_eq_ok_iff.mp read) (none n)
    | error fault => rfl
  | stamp _ | array _ | table _ => rfl

theorem limitOf_of_ok [Room] {n : Int} (read : integerOf s value = .ok n) :
    limitOf s value = if n < 0 then .error (.error (.limitNegative s.name)) else .ok n := by
  rw [limitOf, read]
  rfl

theorem limitOf_of_error [Room] {failure : Failure} (unread : integerOf s value = .error failure) :
    limitOf s value = .error failure := by
  rw [limitOf, unread]
  rfl

theorem integerOf_of_isContainer [Room] (container : value.isContainer = true) :
    integerOf s value = .error (refuse s value) := by
  cases value with
  | array _ | table _ => rfl
  | _ => cases container

/-- A value comes to nothing else. -/
theorem Verdict.limitOf_eq [Room] {result : Except Failure Int} (verdict : Verdict s value result) :
    limitOf s value = result := by
  cases verdict with
  | limit denotes nonneg =>
    rw [limitOf_of_ok (integerOf_of_denotes denotes), if_neg (not_lt.mpr nonneg)]
  | negative denotes negative => rw [limitOf_of_ok (integerOf_of_denotes denotes), if_pos negative]
  | floor fraction nonneg =>
    rw [limitOf_of_ok (integerOf_float fraction.1), if_pos nonneg, if_neg (not_lt.mpr (Int.floor_nonneg.mpr nonneg))]
  | zero fraction above negative =>
    have whole : ⌈_⌉ = (0 : Int) := Int.ceil_eq_zero_iff.mpr ⟨above, negative.le⟩
    rw [limitOf_of_ok (integerOf_float fraction.1), if_neg (not_le.mpr negative), whole, if_neg (lt_irrefl _)]
  | @below x fraction below =>
    have negative : Json.rational x < 0 := by linarith
    have whole : ⌈Json.rational x⌉ < 0 := by
      have : ⌈Json.rational x⌉ ≤ -1 := Int.ceil_le.mpr (by exact_mod_cast below)
      omega
    rw [limitOf_of_ok (integerOf_float fraction.1), if_neg (not_le.mpr negative), if_pos whole]
  | infinite number infinite =>
    refine limitOf_of_error ?_
    simp only [integerOf, number, infinite, Bool.false_eq_true, if_false, if_true]
  | boolean b => rfl
  | refused odd quoted =>
    rw [limitOf_of_error (integerOf_of_noNumber odd), refuse, quoted]
  | tooDeep container unquoted =>
    rw [limitOf_of_error (integerOf_of_isContainer container), refuse, unquoted]
  | @unwritable _ flaw container unquoted other =>
    rw [limitOf_of_error (integerOf_of_isContainer container), refuse, unquoted]
    cases flaw <;> first | rfl | exact absurd rfl other

/-- A value that denotes an integer comes to it, unless it is negative. -/
theorem verdict_of_denotes [Room] {n : Int} (denotes : value.Denotes n) : ∃ result, Verdict s value result := by
  rcases lt_or_ge n 0 with negative | nonneg
  · exact ⟨_, .negative denotes negative⟩
  · exact ⟨_, .limit denotes nonneg⟩

theorem verdict_of_noNumber [Room] (odd : value.NoNumber) : ∃ result, Verdict s value result := by
  cases quoted : value.quoted with
  | ok words => exact ⟨_, .refused odd quoted⟩
  | error flaw =>
    have container := odd.isContainer quoted
    by_cases deep : flaw = .tooDeep
    · exact ⟨_, .tooDeep container (deep ▸ quoted)⟩
    · exact ⟨_, .unwritable container quoted deep⟩

theorem verdict_of_fraction [Room] {x : Float} (fraction : Json.Fraction x) :
    ∃ result, Verdict s (.float x) result := by
  rcases lt_or_ge (Json.rational x) 0 with negative | nonneg
  · rcases lt_or_ge (-1) (Json.rational x) with above | below
    · exact ⟨_, .zero fraction above negative⟩
    · exact ⟨_, .below fraction below⟩
  · exact ⟨_, .floor fraction nonneg⟩

/-- Every value comes to something. -/
theorem exists_verdict [Room] (s : Setting) (value : Toml) : ∃ result, Verdict s value result := by
  cases value with
  | bool b => exact ⟨_, .boolean b⟩
  | int n => exact verdict_of_denotes (.int n)
  | float x =>
    cases number : x.isNaN with
    | true => exact verdict_of_noNumber (.float number)
    | false =>
      cases infinite : x.isInf with
      | true => exact ⟨_, .infinite number infinite⟩
      | false =>
        by_cases whole : ∃ n : Int, Json.rational x = n
        · obtain ⟨n, whole⟩ := whole
          exact verdict_of_denotes (.float ⟨number, infinite⟩ whole)
        · exact verdict_of_fraction ⟨⟨number, infinite⟩, not_exists.mp whole⟩
  | string t =>
    by_cases spelled : ∃ n, Numeral.Spells t n
    · obtain ⟨n, spells⟩ := spelled
      exact verdict_of_denotes (.string spells)
    · exact verdict_of_noNumber (.string (not_exists.mp spelled))
  | stamp stamp => exact verdict_of_noNumber (.stamp stamp)
  | array items => exact verdict_of_noNumber (.array items)
  | table members => exact verdict_of_noNumber (.table members)

theorem limitOf_eq_iff [Room] {result : Except Failure Int} :
    limitOf s value = result ↔ Verdict s value result := by
  constructor
  · rintro rfl
    obtain ⟨result, verdict⟩ := exists_verdict s value
    exact verdict.limitOf_eq ▸ verdict
  · exact Verdict.limitOf_eq

/-- A plain value is a limit just if it denotes it. -/
theorem Verdict.denotes [Room] {n : Int} (verdict : Verdict s value (.ok n)) (plain : value.Plain) :
    value.Denotes n ∧ 0 ≤ n := by
  cases verdict with
  | limit denotes nonneg => exact ⟨denotes, nonneg⟩
  | floor fraction _ | zero fraction _ _ => exact absurd fraction (plain.whole _ rfl).1

/-- A plain value that is no limit is an error of the configuration. -/
theorem Verdict.isConfig [Room] {failure : Failure} (verdict : Verdict s value (.error failure))
    (plain : value.Plain) : ∃ cause, failure = .error cause ∧ cause.kind = .config := by
  cases verdict with
  | negative _ _ | below _ _ | boolean _ | refused _ _ => exact ⟨_, rfl, rfl⟩
  | infinite _ infinite =>
    rw [(plain.whole _ rfl).2] at infinite
    cases infinite
  | tooDeep container unquoted | unwritable container unquoted _ =>
    obtain ⟨words, quoted⟩ := plain.quotable container
    rw [unquoted] at quoted
    cases quoted

/-! ## Files -/

section

variable {σ : Type} [Files (StateM σ)]

/-- Why no table of settings is read at a path.

* `hidden`, `path`, `unreadable`: the file system does not give the octets;
* `undecodable`: they are no text;
* `malformed`, `beyond`: it is no document, or one beyond a limit of the reader;
* `notTable`: something else has the name of the table. -/
inductive FileFailure [Room] (path : Path) (world : σ) : Failure → Prop
  | hidden {fault : Fault} :
      (Files.exists? (m := StateM σ) path world).1 = .error fault → FileFailure path world (.fault fault)
  | path {after : σ} {fault : Fault} :
      Files.exists? (m := StateM σ) path world = (.ok true, after) →
      (Files.read (m := StateM σ) path after).1 = .error fault → (∀ flaw, fault ≠ .file flaw) →
      FileFailure path world (.fault fault)
  | unreadable {after : σ} {flaw : FileFault} :
      Files.exists? (m := StateM σ) path world = (.ok true, after) →
      (Files.read (m := StateM σ) path after).1 = .error (.file flaw) →
      FileFailure path world (.error (.configUnreadable path.toText))
  | undecodable {bytes : Bytes} {flaw : Utf8.Malformed} :
      (contentsAt (m := StateM σ) path world).1 = .ok (some bytes) → Utf8.decode bytes = .error flaw →
      FileFailure path world (.fault (.undecodable flaw))
  | malformed {bytes : Bytes} {t : Text} :
      (contentsAt (m := StateM σ) path world).1 = .ok (some bytes) → Utf8.decode bytes = .ok t →
      Toml.read t = .error .malformed → FileFailure path world (.error (.configUnreadable path.toText))
  | beyond {bytes : Bytes} {t : Text} {flaw : Toml.Fault} {fault : Fault} :
      (contentsAt (m := StateM σ) path world).1 = .ok (some bytes) → Utf8.decode bytes = .ok t →
      Toml.read t = .error flaw → faultOf path flaw = .fault fault → FileFailure path world (.fault fault)
  | notTable {bytes : Bytes} {t : Text} {members : Toml.Members} {value : Toml} :
      (contentsAt (m := StateM σ) path world).1 = .ok (some bytes) → Utf8.decode bytes = .ok t →
      Toml.read t = .ok members → members.get? tableName = some value → (∀ inner, value ≠ .table inner) →
      FileFailure path world (.error (.configNotTable path.toText))

variable {path : Path} {world : σ}

theorem FileFailure.isConfig [Room] {cause : PolicyError} (failed : FileFailure path world (.error cause)) :
    cause.kind = .config := by
  cases failed <;> rfl

def tableRead [Room] (path : Path) (world : σ) : Except Failure Toml.Members :=
  (contentsAt (m := StateM σ) path world).1 >>= tableFrom path

theorem tableAt_iff [Room] {table : Toml.Members} :
    TableAt path world table ↔ tableRead path world = .ok table :=
  Outcome.bind_eq_ok_iff.symm

theorem contentsAt_failure [Room] {failure : Failure}
    (stopped : (contentsAt (m := StateM σ) path world).1 = .error failure) :
    FileFailure path world failure := by
  rw [contentsAt, Command.then_apply] at stopped
  rcases found : Files.exists? (m := StateM σ) path world with ⟨fault | _ | _, after⟩
  · rw [found] at stopped
    cases stopped
    exact .hidden (congrArg Prod.fst found)
  · rw [found] at stopped
    cases stopped
  · rw [found] at stopped
    dsimp only at stopped
    rw [Command.then_apply] at stopped
    cases read : (Files.read (m := StateM σ) path after).1 with
    | ok contents =>
      rw [read] at stopped
      cases stopped
    | error fault =>
      rw [read] at stopped
      cases fault with
      | file flaw =>
        cases stopped
        exact .unreadable found read
      | _ =>
        cases stopped
        exact .path found read nofun

theorem tableFrom_failure [Room] {contents : Option Bytes} {failure : Failure}
    (held : (contentsAt (m := StateM σ) path world).1 = .ok contents)
    (stopped : tableFrom path contents = .error failure) : FileFailure path world failure := by
  cases contents with
  | none => cases stopped
  | some bytes =>
    rcases Outcome.bind_eq_error_iff.mp stopped with noDocument | ⟨members, read, noTable⟩
    · rcases document_eq_error_iff.mp noDocument with
        ⟨flaw, malformed, rfl⟩ | ⟨t, flaw, decoded, unread, rfl⟩
      · exact .undecodable held malformed
      · cases flaw with
        | malformed => exact .malformed held decoded unread
        | _ => exact .beyond held decoded unread rfl
    · obtain ⟨t, decoded, read⟩ := document_eq_ok_iff.mp read
      obtain ⟨⟨value, entry, other⟩, rfl⟩ := tableOf_eq_error_iff.mp noTable
      exact .notTable held decoded read entry other

theorem tableRead_of_contents [Room] {contents : Option Bytes}
    (held : (contentsAt (m := StateM σ) path world).1 = .ok contents) :
    tableRead path world = tableFrom path contents := by
  rw [tableRead, held]
  rfl

/-- Without a document there is no table. -/
theorem tableRead_of_document [Room] {bytes : Bytes} {failure : Failure}
    (held : (contentsAt (m := StateM σ) path world).1 = .ok (some bytes))
    (stopped : document path bytes = .error failure) : tableRead path world = .error failure := by
  rw [tableRead_of_contents held]
  exact Outcome.bind_eq_error_iff.mpr (.inl stopped)

/-- No table of settings is read for just these reasons. -/
theorem fileFailure_iff [Room] {failure : Failure} :
    FileFailure path world failure ↔ tableRead path world = .error failure := by
  constructor
  · intro failed
    cases failed with
    | hidden unknown =>
      rw [tableRead, contentsAt, Command.then_apply, unknown]
      rfl
    | @path after fault found unread other =>
      rw [tableRead, contentsAt, Command.then_apply, found]
      dsimp only
      rw [Command.then_apply, unread]
      cases fault with
      | file flaw => exact absurd rfl (other flaw)
      | _ => rfl
    | unreadable found unread =>
      rw [tableRead, contentsAt, Command.then_apply, found]
      dsimp only
      rw [Command.then_apply, unread]
      rfl
    | @undecodable bytes flaw held malformed =>
      exact tableRead_of_document held (document_eq_error_iff.mpr (.inl ⟨flaw, malformed, rfl⟩))
    | @malformed bytes t held decoded unread =>
      exact tableRead_of_document held
        (document_eq_error_iff.mpr (.inr ⟨t, .malformed, decoded, unread, rfl⟩))
    | @beyond bytes t flaw fault held decoded unread beyond =>
      exact tableRead_of_document held
        (document_eq_error_iff.mpr (.inr ⟨t, flaw, decoded, unread, beyond.symm⟩))
    | @notTable bytes t members value held decoded read entry other =>
      rw [tableRead_of_contents held]
      have noTable : tableOf path members = .error (.error (.configNotTable path.toText)) :=
        tableOf_eq_error_iff.mpr ⟨⟨value, entry, other⟩, rfl⟩
      exact Outcome.bind_eq_error_iff.mpr
        (.inr ⟨members, document_eq_ok_iff.mpr ⟨t, decoded, read⟩, noTable⟩)
  · intro stopped
    rcases Outcome.bind_eq_error_iff.mp stopped with unread | ⟨contents, held, noTable⟩
    · exact contentsAt_failure unread
    · exact tableFrom_failure held noTable

/-! ## Loads -/

/-- What a load comes to, where the file of the settings is at a path.

* `limits`: each limit is what the value comes to that decides the setting;
* `setting`: a setting has a value that comes to no limit;
* `file`: there is no table of settings. -/
inductive LoadOutcome [Room] (path : Path) (vars : Variables) (world : σ) : Except Failure Limits → Prop
  | limits {table : Toml.Members} {l : Limits} :
      TableAt path world table →
      (∀ s, match effective table vars s with
        | some value => ∃ n, Verdict s value (.ok n) ∧ limitAt l s = some n
        | none => limitAt l s = none) →
      LoadOutcome path vars world (.ok l)
  | setting {table : Toml.Members} {s : Setting} {value : Toml} {failure : Failure} :
      TableAt path world table → effective table vars s = some value → Verdict s value (.error failure) →
      LoadOutcome path vars world (.error failure)
  | file {failure : Failure} : FileFailure path world failure → LoadOutcome path vars world (.error failure)

/-- Limits come of the settings each on its own, and so does the failure of one of them. -/
theorem outcome_of_table [Room] {vars : Variables} {table : Toml.Members} (present : TableAt path world table) :
    LoadOutcome path vars world (limits (settings table vars)) := by
  cases loaded : limits (settings table vars) with
  | ok l =>
    refine .limits present fun s => ?_
    have decided := limits_eq_ok_iff.mp loaded s
    cases value : effective table vars s with
    | none => rwa [value] at decided
    | some value' =>
      rw [value] at decided
      obtain ⟨n, stands, limit⟩ := decided
      exact ⟨n, limitOf_eq_iff.mp stands, limit⟩
  | error failure =>
    obtain ⟨s, value, decisive, refused⟩ := exists_refused loaded
    exact .setting present decisive (limitOf_eq_iff.mp refused)

theorem load_eq [Room] (env : Environment) (vars : Variables) (given : Option Path) (world : σ) :
    (load (m := StateM σ) env vars given world).1 =
      tableRead (pathOf env vars given) world >>= fun table => limits (settings table vars) := by
  rw [load, Command.then_apply, tableRead]
  cases (contentsAt (m := StateM σ) (pathOf env vars given) world).1 with
  | error failure => rfl
  | ok contents => exact limitsOf_eq _ _ _

theorem load_outcome [Room] (env : Environment) (vars : Variables) (given : Option Path) (world : σ) :
    LoadOutcome (pathOf env vars given) vars world (load (m := StateM σ) env vars given world).1 := by
  rw [load_eq]
  cases read : tableRead (pathOf env vars given) world with
  | error failure => exact .file (fileFailure_iff.mpr read)
  | ok table => exact outcome_of_table (tableAt_iff.mpr read)

/-- Only what denotes an integer that is not negative is a limit, and anything else is an error of the
configuration, but for fractions, infinite numbers, and what meets a limit of a reader or of a message.

The three parts say what a load comes to, in terms of what each value comes to; that this is just what it
comes to; and what follows if octets are to be had, are a document, and the values that decide are plain. -/
theorem limits_denoted [Room] :
    (∀ (env : Environment) (vars : Variables) (given : Option Path) (world : σ),
      LoadOutcome (pathOf env vars given) vars world (load (m := StateM σ) env vars given world).1) ∧
    (∀ (s : Setting) (value : Toml) (result : Except Failure Int),
      limitOf s value = result ↔ Verdict s value result) ∧
    ∀ (env : Environment) (vars : Variables) (given : Option Path) (world : σ),
      (∀ fault, ¬ FileFailure (pathOf env vars given) world (.fault fault)) →
      (∀ table s value, TableAt (pathOf env vars given) world table →
        effective table vars s = some value → value.Plain) →
      (∃ l table, (load (m := StateM σ) env vars given world).1 = .ok l ∧
        TableAt (pathOf env vars given) world table ∧
        ∀ s, match effective table vars s with
          | some value => ∃ n, value.Denotes n ∧ 0 ≤ n ∧ limitAt l s = some n
          | none => limitAt l s = none) ∨
      ∃ cause, (load (m := StateM σ) env vars given world).1 = .error (.error cause) ∧
        cause.kind = .config := by
  refine ⟨load_outcome, fun s value result => limitOf_eq_iff, ?_⟩
  intro env vars given world orderly plain
  have outcome := load_outcome env vars given world
  generalize (load (m := StateM σ) env vars given world).1 = result at outcome ⊢
  cases outcome with
  | @limits table l present each =>
    refine .inl ⟨l, table, rfl, present, fun s => ?_⟩
    have here := each s
    cases decisive : effective table vars s with
    | none => rwa [decisive] at here
    | some value =>
      rw [decisive] at here
      obtain ⟨n, verdict, limit⟩ := here
      obtain ⟨denotes, nonneg⟩ := verdict.denotes (plain table s value present decisive)
      exact ⟨n, denotes, nonneg, limit⟩
  | setting present decisive verdict =>
    obtain ⟨cause, rfl, kind⟩ := verdict.isConfig (plain _ _ _ present decisive)
    exact .inr ⟨cause, rfl, kind⟩
  | @file failure failed =>
    cases failure with
    | error cause => exact .inr ⟨cause, rfl, failed.isConfig⟩
    | fault fault => exact absurd failed (orderly fault)

end

section

attribute [local instance] Room.usual

def onlyPath : Path := ⟨.relative, ["config.toml"]⟩

/-- An integer in the file, and another one in a variable, are plain, and they are the limits. -/
theorem plain_values_denoted :
    let world := fileWorld (octetsOf "[runtime]\nfuel = 7\n")
    (∀ fault, ¬ FileFailure onlyPath world (.fault fault)) ∧
      (∀ table s value, TableAt onlyPath world table → effective table memoryAlone s = some value →
        value.Plain) ∧
      ((∃ l table, (load (m := StateM World) ⟨[], []⟩ memoryAlone (some onlyPath) world).1 = .ok l ∧
        TableAt onlyPath world table ∧
        ∀ s, match effective table memoryAlone s with
          | some value => ∃ n, value.Denotes n ∧ 0 ≤ n ∧ limitAt l s = some n
          | none => limitAt l s = none) ∨
      ∃ cause, (load (m := StateM World) ⟨[], []⟩ memoryAlone (some onlyPath) world).1 =
        .error (.error cause) ∧ cause.kind = .config) ∧
      (load (m := StateM World) ⟨[], []⟩ memoryAlone (some onlyPath) world).1 = .ok ⟨some 7, some 64⟩ := by
  intro world
  have present : TableAt onlyPath world fuelAlone := tableAt_iff.mpr (eq_of_isTable (by decide +kernel))
  have orderly : ∀ fault, ¬ FileFailure onlyPath world (.fault fault) := by
    intro fault failed
    cases (tableAt_iff.mp present).symm.trans (fileFailure_iff.mp failed)
  have plain : ∀ table s value, TableAt onlyPath world table → effective table memoryAlone s = some value →
      value.Plain := by
    intro table s value present' decisive
    obtain rfl := Except.ok.inj ((tableAt_iff.mp present).symm.trans (tableAt_iff.mp present'))
    refine .of_leaf ?_ fun x float => ?_
    · cases s <;> cases decisive <;> rfl
    · subst float
      cases s <;> cases decisive
  exact ⟨orderly, plain, limits_denoted.2.2 _ _ (some onlyPath) _ orderly plain, by decide +kernel⟩

/-- Three halves denote no integer. -/
theorem not_denotes_three_halves (n : Int) : ¬ (Toml.float 1.5).Denotes n := by
  have bits : Decimal.Binary.ofBits (1.5 : Float).toBits = ⟨3 * 2 ^ 51, -52, false⟩ := by decide +kernel
  have nonneg : ¬ (1.5 : Float) < 0 := by decide +kernel
  have amount : Json.rational 1.5 = 3 / 2 := by
    rw [Json.rational, if_neg nonneg, bits, Decimal.Binary.toRat]
    norm_num
  rintro (_ | ⟨-, whole⟩)
  rw [amount, div_eq_iff two_ne_zero] at whole
  have : (3 : Int) = n * 2 := by exact_mod_cast whole
  omega

/-- A fraction counts although it denotes no integer, even below zero, and neither an infinite number nor an
octet that is no text is an error of the configuration. -/
theorem fraction_counts :
    let loaded := fun contents =>
      (load (m := StateM World) ⟨[], []⟩ [] (some onlyPath) (fileWorld contents)).1
    TableAt onlyPath (fileWorld (octetsOf "[runtime]\nfuel = 1.5\n")) [(Setting.name .fuel, .float 1.5)] ∧
      (∀ n, ¬ (Toml.float 1.5).Denotes n) ∧
      loaded (octetsOf "[runtime]\nfuel = 1.5\n") = .ok ⟨some 1, none⟩ ∧
      loaded (octetsOf "[runtime]\nfuel = -0.5\n") = .ok ⟨some 0, none⟩ ∧
      loaded (octetsOf "[runtime]\nfuel = inf\n") = .error (.fault .infiniteNumber) ∧
      loaded [0xFF] = .error (.fault (.undecodable ⟨.start, 0xFF, 0, 1⟩)) :=
  ⟨tableAt_iff.mpr (eq_of_isTable (by decide +kernel)), not_denotes_three_halves, by decide +kernel,
    by decide +kernel, by decide +kernel, by decide +kernel⟩

end

end Config

end PolicyHost
