import PolicyHost.Config
import PolicyHost.Proofs.Outcome

/-!
# Why limits are not read

The octets of a configuration file and the variables give limits or an error of the configuration, save
for a few faults: octets that are no text, a document at which a limit of its reader is met, and values
for a limit that are infinite or cannot be repeated in a message.

* `Toml.Unusable`: values that are no limit and lead to a fault.
* `Config.document_eq_error_iff`, `Config.tableOf_eq_error_iff`: octets that are no document, and documents
  without a table.
* `Config.LimitsFailure`: what octets and variables fail with; `limitsOf_failure`.
-/

namespace PolicyHost

variable [Room]

/-- The faults of a value that is given for a limit: it is infinite, or it is no integer and the message
cannot repeat it. -/
inductive Toml.Unusable (value : Toml) : PolicyHost.Fault → Prop
  | infinite {x : Float} : value = .float x → x.isInf = true → Unusable value .infiniteNumber
  | tooDeep : value.quoted = .error .tooDeep → Unusable value .tooDeep
  | unwritable {flaw : Toml.Fault} :
      value.quoted = .error flaw → flaw ≠ .tooDeep → Unusable value .unwritableInteger

namespace Config

/-- The table of settings in the octets of a file, if there is one. -/
def tableFrom (path : Path) : Option Bytes → Except Failure Toml.Members
  | some bytes => document path bytes >>= tableOf path
  | none => tableOf path []

/-- What the octets of a file, if there is one, and variables fail with.

* `error`: an error of the configuration;
* `undecodable`: the octets are no text;
* `document`: the text lies beyond a limit of the reader;
* `setting`: a setting of the table in the file, or of the variables, has a value that leads to a
  fault. -/
inductive LimitsFailure (path : Path) (contents : Option Bytes) (vars : Variables) : Failure → Prop
  | error {cause : PolicyError} : cause.kind = .config → LimitsFailure path contents vars (.error cause)
  | undecodable {bytes : Bytes} {fault : Utf8.Malformed} :
      contents = some bytes → Utf8.decode bytes = .error fault →
      LimitsFailure path contents vars (.fault (.undecodable fault))
  | document {bytes : Bytes} {t : Text} {flaw : Toml.Fault} {fault : Fault} :
      contents = some bytes → Utf8.decode bytes = .ok t → Toml.read t = .error flaw →
      faultOf path flaw = .fault fault → LimitsFailure path contents vars (.fault fault)
  | setting {table : Toml.Members} {s : Setting} {value : Toml} {fault : Fault} :
      tableFrom path contents = .ok table → (s, value) ∈ settings table vars → value.Unusable fault →
      LimitsFailure path contents vars (.fault fault)

/-! ## Values -/

/-- A value that is no limit is an error of the configuration, or it leads to a fault. -/
def Refuses (value : Toml) (failure : Failure) : Prop :=
  (∃ cause, failure = .error cause ∧ cause.kind = .config) ∨
    ∃ fault, failure = .fault fault ∧ value.Unusable fault

theorem refuse_refuses (s : Setting) (value : Toml) : Refuses value (refuse s value) := by
  unfold refuse
  cases quoted : value.quoted with
  | ok words => exact .inl ⟨_, rfl, rfl⟩
  | error flaw =>
    cases flaw with
    | tooDeep => exact .inr ⟨_, rfl, .tooDeep quoted⟩
    | _ => exact .inr ⟨_, rfl, .unwritable quoted nofun⟩

theorem integerOf_refuses {s : Setting} {value : Toml} {failure : Failure}
    (stopped : integerOf s value = .error failure) : Refuses value failure := by
  unfold integerOf at stopped
  split at stopped
  · cases stopped
    exact .inl ⟨_, rfl, rfl⟩
  · cases stopped
  · next x =>
    split at stopped
    · cases stopped
      exact refuse_refuses s _
    · split at stopped
      · next infinite =>
        cases stopped
        exact .inr ⟨_, rfl, .infinite rfl infinite⟩
      · cases stopped
  · split at stopped
    · cases stopped
    · cases stopped
      exact refuse_refuses s _
  · cases stopped
    exact refuse_refuses s value

theorem limitOf_refuses {s : Setting} {value : Toml} {failure : Failure}
    (stopped : limitOf s value = .error failure) : Refuses value failure := by
  rcases Outcome.bind_eq_error_iff.mp stopped with first | ⟨n, -, second⟩
  · exact integerOf_refuses first
  · split at second
    · cases second
      exact .inl ⟨_, rfl, rfl⟩
    · cases second

/-- Settings give limits, unless one of them has a value that is no limit. -/
theorem exists_of_limits_eq_error {given : Table Setting Toml} {failure : Failure}
    (stopped : limits given = .error failure) :
    ∃ entry ∈ given, limitOf entry.1 entry.2 = .error failure := by
  obtain ⟨before, entry, after, reached, rfl, -, failed⟩ := Outcome.foldlM_eq_error stopped
  refine ⟨entry, List.mem_append_right before List.mem_cons_self, ?_⟩
  rcases Outcome.bind_eq_error_iff.mp failed with refused | ⟨n, -, ⟨⟩⟩
  exact refused

/-! ## Documents -/

/-- Octets are no document if they are no text, or the text cannot be read. -/
theorem document_eq_error_iff {path : Path} {bytes : Bytes} {failure : Failure} :
    document path bytes = .error failure ↔
      (∃ flaw, Utf8.decode bytes = .error flaw ∧ failure = .fault (.undecodable flaw)) ∨
        ∃ t flaw, Utf8.decode bytes = .ok t ∧ Toml.read t = .error flaw ∧ failure = faultOf path flaw := by
  constructor
  · intro stopped
    unfold document at stopped
    split at stopped
    · next flaw malformed =>
      cases stopped
      exact .inl ⟨flaw, malformed, rfl⟩
    · next t decoded =>
      obtain ⟨flaw, unread, rfl⟩ := Outcome.mapError_eq_error_iff.mp stopped
      exact .inr ⟨t, flaw, decoded, unread, rfl⟩
  · rintro (⟨flaw, malformed, rfl⟩ | ⟨t, flaw, decoded, unread, rfl⟩)
    · rw [document, malformed]
    · rw [document, decoded]
      exact Outcome.mapError_eq_error_iff.mpr ⟨flaw, unread, rfl⟩

theorem document_eq_ok_iff {path : Path} {bytes : Bytes} {members : Toml.Members} :
    document path bytes = .ok members ↔ ∃ t, Utf8.decode bytes = .ok t ∧ Toml.read t = .ok members := by
  constructor
  · intro read
    unfold document at read
    split at read
    · cases read
    · next t decoded => exact ⟨t, decoded, Outcome.mapError_eq_ok_iff.mp read⟩
  · rintro ⟨t, decoded, read⟩
    rw [document, decoded]
    exact Outcome.mapError_eq_ok_iff.mpr read

omit [Room] in
/-- A document has no table of settings if something else has its name. -/
theorem tableOf_eq_error_iff {path : Path} {members : Toml.Members} {failure : Failure} :
    tableOf path members = .error failure ↔
      (∃ value, members.get? tableName = some value ∧ ∀ inner, value ≠ .table inner) ∧
        failure = .error (.configNotTable path.toText) := by
  unfold tableOf
  constructor
  · intro stopped
    split at stopped
    · cases stopped
    · cases stopped
    · next value other entry =>
      cases stopped
      exact ⟨⟨value, entry, other⟩, rfl⟩
  · rintro ⟨⟨value, entry, other⟩, rfl⟩
    rw [entry]
    cases value with
    | table inner => exact absurd rfl (other inner)
    | _ => rfl

theorem document_failure {path : Path} {bytes : Bytes} {vars : Variables} {failure : Failure}
    (stopped : document path bytes = .error failure) : LimitsFailure path (some bytes) vars failure := by
  rcases document_eq_error_iff.mp stopped with ⟨flaw, malformed, rfl⟩ | ⟨t, flaw, decoded, unread, rfl⟩
  · exact .undecodable rfl malformed
  · cases flaw with
    | malformed => exact .error rfl
    | _ => exact .document rfl decoded unread rfl

/-- Octets and variables give limits, or they fail in one of the ways given. -/
theorem limitsOf_failure {path : Path} {contents : Option Bytes} {vars : Variables} {failure : Failure}
    (stopped : limitsOf path contents vars = .error failure) :
    LimitsFailure path contents vars failure := by
  have beyond : ∀ members, (∀ table, tableOf path members = .ok table → tableFrom path contents = .ok table) →
      (tableOf path members >>= fun table => limits (settings table vars)) = .error failure →
      LimitsFailure path contents vars failure := by
    intro members source stopped
    rcases Outcome.bind_eq_error_iff.mp stopped with noTable | ⟨table, found, refused⟩
    · obtain ⟨-, rfl⟩ := tableOf_eq_error_iff.mp noTable
      exact .error rfl
    · obtain ⟨⟨s, value⟩, member, stopped⟩ := exists_of_limits_eq_error refused
      rcases limitOf_refuses stopped with ⟨cause, rfl, kind⟩ | ⟨fault, rfl, unusable⟩
      · exact .error kind
      · exact .setting (source table found) member unusable
  cases contents with
  | none => exact beyond [] (fun _ found => found) stopped
  | some bytes =>
    rcases Outcome.bind_eq_error_iff.mp stopped with unread | ⟨members, read, later⟩
    · exact document_failure unread
    · exact beyond members (fun _ found => Outcome.bind_eq_ok_iff.mpr ⟨members, read, found⟩) later

end Config

end PolicyHost
