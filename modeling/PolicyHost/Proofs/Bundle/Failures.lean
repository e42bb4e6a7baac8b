import PolicyHost.Proofs.Bundle.Merge
import PolicyHost.Proofs.Json.Encode
import PolicyHost.Proofs.Value.Border

/-!
# Why a bundle is not parsed

A bundle that is not parsed is an error of bundles, unless a manifest or a data document lies beyond a
limit of the reader: then the fault of the reader leaves the parser. Archives add faults of their own,
which the reader of the archive raises.

* `Bundle.IsDocument`: the members that are read as documents.
* `Bundle.Parses`: what reading a document may come to; `parseDocument_parses`, `parseObject_parses`.
* `Bundle.File.Stops`: why a file is not taken in; `Draft.add_cases` for one file, `foldlM_add_cases`
  for files one after another.
* `Bundle.ParseFailure`, `parse_failure`: why octets are no bundle.
* `Bundle.parsing_failures`: members at hand, and octets.
* `Bundle.longManifest_fault`: a manifest that holds an integer of too many digits.
-/

namespace PolicyHost

namespace Bundle

/-- A member of this name is read as a document: the manifest, or a data document. -/
def IsDocument (name : Text) : Prop :=
  memberPath name = manifestName ∨ (Path.ofText (memberPath name)).name = dataName

/-- What reading a document of a bundle may come to. If it is read it lies within the limits of the
reader; if not, there is an error of bundles, or it lies beyond a limit. -/
def Parses [Room] {α : Type} (contents : Bytes) : Except Failure α → Prop
  | .ok _ => ∀ fault, ¬ BeyondLimits contents fault
  | .error (.error cause) => cause.kind = .bundle
  | .error (.fault fault) => BeyondLimits contents fault

theorem parseDocument_parses [Room] (path : Text) (contents : Bytes) :
    Parses contents (parseDocument path contents) := by
  have reading := Json.readOctets_cases contents (.memberJson path)
  unfold parseDocument
  cases read : Json.readOctets contents with
  | ok document =>
    rw [read] at reading
    exact reading
  | error flaw =>
    rw [read] at reading
    dsimp only at reading ⊢
    cases failed : flaw.failure (.memberJson path) with
    | error cause =>
      rw [failed] at reading
      cases reading
      rfl
    | fault fault =>
      rw [failed] at reading
      exact reading

theorem parseObject_parses [Room] (path : Text) (contents : Bytes) :
    Parses contents (parseObject path contents) := by
  have document := parseDocument_parses path contents
  unfold parseObject
  cases parsed : parseDocument path contents with
  | error failure =>
    rw [parsed] at document
    cases failure <;> exact document
  | ok json =>
    rw [parsed] at document
    cases json with
    | object members => exact document
    | _ => rfl

theorem distinct_of_parsed [Room] {path : Text} {contents : Bytes} {document : Json}
    (parsed : parseDocument path contents = .ok document) : document.Distinct := by
  unfold parseDocument at parsed
  split at parsed
  · next read =>
    cases parsed
    exact Json.readOctets_distinct read
  · cases parsed

theorem kind_of_isDataConflict {cause : PolicyError} (conflict : cause.isDataConflict = true) :
    cause.kind = .bundle := by
  cases cause <;> first | rfl | cases conflict

/-- Merging fails with errors of bundles only. -/
theorem mergeAt_kind {path : Text} {tree : Json.Members} {directories : List Text} {document : Json}
    (distinct : document.Distinct) {cause : PolicyError}
    (stopped : mergeAt path tree directories document = .error cause) : cause.kind = .bundle := by
  by_cases rooted : Rooted directories document
  · have unites := mergeAt_unites path rooted distinct tree
    rw [stopped] at unites
    exact kind_of_isDataConflict unites.1
  · obtain ⟨rfl, leaf⟩ := Classical.not_imp.mp rooted
    cases document with
    | object members => exact absurd rfl leaf
    | _ =>
      cases stopped
      rfl

/-! ## Files -/

/-- Why a file is not taken in: its contents are asked for and missing, or they are read as a document
and lie beyond a limit of the reader. -/
inductive File.Stops [Room] (file : File) : Failure → Prop
  | missing {failure : Failure} :
      memberPath file.name = policyName ∨ IsDocument file.name → file.contents = .error failure →
      Stops file failure
  | beyond {contents : Bytes} {fault : Fault} :
      IsDocument file.name → file.contents = .ok contents → BeyondLimits contents fault →
      Stops file (.fault fault)

/-- The bytecode is no document. -/
theorem not_isDocument_of_policy {name : Text} (policy : memberPath name = policyName) :
    ¬ IsDocument name := by
  rw [IsDocument, policy]
  decide

/-- A document is read and used; what stops either stops the file. -/
theorem document_cases [Room] {file : File} {α : Type} (document : IsDocument file.name)
    {read : Bytes → Except Failure α} (parses : ∀ contents, Parses contents (read contents))
    (use : α → Except Failure Draft)
    (sound : ∀ contents value failure, read contents = .ok value → use value = .error failure →
      ∃ cause, failure = .error cause ∧ cause.kind = .bundle) :
    match (do use (← read (← file.contents)) : Except Failure Draft) with
    | .ok _ => ∀ failure, ¬ file.Stops failure
    | .error failure => (∃ cause, failure = .error cause ∧ cause.kind = .bundle) ∨ file.Stops failure := by
  cases held : file.contents with
  | error failure => exact .inr (.missing (.inr document) held)
  | ok contents =>
    have reading := parses contents
    change match (read contents >>= use) with
      | .ok _ => ∀ failure, ¬ file.Stops failure
      | .error failure => (∃ cause, failure = .error cause ∧ cause.kind = .bundle) ∨ file.Stops failure
    cases parsed : read contents with
    | error failure =>
      rw [parsed] at reading
      cases failure with
      | error cause => exact .inl ⟨cause, rfl, reading⟩
      | fault fault => exact .inr (.beyond document held reading)
    | ok value =>
      rw [parsed] at reading
      change match use value with
        | .ok _ => ∀ failure, ¬ file.Stops failure
        | .error failure => (∃ cause, failure = .error cause ∧ cause.kind = .bundle) ∨ file.Stops failure
      cases used : use value with
      | error failure => exact .inl (sound contents value failure parsed used)
      | ok draft =>
        rintro failure (⟨-, missing⟩ | ⟨-, same, beyond⟩)
        · cases held.symm.trans missing
        · cases held.symm.trans same
          exact reading _ beyond

/-- What one file comes to. -/
theorem Draft.add_cases [Room] (d : Draft) (file : File) :
    match d.add file with
    | .ok _ => ∀ failure, ¬ file.Stops failure
    | .error failure => (∃ cause, failure = .error cause ∧ cause.kind = .bundle) ∨ file.Stops failure := by
  unfold Draft.add
  by_cases policy : memberPath file.name = policyName
  · simp only [if_pos policy]
    cases held : file.contents with
    | error failure => exact .inr (.missing (.inl policy) held)
    | ok contents =>
      rintro failure (⟨-, missing⟩ | ⟨document, -, -⟩)
      · cases held.symm.trans missing
      · exact not_isDocument_of_policy policy document
  simp only [if_neg policy]
  by_cases manifest : memberPath file.name = manifestName
  · simp only [if_pos manifest]
    refine document_cases (.inl manifest) (parseObject_parses _) (fun manifest => .ok { d with manifest }) ?_
    rintro contents value failure - ⟨⟩
  simp only [if_neg manifest]
  by_cases data : (Path.ofText (memberPath file.name)).name = dataName
  · simp only [if_pos data]
    refine document_cases (.inr data) (parseDocument_parses _) (d.addData (memberPath file.name)) ?_
    intro contents document failure parsed stopped
    unfold Draft.addData at stopped
    split at stopped
    · cases stopped
    · next cause merging =>
      cases stopped
      exact ⟨cause, rfl, mergeAt_kind (distinct_of_parsed parsed) merging⟩
  · simp only [if_neg data]
    rintro failure (⟨counts, -⟩ | ⟨document, -, -⟩)
    · exact (counts.resolve_left policy).elim manifest data
    · exact document.elim manifest data

/-- What files come to, one after another: if they are taken in, nothing stops one of them; if not, there
is an error of bundles, or one of them is stopped. -/
theorem foldlM_add_cases [Room] (files : List File) (d : Draft) :
    match files.foldlM Draft.add d with
    | .ok _ => ∀ file ∈ files, ∀ failure, ¬ file.Stops failure
    | .error failure =>
      (∃ cause, failure = .error cause ∧ cause.kind = .bundle) ∨ ∃ file ∈ files, file.Stops failure := by
  cases done : files.foldlM Draft.add d with
  | ok final =>
    intro file member
    obtain ⟨reached, next, added⟩ := Outcome.foldlM_eq_ok done file member
    have step := reached.add_cases file
    rwa [added] at step
  | error failure =>
    obtain ⟨before, file, after, reached, rfl, -, stopped⟩ := Outcome.foldlM_eq_error done
    have step := reached.add_cases file
    rw [stopped] at step
    exact step.imp_right fun stops =>
      ⟨file, List.mem_append_right before List.mem_cons_self, stops⟩

/-- What the files of an archive come to. -/
theorem ofFiles_cases [Room] (files : List File) (ending : Option Failure) :
    match ofFiles files ending with
    | .ok _ => ending = none ∧ ∀ file ∈ files, ∀ failure, ¬ file.Stops failure
    | .error failure =>
      (∃ cause, failure = .error cause ∧ cause.kind = .bundle) ∨ ending = some failure ∨
        ∃ file ∈ files, file.Stops failure := by
  have taken := foldlM_add_cases files ⟨none, [], []⟩
  unfold ofFiles
  cases done : files.foldlM Draft.add ⟨none, [], []⟩ with
  | error failure =>
    rw [done] at taken
    exact taken.imp_right .inr
  | ok draft =>
    rw [done] at taken
    cases ending with
    | some failure => exact .inr (.inl rfl)
    | none =>
      obtain ⟨policy, manifest, data⟩ := draft
      cases policy with
      | none => exact .inl ⟨.missingPolicy, rfl, rfl⟩
      | some bytecode => exact ⟨rfl, taken⟩

/-! ## Members and archives -/

/-- The files among members with their contents at hand. -/
def atHand (members : List (Archive.Member × Bytes)) : List File :=
  (members.filter fun m => m.1.isFile).map fun m => ⟨m.1.name, .ok m.2⟩

theorem mem_atHand {members : List (Archive.Member × Bytes)} {file : File} :
    file ∈ atHand members ↔ ∃ m ∈ members, m.1.isFile = true ∧ file = ⟨m.1.name, .ok m.2⟩ := by
  simp only [atHand, List.mem_map, List.mem_filter, and_assoc, eq_comm]

theorem kind_of_archiveFailure {origin : Archive.Fault} {cause : PolicyError}
    (failure : archiveFailure origin = .error cause) : cause.kind = .bundle := by
  cases origin <;> cases failure
  rfl

theorem ending_of_filesOf [Archives] {raw : Bytes} {failure : Failure}
    (ending : (filesOf raw).2 = some failure) :
    ∃ origin, archiveFailure origin = failure := by
  obtain ⟨origin, -, same⟩ := Option.map_eq_some_iff.mp ending
  exact ⟨origin, same⟩

theorem missing_of_filesOf [Archives] {raw : Bytes} {file : File} (member : file ∈ (filesOf raw).1)
    {failure : Failure} (missing : file.contents = .error failure) :
    ∃ origin, archiveFailure origin = failure := by
  obtain ⟨m, -, rfl⟩ := List.mem_map.mp member
  obtain ⟨origin, -, same⟩ := Outcome.mapError_eq_error_iff.mp missing
  exact ⟨origin, same⟩

/-- What octets fail with that are no bundle.

* `error`: an error of bundles;
* `ending`, `member`: a fault that the reader of the archive raises, where it ends or at a file;
* `document`: a document lies beyond a limit of the reader. -/
inductive ParseFailure [Room] [Archives] (raw : Bytes) : Failure → Prop
  | error {cause : PolicyError} : cause.kind = .bundle → ParseFailure raw (.error cause)
  | ending {fault : Fault} : (filesOf raw).2 = some (.fault fault) → ParseFailure raw (.fault fault)
  | member {file : File} {fault : Fault} :
      file ∈ (filesOf raw).1 → file.contents = .error (.fault fault) → ParseFailure raw (.fault fault)
  | document {file : File} {contents : Bytes} {fault : Fault} :
      file ∈ (filesOf raw).1 → IsDocument file.name → file.contents = .ok contents →
      BeyondLimits contents fault → ParseFailure raw (.fault fault)

theorem parse_failure [Room] [Archives] {raw : Bytes} {failure : Failure}
    (stopped : parse raw = .error failure) :
    ParseFailure raw failure := by
  have files := ofFiles_cases (filesOf raw).1 (filesOf raw).2
  rw [show ofFiles (filesOf raw).1 (filesOf raw).2 = .error failure from stopped] at files
  rcases files with ⟨cause, rfl, kind⟩ | ended | ⟨file, inside, ⟨-, missing⟩ | ⟨document, same, beyond⟩⟩
  · exact .error kind
  · obtain ⟨origin, same⟩ := ending_of_filesOf ended
    cases failure with
    | error cause => exact .error (kind_of_archiveFailure same)
    | fault fault => exact .ending ended
  · obtain ⟨origin, same⟩ := missing_of_filesOf inside missing
    cases failure with
    | error cause => exact .error (kind_of_archiveFailure same)
    | fault fault => exact .member inside missing
  · exact .document inside document same beyond

theorem parse_ok [Room] [Archives] {raw : Bytes} {bundle : Bundle} (done : parse raw = .ok bundle) :
    (filesOf raw).2 = none ∧ ∀ file ∈ (filesOf raw).1, ∀ failure, ¬ file.Stops failure := by
  have files := ofFiles_cases (filesOf raw).1 (filesOf raw).2
  rwa [show ofFiles (filesOf raw).1 (filesOf raw).2 = .ok bundle from done] at files

/-- Members at hand make a bundle or an error of bundles, unless a document lies beyond a limit of the
reader; they make a bundle only if no document does. Octets make a bundle only if nothing stops a file
in them, or they fail in one of the ways given. -/
theorem parsing_failures [Room] [Archives] (members : List (Archive.Member × Bytes)) (raw : Bytes) :
    (match ofFiles (atHand members) none with
      | .ok _ =>
        ∀ m ∈ members, m.1.isFile = true → IsDocument m.1.name → ∀ fault, ¬ BeyondLimits m.2 fault
      | .error (.error cause) => cause.kind = .bundle
      | .error (.fault fault) =>
        ∃ m ∈ members, m.1.isFile = true ∧ IsDocument m.1.name ∧ BeyondLimits m.2 fault) ∧
    (match parse raw with
      | .ok _ => (filesOf raw).2 = none ∧ ∀ file ∈ (filesOf raw).1, ∀ failure, ¬ file.Stops failure
      | .error failure => ParseFailure raw failure) := by
  constructor
  · have files := ofFiles_cases (atHand members) none
    cases done : ofFiles (atHand members) none with
    | ok bundle =>
      rw [done] at files
      intro m member isFile document fault beyond
      exact files.2 _ (mem_atHand.mpr ⟨m, member, isFile, rfl⟩) _ (.beyond document rfl beyond)
    | error failure =>
      rw [done] at files
      rcases files with ⟨cause, rfl, kind⟩ | ending | ⟨file, member, stops⟩
      · exact kind
      · cases ending
      · obtain ⟨m, inside, isFile, rfl⟩ := mem_atHand.mp member
        rcases stops with ⟨-, missing⟩ | ⟨document, same, beyond⟩
        · cases missing
        · cases same
          exact ⟨m, inside, isFile, document, beyond⟩
  · cases done : parse raw with
    | ok bundle => exact parse_ok done
    | error failure => exact parse_failure done

/-! ## A manifest beyond a limit -/

open Json

/-- An object of one member, an integer of these digits. -/
def integerDocument (digits : Text) : Text := 0x7B :: '"' :: 'a' :: '"' :: ':' :: (digits ++ [0x7D])

theorem read_integerDocument [Room] (room : 0 < Room.documents) {t : Text} (digits : ∀ c ∈ t, c.isDigit = true)
    (first : t.head? ≠ some ('0' : CodePoint)) (long : maxDigits < t.length) :
    Json.read (integerDocument t) = .error (.longInteger t.length) := by
  have nonempty : t ≠ [] := List.length_pos_iff.mp (Nat.zero_lt_of_lt long)
  have points : Numeric t := fun c member => isNumeralPoint_of_isDigit (digits c member)
  let stopped : Except Halt Reader := .error (.longInteger t.length)
  have number : ComesTo ⟨[.member [] ['a']], .value false⟩ (t ++ [0x7D]) stopped := by
    refine .halt (begins_numeral (spells_digits digits nonempty first) points (apart_cons (by decide) []))
      fun start => ?_
    change (Json.Numeral.value _).map _ = _
    rw [value_digits long]
    rfl
  let behind : Text := ':' :: (t ++ [0x7D])
  have colon : ComesTo ⟨[], .colon [] ['a']⟩ behind stopped :=
    .lexeme (begins_mark _ rfl fun _ => rfl) (fun _ => rfl) number
  have quoted : Begins (quoteWith plainPoint ['a'] ++ behind) (.string ['a']) behind :=
    begins_quoteWith (fun c _ => recovers_plainPoint c) _
  have name : ComesTo ⟨[], .name [] true⟩ (quoteWith plainPoint ['a'] ++ behind) stopped :=
    .lexeme quoted (fun _ => rfl) colon
  have runs : ComesTo ⟨[], .value false⟩ (integerDocument t) stopped :=
    .lexeme (begins_mark _ rfl fun _ => rfl) (fun _ => if_neg (Nat.not_le.mpr room)) name
  unfold Json.read lexemes
  rw [runs 0 _ (Nat.le_refl _)]

/-- The octets of an object of one member, an integer of so many ones. -/
def onesOctets (count : Nat) : Bytes :=
  [0x7B, 0x22, 0x61, 0x22, 0x3A] ++ (List.replicate count 0x31 ++ [0x7D])

theorem encode_integerDocument (count : Nat) :
    Utf8.encode (integerDocument (List.replicate count '1')) = .ok (onesOctets count) := by
  rw [Utf8.encode_eq_ok_iff]
  constructor
  · intro c member
    simp only [integerDocument, List.mem_cons, List.mem_append, List.mem_replicate, List.not_mem_nil,
      or_false] at member
    rcases member with rfl | rfl | rfl | rfl | rfl | ⟨-, rfl⟩ | rfl <;> rfl
  · have one : Utf8.encodePoint '1' = [0x31] := rfl
    simp only [integerDocument, onesOctets, List.flatMap_cons, List.flatMap_append, List.flatMap_replicate, one,
      List.flatten_replicate_singleton]
    rfl

theorem readOctets_onesOctets [Room] (room : 0 < Room.documents) {count : Nat} (long : maxDigits < count) :
    readOctets (onesOctets count) = .error (.text (.longInteger count)) := by
  have visible : ∀ b ∈ onesOctets count, 0x20 ≤ b := by
    intro b member
    simp only [onesOctets, List.mem_cons, List.mem_append, List.mem_replicate, List.not_mem_nil,
      or_false] at member
    rcases member with (rfl | rfl | rfl | rfl | rfl) | ⟨-, rfl⟩ | rfl <;> decide
  have length : (List.replicate count ('1' : CodePoint)).length = count := List.length_replicate
  have read := read_integerDocument room (t := List.replicate count '1')
    (fun c member => List.eq_of_mem_replicate member ▸ rfl) (by
      rw [List.head?_replicate]
      split <;> decide) (length.symm ▸ long)
  unfold readOctets decodeOctets
  rw [detect_eq_utf8 visible (by rintro b ⟨⟩; decide), Utf8.decodeWithHalves_encode (encode_integerDocument count)]
  change (Json.read (integerDocument _)).mapError _ = _
  rw [read, length]
  rfl

/-- A manifest of an integer of too many digits: the fault of the reader is no error of bundles. -/
theorem longManifest_fault [Room] (room : 0 < Room.documents) {count : Nat} (long : maxDigits < count) :
    ofFiles (atHand [(⟨policyName, true⟩, []), (⟨manifestName, true⟩, onesOctets count)]) none =
      .error (.fault (.longInteger count)) := by
  have parsed : parseObject (memberPath manifestName) (onesOctets count) = .error (.fault (.longInteger count)) := by
    unfold parseObject parseDocument
    rw [readOctets_onesOctets room long]
    rfl
  have added (d : Draft) : d.add ⟨manifestName, .ok (onesOctets count)⟩ = .error (.fault (.longInteger count)) := by
    change (parseObject (memberPath manifestName) (onesOctets count) >>= _) = _
    rw [parsed]
    rfl
  change (([⟨manifestName, .ok (onesOctets count)⟩] : List File).foldlM Draft.add ⟨some [], [], []⟩ >>= _) = _
  rw [List.foldlM_cons, added]
  rfl

attribute [local instance] Room.usual in
theorem longManifest_5000 :
    ofFiles (atHand [(⟨policyName, true⟩, []), (⟨manifestName, true⟩, onesOctets 5000)]) none =
      .error (.fault (.longInteger 5000)) :=
  longManifest_fault (by decide) (by decide)

end Bundle

end PolicyHost
