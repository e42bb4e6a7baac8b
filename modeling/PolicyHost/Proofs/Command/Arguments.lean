import PolicyHost.Proofs.Command.Work
import PolicyHost.Proofs.Json.Limits

/-!
# JSON arguments

An argument stands for JSON by its own text, or by that of a file behind an at sign. One that does not is of
no use if its file is not read or its text is malformed. The other reasons are faults: a path that names no
file, octets that are no text, and the limits of the reader.

* `Supplies`: the text that an argument stands for.
* `TextStop`, `ArgumentStop`: why an argument stands for no text, and why for no JSON.
* `readArgument_ok_iff`, `readArgument_error_iff`: what reading an argument comes to.
-/

namespace PolicyHost

/-- Only a problem of the text itself may be a byte order mark. -/
theorem Json.read_of_readUnmarked [Room] {t : Text} {flaw : Json.ReadFault}
    (unread : readUnmarked t = .error flaw)
    (limit : ∀ problem offset line column, flaw ≠ .malformed problem offset line column) :
    read t = .error flaw := by
  unfold readUnmarked at unread
  split at unread
  · cases unread
    exact absurd rfl (limit _ _ _ _)
  · exact unread

namespace Command

open Work

variable {σ : Type} [Surroundings (StateM σ)]

/-- The text that an argument stands for in a world: its own, or that of a file behind an at sign, where
line breaks of any kind are one. -/
inductive Supplies (world : σ) : Text → Text → Prop
  | itself {given : Text} : given.head? ≠ some ('@' : CodePoint) → Supplies world given given
  | file {given t : Text} {contents : Bytes} :
      (Files.read (m := StateM σ) (Path.ofText given) world).1 = .ok contents →
      Utf8.decode contents = .ok t → Supplies world ('@' :: given) (unifyBreaks t)

/-- Why an argument stands for no text in a world.

* `unreadable`: the file behind the at sign is not read, and the argument is of no use;
* `path`: what stands behind the at sign is no path of a file;
* `undecodable`: the octets of the file are no text. -/
inductive TextStop (world : σ) (option : Text) : Text → Stop → Prop
  | unreadable {given : Text} {flaw : FileFault} :
      (Files.read (m := StateM σ) (Path.ofText given) world).1 = .error (.file flaw) →
      TextStop world option ('@' :: given) (.misuse (.unreadable option given flaw))
  | path {given : Text} {fault : Fault} :
      (Files.read (m := StateM σ) (Path.ofText given) world).1 = .error fault →
      (∀ flaw, fault ≠ .file flaw) → TextStop world option ('@' :: given) (.failure (.fault fault))
  | undecodable {given : Text} {contents : Bytes} {flaw : Utf8.Malformed} :
      (Files.read (m := StateM σ) (Path.ofText given) world).1 = .ok contents →
      Utf8.decode contents = .error flaw →
      TextStop world option ('@' :: given) (.failure (.fault (.undecodable flaw)))

/-- Why an argument stands for no JSON in a world.

* `text`: it stands for no text;
* `malformed`: the text is malformed, and the argument is of no use;
* `longInteger`, `tooDeep`: the text lies beyond a limit of the reader. -/
inductive ArgumentStop [Room] (world : σ) (option given : Text) : Stop → Prop
  | text {stop : Stop} : TextStop world option given stop → ArgumentStop world option given stop
  | malformed {t : Text} {problem : Json.Problem} {offset line column : Nat} :
      Supplies world given t → Json.readUnmarked t = .error (.malformed problem offset line column) →
      ArgumentStop world option given (.misuse (.invalidJson option (.malformed problem offset line column)))
  | longInteger {t : Text} {digits : Nat} :
      Supplies world given t → Json.readUnmarked t = .error (.longInteger digits) →
      Json.SpellsInteger t digits → Json.maxDigits < digits →
      ArgumentStop world option given (.failure (.fault (.longInteger digits)))
  | tooDeep {t : Text} :
      Supplies world given t → Json.readUnmarked t = .error .tooDeep → Json.NestsBeyond t →
      ArgumentStop world option given (.failure (.fault .tooDeep))

variable {world : σ} {option given t : Text} {notes : List Note} {stop : Stop}

/-- The text that an argument stands for, as a step of a run. -/
def argumentText (option given : Text) : Work (StateM σ) Text :=
  if given.head? = some ('@' : CodePoint) then readText option given.tail else pure given

theorem argumentText_file :
    (argumentText option ('@' :: given) : Work (StateM σ) Text) = readText option given := if_pos rfl

theorem argumentText_itself (plain : given.head? ≠ some ('@' : CodePoint)) :
    (argumentText option given : Work (StateM σ) Text) = pure given := if_neg plain

theorem argumentText_cases (world : σ) (option given : Text) (notes : List Note) :
    match (outcome (argumentText option given) notes world).1.1 with
    | .ok t => Supplies world given t
    | .error stop => TextStop world option given stop := by
  by_cases named : given.head? = some ('@' : CodePoint)
  · obtain ⟨rest, rfl⟩ := List.head?_eq_some_iff.mp named
    rw [argumentText_file, readText, outcome_lift_bind]
    cases read : (Files.read (m := StateM σ) (Path.ofText rest) world).1 with
    | error fault =>
      cases fault with
      | file flaw => exact .unreadable read
      | _ => exact .path read nofun
    | ok contents =>
      dsimp only
      cases decoded : Utf8.decode contents with
      | error flaw => exact .undecodable read decoded
      | ok t => exact .file read decoded
  · rw [argumentText_itself named]
    exact .itself named

/-- The text that an argument supplies is read. -/
theorem Supplies.outcome (supplied : Supplies world given t) :
    ((argumentText option given).outcome notes world).1.1 = .ok t := by
  cases supplied with
  | itself plain =>
    rw [argumentText_itself plain]
    rfl
  | file read decoded =>
    rw [argumentText_file, readText, outcome_lift_bind, read]
    dsimp only
    rw [decoded]
    rfl

/-- What stops an argument from having a text stops a run. -/
theorem TextStop.outcome (stopped : TextStop world option given stop) :
    ((argumentText option given).outcome notes world).1.1 = .error stop := by
  cases stopped with
  | unreadable read =>
    rw [argumentText_file, readText, outcome_lift_bind, read]
    rfl
  | @path _ fault read other =>
    rw [argumentText_file, readText, outcome_lift_bind, read]
    cases fault with
    | file flaw => exact absurd rfl (other flaw)
    | _ => rfl
  | undecodable read decoded =>
    rw [argumentText_file, readText, outcome_lift_bind, read]
    dsimp only
    rw [decoded]
    rfl

def flawStop (option : Text) : Json.ReadFault → Stop
  | .longInteger digits => .failure (.fault (.longInteger digits))
  | .tooDeep => .failure (.fault .tooDeep)
  | flaw => .misuse (.invalidJson option flaw)

/-- The JSON in the text of an argument, as a step of a run. -/
def parsedText [Room] (option t : Text) : Work (StateM σ) Json :=
  match Json.readUnmarked t with
  | .ok value => pure value
  | .error flaw => throw (flawStop option flaw)

omit [Surroundings (StateM σ)] in
theorem parsedText_eq [Room] (option t : Text) :
    (parsedText option t : Work (StateM σ) Json) =
      match Json.readUnmarked t with
      | .ok value => pure value
      | .error (.longInteger digits) => throw (.failure (.fault (.longInteger digits)))
      | .error .tooDeep => throw (.failure (.fault .tooDeep))
      | .error fault => throw (.misuse (.invalidJson option fault)) := by
  unfold parsedText
  rcases Json.readUnmarked t with ⟨_ | _ | _⟩ | value <;> rfl

/-- An argument is read in two steps, its text and the JSON in it. -/
theorem readArgument_eq [Room] (option given : Text) :
    readArgument (m := StateM σ) option given = argumentText option given >>= parsedText option := by
  rw [funext (parsedText_eq option)]
  cases given with
  | nil => rfl
  | cons c rest =>
    by_cases named : c = '@'
    · subst named
      rfl
    · have plain : (c :: rest).head? ≠ some ('@' : CodePoint) := fun same => named (Option.some.inj same)
      rw [argumentText_itself plain]
      exact if_neg named

theorem outcome_readArgument [Room] (world : σ) (option given : Text) (notes : List Note) :
    (outcome (readArgument option given) notes world).1.1 =
      (outcome (argumentText option given) notes world).1.1 >>= fun t =>
        (Json.readUnmarked t).mapError (flawStop option) := by
  rw [readArgument_eq, outcome_bind]
  rcases outcome (argumentText option given) notes world with ⟨⟨stop | t, later⟩, after⟩
  · rfl
  · change (outcome (parsedText option t) later after).1.1 = (Json.readUnmarked t).mapError (flawStop option)
    unfold parsedText
    cases Json.readUnmarked t <;> rfl

/-- An argument is read as the JSON in the text that it supplies, and as nothing else. -/
theorem readArgument_ok_iff [Room] {value : Json} :
    (outcome (readArgument option given) notes world).1.1 = .ok value ↔
      ∃ t, Supplies world given t ∧ Json.readUnmarked t = .ok value := by
  rw [outcome_readArgument, Outcome.bind_eq_ok_iff]
  constructor
  · rintro ⟨t, text, read⟩
    have supplied := argumentText_cases world option given notes
    rw [text] at supplied
    exact ⟨t, supplied, Outcome.mapError_eq_ok_iff.mp read⟩
  · rintro ⟨t, supplied, read⟩
    exact ⟨t, supplied.outcome, Outcome.mapError_eq_ok_iff.mpr read⟩

/-- A text that is supplied and not read stops the argument. -/
theorem ArgumentStop.of_flaw [Room] {flaw : Json.ReadFault} (supplied : Supplies world given t)
    (unread : Json.readUnmarked t = .error flaw) : ArgumentStop world option given (flawStop option flaw) := by
  cases flaw with
  | malformed => exact .malformed supplied unread
  | longInteger digits =>
    have limits := Json.read_limits t
    rw [Json.read_of_readUnmarked unread nofun] at limits
    exact .longInteger supplied unread limits.2 limits.1
  | tooDeep =>
    have limits := Json.read_limits t
    rw [Json.read_of_readUnmarked unread nofun] at limits
    exact .tooDeep supplied unread limits

theorem readArgument_of_flaw [Room] {flaw : Json.ReadFault} (supplied : Supplies world given t)
    (unread : Json.readUnmarked t = .error flaw) :
    (outcome (readArgument option given) notes world).1.1 = .error (flawStop option flaw) := by
  rw [outcome_readArgument, supplied.outcome]
  exact Outcome.mapError_eq_error_iff.mpr ⟨flaw, unread, rfl⟩

/-- An argument that is not read stops a run for the reason that it has. -/
theorem readArgument_error_iff [Room] :
    (outcome (readArgument option given) notes world).1.1 = .error stop ↔
      ArgumentStop world option given stop := by
  constructor
  · intro stopped
    rw [outcome_readArgument] at stopped
    have text := argumentText_cases world option given notes
    rcases Outcome.bind_eq_error_iff.mp stopped with missing | ⟨t, supplied, refused⟩
    · rw [missing] at text
      exact .text text
    · rw [supplied] at text
      obtain ⟨flaw, unread, rfl⟩ := Outcome.mapError_eq_error_iff.mp refused
      exact .of_flaw text unread
  · rintro (missing | ⟨supplied, unread⟩ | ⟨supplied, unread, -, -⟩ | ⟨supplied, unread, -⟩)
    · rw [outcome_readArgument, missing.outcome]
      rfl
    · exact readArgument_of_flaw supplied unread
    · exact readArgument_of_flaw supplied unread
    · exact readArgument_of_flaw supplied unread

/-! ## Worlds -/

theorem argumentText_looks (start : σ) (option given : Text) :
    Ends start (fun _ => True) (fun _ => True) (argumentText option given) := by
  unfold argumentText
  split
  · refine (Ends.lift (looks_read (Path.ofText given.tail))).bind fun read _ => ?_
    rcases read with fault | contents
    · cases fault <;> exact .throw trivial
    · dsimp only
      cases Utf8.decode contents with
      | ok t => exact .pure trivial
      | error flaw => exact .throw trivial
  · exact .pure trivial

theorem readArgument_looks [Room] (start : σ) (option given : Text) :
    Ends start (fun _ => True) (fun _ => True) (readArgument option given) := by
  rw [readArgument_eq]
  refine (argumentText_looks start option given).bind fun t _ => ?_
  unfold parsedText
  split
  · exact .pure trivial
  · exact .throw trivial

/-- The JSON that an argument stands for in a world that is met. -/
def Gives [Room] (start : σ) (given : Text) (value : Json) : Prop :=
  ∃ world t, Met start world ∧ Supplies world given t ∧ Json.readUnmarked t = .ok value

theorem readArgument_ends [Room] {start : σ} {reasons : Stop → Prop}
    (allowed : ∀ world stop, Met start world → ArgumentStop world option given stop → reasons stop) :
    Ends start (Gives start given) reasons (readArgument option given) := by
  intro notes world met
  have looks := readArgument_looks start option given notes world met
  rcases done : outcome (readArgument option given) notes world with ⟨⟨stop | value, later⟩, after⟩
  · exact allowed world stop met (readArgument_error_iff.mp (by rw [done]))
  · rw [done] at looks
    have gives : (outcome (readArgument option given) notes world).1.1 = .ok value := by rw [done]
    obtain ⟨t, supplied, read⟩ := readArgument_ok_iff.mp gives
    exact ⟨looks.1, world, t, met, supplied, read⟩

end Command

end PolicyHost
