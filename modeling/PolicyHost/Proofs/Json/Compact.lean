import PolicyHost.Proofs.Json.Distinct
import PolicyHost.Proofs.Json.Numbers
import PolicyHost.Proofs.Outcome
import PolicyHost.Proofs.Text.Pieces

/-!
# What is written compactly is read back

A reader that is at a value and finds the compact text of one takes exactly that text, and holds that
value. The names of an object must be distinct, since the reader keeps one member of a name, the
arrays and objects must not lie too deep inside each other, and floating-point numbers must be read as
they are written.

* `floats`: what a reader cannot take for granted, besides the nesting.
* `compact_readsTo`: a value in front of anything that may follow it.
* `read_compact`: a whole text.
-/

namespace PolicyHost

namespace Json

theorem itemsNesting_le_iff {items : List Json} {k : Nat} :
    itemsNesting items ≤ k ↔ ∀ item ∈ items, item.nesting ≤ k := by
  induction items with
  | nil => simp [itemsNesting]
  | cons item rest ih => rw [itemsNesting, Nat.max_le, ih, List.forall_mem_cons]

theorem membersNesting_le_iff {members : List (Text × Json)} {k : Nat} :
    membersNesting members ≤ k ↔ ∀ entry ∈ members, entry.2.nesting ≤ k := by
  induction members with
  | nil => simp [membersNesting]
  | cons entry rest ih => rw [membersNesting, Nat.max_le, ih, List.forall_mem_cons]

mutual

/-- The floating-point numbers in a value. -/
def floats : Json → List Float
  | .float x => [x]
  | .array items => itemsFloats items
  | .object members => membersFloats members
  | _ => []

def itemsFloats : List Json → List Float
  | [] => []
  | item :: rest => floats item ++ itemsFloats rest

/-- The floating-point numbers in the values of members. -/
def membersFloats : List (Text × Json) → List Float
  | [] => []
  | (_, value) :: rest => floats value ++ membersFloats rest

end

/-! ## Lexemes of a compact text -/

theorem begins_null (tail : Text) : Begins ("null" ++ tail) (.literal .null) tail :=
  ⟨_, _, rfl, rfl, by simp; omega, fun offset => ⟨offset + 4, rfl⟩⟩

theorem begins_true (tail : Text) : Begins ("true" ++ tail) (.literal (.bool true)) tail :=
  ⟨_, _, rfl, rfl, by simp; omega, fun offset => ⟨offset + 4, rfl⟩⟩

theorem begins_false (tail : Text) : Begins ("false" ++ tail) (.literal (.bool false)) tail :=
  ⟨_, _, rfl, rfl, by simp; omega, fun offset => ⟨offset + 5, rfl⟩⟩

variable {style : Style} {last : Reader}

/-- An opening bracket begins an array, unless too much is open already. -/
theorem ReadsTo.openBracket [Room] {stack : List Frame} {t : Text} (first : Bool)
    (room : stack.length < Room.documents) (rest : ReadsTo ⟨.items [] :: stack, .value true⟩ t last) :
    ReadsTo ⟨stack, .value first⟩ (('[' : CodePoint) :: t) last := by
  refine .lexeme (begins_mark t rfl fun _ => rfl) (fun _ => ?_) rest
  simp [Reader.step, Reader.stepValue, Reader.enter, Nat.not_le.mpr room, Except.map]

theorem ReadsTo.openBrace [Room] {stack : List Frame} {t : Text} (first : Bool)
    (room : stack.length < Room.documents) (rest : ReadsTo ⟨stack, .name [] true⟩ t last) :
    ReadsTo ⟨stack, .value first⟩ ((0x7B : CodePoint) :: t) last := by
  refine .lexeme (begins_mark t rfl fun _ => rfl) (fun _ => ?_) rest
  simp [Reader.step, Reader.stepValue, Reader.enter, Nat.not_le.mpr room]

/-- The name of a member and a colon lead to its value. -/
theorem ReadsTo.name [Room] (recovers : Recovers style.point) {stack : List Frame} {t : Text}
    (done : Members) (name : Text) (first : Bool)
    (rest : ReadsTo ⟨.member done name :: stack, .value false⟩ t last) :
    ReadsTo ⟨stack, .name done first⟩ (quoteWith style.point name ++ (':' : CodePoint) :: t) last := by
  have named (start : Nat) : Reader.step ⟨stack, .name done first⟩ ⟨start, .string name⟩ =
      .ok ⟨stack, .colon done name⟩ := rfl
  exact .lexeme (begins_quoteWith (fun c _ => recovers c) _) named
    (.lexeme (begins_mark t rfl fun _ => rfl) (fun _ => rfl) rest)

theorem compactItems_cons {item : Json} {items : List Json} {pieces : List Text}
    (written : compactItems style (item :: items) = .ok pieces) :
    ∃ first others, pieces = first :: others := by
  obtain ⟨first, -, rest⟩ := Outcome.bind_eq_ok_iff.mp written
  obtain ⟨others, -, joined⟩ := Outcome.bind_eq_ok_iff.mp rest
  cases joined
  exact ⟨first, others, rfl⟩

theorem compactMembers_cons {member : Text × Json} {members : List (Text × Json)} {pieces : List Text}
    (written : compactMembers style (member :: members) = .ok pieces) :
    ∃ first others, pieces = first :: others := by
  obtain ⟨first, -, rest⟩ := Outcome.bind_eq_ok_iff.mp written
  obtain ⟨others, -, joined⟩ := Outcome.bind_eq_ok_iff.mp rest
  cases joined
  exact ⟨_, others, rfl⟩

mutual

/-- A reader at a value takes the compact text of a value and holds the value, if what follows could
not go on with a numeral. -/
theorem compact_readsTo [Room] (recovers : Recovers style.point) (value : Json) {t tail : Text}
    (written : compact style value = .ok t) (distinct : value.Distinct)
    (floats : ∀ x ∈ value.floats, x.isFinite = true ∧ ReadsBack x) {stack : List Frame}
    (room : stack.length + value.nesting ≤ Room.documents) (first : Bool) (apart : Apart tail)
    (rest : ReadsTo ⟨stack, .after value⟩ tail last) :
    ReadsTo ⟨stack, .value first⟩ (t ++ tail) last := by
  cases value with
  | null =>
    cases written
    exact .lexeme (begins_null tail) (fun _ => rfl) rest
  | bool b =>
    cases b <;> cases written
    · exact .lexeme (begins_false tail) (fun _ => rfl) rest
    · exact .lexeme (begins_true tail) (fun _ => rfl) rest
  | int n =>
    simp only [compact, writeInt] at written
    split at written
    · next short =>
      cases written
      refine .lexeme (begins_numeral (spells_ofInt n) (numeric_ofInt n) apart) (fun _ => ?_) rest
      change (Numeral.value _).map _ = _
      rw [value_ofInt short]
      rfl
    · cases written
  | float x =>
    obtain ⟨finite, back⟩ := floats x (List.mem_singleton_self x)
    obtain ⟨n, spells, valued⟩ := back.spells finite
    simp only [compact, writeFloat] at written
    split at written
    · cases written
    · cases written
      refine .lexeme (begins_numeral spells (numeric_ofFloat finite) apart) (fun _ => ?_) rest
      change n.value.map _ = _
      rw [valued]
      rfl
  | string u =>
    cases written
    exact .lexeme (begins_quoteWith (fun c _ => recovers c) tail) (fun _ => rfl) rest
  | array items =>
    obtain ⟨pieces, inside, done⟩ := Outcome.bind_eq_ok_iff.mp written
    cases done
    -- The bracket opens one frame more, and the items lie one less deep.
    simp only [nesting] at room
    have body := items_readsTo recovers items inside distinct floats (by omega) [] true
      (fun _ => ⟨rfl, rfl⟩) rest
    rw [List.append_assoc, List.append_assoc]
    exact .openBracket first (by omega) body
  | object members =>
    obtain ⟨pieces, inside, done⟩ := Outcome.bind_eq_ok_iff.mp written
    cases done
    simp only [nesting] at room
    have body := members_readsTo recovers members inside [] distinct.1 distinct.2 floats (by omega) true
      (fun _ => rfl) rest
    rw [List.append_assoc, List.append_assoc]
    exact .openBrace first (by omega) body

/-- A reader inside an array takes the texts of items up to the closing bracket. -/
theorem items_readsTo [Room] (recovers : Recovers style.point) (items : List Json) {pieces : List Text}
    {tail : Text} (written : compactItems style items = .ok pieces) (distinct : ItemsDistinct items)
    (floats : ∀ x ∈ itemsFloats items, x.isFinite = true ∧ ReadsBack x) {stack : List Frame}
    (room : stack.length + 1 + itemsNesting items ≤ Room.documents) (done : List Json) (first : Bool)
    (start : items = [] → done = [] ∧ first = true)
    (rest : ReadsTo ⟨stack, .after (.array (done.reverse ++ items))⟩ tail last) :
    ReadsTo ⟨.items done :: stack, .value first⟩
      (Text.joinWith "," pieces ++ (']' : CodePoint) :: tail) last := by
  cases items with
  | nil =>
    cases written
    obtain ⟨rfl, rfl⟩ := start rfl
    exact .lexeme (begins_mark tail rfl fun _ => rfl) (fun _ => rfl) rest
  | cons item items =>
    obtain ⟨piece, one, others⟩ := Outcome.bind_eq_ok_iff.mp written
    obtain ⟨pieces, more, joined⟩ := Outcome.bind_eq_ok_iff.mp others
    cases joined
    simp only [itemsNesting] at room
    simp only [itemsFloats, List.forall_mem_append] at floats
    have inside {after : Text} (apart : Apart after)
        (later : ReadsTo ⟨.items done :: stack, .after item⟩ after last) :=
      compact_readsTo recovers item one distinct.1 floats.1
        (by simp only [List.length_cons]; omega) first apart later
    rw [← List.singleton_append, ← List.append_assoc, ← List.reverse_cons] at rest
    -- The closing bracket follows the last item and a comma any other; neither goes on with a numeral.
    cases items with
    | nil =>
      cases more
      rw [List.append_nil] at rest
      rw [Text.joinWith_singleton]
      exact inside (apart_cons (by decide) _)
        (.lexeme (begins_mark tail rfl fun _ => rfl) (fun _ => rfl) rest)
    | cons next items =>
      obtain ⟨second, pieces, rfl⟩ := compactItems_cons more
      have others := items_readsTo recovers (next :: items) more distinct.2 floats.2
        (by omega) (item :: done) false nofun rest
      rw [Text.joinWith_cons_cons, List.append_assoc, List.append_assoc]
      exact inside (apart_cons (by decide) _)
        (.lexeme (begins_mark _ rfl fun _ => rfl) (fun _ => rfl) others)

/-- A reader inside an object takes the texts of members up to the closing brace. -/
theorem members_readsTo [Room] (recovers : Recovers style.point) (members : List (Text × Json))
    {pieces : List Text} {tail : Text} (written : compactMembers style members = .ok pieces)
    (done : Members) (names : (Table.keys (done ++ members)).Nodup) (distinct : MembersDistinct members)
    (floats : ∀ x ∈ membersFloats members, x.isFinite = true ∧ ReadsBack x) {stack : List Frame}
    (room : stack.length + 1 + membersNesting members ≤ Room.documents) (first : Bool)
    (start : members = [] → first = true)
    (rest : ReadsTo ⟨stack, .after (.object (done ++ members))⟩ tail last) :
    ReadsTo ⟨stack, .name done first⟩
      (Text.joinWith "," pieces ++ (0x7D : CodePoint) :: tail) last := by
  cases members with
  | nil =>
    cases written
    obtain rfl := start rfl
    rw [List.append_nil] at rest
    exact .lexeme (begins_mark tail rfl fun _ => rfl) (fun _ => rfl) rest
  | cons member members =>
    obtain ⟨name, value⟩ := member
    obtain ⟨piece, one, others⟩ := Outcome.bind_eq_ok_iff.mp written
    obtain ⟨pieces, more, joined⟩ := Outcome.bind_eq_ok_iff.mp others
    cases joined
    simp only [membersNesting] at room
    simp only [membersFloats, List.forall_mem_append] at floats
    -- A reader that meets a name again keeps its place; a new one goes to the end.
    have fresh : done.put name value = done ++ [(name, value)] := Table.put_of_nodup names
    have inside {after : Text} (apart : Apart after)
        (later : ReadsTo ⟨.member done name :: stack, .after value⟩ after last) :=
      compact_readsTo recovers value one distinct.1 floats.1
        (by simp only [List.length_cons]; omega) false apart later
    rw [← List.singleton_append, ← List.append_assoc, ← fresh] at rest names
    cases members with
    | nil =>
      cases more
      rw [List.append_nil] at rest
      rw [Text.joinWith_singleton, List.append_assoc, List.append_assoc]
      exact .name recovers done name first (inside (apart_cons (by decide) _)
        (.lexeme (begins_mark tail rfl fun _ => rfl) (fun _ => rfl) rest))
    | cons next members =>
      obtain ⟨second, pieces, rfl⟩ := compactMembers_cons more
      have others := members_readsTo recovers (next :: members) more (done.put name value) names
        distinct.2 floats.2 (by omega) false nofun rest
      rw [Text.joinWith_cons_cons]
      simp only [List.append_assoc]
      exact .name recovers done name first (inside (apart_cons (by decide) _)
        (.lexeme (begins_mark _ rfl fun _ => rfl) (fun _ => rfl) others))

end

/-- A compact text is read as the value it was written for. -/
theorem read_compact [Room] (recovers : Recovers style.point) {value : Json} {t : Text}
    (written : compact style value = .ok t) (distinct : value.Distinct)
    (floats : ∀ x ∈ value.floats, x.isFinite = true ∧ ReadsBack x) (room : value.nesting ≤ Room.documents) :
    read t = .ok value := by
  refine read_of_readsTo ?_
  rw [← List.append_nil t]
  exact compact_readsTo recovers value written distinct floats (by simpa using room) false apart_nil
    (.stop value)

/-! ## The code points of a compact text -/

mutual

/-- Where only finite numbers are written, all numbers of what is written are finite. -/
theorem isFinite_of_compact (finiteOnly : style.finiteOnly = true) (value : Json) {t : Text}
    (written : compact style value = .ok t) : ∀ x ∈ value.floats, x.isFinite = true := by
  cases value with
  | float x =>
    simp only [compact, writeFloat, finiteOnly, Bool.true_and, Bool.not_eq_true'] at written
    split at written
    · cases written
    · next finite => exact List.forall_mem_singleton.mpr (Bool.eq_false_iff.not_left.mp finite)
  | array items =>
    obtain ⟨pieces, inside, -⟩ := Outcome.bind_eq_ok_iff.mp written
    exact isFinite_of_compactItems finiteOnly items inside
  | object members =>
    obtain ⟨pieces, inside, -⟩ := Outcome.bind_eq_ok_iff.mp written
    exact isFinite_of_compactMembers finiteOnly members inside
  | _ => exact nofun

theorem isFinite_of_compactItems (finiteOnly : style.finiteOnly = true) (items : List Json)
    {pieces : List Text} (written : compactItems style items = .ok pieces) :
    ∀ x ∈ itemsFloats items, x.isFinite = true := by
  cases items with
  | nil => exact nofun
  | cons item items =>
    obtain ⟨piece, one, others⟩ := Outcome.bind_eq_ok_iff.mp written
    obtain ⟨pieces, more, -⟩ := Outcome.bind_eq_ok_iff.mp others
    exact List.forall_mem_append.mpr
      ⟨isFinite_of_compact finiteOnly item one, isFinite_of_compactItems finiteOnly items more⟩

theorem isFinite_of_compactMembers (finiteOnly : style.finiteOnly = true)
    (members : List (Text × Json)) {pieces : List Text}
    (written : compactMembers style members = .ok pieces) :
    ∀ x ∈ membersFloats members, x.isFinite = true := by
  cases members with
  | nil => exact nofun
  | cons member members =>
    obtain ⟨piece, one, others⟩ := Outcome.bind_eq_ok_iff.mp written
    obtain ⟨pieces, more, -⟩ := Outcome.bind_eq_ok_iff.mp others
    exact List.forall_mem_append.mpr
      ⟨isFinite_of_compact finiteOnly member.2 one, isFinite_of_compactMembers finiteOnly members more⟩

end

end Json

end PolicyHost
