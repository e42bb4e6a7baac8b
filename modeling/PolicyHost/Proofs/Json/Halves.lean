import PolicyHost.Proofs.Json.Encode

/-!
# Surrogates in a compact text

Quotation marks, escapes, numerals and words are ASCII, so the surrogates of a compact text are those of
its strings and names, one after another. The first of them is where its octets end.

* `Text.halves`: the surrogates of a text.
* `halves_compact`: the surrogates of a compact text.
* `Utf8.encode_error`, `Utf8.encode_ok_halves`: texts with and without surrogates.
-/

namespace PolicyHost

def Text.halves (t : Text) : Text := t.filter CodePoint.isSurrogate

namespace Text

theorem halves_append (t u : Text) : halves (t ++ u) = halves t ++ halves u :=
  List.filter_append ..

theorem halves_of_ascii {t : Text} (ascii : ∀ c ∈ t, c.val < 0x80) : halves t = [] := by
  refine List.filter_eq_nil_iff.mpr fun c member surrogate => ?_
  have low := ascii c member
  simp only [CodePoint.isSurrogate, Bool.and_eq_true, decide_eq_true_eq] at surrogate
  omega

theorem halves_of_all {t : Text} (all : t.all (fun c => decide (c.val < 0x80)) = true) : halves t = [] :=
  halves_of_ascii fun c member => of_decide_eq_true (List.all_eq_true.mp all c member)

theorem halves_joinWith {separator : Text} (plain : halves separator = []) (pieces : List Text) :
    halves (joinWith separator pieces) = pieces.flatMap halves := by
  induction pieces with
  | nil => rfl
  | cons piece rest ih =>
    cases rest with
    | nil => rw [joinWith_singleton, List.flatMap_singleton]
    | cons next rest =>
      rw [joinWith_cons_cons, halves_append, halves_append, plain, ih, List.append_nil]
      rfl

theorem halves_hexDigits (width n : Nat) : halves (hexDigits width n) = [] := by
  induction width generalizing n with
  | zero => rfl
  | succ width ih =>
    have digit : ∀ d < 16, halves [CodePoint.ofHexValue d] = [] := by decide
    rw [hexDigits, halves_append, ih, digit _ (Nat.mod_lt _ (by decide))]
    rfl

end Text

namespace Json

open Text

mutual

/-- The strings of a value and the names of its members, in the order in which they are written. -/
def texts : Json → List Text
  | .string t => [t]
  | .array items => itemsTexts items
  | .object members => membersTexts members
  | _ => []

def itemsTexts : List Json → List Text
  | [] => []
  | item :: rest => texts item ++ itemsTexts rest

def membersTexts : List (Text × Json) → List Text
  | [] => []
  | (name, value) :: rest => name :: (texts value ++ membersTexts rest)

end

theorem halves_plainPoint (c : CodePoint) : halves (plainPoint c) = halves [c] := by
  have low (ascii : c.val < 0x80) : halves [c] = [] :=
    halves_of_ascii (List.forall_mem_singleton.mpr ascii)
  unfold plainPoint
  split
  · next escape short =>
    unfold shortEscape? at short
    repeat' split at short
    all_goals cases short
    all_goals
      next same =>
      have ascii : c.val < 0x80 := by first | omega | (rw [same]; decide)
      rw [low ascii]
      exact halves_of_all (by decide)
  · split
    · next control =>
      rw [unitEscape, halves_append, halves_hexDigits, low (by omega), List.append_nil]
      exact halves_of_all (by decide)
    · rfl

theorem halves_quoteWith {point : CodePoint → Text} (keeps : ∀ c, halves (point c) = halves [c])
    (t : Text) : halves (quoteWith point t) = halves t := by
  have body : halves (t.flatMap point) = halves t := by
    induction t with
    | nil => rfl
    | cons c rest ih => rw [List.flatMap_cons, halves_append, keeps, ih, ← halves_append, List.singleton_append]
  have quote : halves "\"" = [] := by decide
  rw [quoteWith, halves_append, halves_append, quote, body, List.append_nil, List.nil_append]

theorem Numeric.halves {t : Text} (numeric : Numeric t) : t.halves = [] :=
  halves_of_ascii fun c member => (bounds_of_isNumeralPoint (numeric c member)).2

variable {style : Style}

mutual

/-- The surrogates of a compact text are those of its strings and names. -/
theorem halves_compact (keeps : ∀ c, halves (style.point c) = halves [c]) (value : Json) {t : Text}
    (written : compact style value = .ok t) (finite : ∀ x ∈ value.floats, x.isFinite = true) :
    halves t = value.texts.flatMap halves := by
  cases value with
  | null =>
    cases written
    exact halves_of_all (by decide)
  | bool b => cases b <;> cases written <;> exact halves_of_all (by decide)
  | int n =>
    simp only [compact, writeInt] at written
    split at written
    · cases written
      exact (numeric_ofInt n).halves
    · cases written
  | float x =>
    simp only [compact, writeFloat] at written
    split at written
    · cases written
    · cases written
      exact (numeric_ofFloat (finite x (List.mem_singleton_self x))).halves
  | string u =>
    cases written
    rw [halves_quoteWith keeps, texts, List.flatMap_singleton]
  | array items =>
    obtain ⟨pieces, inside, done⟩ := Outcome.bind_eq_ok_iff.mp written
    cases done
    rw [halves_append, halves_append, halves_joinWith (halves_of_all (by decide)),
      halves_compactItems keeps items inside finite, halves_of_all (t := "[") (by decide),
      halves_of_all (t := "]") (by decide), List.append_nil, List.nil_append, texts]
  | object members =>
    obtain ⟨pieces, inside, done⟩ := Outcome.bind_eq_ok_iff.mp written
    cases done
    rw [halves_append, halves_append, halves_joinWith (halves_of_all (by decide)),
      halves_compactMembers keeps members inside finite, halves_of_all (t := "\x7b") (by decide),
      halves_of_all (t := "\x7d") (by decide), List.append_nil, List.nil_append, texts]

theorem halves_compactItems (keeps : ∀ c, halves (style.point c) = halves [c]) (items : List Json)
    {pieces : List Text} (written : compactItems style items = .ok pieces)
    (finite : ∀ x ∈ itemsFloats items, x.isFinite = true) :
    pieces.flatMap halves = (itemsTexts items).flatMap halves := by
  cases items with
  | nil =>
    cases written
    rfl
  | cons item items =>
    obtain ⟨piece, one, others⟩ := Outcome.bind_eq_ok_iff.mp written
    obtain ⟨pieces, more, joined⟩ := Outcome.bind_eq_ok_iff.mp others
    cases joined
    obtain ⟨first, later⟩ := List.forall_mem_append.mp finite
    rw [List.flatMap_cons, itemsTexts, List.flatMap_append, halves_compact keeps item one first,
      halves_compactItems keeps items more later]

theorem halves_compactMembers (keeps : ∀ c, halves (style.point c) = halves [c])
    (members : List (Text × Json)) {pieces : List Text}
    (written : compactMembers style members = .ok pieces)
    (finite : ∀ x ∈ membersFloats members, x.isFinite = true) :
    pieces.flatMap halves = (membersTexts members).flatMap halves := by
  cases members with
  | nil =>
    cases written
    rfl
  | cons member members =>
    obtain ⟨piece, one, others⟩ := Outcome.bind_eq_ok_iff.mp written
    obtain ⟨pieces, more, joined⟩ := Outcome.bind_eq_ok_iff.mp others
    cases joined
    obtain ⟨first, later⟩ := List.forall_mem_append.mp finite
    rw [List.flatMap_cons, halves_append, halves_append, halves_quoteWith keeps,
      halves_of_all (t := ":") (by decide), halves_compact keeps member.2 one first,
      halves_compactMembers keeps members more later, membersTexts, List.flatMap_cons,
      List.flatMap_append, List.append_nil, List.append_assoc]

end

end Json

/-- A stretch of surrogates starts with a surrogate of the text. -/
theorem Utf8.findHalves_first {t : Text} {fault : Utf8.Unwritable}
    (found : Utf8.findHalves t = some fault) : fault.first ∈ t.halves := by
  unfold Utf8.findHalves at found
  dsimp only at found
  split at found
  · cases found
  · next c rest stretch =>
    cases found
    have whole := t.takeWhile_append_dropWhile (p := fun c : CodePoint => !c.isSurrogate)
    have behind : t.dropWhile (fun c => !c.isSurrogate) = c :: rest := by
      rw [← stretch]
      exact ((congrArg (List.drop _) whole.symm).trans (List.drop_left' rfl)).symm
    have surrogate := List.head?_dropWhile_not (fun c : CodePoint => !c.isSurrogate) t
    rw [behind] at surrogate
    refine List.mem_filter.mpr ⟨?_, by simpa using surrogate⟩
    rw [← whole, behind]
    exact List.mem_append_right _ List.mem_cons_self

theorem Utf8.encode_error {t : Text} {fault : Utf8.Unwritable} (stopped : Utf8.encode t = .error fault) :
    fault.first ∈ t.halves := by
  unfold Utf8.encode at stopped
  split at stopped
  · cases stopped
  · next other found =>
    cases stopped
    exact Utf8.findHalves_first found

theorem Utf8.encode_ok_halves {t : Text} {bytes : Bytes} (written : Utf8.encode t = .ok bytes) :
    t.halves = [] := by
  refine List.filter_eq_nil_iff.mpr fun c member => ?_
  rw [(Utf8.encode_eq_ok_iff.mp written).1 c member]
  exact Bool.false_ne_true

end PolicyHost
