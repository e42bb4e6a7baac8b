import PolicyHost.Proofs.Builtin.Encodings
import PolicyHost.Proofs.Text.Order
import PolicyHost.Proofs.Text.Pieces

/-!
# Objects in a query

An object whose values are texts or lists of texts is written as pairs of a name and a text, with marks
between the pairs and between the halves of each. Neither mark stands in what a text is written as, so that
the pairs can be read again: in ascending order of the names, and those of one name in the order of its list.

* `Field`: a text or a list of texts.
* `Listing`: a list of pairs has the texts of each name in their order, and the names in ascending order;
  there is one such list (`Listing.unique`), and `listing_pairs` gives it.
* `Piece`, `encodePairs_pieces`: how a pair is written.
* `queryObject_reversible`: the pairs are read back.
-/

namespace PolicyHost.Query

/-- What an object in a query has under a name: a text, or a list of texts. -/
inductive Field
  | one (t : Text)
  | many (texts : List Text)
deriving DecidableEq

namespace Field

def texts : Field → List Text
  | .one t => [t]
  | .many texts => texts

def json : Field → Json
  | .one t => .string t
  | .many texts => .array (texts.map .string)

end Field

def membersOf (fields : Table Text Field) : Json.Members := fields.map fun field => (field.1, field.2.json)

def textsAt (name : Text) (pairs : List (Text × Text)) : List Text :=
  (pairs.filter fun pair => pair.1 = name).map Prod.snd

/-- The texts of a name, none if there is no field. -/
def Field.textsOf : Option Field → List Text
  | some field => field.texts
  | none => []

/-- A list of pairs has the texts of each name, in their order, and the names in ascending order. -/
structure Listing (fields : Table Text Field) (pairs : List (Text × Text)) : Prop where
  ascending : pairs.Pairwise fun a b => Text.le a.1 b.1 = true
  texts : ∀ name, textsAt name pairs = Field.textsOf (fields.get? name)

/-! ## One list of pairs -/

theorem textsAt_cons_of_eq {pair : Text × Text} {name : Text} (same : pair.1 = name)
    (rest : List (Text × Text)) : textsAt name (pair :: rest) = pair.2 :: textsAt name rest := by
  rw [textsAt, List.filter_cons_of_pos (by simpa using same)]
  rfl

theorem textsAt_cons_of_ne {pair : Text × Text} {name : Text} (differ : pair.1 ≠ name)
    (rest : List (Text × Text)) : textsAt name (pair :: rest) = textsAt name rest := by
  rw [textsAt, List.filter_cons_of_neg (by simpa using differ)]
  rfl

theorem textsAt_append (name : Text) (l m : List (Text × Text)) :
    textsAt name (l ++ m) = textsAt name l ++ textsAt name m := by
  rw [textsAt, List.filter_append, List.map_append]
  rfl

/-- In ascending order the first name is the least. -/
theorem head_le {pair : Text × Text} {rest : List (Text × Text)}
    (sorted : (pair :: rest).Pairwise fun a b => Text.le a.1 b.1 = true) {name : Text}
    (present : textsAt name (pair :: rest) ≠ []) : Text.le pair.1 name = true := by
  by_cases here : pair.1 = name
  · exact here ▸ Text.le_refl _
  · rw [textsAt_cons_of_ne here] at present
    obtain ⟨_, inside⟩ := List.exists_mem_of_ne_nil _ present
    obtain ⟨entry, found, -⟩ := List.mem_map.mp inside
    obtain ⟨member, same⟩ := List.mem_filter.mp found
    rw [← of_decide_eq_true same]
    exact (List.pairwise_cons.mp sorted).1 entry member

/-- A list in ascending order is known by what it has under each name. -/
theorem eq_of_textsAt_eq {l m : List (Text × Text)} (sorted : l.Pairwise fun a b => Text.le a.1 b.1 = true)
    (sorted' : m.Pairwise fun a b => Text.le a.1 b.1 = true)
    (same : ∀ name, textsAt name l = textsAt name m) : l = m := by
  induction l generalizing m with
  | nil =>
    cases m with
    | nil => rfl
    | cons b m =>
      have missing := same b.1
      rw [textsAt_cons_of_eq rfl] at missing
      cases missing
  | cons a l ih =>
    cases m with
    | nil =>
      have missing := same a.1
      rw [textsAt_cons_of_eq rfl] at missing
      cases missing
    | cons b m =>
      -- Both lists have something under the first name of either, so both begin with the least name.
      have low := head_le sorted (by rw [same, textsAt_cons_of_eq rfl]; exact List.cons_ne_nil _ _)
      have high := head_le sorted' (by rw [← same, textsAt_cons_of_eq rfl]; exact List.cons_ne_nil _ _)
      have name : a.1 = b.1 := Text.le_antisymm low high
      have here := same a.1
      rw [textsAt_cons_of_eq rfl, name, textsAt_cons_of_eq rfl] at here
      obtain ⟨value, behind⟩ := List.cons.inj here
      obtain rfl : a = b := Prod.ext name value
      refine congrArg (a :: ·) (ih (List.pairwise_cons.mp sorted).2 (List.pairwise_cons.mp sorted').2 ?_)
      intro other
      by_cases first : a.1 = other
      · exact first ▸ behind
      · have later := same other
        rwa [textsAt_cons_of_ne first, textsAt_cons_of_ne first] at later

theorem Listing.unique {fields : Table Text Field} {l m : List (Text × Text)} (first : Listing fields l)
    (second : Listing fields m) : l = m :=
  eq_of_textsAt_eq first.ascending second.ascending fun name =>
    (first.texts name).trans (second.texts name).symm

/-- The pairs of fields, one field after another. -/
def pairs (fields : Table Text Field) : List (Text × Text) :=
  fields.flatMap fun field => field.2.texts.map fun t => (field.1, t)

theorem textsAt_field (name : Text) (texts : List Text) :
    textsAt name (texts.map fun t => (name, t)) = texts := by
  induction texts with
  | nil => rfl
  | cons t rest ih => rw [List.map_cons, textsAt_cons_of_eq (rfl : ((name, t) : Text × Text).1 = name), ih]

theorem textsAt_other {name other : Text} (differ : other ≠ name) (texts : List Text) :
    textsAt name (texts.map fun t => (other, t)) = [] := by
  induction texts with
  | nil => rfl
  | cons t rest ih => rw [List.map_cons, textsAt_cons_of_ne differ, ih]

theorem textsAt_pairs {fields : Table Text Field} (distinct : fields.keys.Nodup) (name : Text) :
    textsAt name (pairs fields) = Field.textsOf (fields.get? name) := by
  induction fields with
  | nil => rfl
  | cons field rest ih =>
    obtain ⟨key, field⟩ := field
    obtain ⟨fresh, distinct⟩ := List.nodup_cons.mp distinct
    have later := ih distinct
    change textsAt name ((field.texts.map fun t => (key, t)) ++ pairs rest) = _
    rw [textsAt_append, later, Table.get?]
    split
    · next same =>
      subst same
      rw [textsAt_field, Table.get?_eq_none_of_not_mem fresh]
      exact List.append_nil _
    · next differ =>
      rw [textsAt_other differ]
      rfl

theorem listing_pairs {fields : Table Text Field} (distinct : fields.keys.Nodup) :
    Listing fields (pairs fields.ascending) := by
  refine ⟨?_, fun name => ?_⟩
  · refine List.pairwise_flatMap.mpr ⟨fun field _ => ?_, ?_⟩
    · rw [List.pairwise_map]
      exact List.pairwise_of_forall fun _ _ => Text.le_refl _
    · refine (Table.pairwise_ascending fields).imp fun {a b} le x first y second => ?_
      obtain ⟨_, _, rfl⟩ := List.mem_map.mp first
      obtain ⟨_, _, rfl⟩ := List.mem_map.mp second
      exact le
  · have arranged := (Table.ascending_perm fields).symm
    rw [textsAt_pairs (Table.nodup_keys_perm arranged distinct), Table.get?_eq_of_perm distinct arranged]

theorem pairsOf_membersOf (fields : Table Text Field) :
    pairsOf (membersOf fields) = pairs fields.ascending := by
  have sorted : (membersOf fields).mergeSort (fun a b => Text.le a.1 b.1) = membersOf fields.ascending :=
    Table.ascending_map Field.json fields
  unfold pairsOf
  rw [sorted, membersOf, List.flatMap_map]
  refine congrArg (List.flatMap · fields.ascending) (funext fun field => ?_)
  obtain ⟨name, t | texts⟩ := field
  · rfl
  · change (texts.map Json.string).map _ = _
    rw [List.map_map]
    rfl

/-! ## How pairs are written -/

/-- A piece of a query says what a pair is: its halves with a mark between them, which does not stand in
the first one. -/
def Piece (piece : Text) (pair : Text × Text) : Prop :=
  ∃ name value, piece = name ++ CodePoint.ofChar '=' :: value ∧ CodePoint.ofChar '=' ∉ name ∧
    decode name = pair.1 ∧ decode value = pair.2

theorem Piece.ne_nil {piece : Text} {pair : Text × Text} (stands : Piece piece pair) : piece ≠ [] := by
  obtain ⟨name, value, rfl, -⟩ := stands
  exact List.append_ne_nil_of_right_ne_nil name (List.cons_ne_nil _ _)

theorem encodePair_piece {pair : Text × Text} (name : ∀ c ∈ pair.1, c.isSurrogate = false)
    (value : ∀ c ∈ pair.2, c.isSurrogate = false) :
    ∃ piece, encodePair pair = .ok piece ∧ Piece piece pair ∧ CodePoint.ofChar '&' ∉ piece := by
  obtain ⟨octets, written⟩ := Builtin.exists_octets name
  obtain ⟨octets', written'⟩ := Builtin.exists_octets value
  obtain ⟨first, encoded, spells⟩ := spells_encode written
  obtain ⟨second, encoded', spells'⟩ := spells_encode written'
  refine ⟨first ++ (CodePoint.ofChar '=' :: second), ?_, ⟨first, second, rfl, spells.separators.2,
    decode_of_spells spells written, decode_of_spells spells' written'⟩, ?_⟩
  · unfold encodePair
    rw [encoded, encoded']
    exact congrArg Except.ok (List.append_assoc first "=" second)
  · rw [List.mem_append, List.mem_cons]
    rintro (inside | between | inside)
    · exact spells.separators.1 inside
    · exact absurd between (by decide)
    · exact spells'.separators.1 inside

theorem encodePairs_pieces {pairs : List (Text × Text)}
    (scalar : ∀ pair ∈ pairs, (∀ c ∈ pair.1, c.isSurrogate = false) ∧ ∀ c ∈ pair.2, c.isSurrogate = false) :
    ∃ pieces, pairs.mapM encodePair = .ok pieces ∧ List.Forall₂ Piece pieces pairs ∧
      ∀ piece ∈ pieces, CodePoint.ofChar '&' ∉ piece := by
  induction pairs with
  | nil => exact ⟨[], rfl, .nil, nofun⟩
  | cons pair rest ih =>
    obtain ⟨⟨name, value⟩, others⟩ := List.forall_mem_cons.mp scalar
    obtain ⟨piece, written, stands, absent⟩ := encodePair_piece name value
    obtain ⟨pieces, later, all, apart⟩ := ih others
    refine ⟨piece :: pieces, ?_, .cons stands all, List.forall_mem_cons.mpr ⟨absent, apart⟩⟩
    rw [List.mapM_cons, written, later]
    rfl

/-- The pieces of a query are found again; without pairs nothing is written. -/
theorem encodePairs_split {pairs : List (Text × Text)}
    (scalar : ∀ pair ∈ pairs, (∀ c ∈ pair.1, c.isSurrogate = false) ∧ ∀ c ∈ pair.2, c.isSurrogate = false) :
    ∃ query, encodePairs pairs = .ok query ∧ (query = [] ↔ pairs = []) ∧
      (pairs ≠ [] → List.Forall₂ Piece (Text.split '&' query) pairs) := by
  obtain ⟨pieces, written, all, apart⟩ := encodePairs_pieces scalar
  refine ⟨Text.joinWith [CodePoint.ofChar '&'] pieces, ?_, ?_, fun nonempty => ?_⟩
  · unfold encodePairs
    rw [written]
    rfl
  · cases all with
    | nil => exact iff_of_true rfl rfl
    | @cons piece pair others _ first _ =>
      obtain ⟨c, inside⟩ := List.exists_mem_of_ne_nil _ first.ne_nil
      refine iff_of_false (fun blank => ?_) (List.cons_ne_nil _ _)
      have there : c ∈ Text.joinWith [CodePoint.ofChar '&'] (piece :: others) :=
        Text.mem_joinWith_of_mem List.mem_cons_self inside
      rw [blank] at there
      cases there
  · have some_piece : pieces ≠ [] := by
      rintro rfl
      exact nonempty (List.forall₂_nil_left_iff.mp all)
    rwa [Text.split_joinWith some_piece apart]

end PolicyHost.Query

namespace PolicyHost.Builtin

open Query

theorem applied_queryEncodeObject {members : Json.Members} {query : Text}
    (written : encodePairs (pairsOf members) = .ok query) (context : Context) :
    applied "urlquery.encode_object" (.object members) context = (.ok (.text query), context) := by
  change (do return Value.text (← writable (encodePairs (pairsOf members))) : Action Value).run context = _
  rw [written]
  rfl

theorem pairs_eq_nil_iff {fields : Table Text Field} :
    Query.pairs fields = [] ↔ ∀ field ∈ fields, field.2 = .many [] := by
  unfold Query.pairs
  rw [List.flatMap_eq_nil_iff]
  refine forall_congr' fun field => imp_congr_right fun _ => ?_
  rw [List.map_eq_nil_iff]
  obtain ⟨name, t | texts⟩ := field
  · exact iff_of_false (List.cons_ne_nil _ _) nofun
  · simp [Field.texts]

/-- An object in a query can be read again. Cut at the marks between pairs, and each piece at its first mark
between halves, the query is read as the one list of pairs that has the texts of each name in their order
and the names in ascending order. It is empty just for objects without any text. -/
theorem queryObject_reversible {fields : Table Text Field} (distinct : fields.keys.Nodup)
    (scalar : ∀ field ∈ fields, (∀ c ∈ field.1, c.isSurrogate = false) ∧
      ∀ t ∈ field.2.texts, ∀ c ∈ t, c.isSurrogate = false) (context : Context) :
    ∃ query pairs,
      applied "urlquery.encode_object" (.object (membersOf fields)) context = (.ok (.text query), context) ∧
      Listing fields pairs ∧
      (pairs ≠ [] → List.Forall₂ (fun piece pair => ∃ name value,
        piece = name ++ CodePoint.ofChar '=' :: value ∧ CodePoint.ofChar '=' ∉ name ∧
        applied "urlquery.decode" (.string name) context = (.ok (.text pair.1), context) ∧
        applied "urlquery.decode" (.string value) context = (.ok (.text pair.2), context))
        (Text.split '&' query) pairs) ∧
      (query = [] ↔ pairs = []) ∧ (query = [] ↔ ∀ field ∈ fields, field.2 = .many []) := by
  have whole : ∀ pair ∈ Query.pairs fields.ascending,
      (∀ c ∈ pair.1, c.isSurrogate = false) ∧ ∀ c ∈ pair.2, c.isSurrogate = false := by
    intro pair member
    obtain ⟨field, inside, made⟩ := List.mem_flatMap.mp member
    obtain ⟨t, listed, rfl⟩ := List.mem_map.mp made
    obtain ⟨name, texts⟩ := scalar field ((Table.ascending_perm fields).mem_iff.mp inside)
    exact ⟨name, texts t listed⟩
  obtain ⟨query, written, empty, cut⟩ := encodePairs_split whole
  refine ⟨query, Query.pairs fields.ascending, ?_, listing_pairs distinct, fun nonempty => ?_, empty, ?_⟩
  · exact applied_queryEncodeObject (by rw [pairsOf_membersOf, written]) context
  · refine (cut nonempty).imp fun piece pair ⟨name, value, made, apart, first, second⟩ => ?_
    refine ⟨name, value, made, apart, ?_, ?_⟩
    · rw [applied_queryDecode, first]
    · rw [applied_queryDecode, second]
  · rw [empty, pairs_eq_nil_iff]
    refine forall_congr' fun field => ?_
    rw [(Table.ascending_perm fields).mem_iff]

/-- Fields with marks in their names and texts, the names in descending order. -/
def marked : Table Text Field := [("b=", .many ["&", "x y"]), ("a", .one "é=%"), ("", .many [])]

theorem marked_reversible :
    ∃ query pairs,
      applied "urlquery.encode_object" (.object (membersOf marked)) (.fresh ⟨0, ⟨0, 0⟩⟩) =
        (.ok (.text query), .fresh ⟨0, ⟨0, 0⟩⟩) ∧
      Listing marked pairs ∧ pairs ≠ [] ∧ (Text.split '&' query).length = pairs.length := by
  have distinct : marked.keys.Nodup := by decide
  have whole (s : String) : ∀ c ∈ (s : Text), c.isSurrogate = false := fun _ => Text.isSurrogate_of_mem_ofString
  have scalar : ∀ field ∈ marked, (∀ c ∈ field.1, c.isSurrogate = false) ∧
      ∀ t ∈ field.2.texts, ∀ c ∈ t, c.isSurrogate = false := by
    simp only [marked, Field.texts, List.forall_mem_cons, List.not_mem_nil, false_imp_iff, implies_true, and_true]
    exact ⟨⟨whole "b=", whole "&", whole "x y"⟩, ⟨whole "a", whole "é=%"⟩, whole ""⟩
  obtain ⟨query, pairs, done, listing, cut, empty, silent⟩ :=
    queryObject_reversible distinct scalar (.fresh ⟨0, ⟨0, 0⟩⟩)
  have nonempty : pairs ≠ [] := by
    rw [Ne, ← empty, silent]
    exact fun all => absurd (all _ List.mem_cons_self) (by decide)
  exact ⟨query, pairs, done, listing, nonempty, (cut nonempty).length_eq⟩

end PolicyHost.Builtin
