import PolicyHost.Proofs.Json.Ascii
import PolicyHost.Proofs.Json.Cuts

/-!
# Texts over several lines

Over several lines the members of an object stand in ascending order of their names, so the text of a value
is cut into the tokens of the value in order. In ASCII strings are told from each other by it as long as
they hold no surrogates.

* `Printable`: what is written without loss.
* `layout`: the text of a value; `layout_array`, `layout_object`: its shape.
* `isAscii_layout`, `cuts_layout`: its code points and its tokens.
* `read_layout`, `layout_eq_iff`: it is read as the value in order, and belongs to one value up to
  the order of members.
-/

namespace PolicyHost.Json

/-- A value that is written in ASCII without loss: truth values, integers that are not too long, strings
without surrogates, and arrays and objects of such values, where the names of an object are distinct strings
of this kind. -/
inductive Printable : Json → Prop
  | null : Printable .null
  | bool (b : Bool) : Printable (.bool b)
  | int {n : Int} : n.natAbs < 10 ^ maxDigits → Printable (.int n)
  | string {t : Text} : (∀ c ∈ t, c.isSurrogate = false) → Printable (.string t)
  | array {items : List Json} : (∀ item ∈ items, Printable item) → Printable (.array items)
  | object {members : Members} : (Table.keys members).Nodup →
      (∀ member ∈ members, ∀ c ∈ member.1, c.isSurrogate = false) →
      (∀ member ∈ members, Printable member.2) → Printable (.object members)

theorem Printable.distinct {value : Json} (printable : value.Printable) : value.Distinct := by
  induction printable with
  | array _ each => exact distinct_array_iff.mpr each
  | object names _ _ each => exact distinct_object_iff.mpr ⟨names, each⟩
  | _ => trivial

theorem Printable.short {value : Json} (printable : value.Printable) : value.Short := by
  induction printable with
  | array _ each => exact short_array_iff.mpr each
  | object _ _ _ each => exact short_object_iff.mpr each
  | int small => exact List.forall_mem_singleton.mpr small
  | _ => exact nofun

/-- The text of a value over several lines in ASCII, from a level of indentation on. -/
def layout (level : Nat) (value : Json) : Text :=
  match indented ⟨asciiPoint, false⟩ level value with
  | .ok t => t
  | .error _ => []

theorem indented_eq_layout {value : Json} (short : value.Short) (level : Nat) :
    indented ⟨asciiPoint, false⟩ level value = .ok (layout level value) := by
  obtain ⟨t, written⟩ : ∃ t, indented ⟨asciiPoint, false⟩ level value = .ok t :=
    indented_of_short rfl level value short
  rw [layout, written]

theorem indentedItems_eq_layout {items : List Json} (short : ∀ item ∈ items, item.Short) (level : Nat) :
    indentedItems ⟨asciiPoint, false⟩ level items = .ok (items.map (layout level)) := by
  induction items with
  | nil => rfl
  | cons item rest ih =>
    obtain ⟨first, others⟩ := List.forall_mem_cons.mp short
    rw [indentedItems, indented_eq_layout first, ih others]
    rfl

theorem indentedMembers_eq_layout {members : Members} (short : ∀ member ∈ members, member.2.Short)
    (level : Nat) :
    indentedMembers ⟨asciiPoint, false⟩ level members =
      .ok (members.map fun member => (member.1, layout level member.2)) := by
  induction members with
  | nil => rfl
  | cons member rest ih =>
    obtain ⟨first, others⟩ := List.forall_mem_cons.mp short
    rw [indentedMembers, indented_eq_layout first, ih others]
    rfl

theorem layout_int {n : Int} (short : n.natAbs < 10 ^ maxDigits) (level : Nat) :
    layout level (.int n) = Text.ofInt n := by
  simp only [layout, indented, compact, writeInt_of_short short]

def memberLine (level : Nat) (member : Text × Json) : Text :=
  quoteWith asciiPoint member.1 ++ (": " ++ layout level member.2)

theorem layout_array {items : List Json} (short : ∀ item ∈ items, item.Short) (level : Nat) :
    layout level (.array items) = bracketed level "[" "]" (items.map (layout (level + 1))) := by
  rw [layout, indented, indentedItems_eq_layout short]
  rfl

/-- The members of an object stand in ascending order of their names. -/
theorem layout_object {members : Members} (short : ∀ member ∈ members, member.2.Short) (level : Nat) :
    layout level (.object members) =
      bracketed level "\x7b" "\x7d" (members.ascending.map (memberLine (level + 1))) := by
  have sorted : byName (members.map fun member => (member.1, layout (level + 1) member.2)) =
      members.ascending.map fun member => (member.1, layout (level + 1) member.2) :=
    Table.ascending_map (layout (level + 1)) members
  have lines : (byName (members.map fun member => (member.1, layout (level + 1) member.2))).map
      (fun line => quoteWith asciiPoint line.1 ++ ": " ++ line.2) =
      members.ascending.map (memberLine (level + 1)) := by
    rw [sorted, List.map_map]
    exact List.map_congr_left fun member _ => List.append_assoc ..
  rw [layout, indented, indentedMembers_eq_layout short, ← lines]
  rfl

/-! ## Code points -/

/-- What holds of a line feed and of a space holds throughout a line break. -/
theorem forall_mem_lineBreak {p : CodePoint → Prop} (feed : p (.ofChar '\n')) (space : p (.ofChar ' '))
    (level : Nat) : ∀ c ∈ lineBreak level, p c :=
  List.forall_mem_cons.mpr ⟨feed, fun _ blank => List.eq_of_mem_replicate blank ▸ space⟩

theorem isAscii_lineBreak (level : Nat) : IsAscii (lineBreak level) :=
  forall_mem_lineBreak (by decide) (by decide) level

theorem isAscii_bracketed {opening closing : Text} {pieces : List Text} (first : IsAscii opening)
    (last : IsAscii closing) (inner : ∀ piece ∈ pieces, IsAscii piece) (level : Nat) :
    IsAscii (bracketed level opening closing pieces) := by
  have comma : IsAscii "," := isAscii_of_all (by decide)
  have joined : IsAscii (Text.joinWith ("," ++ lineBreak (level + 1)) pieces) := by
    intro c inside
    rcases Text.mem_joinWith inside with between | ⟨piece, member, inside⟩
    · exact comma.append (isAscii_lineBreak _) c between
    · exact inner piece member c inside
  unfold bracketed
  split
  · exact first.append last
  · exact (((first.append (isAscii_lineBreak _)).append joined).append (isAscii_lineBreak _)).append last

theorem isAscii_layout {value : Json} (printable : value.Printable) (level : Nat) :
    IsAscii (layout level value) := by
  induction printable generalizing level with
  | null => exact isAscii_of_all (t := "null") (by decide)
  | bool b =>
    cases b
    · exact isAscii_of_all (t := "false") (by decide)
    · exact isAscii_of_all (t := "true") (by decide)
  | @int n small =>
    rw [layout_int small]
    exact fun c inside => (bounds_of_isNumeralPoint (numeric_ofInt n c inside)).2
  | string => exact isAscii_quoteWith _
  | array parts each =>
    rw [layout_array fun item inside => (parts item inside).short]
    refine isAscii_bracketed (isAscii_of_all (by decide)) (isAscii_of_all (by decide))
      (fun piece member => ?_) level
    obtain ⟨item, inside, rfl⟩ := List.mem_map.mp member
    exact each item inside _
  | @object members _ _ parts each =>
    rw [layout_object fun member inside => (parts member inside).short]
    refine isAscii_bracketed (isAscii_of_all (by decide)) (isAscii_of_all (by decide))
      (fun piece member => ?_) level
    obtain ⟨entry, inside, rfl⟩ := List.mem_map.mp member
    have there := (Table.ascending_perm members).mem_iff.mp inside
    exact (isAscii_quoteWith _).append ((isAscii_of_all (by decide)).append (each entry there _))

/-! ## Tokens -/

theorem isGap_lineBreak (level : Nat) : ∀ c ∈ lineBreak level, isGap c = true :=
  forall_mem_lineBreak (by decide) (by decide) level

variable {α : Type} {f : α → Text} {g : α → List Token} {tail : Text}

/-- Pieces with commas and blanks between them, and a closing mark behind them. -/
theorem cuts_joined {gap behind : Text} {closing : Token} (blank : ∀ c ∈ gap, isGap c = true)
    (apart : Apart behind) (ended : Cuts behind [closing] tail) {first : α} {rest : List α}
    (each : ∀ a ∈ first :: rest, ∀ u, Apart u → Cuts (f a ++ u) (g a) u) :
    Cuts (Text.joinWith ("," ++ gap) ((first :: rest).map f) ++ behind)
      (g first ++ separated closing false (rest.map g)) tail := by
  induction rest generalizing first with
  | nil =>
    rw [List.map_singleton, Text.joinWith_singleton]
    exact (each first List.mem_cons_self behind apart).append ended
  | cons second rest ih =>
    obtain ⟨here, others⟩ := List.forall_mem_cons.mp each
    have later := ih others
    rw [List.map_cons, List.map_cons, Text.joinWith_cons_cons, ← List.map_cons, List.append_assoc,
      List.append_assoc]
    exact (here _ (apart_cons (by decide) _)).append
      (.token (begins_mark _ (by decide) fun _ => rfl) (.gaps blank later))

/-- Pieces between brackets. -/
theorem cuts_bracketed {opens closes : Token} {opening closing : CodePoint}
    (begins : ∀ rest, Begins (opening :: rest) opens rest) (ends : ∀ rest, Begins (closing :: rest) closes rest)
    {parts : List α} (each : ∀ a ∈ parts, ∀ u, Apart u → Cuts (f a ++ u) (g a) u) (level : Nat) :
    Cuts (bracketed level [opening] [closing] (parts.map f) ++ tail)
      (opens :: separated closes true (parts.map g)) tail := by
  cases parts with
  | nil => exact .token (begins _) (.one (ends tail))
  | cons first rest =>
    have ended : Cuts (lineBreak level ++ closing :: tail) [closes] tail :=
      .gaps (isGap_lineBreak level) (.one (ends tail))
    have joined := cuts_joined (isGap_lineBreak (level + 1)) (apart_cons (by decide) _) ended each
    have shape : bracketed level [opening] [closing] ((first :: rest).map f) ++ tail =
        opening :: (lineBreak (level + 1) ++ (Text.joinWith ("," ++ lineBreak (level + 1)) ((first :: rest).map f)
          ++ (lineBreak level ++ closing :: tail))) := by
      rw [bracketed, if_neg (by simp)]
      simp only [List.append_assoc, List.cons_append, List.nil_append]
    rw [shape]
    exact .token (begins _) (.gaps (isGap_lineBreak _) joined)

theorem cuts_layout [Room] {value : Json} (printable : value.Printable) (level : Nat) {tail : Text}
    (apart : Apart tail) :
    Cuts (layout level value ++ tail) (tokensOf (inOrder value)) tail := by
  induction printable generalizing level tail with
  | null => exact .one (begins_null tail)
  | bool b =>
    cases b
    · exact .one (begins_false tail)
    · exact .one (begins_true tail)
  | @int n small =>
    rw [layout_int small]
    exact .one (begins_numeral (spells_ofInt n) (numeric_ofInt n) apart)
  | string scalar => exact .one (begins_quoteWith_ascii scalar tail)
  | @array items parts each =>
    rw [layout_array fun item inside => (parts item inside).short, inOrder, itemsInOrder_eq, tokensOf,
      itemsTokens_eq, List.map_map]
    exact cuts_bracketed (fun rest => begins_mark rest rfl fun _ => rfl)
      (fun rest => begins_mark rest rfl fun _ => rfl) (fun item inside u apart => each item inside _ apart) level
  | @object members _ scalar parts each =>
    rw [layout_object fun member inside => (parts member inside).short, inOrder, ← membersInOrder_ascending,
      membersInOrder_eq, tokensOf, membersTokens_eq, List.map_map]
    refine cuts_bracketed (fun rest => begins_mark rest rfl fun _ => rfl)
      (fun rest => begins_mark rest rfl fun _ => rfl) (fun member inside u apart => ?_) level
    have there := (Table.ascending_perm members).mem_iff.mp inside
    have colon (rest : Text) : Cuts ((": " : Text) ++ rest) [.colon] rest :=
      .token (begins_mark _ rfl fun _ => rfl) (.gap rfl (.stop rest))
    have value := (colon _).append (each member there (level + 1) apart)
    rw [memberLine, List.append_assoc, List.append_assoc]
    exact .token (begins_quoteWith_ascii (scalar member there) _) value

/-! ## Values -/

theorem Printable.inOrder {value : Json} (printable : value.Printable) : (inOrder value).Printable := by
  induction printable with
  | null => exact .null
  | bool b => exact .bool b
  | int small => exact .int small
  | string scalar => exact .string scalar
  | array _ each =>
    rw [Json.inOrder, itemsInOrder_eq]
    exact .array (List.forall_mem_map.mpr each)
  | @object members names scalar parts each =>
    rw [Json.inOrder]
    exact .object (nodup_keys_arranged names) (forall_mem_arranged.mpr scalar) (forall_mem_arranged.mpr each)

/-- A value and its arrangement have one text. -/
theorem layout_inOrder {value : Json} (printable : value.Printable) (level : Nat) :
    layout level (inOrder value) = layout level value := by
  induction printable generalizing level with
  | @array items parts each =>
    rw [inOrder, itemsInOrder_eq, layout_array fun item inside => (parts item inside).short,
      layout_array (List.forall_mem_map.mpr fun item inside => (parts item inside).inOrder.short), List.map_map]
    exact congrArg _ (List.map_congr_left fun item inside => each item inside _)
  | @object members names scalar parts each =>
    have short : ∀ member ∈ Table.ascending (membersInOrder members), member.2.Short :=
      forall_mem_arranged.mpr fun member inside => (parts member inside).inOrder.short
    rw [inOrder, layout_object short, layout_object fun member inside => (parts member inside).short,
      Table.ascending_ascending, ← membersInOrder_ascending, membersInOrder_eq, List.map_map]
    refine congrArg _ (List.map_congr_left fun member inside => ?_)
    have same := each member ((Table.ascending_perm members).mem_iff.mp inside) (level + 1)
    simp only [Function.comp_apply, memberLine, same]
  | _ => rfl

/-- The text of a value is read as the value in order, if it is nested no deeper than a reader takes. -/
theorem read_layout [Room] {value : Json} (printable : value.Printable)
    (room : value.nesting ≤ Room.documents) :
    read (layout 0 value ++ "\n") = .ok (inOrder value) := by
  have takes : Takes ⟨[], .value false⟩ (tokensOf (inOrder value)) ⟨[], .after (inOrder value)⟩ :=
    takes_inOrder printable.distinct printable.short (by simpa using room) false
  refine read_of_readsTo ((cuts_layout printable 0 (apart_cons (by decide) [])).readsTo takes ?_)
  exact .gap rfl (.stop _)

/-- Texts of values are the same just when the values are alike. -/
theorem layout_eq_iff [Room] {a b : Json} (first : a.Printable) (second : b.Printable) :
    layout 0 a = layout 0 b ↔ Alike a b := by
  rw [alike_iff first.distinct second.distinct]
  constructor
  · intro same
    have cuts := cuts_layout first 0 apart_nil
    rw [same] at cuts
    have tokens := cuts.unique (cuts_layout second 0 apart_nil)
    exact (tokensOf_inj (congrArg (· ++ []) tokens)).1
  · intro same
    rw [← layout_inOrder first, ← layout_inOrder second, same]

end PolicyHost.Json
