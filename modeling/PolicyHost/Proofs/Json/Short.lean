import PolicyHost.Proofs.Json.Distinct
import PolicyHost.Proofs.Text.Decimal

/-!
# Integers that can be written

An integer of too many digits is not written. What has been read holds none, since the reader counts the
digits too, so it is written whenever floating-point numbers may be anything.

* `ints`, `Short`: the integers in a value, and that none of them is too long.
* `short_kept`: the reader keeps it.
* `indented_of_short`: what is short is written over several lines.
-/

namespace PolicyHost

/-- Digits spell less than the power of ten with as many zeros. -/
theorem Text.digitsValue_lt {t : Text} (digits : ∀ c ∈ t, c.isDigit = true) :
    digitsValue t < 10 ^ t.length := by
  -- The digits that have been read before count for one more than they spell.
  have from_ (n : Nat) : t.foldl (fun n c => n * 10 + (c.val - 0x30)) n < (n + 1) * 10 ^ t.length := by
    induction t generalizing n with
    | nil => simp
    | cons c rest ih =>
      have digit := digits c List.mem_cons_self
      simp only [CodePoint.isDigit, Bool.and_eq_true, decide_eq_true_eq] at digit
      have later := ih (fun d member => digits d (List.mem_cons_of_mem c member)) (n * 10 + (c.val - 0x30))
      have step : n * 10 + (c.val - 0x30) + 1 ≤ (n + 1) * 10 := by omega
      calc
        _ < (n * 10 + (c.val - 0x30) + 1) * 10 ^ rest.length := later
        _ ≤ (n + 1) * 10 * 10 ^ rest.length := Nat.mul_le_mul_right _ step
        _ = (n + 1) * 10 ^ (c :: rest).length := by rw [List.length_cons, Nat.pow_succ', Nat.mul_assoc]
  simpa [digitsValue] using from_ 0

namespace Json

mutual

/-- The integers in a value. -/
def ints : Json → List Int
  | .int n => [n]
  | .array items => itemsInts items
  | .object members => membersInts members
  | _ => []

def itemsInts : List Json → List Int
  | [] => []
  | item :: rest => ints item ++ itemsInts rest

def membersInts : List (Text × Json) → List Int
  | [] => []
  | (_, value) :: rest => ints value ++ membersInts rest

end

/-- No integer in the value is too long to be written. -/
def Short (value : Json) : Prop := ∀ n ∈ value.ints, n.natAbs < 10 ^ maxDigits

theorem mem_itemsInts {items : List Json} {n : Int} :
    n ∈ itemsInts items ↔ ∃ item ∈ items, n ∈ item.ints := by
  induction items with
  | nil => simp [itemsInts]
  | cons item rest ih => simp [itemsInts, ih]

theorem mem_membersInts {members : List (Text × Json)} {n : Int} :
    n ∈ membersInts members ↔ ∃ entry ∈ members, n ∈ entry.2.ints := by
  induction members with
  | nil => simp [membersInts]
  | cons entry rest ih => simp [membersInts, ih]

theorem short_array_iff {items : List Json} :
    (Json.array items).Short ↔ ∀ item ∈ items, item.Short := by
  simp only [Short, ints, mem_itemsInts]
  exact ⟨fun all item member n inside => all n ⟨item, member, inside⟩,
    fun all n ⟨item, member, inside⟩ => all item member n inside⟩

theorem short_object_iff {members : Members} :
    (Json.object members).Short ↔ ∀ entry ∈ members, entry.2.Short := by
  simp only [Short, ints, mem_membersInts]
  exact ⟨fun all entry member n inside => all n ⟨entry, member, inside⟩,
    fun all n ⟨entry, member, inside⟩ => all entry member n inside⟩

theorem short_of_numeral {n : Numeral} (digits : ∀ c ∈ n.whole, c.isDigit = true) {value : Json}
    (read : n.value = .ok value) : value.Short := by
  unfold Numeral.value at read
  split at read
  · split at read
    · cases read
    · next long =>
      cases read
      intro m member
      rw [List.mem_singleton.mp member]
      have bound : Text.digitsValue n.whole < 10 ^ maxDigits :=
        Nat.lt_of_lt_of_le (Text.digitsValue_lt digits)
          (Nat.pow_le_pow_right (by decide) (Nat.not_lt.mp long))
      split <;> simpa using bound
  · cases read
    exact nofun

theorem short_kept : Kept Short where
  literal := by simp [words, Short, ints]
  string _ := nofun
  numeral _ digits _ read := short_of_numeral digits read
  array _ items := short_array_iff.mpr items
  empty := short_object_iff.mpr nofun
  put members base name value new := by
    rw [short_object_iff] at base ⊢
    intro entry member
    rcases Table.mem_put member with old | rfl
    · exact base entry old
    · exact new

/-! ## Writing -/

variable {style : Style}

theorem writeInt_of_short {n : Int} (short : n.natAbs < 10 ^ maxDigits) :
    writeInt n = .ok (Text.ofInt n) := by
  rw [writeInt, if_pos short]

mutual

/-- What is short is written, where floating-point numbers may be anything. -/
theorem indented_of_short (anything : style.finiteOnly = false) (level : Nat) :
    (value : Json) → value.Short → ∃ t, indented style level value = .ok t
  | .null, _ | .bool true, _ | .bool false, _ | .string _, _ => ⟨_, rfl⟩
  | .int n, short => ⟨Text.ofInt n, by
    simp only [indented, compact, writeInt_of_short (short n List.mem_cons_self)]⟩
  | .float x, _ => ⟨_, if_neg (by rw [anything]; nofun)⟩
  | .array items, short => by
    obtain ⟨written, done⟩ := indentedItems_of_short anything (level + 1) items (short_array_iff.mp short)
    exact ⟨_, by rw [indented, done]; rfl⟩
  | .object members, short => by
    obtain ⟨written, done⟩ :=
      indentedMembers_of_short anything (level + 1) members (short_object_iff.mp short)
    exact ⟨_, by rw [indented, done]; rfl⟩

theorem indentedItems_of_short (anything : style.finiteOnly = false) (level : Nat) :
    (items : List Json) → (∀ item ∈ items, item.Short) →
      ∃ written, indentedItems style level items = .ok written
  | [], _ => ⟨[], rfl⟩
  | item :: rest, short => by
    obtain ⟨first, here⟩ := indented_of_short anything level item (short item List.mem_cons_self)
    obtain ⟨others, later⟩ := indentedItems_of_short anything level rest
      fun other member => short other (List.mem_cons_of_mem item member)
    exact ⟨first :: others, by rw [indentedItems, here, later]; rfl⟩

theorem indentedMembers_of_short (anything : style.finiteOnly = false) (level : Nat) :
    (members : List (Text × Json)) → (∀ entry ∈ members, entry.2.Short) →
      ∃ written, indentedMembers style level members = .ok written
  | [], _ => ⟨[], rfl⟩
  | (name, value) :: rest, short => by
    obtain ⟨first, here⟩ := indented_of_short anything level value (short (name, value) List.mem_cons_self)
    obtain ⟨others, later⟩ := indentedMembers_of_short anything level rest
      fun other member => short other (List.mem_cons_of_mem (name, value) member)
    exact ⟨(name, first) :: others, by rw [indentedMembers, here, later]; rfl⟩

end

end Json

end PolicyHost
