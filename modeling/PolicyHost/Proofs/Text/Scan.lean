import Mathlib.Data.List.Induction
import PolicyHost.Proofs.Text.Utf8

/-!
# What UTF-8 reads, it would have written

A reader that takes no surrogates accepts octets just when they are what the text that it gives is written
as: no octets are read as a text that is written in other ones, such as too many or those of a surrogate.

* `Opens`: octets that begin a character, by all that may complete them.
* `Accounts`, `accounts_feed`: how the octets read so far are spread over the characters found and the
  one under way.
* `decode_eq_ok_iff`: what is read.
* `isSurrogate_of_mem_ofString`: literals can be written.
-/

namespace PolicyHost

namespace Utf8

/-! ## Octets of a code point -/

theorem val_point {n : Nat} (point : n < 0x110000) : (Fin.ofNat 0x110000 n).val = n :=
  Nat.mod_eq_of_lt point

theorem octet_eq {n : Nat} {b : UInt8} (same : n = b.toNat) : n.toUInt8 = b := by
  rw [same]
  exact UInt8.ofNat_toNat

theorem encodePoint_one {b : UInt8} (high : b.toNat < 0x80) :
    encodePoint (Fin.ofNat 0x110000 b.toNat) = [b] := by
  unfold encodePoint
  rw [val_point (by omega), if_pos high, octet_eq rfl]

theorem encodePoint_two {n : Nat} (low : 0x80 ≤ n) (high : n < 0x800) :
    encodePoint (Fin.ofNat 0x110000 n) = [(0xC0 + n / 64).toUInt8, (0x80 + n % 64).toUInt8] := by
  unfold encodePoint
  rw [val_point (by omega), if_neg (by omega), if_pos high]

theorem encodePoint_three {n : Nat} (low : 0x800 ≤ n) (high : n < 0x10000) :
    encodePoint (Fin.ofNat 0x110000 n) =
      [(0xE0 + n / 4096).toUInt8, (0x80 + n / 64 % 64).toUInt8, (0x80 + n % 64).toUInt8] := by
  unfold encodePoint
  rw [val_point (by omega), if_neg (by omega), if_neg (by omega), if_pos high]

theorem encodePoint_four {n : Nat} (low : 0x10000 ≤ n) (high : n < 0x110000) :
    encodePoint (Fin.ofNat 0x110000 n) =
      [(0xF0 + n / 262144).toUInt8, (0x80 + n / 4096 % 64).toUInt8, (0x80 + n / 64 % 64).toUInt8,
        (0x80 + n % 64).toUInt8] := by
  unfold encodePoint
  rw [val_point high, if_neg (by omega), if_neg (by omega), if_neg (by omega)]

theorem isSurrogate_point {n : Nat} (point : n < 0x110000) (apart : n < 0xD800 ∨ 0xDFFF < n) :
    CodePoint.isSurrogate (Fin.ofNat 0x110000 n) = false := by
  unfold CodePoint.isSurrogate
  rw [val_point point, Bool.and_eq_false_iff, decide_eq_false_iff_not, decide_eq_false_iff_not]
  omega

/-! ## Characters under way -/

/-- An octet that goes on with a character. -/
def IsTail (b : UInt8) : Prop := 0x80 ≤ b.toNat ∧ b.toNat ≤ 0xBF

def Writes (c : CodePoint) (octets : Bytes) : Prop := c.isSurrogate = false ∧ encodePoint c = octets

/-- Octets that begin a character: whatever completes them in number and bounds makes them the octets of
the value that the reader computes. -/
def Opens (p : Pending) (part : Bytes) : Prop :=
  ∀ (b : UInt8) (rest : Bytes), rest.length + 1 = p.owed → p.low.toNat ≤ b.toNat →
    b.toNat ≤ p.high.toNat → (∀ t ∈ rest, IsTail t) →
    Writes (Fin.ofNat 0x110000 ((b :: rest).foldl (fun v t => v * 64 + t.toNat % 64) p.value))
      (part ++ b :: rest)

theorem opens_two {b : UInt8} (low : 0xC2 ≤ b.toNat) (high : b.toNat < 0xE0) :
    Opens ⟨b, 0, 1, 1, b.toNat - 0xC0, 0x80, 0xBF, false⟩ [b] := by
  intro x rest owed least most _
  obtain rfl : rest = [] := List.length_eq_zero_iff.mp (Nat.succ.inj owed)
  simp only [UInt8.reduceToNat] at least most
  simp only [List.foldl_cons, List.foldl_nil]
  refine ⟨isSurrogate_point (by omega) (by omega), ?_⟩
  rw [encodePoint_two (by omega) (by omega)]
  exact congrArg₂ List.cons (octet_eq (by omega)) (congrArg (List.cons · []) (octet_eq (by omega)))

/-- A bound that is stricter behind one first octet. -/
theorem le_of_ite_le {b special strict usual x : UInt8} (weaker : usual.toNat ≤ strict.toNat)
    (bound : (if b = special then strict else usual).toNat ≤ x.toNat) :
    usual.toNat ≤ x.toNat ∧ (b.toNat = special.toNat → strict.toNat ≤ x.toNat) := by
  split at bound
  · exact ⟨weaker.trans bound, fun _ => bound⟩
  · next other => exact ⟨bound, fun same => absurd (UInt8.toNat_inj.mp same) other⟩

theorem le_of_le_ite {b special strict usual x : UInt8} (weaker : strict.toNat ≤ usual.toNat)
    (bound : x.toNat ≤ (if b = special then strict else usual).toNat) :
    x.toNat ≤ usual.toNat ∧ (b.toNat = special.toNat → x.toNat ≤ strict.toNat) := by
  split at bound
  · exact ⟨bound.trans weaker, fun _ => bound⟩
  · next other => exact ⟨bound, fun same => absurd (UInt8.toNat_inj.mp same) other⟩

theorem opens_three {b : UInt8} (low : 0xE0 ≤ b.toNat) (high : b.toNat < 0xF0) :
    Opens ⟨b, 0, 1, 2, b.toNat - 0xE0, if b = 0xE0 then 0xA0 else 0x80, if b = 0xED then 0x9F else 0xBF,
      false⟩ [b] := by
  intro x rest owed least most tails
  obtain ⟨y, rfl⟩ := List.length_eq_one_iff.mp (Nat.succ.inj owed)
  -- Behind `0xE0` the bounds leave out what two octets are enough for, and behind `0xED` surrogates.
  have lower := le_of_ite_le (by decide) least
  have upper := le_of_le_ite (by decide) most
  have tail : IsTail y := tails y List.mem_cons_self
  simp only [UInt8.reduceToNat] at lower upper
  simp only [IsTail] at tail
  simp only [List.foldl_cons, List.foldl_nil]
  refine ⟨isSurrogate_point (by omega) (by omega), ?_⟩
  rw [encodePoint_three (by omega) (by omega)]
  exact congrArg₂ List.cons (octet_eq (by omega)) (congrArg₂ List.cons (octet_eq (by omega))
    (congrArg (List.cons · []) (octet_eq (by omega))))

theorem opens_four {b : UInt8} (low : 0xF0 ≤ b.toNat) (high : b.toNat ≤ 0xF4) :
    Opens ⟨b, 0, 1, 3, b.toNat - 0xF0, if b = 0xF0 then 0x90 else 0x80, if b = 0xF4 then 0x8F else 0xBF,
      false⟩ [b] := by
  intro x rest owed least most tails
  obtain ⟨y, rest, rfl⟩ := List.exists_cons_of_length_eq_add_one (Nat.succ.inj owed)
  obtain ⟨z, rfl⟩ := List.length_eq_one_iff.mp (Nat.succ.inj (Nat.succ.inj owed))
  -- Behind `0xF0` the bounds leave out what three octets are enough for, and behind `0xF4` what is too large.
  have lower := le_of_ite_le (by decide) least
  have upper := le_of_le_ite (by decide) most
  have tail : IsTail y := tails y List.mem_cons_self
  have last : IsTail z := tails z (List.mem_cons_of_mem _ List.mem_cons_self)
  simp only [UInt8.reduceToNat] at lower upper
  simp only [IsTail] at tail last
  simp only [List.foldl_cons, List.foldl_nil]
  refine ⟨isSurrogate_point (by omega) (by omega), ?_⟩
  rw [encodePoint_four (by omega) (by omega)]
  exact congrArg₂ List.cons (octet_eq (by omega)) (congrArg₂ List.cons (octet_eq (by omega))
    (congrArg₂ List.cons (octet_eq (by omega)) (congrArg (List.cons · []) (octet_eq (by omega)))))

/-- One more octet within the bounds leaves a character with one octet fewer to come. -/
theorem Opens.feed {p : Pending} {part : Bytes} (opens : Opens p part) {b : UInt8}
    (low : p.low.toNat ≤ b.toNat) (high : b.toNat ≤ p.high.toNat) (first : UInt8) (half : Bool) :
    Opens ⟨first, b, p.seen + 1, p.owed - 1, p.value * 64 + b.toNat % 64, 0x80, 0xBF, half⟩
      (part ++ [b]) := by
  intro x rest owed least most tails
  have longer : (x :: rest).length + 1 = p.owed := by
    simp only [List.length_cons] at owed ⊢
    omega
  have written := opens b (x :: rest) longer low high (List.forall_mem_cons.mpr ⟨⟨least, most⟩, tails⟩)
  rw [List.append_assoc]
  exact written

/-! ## The octets read so far -/

def Piece.value? : Piece → Option CodePoint
  | .scalar value _ => some value
  | .malformed .. => none

/-- If the pieces, of which the last comes first, are the characters of a text, the octets are those that
the text is written as. -/
def Covers (octets : Bytes) (found : List Piece) : Prop :=
  ∀ t : Text, found.map Piece.value? = t.reverse.map some →
    (∀ c ∈ t, c.isSurrogate = false) ∧ t.flatMap encodePoint = octets

theorem covers_of_malformed {found : List Piece} (bad : none ∈ found.map Piece.value?) (octets : Bytes) :
    Covers octets found := by
  intro t values
  rw [values] at bad
  obtain ⟨c, -, ⟨⟩⟩ := List.mem_map.mp bad

theorem Covers.scalar {octets more : Bytes} {found : List Piece} (covers : Covers octets found)
    {c : CodePoint} (written : Writes c more) (width : Nat) :
    Covers (octets ++ more) (.scalar c width :: found) := by
  intro t values
  induction t using List.reverseRecOn with
  | nil => cases values
  | append_singleton t last =>
    rw [List.reverse_append, List.reverse_singleton, List.singleton_append, List.map_cons, List.map_cons]
      at values
    obtain ⟨⟨⟩, others⟩ := List.cons.inj values
    obtain ⟨whole, rfl⟩ := covers t others
    refine ⟨List.forall_mem_append.mpr ⟨whole, List.forall_mem_singleton.mpr written.1⟩, ?_⟩
    rw [List.flatMap_append, List.flatMap_singleton, written.2]

/-- The octets read so far are those of the pieces found and those of the character under way. -/
def Accounts (octets : Bytes) (s : Scan) : Prop :=
  ∃ before part, before ++ part = octets ∧ Covers before s.found ∧
    match s.pending with
    | none => part = []
    | some p => Opens p part

/-- Octets that begin no character. -/
theorem begin_none {b : UInt8} (found : List Piece)
    (other : (0x80 ≤ b.toNat ∧ b.toNat < 0xC2) ∨ 0xF4 < b.toNat) :
    Scan.begin false found b = ⟨.malformed .start b 1 :: found, none⟩ := by
  have named : b ≠ 0xE0 ∧ b ≠ 0xED ∧ b ≠ 0xF0 ∧ b ≠ 0xF4 := by
    refine ⟨?_, ?_, ?_, ?_⟩ <;> rintro rfl <;> simp at other
  simp only [Scan.begin, UInt8.lt_iff_toNat_lt, UInt8.reduceToNat, named, if_false]
  rcases other with ⟨low, high⟩ | high
  · rw [if_neg (by omega), if_pos high]
  · rw [if_neg (by omega), if_neg (by omega), if_neg (by omega), if_neg (by omega), if_neg (by omega)]

theorem accounts_begin {octets : Bytes} {found : List Piece} (covers : Covers octets found) (b : UInt8) :
    Accounts (octets ++ [b]) (Scan.begin false found b) := by
  by_cases one : b.toNat < 0x80
  · rw [begin_one false found one]
    have whole : Writes (Fin.ofNat 0x110000 b.toNat) [b] :=
      ⟨isSurrogate_point (by omega) (by omega), encodePoint_one one⟩
    exact ⟨_, [], List.append_nil _, covers.scalar whole 1, rfl⟩
  · by_cases two : 0xC2 ≤ b.toNat ∧ b.toNat < 0xE0
    · rw [begin_two false found two.1 two.2]
      exact ⟨octets, [b], rfl, covers, opens_two two.1 two.2⟩
    · by_cases three : 0xE0 ≤ b.toNat ∧ b.toNat < 0xF0
      · rw [begin_three false found three.1 three.2]
        refine ⟨octets, [b], rfl, covers, ?_⟩
        simpa using opens_three three.1 three.2
      · by_cases four : 0xF0 ≤ b.toNat ∧ b.toNat ≤ 0xF4
        · rw [begin_four false found four.1 four.2]
          exact ⟨octets, [b], rfl, covers, opens_four four.1 four.2⟩
        · rw [begin_none found (by omega)]
          exact ⟨_, [], List.append_nil _, covers_of_malformed List.mem_cons_self _, rfl⟩

theorem none_mem_abandon (p : Pending) (flaw : Flaw) (found : List Piece) :
    none ∈ (p.abandon flaw found).map Piece.value? := by
  unfold Pending.abandon
  split <;> exact List.mem_cons_self

theorem accounts_feed {octets : Bytes} {s : Scan} (accounts : Accounts octets s) (b : UInt8) :
    Accounts (octets ++ [b]) (s.feed false b) := by
  obtain ⟨before, part, rfl, covers, rest⟩ := accounts
  unfold Scan.feed
  cases under : s.pending with
  | none =>
    rw [under] at rest
    obtain rfl : part = [] := rest
    rw [List.append_nil]
    exact accounts_begin covers b
  | some p =>
    rw [under] at rest
    have opens : Opens p part := rest
    dsimp only
    split
    · next within =>
      have low : p.low.toNat ≤ b.toNat := UInt8.le_iff_toNat_le.mp within.1
      have high : b.toNat ≤ p.high.toNat := UInt8.le_iff_toNat_le.mp within.2
      split
      · next last =>
        have written := opens b [] last.symm low high nofun
        refine ⟨_, [], List.append_nil _, ?_, rfl⟩
        rw [List.append_assoc]
        exact covers.scalar written _
      · exact ⟨before, part ++ [b], (List.append_assoc ..).symm, covers, opens.feed low high _ _⟩
    · exact accounts_begin (covers_of_malformed (none_mem_abandon p _ _) _) b

/-- The whole scan accounts for all octets. -/
theorem accounts_scan (bytes : Bytes) :
    Accounts bytes (bytes.foldl (Scan.feed false) ⟨[], none⟩) := by
  induction bytes using List.reverseRecOn with
  | nil =>
    refine ⟨[], [], rfl, fun t values => ?_, rfl⟩
    obtain rfl : t = [] := List.reverse_eq_nil_iff.mp (List.map_eq_nil_iff.mp values.symm)
    exact ⟨nofun, rfl⟩
  | append_singleton bytes b ih =>
    rw [List.foldl_append, List.foldl_cons, List.foldl_nil]
    exact accounts_feed ih b

/-! ## What is read -/

theorem collect_eq_ok {offset : Nat} {acc t : Text} {found : List Piece}
    (read : collect offset acc found = .ok t) :
    ∃ rest, t = acc.reverse ++ rest ∧ found.map Piece.value? = rest.map some := by
  induction found generalizing offset acc with
  | nil =>
    cases read
    exact ⟨[], (List.append_nil _).symm, rfl⟩
  | cons piece found ih =>
    cases piece with
    | malformed flaw first width => cases read
    | scalar value width =>
      obtain ⟨rest, rfl, values⟩ := ih read
      exact ⟨value :: rest, by simp, congrArg (List.cons (some value)) values⟩

/-- The values of all pieces are the text read, if there is one. -/
theorem values_of_decode {bytes : Bytes} {t : Text} (read : decode bytes = .ok t) :
    (pieces false bytes).map Piece.value? = t.map some := by
  obtain ⟨rest, rfl, values⟩ := collect_eq_ok read
  exact values

/-- Octets are read as a text just when it is written as them. -/
theorem decode_eq_ok_iff {bytes : Bytes} {t : Text} : decode bytes = .ok t ↔ encode t = .ok bytes := by
  refine ⟨fun read => ?_, decode_encode⟩
  have values := values_of_decode read
  obtain ⟨before, part, split, covers, remains⟩ := accounts_scan bytes
  unfold pieces Scan.finish at values
  cases under : (bytes.foldl (Scan.feed false) ⟨[], none⟩).pending with
  | none =>
    rw [under] at values remains
    obtain rfl : part = [] := remains
    rw [List.map_reverse] at values
    obtain ⟨whole, written⟩ := covers t (by rw [List.map_reverse, ← values, List.reverse_reverse])
    exact encode_eq_ok_iff.mpr ⟨whole, (written.trans (List.append_nil _).symm).trans split⟩
  | some p =>
    -- A character that has only begun is a malformed stretch.
    rw [under, List.map_reverse] at values
    have bad := none_mem_abandon p .ending (bytes.foldl (Scan.feed false) ⟨[], none⟩).found
    rw [← List.mem_reverse, values] at bad
    obtain ⟨c, -, ⟨⟩⟩ := List.mem_map.mp bad

theorem decodeLossy_encode {t : Text} {bytes : Bytes} (written : encode t = .ok bytes) :
    decodeLossy bytes = t := by
  obtain ⟨whole, rfl⟩ := encode_eq_ok_iff.mp written
  rw [decodeLossy, pieces, foldl_encodePoints false [] whole, Scan.finish, List.append_nil,
    List.reverse_reverse, List.map_map]
  exact List.map_id t

end Utf8

/-- No surrogate is a character. -/
theorem Text.isSurrogate_of_mem_ofString {s : String} {c : CodePoint} (member : c ∈ (s : Text)) :
    c.isSurrogate = false := by
  obtain ⟨char, -, rfl⟩ := List.mem_map.mp member
  have same : (CodePoint.ofChar char).val = char.val.toNat := rfl
  have valid : char.val.toNat < 0xD800 ∨ 0xDFFF < char.val.toNat ∧ char.val.toNat < 0x110000 := char.valid
  rw [CodePoint.isSurrogate, Bool.and_eq_false_iff, decide_eq_false_iff_not, decide_eq_false_iff_not, same]
  omega

end PolicyHost
