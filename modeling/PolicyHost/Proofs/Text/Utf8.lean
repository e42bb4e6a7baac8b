import Mathlib.Data.List.TakeWhile
import PolicyHost.Text.Utf8

/-!
# What UTF-8 writes, it reads

A scalar value is written in one to four octets. Read again, these octets are that value and nothing
else, whether or not the reader takes surrogates as well.

* `begin_one`, `begin_two`, `begin_three`, `begin_four`: what a first octet opens.
* `foldl_tails`: the octets that complete a character.
* `foldl_encodePoint`, `decode_encode`, `decodeWithHalves_encode`: one scalar value, and whole texts.
* `le_of_mem_encode`, `head_encode`: texts without control characters, and texts that start in ASCII.
-/

namespace PolicyHost.Utf8

/-! ## First octets -/

variable (halves : Bool) (found : List Piece)

theorem begin_one {b : UInt8} (high : b.toNat < 0x80) :
    Scan.begin halves found b = ⟨.scalar (Fin.ofNat 0x110000 b.toNat) 1 :: found, none⟩ := by
  unfold Scan.begin
  rw [if_pos (UInt8.lt_iff_toNat_lt.mpr high)]

theorem begin_two {b : UInt8} (low : 0xC2 ≤ b.toNat) (high : b.toNat < 0xE0) :
    Scan.begin halves found b = ⟨found, some ⟨b, 0, 1, 1, b.toNat - 0xC0, 0x80, 0xBF, false⟩⟩ := by
  have value : (b - 0xC0).toNat = b.toNat - 0xC0 :=
    UInt8.toNat_sub_of_le b 0xC0 (UInt8.le_iff_toNat_le.mpr (show 0xC0 ≤ b.toNat by omega))
  simp only [Scan.begin, UInt8.lt_iff_toNat_lt, UInt8.reduceToNat, value]
  rw [if_neg (by omega), if_neg (by omega), if_pos high]

/-- After the least first octet the second one must not spell a value that fits in two octets, and
after another one it must not spell a surrogate. -/
theorem begin_three {b : UInt8} (low : 0xE0 ≤ b.toNat) (high : b.toNat < 0xF0) :
    Scan.begin halves found b =
      ⟨found, some ⟨b, 0, 1, 2, b.toNat - 0xE0, if b = 0xE0 then 0xA0 else 0x80,
        if b = 0xED ∧ halves = false then 0x9F else 0xBF, false⟩⟩ := by
  have value : (b - 0xE0).toNat = b.toNat - 0xE0 :=
    UInt8.toNat_sub_of_le b 0xE0 (UInt8.le_iff_toNat_le.mpr low)
  by_cases least : b = 0xE0
  · subst least
    rfl
  · by_cases surrogate : b = 0xED
    · subst surrogate
      cases halves <;> rfl
    · simp only [Scan.begin, UInt8.lt_iff_toNat_lt, UInt8.reduceToNat, value, least, surrogate]
      rw [if_neg (by omega), if_neg (by omega), if_neg (by omega)]
      simp [high]

theorem begin_four {b : UInt8} (low : 0xF0 ≤ b.toNat) (high : b.toNat ≤ 0xF4) :
    Scan.begin halves found b =
      ⟨found, some ⟨b, 0, 1, 3, b.toNat - 0xF0, if b = 0xF0 then 0x90 else 0x80,
        if b = 0xF4 then 0x8F else 0xBF, false⟩⟩ := by
  have value : (b - 0xF0).toNat = b.toNat - 0xF0 :=
    UInt8.toNat_sub_of_le b 0xF0 (UInt8.le_iff_toNat_le.mpr low)
  by_cases least : b = 0xF0
  · subst least
    rfl
  · by_cases most : b = 0xF4
    · subst most
      rfl
    · have inner : b.toNat ≠ 0xF0 ∧ b.toNat ≠ 0xF4 :=
        ⟨fun same => least (UInt8.toNat_inj.mp same), fun same => most (UInt8.toNat_inj.mp same)⟩
      have wide : b ≠ 0xE0 ∧ b ≠ 0xED := by
        constructor <;> rintro rfl <;> simp at low
      have bounds : ¬ b.toNat < 0xF0 ∧ b.toNat < 0xF4 := by omega
      simp only [Scan.begin, UInt8.lt_iff_toNat_lt, UInt8.reduceToNat, value, least, most, wide]
      rw [if_neg (by omega), if_neg (by omega), if_neg (by omega)]
      simp [bounds]

/-! ## Octets that complete a character -/

/-- The octets that complete the character under way. Only the first of them has bounds of its own. -/
theorem foldl_tails (p : Pending) (b : UInt8) (rest : Bytes)
    (owed : p.owed = rest.length + 1) (low : p.low.toNat ≤ b.toNat) (high : b.toNat ≤ p.high.toNat)
    (free : ∀ t ∈ rest, 0x80 ≤ t.toNat ∧ t.toNat ≤ 0xBF) :
    (b :: rest).foldl (Scan.feed halves) ⟨found, some p⟩ =
      ⟨.scalar (Fin.ofNat 0x110000 ((b :: rest).foldl (fun v t => v * 64 + t.toNat % 64) p.value))
        (p.seen + rest.length + 1) :: found, none⟩ := by
  induction rest generalizing p b with
  | nil => simp [Scan.feed, UInt8.le_iff_toNat_le, low, high, owed]
  | cons t rest ih =>
    have bounds := free t List.mem_cons_self
    have more : ¬ p.owed = 1 := by simp [owed]
    rw [List.foldl_cons, Scan.feed]
    simp only [UInt8.le_iff_toNat_le, low, high, and_self, if_true, more, if_false]
    rw [ih]
    · simp only [List.foldl_cons, List.length_cons]
      rw [show p.seen + 1 + rest.length + 1 = p.seen + (rest.length + 1) + 1 by omega]
    · simp [owed]
    · exact bounds.1
    · exact bounds.2
    · exact fun t later => free t (List.mem_cons_of_mem _ later)

theorem toNat_octet {n : Nat} (octet : n < 0x100) : n.toUInt8.toNat = n :=
  UInt8.toNat_ofNat_of_lt' octet

theorem toNat_tail (n : Nat) : (0x80 + n % 64).toUInt8.toNat = 0x80 + n % 64 :=
  toNat_octet (by omega)

theorem foldl_two {n : Nat} (low : 0x80 ≤ n) (high : n < 0x800) :
    [(0xC0 + n / 64).toUInt8, (0x80 + n % 64).toUInt8].foldl (Scan.feed halves) ⟨found, none⟩ =
      ⟨.scalar (Fin.ofNat 0x110000 n) 2 :: found, none⟩ := by
  have octet : (0xC0 + n / 64).toUInt8.toNat = 0xC0 + n / 64 := toNat_octet (by omega)
  change List.foldl _ (Scan.begin halves found _) _ = _
  rw [begin_two halves found (by omega) (by omega), foldl_tails _ _ _ _ _ rfl]
  · simp only [List.foldl_cons, List.foldl_nil, octet, toNat_tail]
    rw [show (0xC0 + n / 64 - 0xC0) * 64 + (0x80 + n % 64) % 64 = n by omega]
    rfl
  · rw [toNat_tail]
    exact Nat.le_add_right _ _
  · rw [toNat_tail]
    change _ ≤ 0xBF
    omega
  · exact nofun

theorem foldl_three {n : Nat} (low : 0x800 ≤ n) (high : n < 0x10000)
    (whole : n < 0xD800 ∨ 0xDFFF < n) :
    [(0xE0 + n / 4096).toUInt8, (0x80 + n / 64 % 64).toUInt8, (0x80 + n % 64).toUInt8].foldl
        (Scan.feed halves) ⟨found, none⟩ =
      ⟨.scalar (Fin.ofNat 0x110000 n) 3 :: found, none⟩ := by
  have octet : (0xE0 + n / 4096).toUInt8.toNat = 0xE0 + n / 4096 := toNat_octet (by omega)
  generalize (0xE0 + n / 4096).toUInt8 = first at octet
  change List.foldl _ (Scan.begin halves found _) _ = _
  rw [begin_three halves found (by omega) (by omega), foldl_tails _ _ _ _ _ rfl]
  · simp only [List.foldl_cons, List.foldl_nil, octet, toNat_tail]
    rw [show ((0xE0 + n / 4096 - 0xE0) * 64 + (0x80 + n / 64 % 64) % 64) * 64 + (0x80 + n % 64) % 64 = n
      by omega]
    rfl
  · rw [toNat_tail]
    -- A lower one would spell what fits in two octets.
    dsimp only
    split
    · next least =>
      rw [least] at octet
      simp at octet ⊢
      omega
    · exact Nat.le_add_right _ _
  · rw [toNat_tail]
    -- A higher one would spell a surrogate.
    dsimp only
    split
    · next surrogate =>
      rw [surrogate.1] at octet
      simp at octet ⊢
      omega
    · simp only [UInt8.reduceToNat]
      omega
  · simp
    omega

theorem foldl_four {n : Nat} (low : 0x10000 ≤ n) (high : n < 0x110000) :
    [(0xF0 + n / 262144).toUInt8, (0x80 + n / 4096 % 64).toUInt8, (0x80 + n / 64 % 64).toUInt8,
        (0x80 + n % 64).toUInt8].foldl (Scan.feed halves) ⟨found, none⟩ =
      ⟨.scalar (Fin.ofNat 0x110000 n) 4 :: found, none⟩ := by
  have octet : (0xF0 + n / 262144).toUInt8.toNat = 0xF0 + n / 262144 := toNat_octet (by omega)
  generalize (0xF0 + n / 262144).toUInt8 = first at octet
  change List.foldl _ (Scan.begin halves found _) _ = _
  rw [begin_four halves found (by omega) (by omega), foldl_tails _ _ _ _ _ rfl]
  · simp only [List.foldl_cons, List.foldl_nil, octet, toNat_tail]
    rw [show (((0xF0 + n / 262144 - 0xF0) * 64 + (0x80 + n / 4096 % 64) % 64) * 64
      + (0x80 + n / 64 % 64) % 64) * 64 + (0x80 + n % 64) % 64 = n by omega]
    rfl
  · rw [toNat_tail]
    -- A lower one would spell what fits in three octets.
    dsimp only
    split
    · next least =>
      rw [least] at octet
      simp at octet ⊢
      omega
    · exact Nat.le_add_right _ _
  · rw [toNat_tail]
    -- A higher one would spell what is no code point.
    dsimp only
    split
    · next most =>
      rw [most] at octet
      simp at octet ⊢
      omega
    · simp only [UInt8.reduceToNat]
      omega
  · simp
    omega

/-! ## Scalar values and texts -/

/-- The octets of a scalar value are read as that value. -/
theorem foldl_encodePoint {c : CodePoint} (whole : c.isSurrogate = false) :
    (encodePoint c).foldl (Scan.feed halves) ⟨found, none⟩ =
      ⟨.scalar c (encodePoint c).length :: found, none⟩ := by
  have apart : c.val < 0xD800 ∨ 0xDFFF < c.val := by
    simp only [CodePoint.isSurrogate, Bool.and_eq_false_iff, decide_eq_false_iff_not] at whole
    omega
  have point : Fin.ofNat 0x110000 c.val = c := Fin.ext (Nat.mod_eq_of_lt c.isLt)
  unfold encodePoint
  dsimp only
  split
  · next one =>
    have octet : c.val.toUInt8.toNat = c.val := toNat_octet (by omega)
    change Scan.begin halves found _ = _
    rw [begin_one halves found (by omega), octet, point]
    rfl
  · split
    · rw [foldl_two halves found (by omega) (by omega), point]
      rfl
    · split
      · rw [foldl_three halves found (by omega) (by omega) apart, point]
        rfl
      · rw [foldl_four halves found (by omega) c.isLt, point]
        rfl

def wholePiece (c : CodePoint) : Piece := .scalar c (encodePoint c).length

theorem foldl_encodePoints {t : Text} (whole : ∀ c ∈ t, c.isSurrogate = false) :
    (t.flatMap encodePoint).foldl (Scan.feed halves) ⟨found, none⟩ =
      ⟨(t.map wholePiece).reverse ++ found, none⟩ := by
  induction t generalizing found with
  | nil => rfl
  | cons c rest ih =>
    rw [List.flatMap_cons, List.foldl_append,
      foldl_encodePoint halves found (whole c List.mem_cons_self),
      ih _ fun c later => whole c (List.mem_cons_of_mem _ later)]
    simp [wholePiece]

theorem collect_wholePieces (offset : Nat) (acc t : Text) :
    collect offset acc (t.map wholePiece) = .ok (acc.reverse ++ t) := by
  induction t generalizing offset acc with
  | nil => simp [collect]
  | cons c rest ih => simp [wholePiece, collect, ih]

theorem findHalves_eq_none_iff {t : Text} : findHalves t = none ↔ ∀ c ∈ t, c.isSurrogate = false := by
  have whole : t.takeWhile (fun c => !c.isSurrogate) = t ↔ ∀ c ∈ t, c.isSurrogate = false := by
    rw [List.takeWhile_eq_self_iff]
    simp
  rw [← whole]
  unfold findHalves
  dsimp only
  split
  · next ended =>
    have before := List.takeWhile_prefix (l := t) fun c : CodePoint => !c.isSurrogate
    exact iff_of_true rfl (before.eq_of_length_le (List.drop_eq_nil_iff.mp ended))
  · next c rest found =>
    refine iff_of_false nofun fun same => ?_
    rw [same, List.drop_length] at found
    cases found

theorem encode_eq_ok_iff {t : Text} {bytes : Bytes} :
    encode t = .ok bytes ↔ (∀ c ∈ t, c.isSurrogate = false) ∧ t.flatMap encodePoint = bytes := by
  rw [← findHalves_eq_none_iff]
  unfold encode
  cases findHalves t <;> simp

theorem collect_encode {t : Text} {bytes : Bytes} (written : encode t = .ok bytes) :
    collect 0 [] (pieces halves bytes) = .ok t := by
  obtain ⟨whole, rfl⟩ := encode_eq_ok_iff.mp written
  rw [pieces, foldl_encodePoints halves [] whole]
  simpa [Scan.finish] using collect_wholePieces 0 [] t

/-- What has been written is read, also by a reader that takes no surrogates. -/
theorem decode_encode {t : Text} {bytes : Bytes} (written : encode t = .ok bytes) :
    decode bytes = .ok t :=
  collect_encode false written

theorem decodeWithHalves_encode {t : Text} {bytes : Bytes} (written : encode t = .ok bytes) :
    decodeWithHalves bytes = .ok t :=
  collect_encode true written

theorem le_toUInt8 {n : Nat} (low : 0x20 ≤ n) (high : n < 0x100) : 0x20 ≤ n.toUInt8 := by
  rw [UInt8.le_iff_toNat_le, toNat_octet high]
  exact low

/-- A code point that is no control character is written without octets that are. -/
theorem le_of_mem_encodePoint {c : CodePoint} (visible : 0x20 ≤ c.val) {b : UInt8}
    (member : b ∈ encodePoint c) : 0x20 ≤ b := by
  have bound := c.isLt
  unfold encodePoint at member
  dsimp only at member
  split at member
  · rw [List.mem_singleton.mp member]
    exact le_toUInt8 visible (by omega)
  · repeat' split at member
    all_goals
      simp only [List.mem_cons, List.not_mem_nil, or_false] at member
      rcases member with rfl | member
      · exact le_toUInt8 (by omega) (by omega)
      · rcases member with rfl | rfl | rfl <;> exact le_toUInt8 (by omega) (by omega)

theorem le_of_mem_encode {t : Text} {bytes : Bytes} (written : encode t = .ok bytes)
    (visible : ∀ c ∈ t, 0x20 ≤ c.val) : ∀ b ∈ bytes, 0x20 ≤ b := by
  obtain ⟨-, rfl⟩ := encode_eq_ok_iff.mp written
  intro b member
  obtain ⟨c, inside, octet⟩ := List.mem_flatMap.mp member
  exact le_of_mem_encodePoint (visible c inside) octet

/-- A text that starts with an ASCII character is written with its octet in front. -/
theorem head_encode {t : Text} {bytes : Bytes} (written : encode t = .ok bytes)
    (ascii : ∀ c ∈ t.head?, c.val < 0x80) : ∀ b ∈ bytes.head?, b < 0x80 := by
  obtain ⟨-, rfl⟩ := encode_eq_ok_iff.mp written
  cases t with
  | nil => exact nofun
  | cons c rest =>
    have small := ascii c rfl
    rw [List.flatMap_cons, encodePoint, if_pos small]
    rintro _ ⟨⟩
    rw [UInt8.lt_iff_toNat_lt, toNat_octet (by omega)]
    exact small

end PolicyHost.Utf8
