import PolicyHost.Proofs.Builtin.Encodings

/-!
# The octets that characters of six bits spell

Four characters of an alphabet of 64 spell three octets. What is left over at the end is spelled by two or
three characters; the bits that these have too many are zeros, and signs fill the group up to four. Texts are
written in this form without the signs. Filling a group up again makes the text readable, and no other text
is read as the same octets.

* `decode?`: the reader of texts that are filled up.
* `length_encode`, `mem_alphabet_of_mem_encode`: how much is written, and in which characters.
* `triple?_eq_some_iff`, `double?_eq_some_iff`, `single?_eq_some_iff`: what each kind of group is read as.
* `decode?_eq_some_iff`: what is read.
* `base64Url_lossless`: the builtin.
-/

namespace PolicyHost

namespace Base64Url

/-- The alphabet, each character in the place of its value. -/
def alphabet : Text := "ABCDEFGHIJKLMNOPQRSTUVWXYZabcdefghijklmnopqrstuvwxyz0123456789-_"

/-- The sign that fills up the last group. -/
def filler : CodePoint := '='

/-- A text filled up to groups of four characters. -/
def padded (t : Text) : Text := t ++ List.replicate ((4 - t.length % 4) % 4) filler

/-- The six bits that a character stands for. -/
def sextet? (c : CodePoint) : Option Nat := alphabet.idxOf? c

/-- The three octets of four characters. -/
def triple? (a b c d : CodePoint) : Option Bytes := do
  let n := (← sextet? a) * 262144 + (← sextet? b) * 4096 + (← sextet? c) * 64 + (← sextet? d)
  return [(n / 65536).toUInt8, (n / 256 % 256).toUInt8, (n % 256).toUInt8]

/-- The two octets of three characters. Two bits are left over. -/
def double? (a b c : CodePoint) : Option Bytes := do
  let n := (← sextet? a) * 4096 + (← sextet? b) * 64 + (← sextet? c)
  if n % 4 = 0 then some [(n / 1024).toUInt8, (n / 4 % 256).toUInt8] else none

/-- The octet of two characters. Four bits are left over. -/
def single? (a b : CodePoint) : Option Bytes := do
  let n := (← sextet? a) * 64 + (← sextet? b)
  if n % 16 = 0 then some [(n / 16).toUInt8] else none

/-- The octets of the last group, which may be filled up. -/
def lastGroup? (a b c d : CodePoint) : Option Bytes :=
  if d ≠ filler then triple? a b c d
  else if c ≠ filler then double? a b c
  else single? a b

/-- The octets that a filled text spells. Signs stand nowhere but in the last group. -/
def decode? : Text → Option Bytes
  | [] => some []
  | [a, b, c, d] => lastGroup? a b c d
  | a :: b :: c :: d :: rest => do return (← triple? a b c d) ++ (← decode? rest)
  | _ => none

/-! ## Characters -/

theorem alphabet_eq : alphabet = (List.range 64).map character := rfl

theorem character_mem_alphabet {n : Nat} (small : n < 64) : character n ∈ alphabet := by
  rw [alphabet_eq]
  exact List.mem_map_of_mem (List.mem_range.mpr small)

theorem sextet?_character {n : Nat} (small : n < 64) : sextet? (character n) = some n := by
  decide +revert

theorem sextet?_eq_some {c : CodePoint} {n : Nat} (read : sextet? c = some n) : n < 64 ∧ character n = c := by
  rw [sextet?, alphabet_eq] at read
  obtain ⟨inside, found, -⟩ := List.idxOf?_eq_some_iff.mp read
  rw [List.getElem_map, List.getElem_range] at found
  rw [List.length_map, List.length_range] at inside
  exact ⟨inside, found⟩

/-! ## What is written -/

theorem encodeOnto_eq : ∀ (bytes : Bytes) (done : Text),
    encodeOnto done bytes = encodeOnto [] bytes ++ done
  | [], _ | [_], _ | [_, _], _ => rfl
  | a :: b :: c :: rest, done => by
    rw [encodeOnto, encodeOnto_eq rest, encodeOnto, encodeOnto_eq rest [_, _, _, _], List.append_assoc]
    rfl

theorem encode_one (x : UInt8) : encode [x] = [character (x.toNat / 4), character (x.toNat % 4 * 16)] := rfl

theorem encode_two (x y : UInt8) :
    let n := x.toNat * 256 + y.toNat
    encode [x, y] = [character (n / 1024), character (n / 16 % 64), character (n % 16 * 4)] := rfl

theorem encode_three (x y z : UInt8) :
    let n := x.toNat * 65536 + y.toNat * 256 + z.toNat
    encode [x, y, z] =
      [character (n / 262144), character (n / 4096 % 64), character (n / 64 % 64), character (n % 64)] := rfl

/-- Three octets are written on their own, in front of the rest. -/
theorem encode_group (x y z : UInt8) (rest : Bytes) :
    encode (x :: y :: z :: rest) = encode [x, y, z] ++ encode rest := by
  rw [encode, encodeOnto, encodeOnto_eq, List.reverse_append]
  rfl

/-- Four characters for three octets, rounded up. -/
theorem length_encode : ∀ bytes : Bytes, (encode bytes).length = (4 * bytes.length + 2) / 3
  | [] => rfl
  | [x] => by
    rw [encode_one]
    simp only [List.length_cons, List.length_nil]
  | [x, y] => by
    rw [encode_two]
    simp only [List.length_cons, List.length_nil]
  | x :: y :: z :: rest => by
    have later := length_encode rest
    rw [encode_group, encode_three]
    simp only [List.length_append, List.length_cons, List.length_nil]
    omega

/-- Nothing is written but characters of the alphabet. -/
theorem mem_alphabet_of_mem_encode : ∀ bytes : Bytes, ∀ c ∈ encode bytes, c ∈ alphabet
  | [] => nofun
  | [x] => by
    have := x.toNat_lt
    rw [encode_one]
    simp only [List.forall_mem_cons]
    exact ⟨character_mem_alphabet (by omega), character_mem_alphabet (by omega), nofun⟩
  | [x, y] => by
    have := x.toNat_lt
    have := y.toNat_lt
    rw [encode_two]
    simp only [List.forall_mem_cons]
    exact ⟨character_mem_alphabet (by omega), character_mem_alphabet (by omega),
      character_mem_alphabet (by omega), nofun⟩
  | x :: y :: z :: rest => by
    have := x.toNat_lt
    have := y.toNat_lt
    have := z.toNat_lt
    rw [encode_group, encode_three]
    refine List.forall_mem_append.mpr ⟨?_, mem_alphabet_of_mem_encode rest⟩
    simp only [List.forall_mem_cons]
    exact ⟨character_mem_alphabet (by omega), character_mem_alphabet (by omega),
      character_mem_alphabet (by omega), character_mem_alphabet (by omega), nofun⟩

/-! ## What is read -/

/-- The number of three octets, each cut out of the number. -/
theorem toNat_three {n : Nat} (small : n < 16777216) :
    (n / 65536).toUInt8.toNat * 65536 + (n / 256 % 256).toUInt8.toNat * 256 + (n % 256).toUInt8.toNat = n := by
  rw [Utf8.toNat_octet (n := n / 65536) (by omega), Utf8.toNat_octet (n := n / 256 % 256) (by omega),
    Utf8.toNat_octet (n := n % 256) (by omega)]
  omega

/-- The number of two octets, but for the two bits that are left over. -/
theorem toNat_two {n : Nat} (small : n < 262144) :
    (n / 1024).toUInt8.toNat * 256 + (n / 4 % 256).toUInt8.toNat = n / 4 := by
  rw [Utf8.toNat_octet (n := n / 1024) (by omega), Utf8.toNat_octet (n := n / 4 % 256) (by omega)]
  omega

/-- Four characters are read as the three octets that they are written for. -/
theorem triple?_eq_some_iff {a b c d : CodePoint} {octets : Bytes} :
    triple? a b c d = some octets ↔ ∃ x y z, octets = [x, y, z] ∧ encode [x, y, z] = [a, b, c, d] := by
  constructor
  · intro read
    simp only [triple?, Option.bind_eq_bind, Option.bind_eq_some_iff] at read
    obtain ⟨i, first, j, second, k, third, l, fourth, same⟩ := read
    cases same
    obtain ⟨_, rfl⟩ := sextet?_eq_some first
    obtain ⟨_, rfl⟩ := sextet?_eq_some second
    obtain ⟨_, rfl⟩ := sextet?_eq_some third
    obtain ⟨_, rfl⟩ := sextet?_eq_some fourth
    refine ⟨_, _, _, rfl, ?_⟩
    -- The octets spell the number that the characters spell, so it is cut into the same six bits again.
    generalize number : i * 262144 + j * 4096 + k * 64 + l = n
    have highest : n / 262144 = i := by omega
    have higher : n / 4096 % 64 = j := by omega
    have lower : n / 64 % 64 = k := by omega
    have lowest : n % 64 = l := by omega
    rw [encode_three, toNat_three (by omega), highest, higher, lower, lowest]
  · rintro ⟨x, y, z, rfl, written⟩
    have := x.toNat_lt
    have := y.toNat_lt
    have := z.toNat_lt
    rw [encode_three] at written
    cases written
    rw [triple?, sextet?_character (by omega), sextet?_character (by omega), sextet?_character (by omega),
      sextet?_character (by omega)]
    simp only [Option.bind_eq_bind, Option.bind_some]
    rw [Utf8.octet_eq (b := x) (by omega), Utf8.octet_eq (b := y) (by omega), Utf8.octet_eq (b := z) (by omega)]
    rfl

/-- Three characters are read as the two octets that they are written for. -/
theorem double?_eq_some_iff {a b c : CodePoint} {octets : Bytes} :
    double? a b c = some octets ↔ ∃ x y, octets = [x, y] ∧ encode [x, y] = [a, b, c] := by
  constructor
  · intro read
    simp only [double?, Option.bind_eq_bind, Option.bind_eq_some_iff] at read
    obtain ⟨i, first, j, second, k, third, read⟩ := read
    obtain ⟨_, rfl⟩ := sextet?_eq_some first
    obtain ⟨_, rfl⟩ := sextet?_eq_some second
    obtain ⟨_, rfl⟩ := sextet?_eq_some third
    split at read
    · next zeros =>
      cases read
      refine ⟨_, _, rfl, ?_⟩
      generalize number : i * 4096 + j * 64 + k = n at zeros ⊢
      have higher : n / 4 / 1024 = i := by omega
      have middle : n / 4 / 16 % 64 = j := by omega
      have lower : n / 4 % 16 * 4 = k := by omega
      rw [encode_two, toNat_two (by omega), higher, middle, lower]
    · cases read
  · rintro ⟨x, y, rfl, written⟩
    have := x.toNat_lt
    have := y.toNat_lt
    rw [encode_two] at written
    cases written
    rw [double?, sextet?_character (by omega), sextet?_character (by omega), sextet?_character (by omega)]
    simp only [Option.bind_eq_bind, Option.bind_some]
    rw [if_pos (by omega), Utf8.octet_eq (b := x) (by omega), Utf8.octet_eq (b := y) (by omega)]

/-- Two characters are read as the octet that they are written for. -/
theorem single?_eq_some_iff {a b : CodePoint} {octets : Bytes} :
    single? a b = some octets ↔ ∃ x, octets = [x] ∧ encode [x] = [a, b] := by
  constructor
  · intro read
    simp only [single?, Option.bind_eq_bind, Option.bind_eq_some_iff] at read
    obtain ⟨i, first, j, second, read⟩ := read
    obtain ⟨_, rfl⟩ := sextet?_eq_some first
    obtain ⟨_, rfl⟩ := sextet?_eq_some second
    split at read
    · next zeros =>
      cases read
      refine ⟨_, rfl, ?_⟩
      have higher : (i * 64 + j) / 16 / 4 = i := by omega
      have lower : (i * 64 + j) / 16 % 4 * 16 = j := by omega
      rw [encode_one, Utf8.toNat_octet (by omega), higher, lower]
    · cases read
  · rintro ⟨x, rfl, written⟩
    have := x.toNat_lt
    rw [encode_one] at written
    cases written
    rw [single?, sextet?_character (by omega), sextet?_character (by omega)]
    simp only [Option.bind_eq_bind, Option.bind_some]
    rw [if_pos (by omega), Utf8.octet_eq (b := x) (by omega)]

theorem padded_group (a b c d : CodePoint) (t : Text) :
    padded (a :: b :: c :: d :: t) = a :: b :: c :: d :: padded t := by
  have same : (a :: b :: c :: d :: t).length % 4 = t.length % 4 := Nat.add_mod_right t.length 4
  rw [padded, same]
  rfl

/-- The sign that fills a text up can be told from what is written. -/
theorem filler_not_mem_encode (bytes : Bytes) : filler ∉ encode bytes := fun inside =>
  absurd (mem_alphabet_of_mem_encode bytes filler inside) (by decide)

theorem lastGroup?_full {d : CodePoint} (solid : d ≠ filler) (a b c : CodePoint) :
    lastGroup? a b c d = triple? a b c d := if_pos solid

theorem lastGroup?_filled {c : CodePoint} (solid : c ≠ filler) (a b : CodePoint) :
    lastGroup? a b c filler = double? a b c := by
  unfold lastGroup?
  rw [if_neg (not_not.mpr rfl), if_pos solid]

theorem lastGroup?_filledTwice (a b : CodePoint) : lastGroup? a b filler filler = single? a b := by
  unfold lastGroup?
  rw [if_neg (not_not.mpr rfl), if_neg (not_not.mpr rfl)]

/-- A full group is read on its own, in front of the rest, also if it is the last one. -/
theorem decode?_group {d : CodePoint} (solid : d ≠ filler) (a b c : CodePoint) (rest : Text) :
    decode? (a :: b :: c :: d :: rest) = do return (← triple? a b c d) ++ (← decode? rest) := by
  cases rest with
  | nil =>
    change lastGroup? a b c d = _
    rw [lastGroup?_full solid]
    cases triple? a b c d with
    | none => rfl
    | some octets => exact congrArg some (List.append_nil octets).symm
  | cons e more => rfl

/-- What is written is read, once it is filled up. -/
theorem decode?_padded_encode : ∀ bytes : Bytes, decode? (padded (encode bytes)) = some bytes
  | [] => rfl
  | [x] => by
    change lastGroup? (character (x.toNat / 4)) (character (x.toNat % 4 * 16)) filler filler = _
    rw [lastGroup?_filledTwice, single?_eq_some_iff.mpr ⟨x, rfl, encode_one x⟩]
  | [x, y] => by
    obtain ⟨a, b, c, written⟩ : ∃ a b c, encode [x, y] = [a, b, c] := ⟨_, _, _, encode_two x y⟩
    have solid : c ≠ filler := fun same => filler_not_mem_encode [x, y] (by simp [written, same])
    rw [written]
    change lastGroup? a b c filler = _
    rw [lastGroup?_filled solid, double?_eq_some_iff.mpr ⟨x, y, rfl, written⟩]
  | x :: y :: z :: rest => by
    obtain ⟨a, b, c, d, written⟩ : ∃ a b c d, encode [x, y, z] = [a, b, c, d] := ⟨_, _, _, _, encode_three x y z⟩
    have solid : d ≠ filler := fun same => filler_not_mem_encode [x, y, z] (by simp [written, same])
    rw [encode_group, written]
    change decode? (padded (a :: b :: c :: d :: encode rest)) = _
    rw [padded_group, decode?_group solid, triple?_eq_some_iff.mpr ⟨x, y, z, rfl, written⟩,
      decode?_padded_encode rest]
    rfl

/-- A last group is read as the octets that fill up to it. -/
theorem padded_of_lastGroup? {a b c d : CodePoint} {octets : Bytes} (read : lastGroup? a b c d = some octets) :
    [a, b, c, d] = padded (encode octets) := by
  by_cases full : d ≠ filler
  · rw [lastGroup?_full full] at read
    obtain ⟨x, y, z, rfl, written⟩ := triple?_eq_some_iff.mp read
    rw [written, padded_group]
    rfl
  · obtain rfl := not_not.mp full
    by_cases once : c ≠ filler
    · rw [lastGroup?_filled once] at read
      obtain ⟨x, y, rfl, written⟩ := double?_eq_some_iff.mp read
      rw [written]
      rfl
    · obtain rfl := not_not.mp once
      rw [lastGroup?_filledTwice] at read
      obtain ⟨x, rfl, written⟩ := single?_eq_some_iff.mp read
      rw [written]
      rfl

/-- A text is read just when it is what is written for its octets, filled up. -/
theorem decode?_eq_some_iff {t : Text} {bytes : Bytes} :
    decode? t = some bytes ↔ t = padded (encode bytes) := by
  constructor
  · intro read
    fun_induction decode? t generalizing bytes with
    | case1 =>
      cases read
      rfl
    | case2 a b c d => exact padded_of_lastGroup? read
    | case3 a b c d rest more ih =>
      simp only [Option.bind_eq_bind, Option.bind_eq_some_iff] at read
      obtain ⟨octets, group, others, later, same⟩ := read
      cases same
      obtain ⟨x, y, z, rfl, written⟩ := triple?_eq_some_iff.mp group
      change _ = padded (encode (x :: y :: z :: others))
      rw [encode_group, written, ih later]
      exact (padded_group a b c d (encode others)).symm
    | case4 => cases read
  · rintro rfl
    exact decode?_padded_encode bytes

example : decode? "Zm9vYg==" = some [0x66, 0x6F, 0x6F, 0x62] := by decide

theorem encode_injective : Function.Injective encode := fun bytes others same =>
  Option.some.inj (by rw [← decode?_padded_encode bytes, same, decode?_padded_encode])

end Base64Url

namespace Builtin

theorem applied_base64Url {s : Text} {bytes : Bytes} (written : Utf8.encode s = .ok bytes) (context : Context) :
    applied "base64url.encode_no_pad" (.string s) context = (.ok (.text (Base64Url.encode bytes)), context) := by
  change (do return Value.text (Base64Url.encode (← writable (Utf8.encode s))) : Action Value).run context = _
  rw [written]
  rfl

/-- For a text without surrogates there are a third more characters than octets in UTF-8, rounded up, and all
of them are of the alphabet. Filled up they are read as those octets, and so is no other text. Different texts
are written differently. -/
theorem base64Url_lossless (context : Context) :
    (∀ s : Text, (∀ c ∈ s, c.isSurrogate = false) →
      ∃ bytes out, Utf8.encode s = .ok bytes ∧
        applied "base64url.encode_no_pad" (.string s) context = (.ok (.text out), context) ∧
        out.length = (4 * bytes.length + 2) / 3 ∧ (∀ c ∈ out, c ∈ Base64Url.alphabet) ∧
        ∀ t, Base64Url.decode? t = some bytes ↔ t = Base64Url.padded out) ∧
    ∀ s t : Text, (∀ c ∈ s, c.isSurrogate = false) → (∀ c ∈ t, c.isSurrogate = false) → s ≠ t →
      applied "base64url.encode_no_pad" (.string s) context ≠
        applied "base64url.encode_no_pad" (.string t) context := by
  refine ⟨fun s scalar => ?_, fun s t scalar scalar' differ same => differ ?_⟩
  · obtain ⟨bytes, written⟩ := exists_octets scalar
    exact ⟨bytes, Base64Url.encode bytes, written, applied_base64Url written context,
      Base64Url.length_encode bytes, Base64Url.mem_alphabet_of_mem_encode bytes,
      fun t => Base64Url.decode?_eq_some_iff⟩
  · obtain ⟨bytes, written⟩ := exists_octets scalar
    obtain ⟨others, written'⟩ := exists_octets scalar'
    rw [applied_base64Url written, applied_base64Url written'] at same
    simp only [Prod.mk.injEq, Except.ok.injEq, Value.text.injEq, and_true] at same
    rw [Base64Url.encode_injective same] at written
    have read := Utf8.decode_eq_ok_iff.mpr written
    rw [Utf8.decode_eq_ok_iff.mpr written'] at read
    exact (Except.ok.inj read).symm

/-- A text of five octets, which are written with the last character of the alphabet among others. -/
def accented : Text := ">>?é"

theorem accented_lossless :
    (∀ t, Base64Url.decode? t = some [0x3E, 0x3E, 0x3F, 0xC3, 0xA9] ↔ t = "Pj4_w6k=") ∧
      applied "base64url.encode_no_pad" (.string accented) (.fresh ⟨0, ⟨0, 0⟩⟩) ≠
        applied "base64url.encode_no_pad" (.string ">>?e") (.fresh ⟨0, ⟨0, 0⟩⟩) := by
  have lossless := base64Url_lossless (.fresh ⟨0, ⟨0, 0⟩⟩)
  have scalar : ∀ c ∈ accented, c.isSurrogate = false := fun _ => Text.isSurrogate_of_mem_ofString
  have scalar' : ∀ c ∈ (">>?e" : Text), c.isSurrogate = false := fun _ => Text.isSurrogate_of_mem_ofString
  have octets : Utf8.encode accented = .ok [0x3E, 0x3E, 0x3F, 0xC3, 0xA9] := rfl
  obtain ⟨bytes, out, written, given, -, -, read⟩ := lossless.1 accented scalar
  cases octets.symm.trans written
  cases (applied_base64Url octets _).symm.trans given
  have filled : Base64Url.padded (Base64Url.encode [0x3E, 0x3E, 0x3F, 0xC3, 0xA9]) = "Pj4_w6k=" := by decide
  rw [filled] at read
  exact ⟨read, lossless.2 accented ">>?e" scalar scalar' (by decide)⟩

end Builtin

end PolicyHost
