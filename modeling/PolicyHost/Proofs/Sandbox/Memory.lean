import Mathlib.Data.List.TakeWhile
import Mathlib.Order.Bounds.Defs
import PolicyHost.Sandbox.Access

/-!
# Texts in memory

Octets that have been written at an address are there, and the host reads a text that ends in a zero
up to that zero, however it lies across the chunks it reads.

* `slice_eq_map`: a stretch of memory, octet by octet.
* `Holds`, `holds_of_write?`: octets at an address, and writing them there.
* `KeepsBelow`: what writing and growing leave as it is; `Staged`: octets at a mark, on as few pages as
  can be.
* `place?_of_upper`: writing at an address in the upper half, which the host sees as a negative number,
  goes astray.
* `upToZero?`, `ahead`: the text up to the first zero, and the octets in which the host looks for it.
* `cStringFrom_eq`, `cString?_eq`: the loop that reads chunks, and so the host, reads that text.
* `Terminated`: a text with a zero behind it.
* `cString?_of_terminated`, `terminated_of_cString?`: such texts are what the host reads.
-/

namespace PolicyHost.Memory

theorem getElem?_slice (m : Memory) {start stop k : Nat} (inside : k < stop - start) :
    (m.slice start stop)[k]? = some (m.byte (start + k)) := by
  have known : (m.bytes.extract start stop).toList[k]? = m.bytes[start + k]? := by
    simp [inside]
  unfold slice byte
  by_cases written : start + k < m.bytes.size
  · rw [List.getElem?_append_left (by simp; omega), known]
    simp [written]
  · have beyond : m.bytes[start + k]? = none := by simpa using written
    rw [List.getElem?_append_right (by simp; omega), beyond, List.getElem?_replicate]
    simp
    omega

theorem length_slice (m : Memory) (start stop : Nat) : (m.slice start stop).length = stop - start := by
  simp only [slice, List.length_append, Array.length_toList, Array.size_extract, List.length_replicate]
  omega

/-- A stretch of memory, octet by octet. -/
theorem slice_eq_map (m : Memory) (start stop : Nat) :
    m.slice start stop = (List.range (stop - start)).map fun k => m.byte (start + k) := by
  apply List.ext_getElem?
  intro k
  by_cases inside : k < stop - start
  · rw [getElem?_slice m inside]
    simp [inside]
  · rw [List.getElem?_eq_none (by rw [length_slice]; omega)]
    simp [inside]

theorem slice_of_le (m : Memory) {start stop : Nat} (order : stop ≤ start) : m.slice start stop = [] :=
  List.eq_nil_of_length_eq_zero (by rw [length_slice]; omega)

theorem slice_append (m : Memory) {start middle stop : Nat} (first : start ≤ middle)
    (second : middle ≤ stop) : m.slice start middle ++ m.slice middle stop = m.slice start stop := by
  simp only [slice_eq_map]
  rw [show stop - start = (middle - start) + (stop - middle) by omega, List.range_add, List.map_append,
    List.map_map]
  refine congrArg _ (List.map_congr_left fun k _ => congrArg m.byte ?_)
  dsimp only
  omega

/-! ## Writing -/

/-- `m` holds octets from an address on. -/
structure Holds (m : Memory) (address : Nat) (data : Bytes) : Prop where
  inside : address + data.length ≤ m.size
  octets : m.slice address (address + data.length) = data

theorem Holds.byte {m : Memory} {address : Nat} {data : Bytes} (holds : m.Holds address data) {k : Nat}
    (inside : k < data.length) : m.byte (address + k) = data.getD k 0 := by
  have read : (m.slice address (address + data.length))[k]? = some (m.byte (address + k)) :=
    m.getElem?_slice (by omega)
  rw [holds.octets] at read
  rw [List.getD_eq_getElem?_getD, read]
  rfl

theorem holds_of_byte {m : Memory} {address : Nat} {data : Bytes} (inside : address + data.length ≤ m.size)
    (octets : ∀ k < data.length, m.byte (address + k) = data.getD k 0) : m.Holds address data where
  inside := inside
  octets := by
    rw [slice_eq_map, Nat.add_sub_cancel_left]
    refine List.ext_getElem (by simp) fun k here there => ?_
    rw [List.getElem_map, List.getElem_range, octets k there, List.getD_eq_getElem?_getD,
      List.getElem?_eq_getElem there, Option.getD_some]

theorem write?_isSome {m : Memory} {address : Nat} {data : Bytes}
    (room : address + data.length ≤ m.size) : ∃ written, m.write? address data = some written :=
  ⟨_, dif_pos room⟩

theorem position_natCast {size address : Nat} (inside : address ≤ size) :
    position size address = address := by
  unfold position
  rw [if_neg (by omega)]
  omega

theorem place?_eq_some {m written : Memory} {address : Nat} {data : Bytes}
    (done : m.place? address data = some written) :
    address < m.size ∧ m.write? address data = some written := by
  unfold place? at done
  dsimp only at done
  split at done
  · cases done
  · next inside =>
    have bound : address < m.size := by
      unfold position at inside
      rw [if_neg (by omega)] at inside
      omega
    rw [position_natCast (by omega)] at done
    exact ⟨bound, done⟩

theorem holds_of_write? {m written : Memory} {address : Nat} {data : Bytes}
    (done : m.write? address data = some written) : written.Holds address data where
  inside := by
    rw [size_write? done]
    unfold write? at done
    split at done
    · next inside => exact inside
    · cases done
  octets := by
    rw [slice_eq_map]
    apply List.ext_getElem
    · simp
    · intro k inside _
      simp only [Nat.add_sub_cancel_left, List.length_map, List.length_range] at inside
      rw [List.getElem_map, List.getElem_range, byte_write? done, if_pos (by omega)]
      simp [inside]

theorem holds_of_place? {m written : Memory} {address : Nat} {data : Bytes}
    (done : m.place? address data = some written) : written.Holds address data :=
  holds_of_write? (place?_eq_some done).2

/-- `later` is what `m` was below `mark`, on as many pages or more. -/
structure KeepsBelow (mark : Nat) (m later : Memory) : Prop where
  bound : later.bound = m.bound
  size : m.size ≤ later.size
  octets : ∀ k < mark, later.byte k = m.byte k

theorem KeepsBelow.trans {mark : Nat} {first second third : Memory}
    (one : KeepsBelow mark first second) (two : KeepsBelow mark second third) :
    KeepsBelow mark first third :=
  ⟨two.bound.trans one.bound, one.size.trans two.size,
    fun k below => (two.octets k below).trans (one.octets k below)⟩

/-- Fewer octets are kept as well. -/
theorem KeepsBelow.mono {mark above : Nat} {m later : Memory} (keeps : KeepsBelow above m later)
    (less : mark ≤ above) : KeepsBelow mark m later :=
  ⟨keeps.bound, keeps.size, fun k below => keeps.octets k (below.trans_le less)⟩

/-- What stands below the mark stays where it is. -/
theorem Holds.of_keepsBelow {mark : Nat} {m later : Memory} {address : Nat} {data : Bytes}
    (holds : m.Holds address data) (keeps : KeepsBelow mark m later) (below : address + data.length ≤ mark) :
    later.Holds address data where
  inside := holds.inside.trans keeps.size
  octets := by
    rw [← holds.octets]
    simp only [slice_eq_map, List.length_map, List.length_range, Nat.add_sub_cancel_left]
    exact List.map_congr_left fun k inside => keeps.octets _ (by simp at inside; omega)

theorem keepsBelow_of_place? {m written : Memory} {address : Nat} {data : Bytes}
    (done : m.place? address data = some written) : KeepsBelow address m written where
  bound := by
    obtain ⟨-, written⟩ := place?_eq_some done
    unfold write? at written
    split at written
    · cases written
      rfl
    · cases written
  size := (size_write? (place?_eq_some done).2).ge
  octets k below := by
    rw [byte_write? (place?_eq_some done).2, if_neg (by omega)]

/-- The signed number of an address in the upper half means a place below the address, unless the memory
is as large as can be. -/
theorem place?_of_upper {m : Memory} {address : Nat} (upper : 2 ^ 31 ≤ address)
    (inside : address < m.size) (narrow : m.size ≤ 2 ^ 32) (data : Bytes) :
    m.place? (Int.bmod address (2 ^ 32)) data = m.write? (address + m.size - 2 ^ 32) data := by
  have signed : Int.bmod address (2 ^ 32) = (address : Int) - 2 ^ 32 := by
    rw [Int.bmod_def]
    split <;> omega
  have elsewhere : position m.size (Int.bmod address (2 ^ 32)) = address + m.size - 2 ^ 32 := by
    rw [signed, position, if_pos (by omega)]
    omega
  unfold place?
  rw [elsewhere]
  exact if_neg (by omega)

/-- Octets that are written there do not reach the address. -/
theorem byte_place?_of_upper {m written : Memory} {address : Nat} {data : Bytes}
    (upper : 2 ^ 31 ≤ address) (inside : address < m.size) (room : m.size + data.length ≤ 2 ^ 32)
    (done : m.place? (Int.bmod address (2 ^ 32)) data = some written) {k : Nat} (above : address ≤ k) :
    written.byte k = m.byte k := by
  rw [place?_of_upper upper inside (by omega)] at done
  rw [byte_write? done, if_neg (by omega)]

theorem grow?_eq_some {m grown : Memory} {more : Nat} (done : m.grow? more = some grown) :
    m.pages + more ≤ m.bound ∧ grown.bound = m.bound ∧ grown.pages = m.pages + more := by
  unfold grow? at done
  split at done
  · next room =>
    cases done
    exact ⟨room, rfl, rfl⟩
  · cases done

/-- A memory grows as far as its bound lets it. -/
theorem grow?_of_le {m : Memory} {more : Nat} (room : m.pages + more ≤ m.bound) (mark : Nat) :
    ∃ grown, m.grow? more = some grown ∧ KeepsBelow mark m grown ∧
      grown.size = m.size + more * pageSize := by
  unfold grow?
  rw [if_pos room]
  refine ⟨_, rfl, ⟨rfl, ?_, fun _ _ => rfl⟩, ?_⟩ <;> simp only [size, Nat.add_mul]
  exact Nat.le_add_right _ _

/-- `staged` is `m` with octets at a mark, on the fewest pages that have room for them and for what `m`
holds. No other octet differs, and if there are more pages, the bound lets there be as many. -/
structure Staged (m : Memory) (mark : Nat) (data : Bytes) (staged : Memory) : Prop where
  bound : staged.bound = m.bound
  pages : IsLeast {n | m.pages ≤ n ∧ mark + data.length ≤ n * pageSize} staged.pages
  within : staged.pages = m.pages ∨ staged.pages ≤ m.bound
  holds : staged.Holds mark data
  others : ∀ k, k < mark ∨ mark + data.length ≤ k → staged.byte k = m.byte k

theorem Staged.keepsBelow {m staged : Memory} {mark : Nat} {data : Bytes} (done : m.Staged mark data staged) :
    KeepsBelow mark m staged where
  bound := done.bound
  size := Nat.mul_le_mul_right pageSize done.pages.1.1
  octets k below := done.others k (.inl below)

theorem write?_eq_some {m written : Memory} {address : Nat} {data : Bytes}
    (done : m.write? address data = some written) : written.bound = m.bound ∧ written.pages = m.pages := by
  unfold write? at done
  split at done
  · cases done
    exact ⟨rfl, rfl⟩
  · cases done

/-- Octets are written to a memory that has grown, if it had to, until there is room for them. -/
theorem staged_of_place? {m roomy written : Memory} {mark : Nat} {data : Bytes}
    (bound : roomy.bound = m.bound) (same : ∀ k, roomy.byte k = m.byte k)
    (pages : IsLeast {n | m.pages ≤ n ∧ mark + data.length ≤ n * pageSize} roomy.pages)
    (within : roomy.pages = m.pages ∨ roomy.pages ≤ m.bound)
    (placed : roomy.place? mark data = some written) : m.Staged mark data written := by
  obtain ⟨-, writes⟩ := place?_eq_some placed
  obtain ⟨kept, many⟩ := write?_eq_some writes
  exact
    { bound := kept.trans bound
      pages := many ▸ pages
      within := many ▸ within
      holds := holds_of_place? placed
      others := fun k outside => by rw [byte_write? writes, if_neg (by omega), same] }

/-! ## Reading -/

/-- The octets up to the first zero, if there is one. -/
def upToZero? (octets : Bytes) : Option Bytes :=
  if 0 ∈ octets then some (octets.takeWhile (· ≠ 0)) else none

theorem takeWhile_of_visible {text : Bytes} (visible : ∀ b ∈ text, b ≠ 0) (rest : Bytes) :
    (text ++ 0 :: rest).takeWhile (· ≠ 0) = text := by
  rw [List.takeWhile_append_of_pos (by simpa using visible), List.takeWhile_cons_of_neg (by simp),
    List.append_nil]

/-- A zero among octets stands behind a text without one. -/
theorem exists_text {octets : Bytes} (zero : 0 ∈ octets) :
    ∃ text rest, octets = text ++ 0 :: rest ∧ ∀ b ∈ text, b ≠ 0 := by
  obtain ⟨text, rest, rfl, visible⟩ := List.eq_append_cons_of_mem zero
  exact ⟨text, rest, rfl, fun b member same => visible (same ▸ member)⟩

theorem upToZero?_of_visible {text : Bytes} (visible : ∀ b ∈ text, b ≠ 0) (rest : Bytes) :
    upToZero? (text ++ 0 :: rest) = some text := by
  unfold upToZero?
  rw [if_pos (by simp), takeWhile_of_visible visible]

theorem upToZero?_eq_some {octets text : Bytes} (found : upToZero? octets = some text) :
    (∀ b ∈ text, b ≠ 0) ∧ ∃ rest, octets = text ++ 0 :: rest := by
  unfold upToZero? at found
  split at found
  · next zero =>
    obtain ⟨before, rest, rfl, visible⟩ := exists_text zero
    rw [takeWhile_of_visible visible] at found
    cases found
    exact ⟨visible, rest, rfl⟩
  · cases found

theorem upToZero?_eq_none_iff {octets : Bytes} : upToZero? octets = none ↔ 0 ∉ octets := by
  unfold upToZero?
  split
  · next zero => exact ⟨nofun, fun visible => absurd zero visible⟩
  · next visible => exact ⟨fun _ => visible, fun _ => rfl⟩

theorem upToZero?_append {first : Bytes} (visible : 0 ∉ first) (second : Bytes) :
    upToZero? (first ++ second) = (upToZero? second).map (first ++ ·) := by
  by_cases zero : 0 ∈ second
  · obtain ⟨text, rest, rfl, later⟩ := exists_text zero
    have both : ∀ b ∈ first ++ text, b ≠ 0 :=
      List.forall_mem_append.mpr ⟨fun b member same => visible (same ▸ member), later⟩
    rw [upToZero?_of_visible later, ← List.append_assoc, upToZero?_of_visible both, Option.map_some]
  · rw [upToZero?_eq_none_iff.mpr zero, Option.map_none, upToZero?_eq_none_iff]
    simp [visible, zero]

/-- What lies before the host when it reads texts from a number on: the octets from there to the end of
the memory. A negative number counts from the end, in chunks as long as it stays negative; the chunk that
leads over zero is empty, and then the host goes on from the beginning. -/
def ahead (m : Memory) (cursor : Int) : Bytes :=
  if cursor < 0 then
    m.slice (cursor + m.size).toNat (cursor % chunkSize - chunkSize + m.size).toNat ++
      m.slice (cursor % chunkSize).toNat m.size
  else m.slice cursor.toNat m.size

theorem ahead_natCast (m : Memory) (cursor : Nat) : m.ahead cursor = m.slice cursor m.size :=
  if_neg (by omega)

theorem ahead_of_neg (m : Memory) {cursor : Int} (negative : cursor < 0) :
    m.ahead cursor =
      m.slice (cursor + m.size).toNat (cursor % chunkSize - chunkSize + m.size).toNat ++
        m.slice (cursor % chunkSize).toNat m.size := if_pos negative

theorem ahead_of_outside (m : Memory) {cursor : Int} (outside : m.size ≤ cursor) : m.ahead cursor = [] := by
  unfold ahead
  rw [if_neg (by omega), slice_of_le m (by omega)]

/-- What lies before the host is what it reads next, and what lies before it then. -/
theorem ahead_eq_append (m : Memory) {cursor : Int} (inside : cursor < m.size) :
    m.ahead cursor =
      m.span cursor (min (cursor + chunkSize) m.size) ++ m.ahead (min (cursor + chunkSize) m.size) := by
  have chunk : (chunkSize : Int) = 4096 := rfl
  rcases Int.lt_or_le cursor 0 with negative | nonneg
  · rcases Int.lt_or_le (cursor + chunkSize) 0 with farther | crossing
    · have next : min (cursor + chunkSize) m.size = cursor + chunkSize := by omega
      have same : (cursor + chunkSize) % chunkSize = cursor % chunkSize := Int.add_emod_right _ _
      rw [next, ahead_of_neg m negative, ahead_of_neg m farther, same, span, position, if_pos negative,
        position, if_pos farther, ← List.append_assoc, slice_append m (by omega) (by rw [chunk]; omega)]
    · -- A memory is empty or larger than a chunk, so nothing lies between the two places.
      have pages : m.size = m.pages * 65536 := rfl
      have rest : cursor % chunkSize = cursor + chunkSize := by
        rw [chunk] at crossing ⊢
        omega
      obtain ⟨stop, next⟩ : ∃ stop : Nat, min (cursor + chunkSize) m.size = stop :=
        ⟨_, (Int.toNat_of_nonneg (by omega)).symm⟩
      have empty : m.span cursor stop = [] := by
        refine slice_of_le m ?_
        rw [position, if_neg (by omega), position, if_pos negative]
        omega
      rw [next, empty, ahead_natCast, ahead_of_neg m negative, rest, slice_of_le m (by omega),
        List.nil_append, List.nil_append]
      rcases Nat.eq_zero_or_pos m.pages with none | some
      · rw [slice_of_le m (by omega), slice_of_le m (by omega)]
      · have same : (cursor + chunkSize).toNat = stop := by omega
        rw [same]
  · obtain ⟨start, rfl⟩ := Int.eq_ofNat_of_zero_le nonneg
    have next : min ((start : Int) + chunkSize) m.size = (min (start + chunkSize) m.size : Nat) := by omega
    rw [next, ahead_natCast, ahead_natCast, span, position_natCast (by omega), position_natCast (by omega),
      slice_append m (by omega) (by omega)]

/-- The loop that reads chunks gives what it has gathered and the text that lies before it. -/
theorem cStringFrom_eq (m : Memory) (cursor : Int) (done : List Bytes) :
    m.cStringFrom cursor done = (upToZero? (m.ahead cursor)).map (done.reverse.flatten ++ ·) := by
  fun_induction cStringFrom m cursor done with
  | case1 cursor done inside next chunk head short =>
    have zero : 0 ∈ chunk := by
      by_contra visible
      have nonzero : ∀ b ∈ chunk, b ≠ 0 := fun b member same => visible (same ▸ member)
      have whole : head = chunk := List.takeWhile_eq_self_iff.mpr (by simpa using nonzero)
      rw [whole] at short
      exact Nat.lt_irrefl _ short
    obtain ⟨text, rest, found, visible⟩ := exists_text zero
    have first : head = text := (congrArg (List.takeWhile _) found).trans (takeWhile_of_visible visible rest)
    rw [ahead_eq_append m inside, show m.span cursor _ = text ++ 0 :: rest from found, List.append_assoc,
      List.cons_append, upToZero?_of_visible visible, first]
    simp
  | case2 cursor done inside next chunk head long ih =>
    have visible : 0 ∉ chunk := by
      intro zero
      obtain ⟨text, rest, found, visible⟩ := exists_text zero
      have first : head = text := (congrArg (List.takeWhile _) found).trans (takeWhile_of_visible visible rest)
      refine long ?_
      rw [first, found]
      simp
    rw [ahead_eq_append m inside, upToZero?_append visible, ih, Option.map_map]
    refine congrArg (fun gather => Option.map gather _) (funext fun text => ?_)
    rw [List.reverse_cons, List.flatten_append, List.flatten_singleton, List.append_assoc]
    rfl
  | case3 cursor done outside =>
    rw [ahead_of_outside m (by omega)]
    rfl

/-- The host reads the text that lies before it. -/
theorem cString?_eq (m : Memory) (address : Int) : m.cString? address = upToZero? (m.ahead address) := by
  rw [cString?, cStringFrom_eq]
  exact Option.map_id'

/-- `m` holds a text from an address on, and a zero behind it. -/
def Terminated (m : Memory) (address : Nat) (text : Bytes) : Prop := m.Holds address (text ++ [0])

theorem terminated_iff {m : Memory} {address : Nat} {text : Bytes} :
    m.Terminated address text ↔ ∃ rest, m.slice address m.size = text ++ 0 :: rest := by
  constructor
  · intro ended
    have inside := ended.inside
    refine ⟨m.slice (address + (text ++ [0]).length) m.size, ?_⟩
    rw [← slice_append m (Nat.le_add_right _ _) inside, ended.octets, List.append_assoc, List.singleton_append]
  · rintro ⟨rest, octets⟩
    have long := congrArg List.length octets
    rw [length_slice, List.length_append, List.length_cons] at long
    have whole : m.slice address m.size = (text ++ [0]) ++ rest := by
      rw [octets, List.append_assoc, List.singleton_append]
    have inside : address + (text ++ [0]).length ≤ m.size := by
      rw [List.length_append, List.length_singleton]
      omega
    refine ⟨inside, ?_⟩
    rw [← slice_append m (Nat.le_add_right _ _) inside] at whole
    exact (List.append_inj whole (by rw [length_slice]; omega)).1

/-- A text that ends in a zero and holds none is read as it is. -/
theorem cString?_of_terminated {m : Memory} {address : Nat} {text : Bytes}
    (ended : m.Terminated address text) (visible : ∀ b ∈ text, b ≠ 0) :
    m.cString? address = some text := by
  obtain ⟨rest, octets⟩ := terminated_iff.mp ended
  rw [cString?_eq, ahead_natCast, octets, upToZero?_of_visible visible]

/-- The host reads nothing but texts that end in a zero. -/
theorem terminated_of_cString? {m : Memory} {address : Nat} {text : Bytes}
    (found : m.cString? address = some text) : m.Terminated address text ∧ ∀ b ∈ text, b ≠ 0 := by
  rw [cString?_eq, ahead_natCast] at found
  obtain ⟨visible, rest⟩ := upToZero?_eq_some found
  exact ⟨terminated_iff.mpr rest, visible⟩

/-- Octets that are written over the first ones of others. -/
theorem Holds.overwrite {m written : Memory} {address : Nat} {old data : Bytes} (holds : m.Holds address old)
    (short : data.length ≤ old.length) (done : m.write? address data = some written) :
    written.Holds address (data ++ old.drop data.length) := by
  have same : (data ++ old.drop data.length).length = old.length := by
    rw [List.length_append, List.length_drop]
    omega
  refine holds_of_byte ?_ fun k inside => ?_
  · rw [same, size_write? done]
    exact holds.inside
  · rw [same] at inside
    rw [byte_write? done, Nat.add_sub_cancel_left, List.getD_eq_getElem?_getD]
    by_cases first : k < data.length
    · rw [if_pos (by omega), List.getElem?_append_left first]
    · rw [if_neg (by omega), List.getElem?_append_right (by omega), List.getElem?_drop,
        Nat.add_sub_of_le (by omega), holds.byte inside, List.getD_eq_getElem?_getD]

theorem Terminated.overwrite {m written : Memory} {address : Nat} {text data : Bytes}
    (ended : m.Terminated address text) (short : data.length ≤ text.length)
    (done : m.write? address data = some written) :
    written.Terminated address (data ++ text.drop data.length) := by
  unfold Terminated at ended ⊢
  rw [List.append_assoc, ← List.drop_append_of_le_length short]
  exact ended.overwrite (by rw [List.length_append]; omega) done

theorem slice_succ (m : Memory) (start : Nat) : m.slice start (start + 1) = [m.byte start] := by
  rw [slice_eq_map, Nat.add_sub_cancel_left]
  rfl

end PolicyHost.Memory
