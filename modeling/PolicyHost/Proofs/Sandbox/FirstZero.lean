import Mathlib.Data.List.Intervals
import Mathlib.Data.Set.Basic
import PolicyHost.Proofs.Sandbox.Outside

/-!
# Texts up to the first zero

From an address on the host reads the octets in front of the first zero, wherever the chunks begin and end
in which it reads them. If there is no zero up to the end of the memory, the address is refused.

* `Memory.zerosFrom`: the zeros from an address on.
* `cString?_eq_some_iff`, `cString?_eq_none_iff`: what is read, and what is not.
* `reads_to_first_zero`: what reading comes to.
-/

namespace PolicyHost

namespace Memory

/-- The places of zeros in a memory, from an address on. -/
def zerosFrom (m : Memory) (address : Nat) : Set Nat :=
  {place | address ≤ place ∧ place < m.size ∧ m.byte place = 0}

theorem slice_eq_Ico (m : Memory) (start stop : Nat) : m.slice start stop =
    (List.Ico start stop).map m.byte := by
  rw [slice_eq_map, List.Ico, List.range'_eq_map_range, List.map_map]
  rfl

theorem mem_slice_iff {m : Memory} {start stop : Nat} {b : UInt8} :
    b ∈ m.slice start stop ↔ ∃ place, (start ≤ place ∧ place < stop) ∧ m.byte place = b := by
  simp only [slice_eq_Ico, List.mem_map, List.Ico.mem]

/-- A text ends at a place just when it stands in front of it and a zero stands there. -/
theorem terminated_iff_slice {m : Memory} {address : Nat} {text : Bytes} :
    m.Terminated address text ↔
      address + text.length < m.size ∧ m.slice address (address + text.length) = text ∧
        m.byte (address + text.length) = 0 := by
  have long : (text ++ [0]).length = text.length + 1 := by simp
  have cut : m.slice address (address + (text.length + 1)) =
      m.slice address (address + text.length) ++ [m.byte (address + text.length)] := by
    rw [← slice_succ]
    exact (slice_append m (Nat.le_add_right _ _) (Nat.le_succ _)).symm
  constructor
  · intro ended
    have inside := ended.inside
    have octets := ended.octets
    rw [long] at inside octets
    rw [cut] at octets
    obtain ⟨before, zero⟩ := List.append_inj' octets rfl
    exact ⟨inside, before, (List.cons.inj zero).1⟩
  · rintro ⟨inside, before, zero⟩
    refine ⟨by rw [long]; exact inside, ?_⟩
    rw [long, cut, before, zero]

/-- The text that is read stands in front of the first zero. -/
theorem cString?_eq_some_iff {m : Memory} {address : Nat} {text : Bytes} :
    m.cString? address = some text ↔
      ∃ stop, IsLeast (m.zerosFrom address) stop ∧ text = (List.Ico address stop).map m.byte := by
  constructor
  · intro found
    obtain ⟨ended, visible⟩ := terminated_of_cString? found
    obtain ⟨inside, octets, zero⟩ := terminated_iff_slice.mp ended
    refine ⟨address + text.length, ⟨⟨Nat.le_add_right _ _, inside, zero⟩, ?_⟩, ?_⟩
    · rintro place ⟨behind, -, earlier⟩
      by_contra front
      have member : m.byte place ∈ m.slice address (address + text.length) :=
        mem_slice_iff.mpr ⟨place, ⟨behind, not_le.mp front⟩, rfl⟩
      rw [octets] at member
      exact visible _ member earlier
    · rw [← slice_eq_Ico, octets]
  · rintro ⟨stop, ⟨⟨behind, inside, zero⟩, least⟩, rfl⟩
    rw [← slice_eq_Ico]
    have reach : address + (m.slice address stop).length = stop := by
      rw [length_slice]
      omega
    refine cString?_of_terminated (terminated_iff_slice.mpr ?_) fun b member same => ?_
    · rw [reach]
      exact ⟨inside, rfl, zero⟩
    · obtain ⟨place, ⟨behind', front⟩, earlier⟩ := mem_slice_iff.mp member
      have first := least ⟨behind', front.trans inside, earlier.trans same⟩
      omega

theorem cString?_eq_none_iff {m : Memory} {address : Nat} :
    m.cString? address = none ↔ m.zerosFrom address = ∅ := by
  rw [cString?_eq, ahead_natCast, upToZero?_eq_none_iff, mem_slice_iff, Set.eq_empty_iff_forall_notMem, not_exists]
  exact forall_congr' fun place => not_congr and_assoc

theorem zerosFrom_of_outside {m : Memory} {address : Nat} (outside : m.size ≤ address) :
    m.zerosFrom address = ∅ :=
  Set.eq_empty_iff_forall_notMem.mpr fun _ ⟨behind, inside, _⟩ =>
    absurd (behind.trans_lt inside) (not_lt.mpr outside)

end Memory

namespace Sandbox

variable {σ : Type}

/-- Reading a text always comes to an end and leaves the session as it is. It gives the octets from the
address up to the first zero. If there is no zero in the memory from there on, as is the case for an address
behind its end, and only then, it fails with an error of execution. -/
theorem reads_to_first_zero (host : Host σ) (session : Session σ) (address : Nat) :
    let m := host.guest.memory session.store
    let outcome := (host.cString address).run session
    ((∃ text, outcome = (.ok text, session)) ∨
      outcome = (.error (.failure (.error (.unterminated address))), session)) ∧
    (∀ text, outcome = (.ok text, session) ↔
      ∃ stop, IsLeast (m.zerosFrom address) stop ∧ text = (List.Ico address stop).map m.byte) ∧
    (outcome = (.error (.failure (.error (.unterminated address))), session) ↔ m.zerosFrom address = ∅) ∧
    (PolicyError.unterminated address).kind = .execute ∧
    (m.size ≤ address → outcome = (.error (.failure (.error (.unterminated address))), session)) := by
  intro m outcome
  have read : ∀ text, outcome = (.ok text, session) ↔ m.cString? address = some text :=
    fun text => ⟨cString_eq_ok, cString_run host⟩
  have refused : outcome = (.error (.failure (.error (.unterminated address))), session) ↔
      m.cString? address = none := by
    refine ⟨fun failed => ?_, cString_fails⟩
    rw [Option.eq_none_iff_forall_ne_some]
    intro text found
    rw [(read text).mpr found] at failed
    cases failed
  refine ⟨?_, fun text => (read text).trans Memory.cString?_eq_some_iff,
    refused.trans Memory.cString?_eq_none_iff, rfl, fun outside => ?_⟩
  · cases found : m.cString? address with
    | none => exact .inr (refused.mpr found)
    | some text => exact .inl ⟨text, (read text).mpr found⟩
  · exact refused.mpr (Memory.cString?_eq_none_iff.mpr (Memory.zerosFrom_of_outside outside))

/-- A page of memory without a zero but for its last octet. -/
def filled : Memory := ⟨Array.replicate 65535 1, 1, 1, by rw [Array.size_replicate]; decide⟩

theorem filled_byte (place : Nat) : filled.byte place = if place < 65535 then 1 else 0 := by
  unfold filled Memory.byte
  rw [Array.getElem?_replicate]
  split <;> rfl

theorem filled_firstZero {address : Nat} (inside : address ≤ 65535) :
    IsLeast (filled.zerosFrom address) 65535 ∧
      List.replicate (65535 - address) 1 = (List.Ico address 65535).map filled.byte := by
  refine ⟨⟨⟨inside, by decide, filled_byte 65535⟩, ?_⟩, ?_⟩
  · rintro place ⟨-, -, zero⟩
    rw [filled_byte] at zero
    split at zero
    · cases zero
    · omega
  · symm
    rw [List.eq_replicate_iff]
    refine ⟨by simp, fun b member => ?_⟩
    obtain ⟨place, between, rfl⟩ := List.mem_map.mp member
    rw [filled_byte, if_pos (List.Ico.mem.mp between).2]

/-- How a host starts whose guest has that memory. -/
def filledSession : Session Echo := ⟨⟨filled, 0, 0⟩, .fresh ⟨0, ⟨0, 0⟩⟩, []⟩

/-- The zero at the end of that memory ends texts, be it the first octet of a second chunk or the last octet
of the first one. Behind it nothing is read. -/
theorem filled_reads :
    (echoHost.cString (61439 : Nat)).run filledSession = (.ok (List.replicate 4096 1), filledSession) ∧
      (echoHost.cString (61440 : Nat)).run filledSession = (.ok (List.replicate 4095 1), filledSession) ∧
      (echoHost.guest.memory filledSession.store).size ≤ 65536 ∧
      (echoHost.cString (65536 : Nat)).run filledSession =
        (.error (.failure (.error (.unterminated (65536 : Nat)))), filledSession) := by
  obtain ⟨-, second, -⟩ := reads_to_first_zero echoHost filledSession 61439
  obtain ⟨-, first, -⟩ := reads_to_first_zero echoHost filledSession 61440
  obtain ⟨-, -, -, -, behind⟩ := reads_to_first_zero echoHost filledSession 65536
  have size : (echoHost.guest.memory filledSession.store).size ≤ 65536 := Nat.le_refl 65536
  exact ⟨(second _).mpr ⟨65535, filled_firstZero (by omega)⟩, (first _).mpr ⟨65535, filled_firstZero (by omega)⟩,
    size, behind size⟩

end Sandbox

end PolicyHost
