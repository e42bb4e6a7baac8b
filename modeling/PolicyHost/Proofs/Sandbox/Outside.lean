import PolicyHost.Deployment.Standard
import PolicyHost.Proofs.Sandbox.Mirror
import PolicyHost.Proofs.Sandbox.Staging

/-!
# Addresses outside of the memory

A guest hands over addresses of texts: of what it evaluates to, of what it wants printed, and of why it
aborts. One that lies outside of the memory is refused in the lower half of all addresses. In the upper
half the host sees a negative number, takes it for a place that counts from the end, and goes on from the
beginning of the memory; it refuses the address only if there is no zero on this way.

* `Memory.astray`, `Memory.outsideText?`: where the host looks, and the text that it finds.
* `cString?_outside`: the host reads that text.
* `readOutside`: what reading such an address comes to; `cString_outside`, `println_outside`,
  `abort_outside` for a text, for printing and for aborting.
* `outside_addresses`: what becomes of such an address wherever a guest hands it over.
* `last_chunk_read`: an address outside of the memory that is not refused.
-/

namespace PolicyHost

namespace Memory

/-- The octets in which the host looks for a text at an address in the upper half: from the place that the
negative number means, for as many whole chunks as there are up to zero, and then from the beginning, but
for the part of a chunk that is left. -/
def astray (m : Memory) (address : Nat) : Bytes :=
  m.slice (address + m.size - 2 ^ 32) (m.size + address % chunkSize - chunkSize) ++
    m.slice (address % chunkSize) m.size

/-- The text that the host finds at an address outside of the memory. -/
def outsideText? (m : Memory) (address : Nat) : Option Bytes :=
  if address < 2 ^ 31 then none else upToZero? (m.astray address)

theorem ahead_of_upper (m : Memory) {address : Nat} (upper : 2 ^ 31 ≤ address) (narrow : address < 2 ^ 32) :
    m.ahead (Sandbox.signed address) = m.astray address := by
  have signed : Sandbox.signed address = address - 2 ^ 32 := by
    unfold Sandbox.signed
    rw [Int.bmod_def]
    split <;> omega
  have rest : ((address : Int) - 2 ^ 32) % chunkSize = (address % chunkSize : Nat) := by
    change ((address : Int) - 2 ^ 32) % 4096 = (address % 4096 : Nat)
    omega
  have start : ((address : Int) - 2 ^ 32 + m.size).toNat = address + m.size - 2 ^ 32 := by omega
  have stop : ((address % chunkSize : Nat) - (chunkSize : Int) + m.size).toNat =
      m.size + address % chunkSize - chunkSize := by omega
  rw [signed, ahead_of_neg m (by omega), rest, start, stop, Int.toNat_natCast, astray]

/-- Outside of the memory the host finds a text in the upper half, if there is one on its way. -/
theorem cString?_outside {m : Memory} {address : Nat} (outside : m.size ≤ address)
    (narrow : address < 2 ^ 32) : m.cString? (Sandbox.signed address) = m.outsideText? address := by
  rw [cString?_eq]
  unfold outsideText?
  split
  · next lower =>
    rw [Sandbox.signed_of_lower lower, ahead_of_outside m (by omega)]
    rfl
  · next upper => rw [ahead_of_upper m (by omega) narrow]

/-- In the last chunk of all addresses the host reads what stands in the first chunk of the memory. -/
theorem outsideText?_of_last {m : Memory} {address : Nat} (last : 2 ^ 32 - chunkSize ≤ address)
    (narrow : address < 2 ^ 32) : m.outsideText? address = m.cString? (address % chunkSize : Nat) := by
  have chunk : chunkSize = 4096 := rfl
  have rest : address % chunkSize = address % 4096 := rfl
  -- The number means a place in the last chunk of the memory, and the chunk from there on does not end
  -- before zero, so it is empty.
  have order : m.size + address % chunkSize - chunkSize ≤ address + m.size - 2 ^ 32 := by omega
  have empty := m.slice_of_le order
  rw [outsideText?, if_neg (by omega), astray, empty, List.nil_append, cString?_eq, ahead_natCast]

end Memory

namespace Sandbox

variable {σ : Type}

theorem cString_fails {host : Host σ} {session : Session σ} {address : Int}
    (missing : (host.guest.memory session.store).cString? address = none) :
    (host.cString address).run session = (.error (.failure (.error (.unterminated address))), session) := by
  unfold Host.cString
  rw [run_bind_ok (memory_run host session), missing]
  rfl

/-- What the host reads at an address outside of a memory. -/
def readOutside (m : Memory) (address : Nat) : Except Stop Bytes :=
  match m.outsideText? address with
  | none => .error (.failure (.error (.unterminated (signed address))))
  | some text => .ok text

theorem readOutside_eq (m : Memory) (address : Nat) : readOutside m address =
    if address < 2 ^ 31 ∨ 0 ∉ m.astray address then .error (.failure (.error (.unterminated (signed address))))
    else .ok ((m.astray address).takeWhile (· ≠ 0)) := by
  unfold readOutside Memory.outsideText? Memory.upToZero?
  by_cases lower : address < 2 ^ 31
  · rw [if_pos lower, if_pos (.inl lower)]
  by_cases zero : 0 ∈ m.astray address
  · rw [if_neg lower, if_pos zero, if_neg (not_or.mpr ⟨lower, not_not_intro zero⟩)]
  · rw [if_neg lower, if_neg zero, if_pos (.inr zero)]

section Hands

variable {host : Host σ} {session : Session σ} {address : Nat}
  (outside : (host.guest.memory session.store).size ≤ address) (narrow : address < 2 ^ 32)

include outside narrow

theorem cString_outside : (host.cString (signed address)).run session =
    (readOutside (host.guest.memory session.store) address, session) := by
  have found := Memory.cString?_outside outside narrow
  unfold readOutside
  cases text : (host.guest.memory session.store).outsideText? address with
  | none => exact cString_fails (found.trans text)
  | some octets => exact cString_run host (found.trans text)

/-- Reading at such an address, and what is done with the text. -/
theorem cString_bind_outside {α : Type} (next : Bytes → Run σ α) :
    (host.cString (signed address) >>= next).run session =
      match readOutside (host.guest.memory session.store) address with
      | .error stop => (.error stop, session)
      | .ok text => (next text).run session := by
  have reads := cString_outside outside narrow
  cases read : readOutside (host.guest.memory session.store) address with
  | error stop =>
    rw [read] at reads
    rw [run_bind_error reads]
  | ok text =>
    rw [read] at reads
    rw [run_bind_ok reads]

theorem println_outside [Platform] (depth : Nat) :
    (host.respond (depth + 1) (.println (signed address))).run session =
    match readOutside (host.guest.memory session.store) address with
    | .error stop => (.error stop, session)
    | .ok text => (.ok 0, { session with notes := .printed (Utf8.decodeLossy text) :: session.notes }) := by
  unfold Host.respond
  exact cString_bind_outside outside narrow _

theorem abort_outside [Platform] (depth : Nat) :
    (host.respond (depth + 1) (.abort (signed address))).run session =
    match readOutside (host.guest.memory session.store) address with
    | .error stop => (.error stop, session)
    | .ok text => (.error (.failure (.error (.aborted (Utf8.decodeLossy text)))),
        { session with notes := .aborted (Utf8.decodeLossy text) :: session.notes }) := by
  unfold Host.respond
  exact cString_bind_outside outside narrow _

end Hands

/-- An address outside of the memory fails with an error of execution, wherever the guest hands it over,
unless it is of the upper half and there is a zero on the way of the host. Then it stands for the text up
to that zero, which is the result of an evaluation, the text of a value, what is printed, or why the guest
aborts. -/
theorem outside_addresses [Platform] {host : Host σ} {session : Session σ} {address : Nat}
    (outside : (host.guest.memory session.store).size ≤ address) (narrow : address < 2 ^ 32) :
    let m := host.guest.memory session.store
    (readOutside m address =
      if address < 2 ^ 31 ∨ 0 ∉ m.astray address then .error (.failure (.error (.unterminated (signed address))))
      else .ok ((m.astray address).takeWhile (· ≠ 0))) ∧
    (PolicyError.unterminated (signed address)).kind = .execute ∧
    (host.cString (signed address)).run session = (readOutside m address, session) ∧
    (∀ sandbox id payload before, (oneCall sandbox host id payload).run before = (.ok (signed address), session) →
      (fastEvaluate sandbox host id payload).run before = (readOutside m address, session)) ∧
    (∀ answer value before,
      (host.call answer "opa_json_dump" [value]).run before = (.ok (signed address), session) →
        (host.dumpText answer value).run before = (readOutside m address, session)) ∧
    (∀ depth, (host.respond (depth + 1) (.println (signed address))).run session =
      match readOutside m address with
      | .error stop => (.error stop, session)
      | .ok text => (.ok 0, { session with notes := .printed (Utf8.decodeLossy text) :: session.notes })) ∧
    ∀ depth, (host.respond (depth + 1) (.abort (signed address))).run session =
      match readOutside m address with
      | .error stop => (.error stop, session)
      | .ok text => (.error (.failure (.error (.aborted (Utf8.decodeLossy text)))),
          { session with notes := .aborted (Utf8.decodeLossy text) :: session.notes }) := by
  intro m
  have reads := cString_outside outside narrow
  refine ⟨readOutside_eq m address, rfl, reads, ?_, ?_, println_outside outside narrow,
    abort_outside outside narrow⟩
  · intro sandbox id payload before called
    rw [fastEvaluate_eq, run_bind_ok called, reads]
  · intro answer value before called
    exact (run_bind_ok called _).trans reads

/-- A page of memory that begins with a text of one octet. -/
def oneText : Memory := ⟨#[0x37, 0], 1, 1, by decide⟩

theorem oneText_size : oneText.size = 65536 := rfl

theorem oneText_terminated : oneText.Terminated 0 [0x37] :=
  ⟨by rw [oneText_size]; decide, rfl⟩

/-- A host whose guest has that memory, and how it starts. -/
def echoHost : Host Echo := ⟨Echo.guest, .empty, []⟩

@[inherit_doc echoHost]
def echoSession : Session Echo := ⟨⟨oneText, 0, 0⟩, .fresh ⟨0, ⟨0, 0⟩⟩, []⟩

attribute [local instance] Deployment.platform in
/-- The address right behind that page is refused. -/
theorem page_end_refused :
    (echoHost.guest.memory echoSession.store).size ≤ 65536 ∧
      65536 < (2 ^ 32 : Nat) ∧ (echoHost.cString (signed 65536)).run echoSession =
        (.error (.failure (.error (.unterminated (signed 65536)))), echoSession) := by
  have outside : (echoHost.guest.memory echoSession.store).size ≤ 65536 := oneText_size.le
  have narrow : 65536 < (2 ^ 32 : Nat) := by omega
  obtain ⟨refused, -, reads, -⟩ := outside_addresses outside narrow
  rw [refused, if_pos (.inl (by omega))] at reads
  exact ⟨outside, narrow, reads⟩

/-- The beginning of the last chunk of all addresses lies outside of that page, too, and is read as the
text at the beginning of the page. -/
theorem last_chunk_read :
    (echoHost.guest.memory echoSession.store).size < 2 ^ 31 ∧
      (echoHost.guest.memory echoSession.store).size ≤ 4294963200 ∧ signed 4294963200 = -4096 ∧
      (echoHost.cString (signed 4294963200)).run echoSession = (.ok [0x37], echoSession) := by
  have size : (echoHost.guest.memory echoSession.store).size = 65536 := oneText_size
  have negative : signed 4294963200 = -4096 := by
    unfold signed
    rw [Int.bmod_def]
    omega
  have read : oneText.cString? (signed 4294963200) = some [0x37] := by
    have chunk : Memory.chunkSize = 4096 := rfl
    have start : 4294963200 % Memory.chunkSize = 0 := by rw [chunk]
    have visible : ∀ b ∈ [(0x37 : UInt8)], b ≠ 0 := by simp
    rw [Memory.cString?_outside (by rw [oneText_size]; omega) (by omega),
      Memory.outsideText?_of_last (by omega) (by omega), start]
    exact Memory.cString?_of_terminated oneText_terminated visible
  exact ⟨by omega, by omega, negative, cString_run _ read⟩

end Sandbox

end PolicyHost
