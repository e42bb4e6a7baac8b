import PolicyHost.Deployment.Standard
import PolicyHost.Proofs.Sandbox.Relay

/-!
# The input in front of the one call

To evaluate in one call the host writes the input behind the data. If the memory ends too early it grows
first, by no more than it has to; if it may not grow, nothing happens to it at all.

* `oneCall`, `fastEvaluate_eq`: bringing the input and the call, and then the text of the result.
* `ensureCapacity_fails`: a memory that may not grow as far as it would have to.
* `fastEvaluate_stages`: the memory that the guest finds when it is called, and what it is told of it.
-/

namespace PolicyHost.Sandbox

variable {σ : Type}

/-- Brings the input and calls the guest: the address of the result. -/
def oneCall [Platform] (sandbox : Sandbox σ) (host : Host σ) (id : Int) (payload : Bytes) : Run σ Int :=
  (ensureCapacity host (sandbox.heapMark + payload.length) >>= fun _ =>
    host.place sandbox.heapMark payload) >>= fun _ =>
      host.call host.answer fastExport
        [0, id, sandbox.dataAddress, sandbox.heapMark, payload.length, sandbox.heapMark + payload.length, 0]

theorem fastEvaluate_eq [Platform] (sandbox : Sandbox σ) (host : Host σ) (id : Int) (payload : Bytes) :
    fastEvaluate sandbox host id payload = oneCall sandbox host id payload >>= host.cString := by
  rw [oneCall, bind_assoc, bind_assoc]
  rfl

theorem pagesFor_isLeast (m : Memory) (stop : Nat) :
    IsLeast {n | stop ≤ m.size + n * pageSize} (pagesFor (stop - m.size)) := by
  have room (n : Nat) : stop ≤ m.size + n * pageSize ↔ pagesFor (stop - m.size) ≤ n := by
    rw [pagesFor_le_iff]
    omega
  exact ⟨(room _).mpr (Nat.le_refl _), fun n enough => (room n).mp enough⟩

theorem ensureCapacity_fails {host : Host σ} {session : Session σ} {stop : Nat}
    (short : (host.guest.memory session.store).size < stop)
    (beyond : (host.guest.memory session.store).bound < (host.guest.memory session.store).pages +
      pagesFor (stop - (host.guest.memory session.store).size)) :
    (ensureCapacity host stop).run session =
      (.error (.failure (.error (.growthFailed
        (pagesFor (stop - (host.guest.memory session.store).size))))), session) := by
  generalize memory : host.guest.memory session.store = m at short beyond ⊢
  have refused : m.grow? (pagesFor (stop - m.size)) = none := if_neg (by omega)
  unfold ensureCapacity
  rw [run_bind_ok (memory_run host session), memory, if_neg (by omega)]
  dsimp only
  rw [show ((stop : Int) - m.size).toNat = stop - m.size by omega, refused]
  rfl

/-- An evaluation in one call either calls the guest with the input at the mark, in a memory on the fewest
pages that have room for it and otherwise as it was, and with the places of the input and of the heap
behind it; or it fails because the memory may not grow by the fewest pages that it would take, and nothing
has changed. -/
theorem fastEvaluate_stages [Platform] {host : Host σ} (lawful : Guest.KeepsMemory host.guest)
    {sandbox : Sandbox σ}
    {mark : Nat} (marked : sandbox.heapMark = mark) {payload : Bytes} (nonempty : payload ≠ []) (id : Int)
    (session : Session σ) :
    let m := host.guest.memory session.store
    (∃ staged, m.Staged mark payload staged ∧
      (fastEvaluate sandbox host id payload).run session =
        (host.call host.answer fastExport
          [0, id, sandbox.dataAddress, mark, payload.length, mark + payload.length, 0] >>= host.cString).run
            { session with store := host.guest.setMemory staged session.store }) ∨
    ∃ pages, IsLeast {n | mark + payload.length ≤ m.size + n * pageSize} pages ∧
      m.bound < m.pages + pages ∧ m.size < mark + payload.length ∧
      (fastEvaluate sandbox host id payload).run session =
        (.error (.failure (.error (.growthFailed pages))), session) ∧
      (PolicyError.growthFailed pages).kind = .execute := by
  intro m
  by_cases room : mark + payload.length ≤ m.size ∨ mark + payload.length ≤ m.bound * pageSize
  · obtain ⟨staged, brought, done⟩ := bringInput_run host lawful nonempty room
    refine .inl ⟨staged, done, ?_⟩
    rw [fastEvaluate_eq, oneCall, marked, bind_assoc, run_bind_ok brought]
  · simp only [not_or, Nat.not_le] at room
    obtain ⟨short, beyond⟩ := room
    have least := pagesFor_isLeast m (mark + payload.length)
    have refused : m.bound < m.pages + pagesFor (mark + payload.length - m.size) := by
      by_contra within
      have enough : mark + payload.length ≤ m.pages * pageSize + _ := least.1
      rw [← Nat.add_mul] at enough
      exact absurd (Nat.mul_le_mul_right pageSize (Nat.le_of_not_lt within)) (by omega)
    refine .inr ⟨_, least, refused, short, ?_, rfl⟩
    have fails : (ensureCapacity host (mark + payload.length)).run session =
        (.error (.failure (.error (.growthFailed (pagesFor (mark + payload.length - m.size))))), session) :=
      ensureCapacity_fails short refused
    rw [fastEvaluate_eq, oneCall, marked, bind_assoc, bind_assoc, run_bind_error fails]

/-- A sandbox of a guest that gives its input back, with a page of memory that may become two. The mark
behind the data is the last octet of the page. -/
def lastOctet : Sandbox Echo := { Echo.sandbox with heapMark := 65535, store := ⟨.zeros 1 2, 65535, 0⟩ }

attribute [local instance] Deployment.platform in
/-- Two octets make the memory grow. -/
theorem lastOctet_stages :
    Guest.KeepsMemory Echo.guest ∧ ∃ staged, (Memory.zeros 1 2).Staged 65535 [0x31, 0x32] staged ∧
      staged.pages = 2 ∧
      (fastEvaluate lastOctet ⟨Echo.guest, .empty, []⟩ 0 [0x31, 0x32]).run
          ⟨lastOctet.store, .fresh ⟨0, ⟨0, 0⟩⟩, []⟩ =
        (Host.call ⟨Echo.guest, .empty, []⟩ (Host.answer ⟨Echo.guest, .empty, []⟩) fastExport
          [0, 0, 8, 65535, 2, 65537, 0] >>= Host.cString ⟨Echo.guest, .empty, []⟩).run
            ⟨⟨staged, 65535, 0⟩, .fresh ⟨0, ⟨0, 0⟩⟩, []⟩ := by
  have lawful : Guest.KeepsMemory Echo.guest := ⟨fun _ _ => rfl, fun _ _ _ => rfl⟩
  have marked : lastOctet.heapMark = (65535 : Nat) := rfl
  have enough : 65535 + 2 ≤ 2 * pageSize := by decide
  refine ⟨lawful, ?_⟩
  obtain ⟨staged, done, calls⟩ | ⟨pages, least, refused, -⟩ :=
    @fastEvaluate_stages Echo _ ⟨Echo.guest, .empty, []⟩ lawful lastOctet 65535 marked [0x31, 0x32]
      (List.cons_ne_nil 0x31 [0x32]) 0 ⟨lastOctet.store, .fresh ⟨0, ⟨0, 0⟩⟩, []⟩
  · refine ⟨staged, done, Nat.le_antisymm (done.pages.2 ⟨by decide, enough⟩) ?_, calls⟩
    have room : 65535 + 2 ≤ staged.pages * 65536 := done.pages.1.2
    omega
  · have one : pages ≤ 1 := least.2 enough
    have more : 2 < 1 + pages := refused
    omega

end PolicyHost.Sandbox
