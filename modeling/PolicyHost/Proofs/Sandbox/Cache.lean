import PolicyHost.Proofs.Sandbox.Record

/-!
# The cache from evaluation to evaluation

Within an evaluation a random number or identifier stays the same for its name, and an evaluation never
sees those of another one.

* `CacheUse`: what calls do with the cache of a context.
* `EntryUse`: which calls read the same entry.
* `cache_of_evaluation`: both hold in every evaluation, whose builtins start with an empty cache.
-/

namespace PolicyHost.Sandbox

open Builtin (Invocation Context)

/-- What calls of standard builtins do with the cache of a context.

* `kept`: an entry stays as it is, whatever calls follow;
* `unmade`: a call that fails leaves the cache as it was;
* `repeated`: calls that read the same entry give the same value, whatever calls lie between them;
* `range`: a random number lies below the magnitude of the number that it is asked for with. -/
structure CacheUse (context : Context) : Prop where
  kept : ∀ calls key value, context.cache.get? key = some value →
    (context.after .standard calls).cache.get? key = some value
  unmade : ∀ i failure, (Invocation.run i .standard context).1 = .error failure →
    (i.run .standard context).2.cache = context.cache
  repeated : ∀ i j value after between, Invocation.Share i j →
    i.run .standard context = (.ok value, after) →
    (j.run .standard (after.after .standard between)).1 = .ok value
  range : ∀ name n value, n ≠ 0 →
    ((Invocation.number name n).run .standard context).1 = .ok value →
    ∃ k : Nat, value = .int k ∧ k < n.natAbs

/-- Which calls of standard builtins read the same entry, of those that succeed.

* `numbers`: for random numbers, those with the same name and the same magnitude;
* `identifiers`: for random identifiers, those with the same name;
* `apart`: never one of each. -/
structure EntryUse : Prop where
  numbers : ∀ a b n m, n ≠ 0 → m ≠ 0 → (Invocation.number a n).Succeeds →
    (Invocation.number b m).Succeeds →
    ((Invocation.number a n).Share (.number b m) ↔ a = b ∧ n.natAbs = m.natAbs)
  identifiers : ∀ a b, (Invocation.identifier a).Share (.identifier b) ↔ a = b
  apart : ∀ a b n, n ≠ 0 → (Invocation.number a n).Succeeds →
    ¬(Invocation.number a n).Share (.identifier b)

theorem cacheUse_after (ambient : Ambient) (calls : List Invocation) :
    CacheUse ((Context.fresh ambient).after .standard calls) where
  kept more _ _ held := Builtin.after_keeps more held
  unmade _ _ failed := Builtin.cache_of_failure failed
  repeated _ _ _ _ between share done := share.equal done between
  range name n value nonzero done := by
    have empty : Builtin.InRange (Context.fresh ambient).cache := by
      intro name bound value held
      cases held
    have succeeds : (Invocation.number name n).Succeeds := ⟨_, value, done⟩
    exact Builtin.number_inRange (Builtin.inRange_after empty calls) nonzero succeeds.short done

theorem entryUse : EntryUse where
  numbers _ _ _ _ nonzero nonzero' one other :=
    Builtin.share_number_iff nonzero nonzero' one.short other.short
  identifiers := Builtin.share_identifier_iff
  apart _ _ _ nonzero succeeds := Builtin.not_share_number_identifier nonzero succeeds.short

/-- The standard builtins use the cache of a context as they should, whatever has been called before. In an
evaluation they start with an empty one: each call comes to what it comes to behind the calls of this
evaluation that were made before it. -/
theorem cache_of_evaluation [Platform] :
    (∀ ambient calls, CacheUse ((Context.fresh ambient).after .standard calls)) ∧
      EntryUse ∧
      (∀ args, (Invocation.mk "rand.intn" args).Succeeds →
        ∃ name n, Invocation.mk "rand.intn" args = .number name n) ∧
      (∀ args, (Invocation.mk "uuid.rfc4122" args).Succeeds →
        ∃ name, Invocation.mk "uuid.rfc4122" args = .identifier name) ∧
      (∀ ambient, (Context.fresh ambient).cache = []) ∧
      ∀ {σ : Type} (sandbox : Sandbox σ) (passage : Passage σ) (left : Record) (registry : Registry)
        (ambient : Ambient) (id : Int) (payload : Bytes) (before later : Record) (i : Invocation)
        (result : Except Failure Value),
        (sandbox.recordedEvaluate passage left registry ambient id payload).2 =
          before ++ .called i result :: later →
        result = (i.run registry ((Context.fresh ambient).after registry (Record.calls before))).1 := by
  refine ⟨cacheUse_after, entryUse, fun _ => Builtin.eq_number_of_succeeds,
    fun _ => Builtin.eq_identifier_of_succeeds, fun _ => rfl, ?_⟩
  intro σ sandbox passage left registry ambient id payload before later i result taken
  obtain ⟨last, traces⟩ :=
    (recordedEvaluate_recorded sandbox passage left registry ambient id payload).traces
  rw [taken] at traces
  exact traces.called.symm

end PolicyHost.Sandbox
