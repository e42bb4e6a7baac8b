import PolicyHost.Command.Run
import PolicyHost.Proofs.Json.Depth
import PolicyHost.Proofs.Json.Indented
import PolicyHost.Proofs.Text.Scan

/-!
# What the command line prints

An answer is printed over several lines in ASCII, with the names of objects in ascending order. Read again
it is the answer, and no two answers that differ in more than the order of members are printed alike.

* `printed_eq`: the text and its line break.
* `printed_canonical`: what is printed, and for which values.
-/

namespace PolicyHost.Command

open Json

theorem printed_eq {value : Json} (short : value.Short) : printed value = .ok (layout 0 value ++ "\n") := by
  rw [printed, indented_eq_layout short]
  rfl

theorem readUnmarked_ascii [Room] {t : Text} (ascii : IsAscii t) : readUnmarked t = read t := by
  unfold readUnmarked
  split
  · next marked =>
    obtain ⟨rest, rfl⟩ := List.head?_eq_some_iff.mp marked
    exact absurd (ascii _ List.mem_cons_self) (by decide)
  · rfl

/-- The form in which values are printed is canonical. Each value of truth values, integers that are not too
long, strings without surrogates, arrays and objects has a text in ASCII. The text is read as the value up
to the order of members, if the value has been read itself, as every answer of a policy has, or is nested
no deeper than a reader takes. And the text is that of another such value just if the two are alike but for
the order of members; truth values and integers are not alike. -/
theorem printed_canonical [Room] {value : Json} (printable : value.Printable) :
    ∃ t, printed value = .ok t ∧ (∀ c ∈ t, c.val < 0x80) ∧
      ((∃ octets, readOctets octets = .ok value) ∨ value.nesting ≤ Room.documents →
        ∃ back, readUnmarked t = .ok back ∧ Alike value back) ∧
      ∀ other : Json, other.Printable → (printed other = .ok t ↔ Alike value other) := by
  have ascii : IsAscii (layout 0 value ++ "\n") :=
    (isAscii_layout printable 0).append (isAscii_of_all (by decide))
  refine ⟨layout 0 value ++ "\n", printed_eq printable.short, ascii, fun shallow => ?_, fun other others => ?_⟩
  · have room : value.nesting ≤ Room.documents := by
      rcases shallow with ⟨octets, done⟩ | room
      · exact nesting_le_of_readOctets done
      · exact room
    refine ⟨inOrder value, ?_, alike_inOrder printable.distinct⟩
    rw [readUnmarked_ascii ascii, read_layout printable room]
  · rw [printed_eq others.short, Except.ok.injEq, List.append_left_inj, eq_comm, layout_eq_iff printable others]

/-- A decision with a truth value and an integer, and with a character above U+FFFF. -/
def decision : Json :=
  .object [("b", .array [.bool true, .int 1, .object []]), ("a", .string "é😀"), ("", .null)]

/-- The same decision with its names in another order. -/
def rearranged : Json :=
  .object [("", .null), ("b", .array [.bool true, .int 1, .object []]), ("a", .string "é😀")]

attribute [local instance] Room.usual in
theorem decision_printed :
    ∃ t back, printed decision = .ok t ∧ printed rearranged = .ok t ∧ readUnmarked t = .ok back ∧
      Alike decision back := by
  have scalar (s : String) : ∀ c ∈ (s : Text), c.isSurrogate = false := fun _ => Text.isSurrogate_of_mem_ofString
  have list : (Json.array [.bool true, .int 1, .object []]).Printable := by
    refine .array ?_
    simp only [List.forall_mem_cons, List.not_mem_nil, false_imp_iff, implies_true, and_true]
    exact ⟨.bool true, .int (Nat.one_lt_pow (by decide) (by decide)), .object List.nodup_nil nofun nofun⟩
  have first : decision.Printable := by
    refine .object (by decide) ?_ ?_ <;>
      simp only [List.forall_mem_cons, List.not_mem_nil, false_imp_iff, implies_true, and_true]
    · exact ⟨scalar "b", scalar "a", scalar ""⟩
    · exact ⟨list, .string (scalar "é😀"), .null⟩
  have second : rearranged.Printable := by
    refine .object (by decide) ?_ ?_ <;>
      simp only [List.forall_mem_cons, List.not_mem_nil, false_imp_iff, implies_true, and_true]
    · exact ⟨scalar "", scalar "b", scalar "a"⟩
    · exact ⟨.null, list, .string (scalar "é😀")⟩
  have alike : Alike decision rearranged :=
    ⟨by decide, ⟨_, rfl, rfl, rfl, ⟨.nil, trivial⟩, trivial⟩, ⟨_, rfl, rfl⟩, ⟨_, rfl, trivial⟩, trivial⟩
  obtain ⟨t, written, -, reads, same⟩ := printed_canonical first
  obtain ⟨back, done, equal⟩ := reads (.inr (by decide))
  exact ⟨t, back, written, (same rearranged second).mpr alike, done, equal⟩

end PolicyHost.Command
