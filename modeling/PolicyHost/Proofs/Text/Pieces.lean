import PolicyHost.Text.Basic

/-!
# Pieces of text

A text cut at a mark and joined with that mark is the text again, and pieces that do not hold the mark
are found again in what they are joined to.
-/

namespace PolicyHost.Text

theorem joinWith_singleton (separator a : Text) : joinWith separator [a] = a := by
  simp [joinWith]

theorem joinWith_cons_cons (separator a b : Text) (rest : List Text) :
    joinWith separator (a :: b :: rest) = a ++ separator ++ joinWith separator (b :: rest) := by
  simp [joinWith, List.append_assoc]

theorem mem_joinWith_of_mem {separator piece : Text} {pieces : List Text} {c : CodePoint}
    (member : piece ∈ pieces) (inside : c ∈ piece) : c ∈ joinWith separator pieces := by
  induction pieces with
  | nil => exact absurd member List.not_mem_nil
  | cons first rest ih =>
    cases rest with
    | nil =>
      rw [List.mem_singleton] at member
      rwa [joinWith_singleton, ← member]
    | cons second rest =>
      rw [joinWith_cons_cons, List.mem_append, List.mem_append]
      rcases List.mem_cons.mp member with rfl | later
      · exact .inl (.inl inside)
      · exact .inr (ih later)

theorem mem_joinWith {separator : Text} {pieces : List Text} {c : CodePoint}
    (member : c ∈ joinWith separator pieces) : c ∈ separator ∨ ∃ piece ∈ pieces, c ∈ piece := by
  induction pieces with
  | nil => exact absurd member List.not_mem_nil
  | cons first rest ih =>
    cases rest with
    | nil =>
      rw [joinWith_singleton] at member
      exact .inr ⟨first, List.mem_cons_self, member⟩
    | cons second rest =>
      rw [joinWith_cons_cons, List.mem_append, List.mem_append] at member
      rcases member with (inside | between) | later
      · exact .inr ⟨first, List.mem_cons_self, inside⟩
      · exact .inl between
      · rcases ih later with between | ⟨piece, found, inside⟩
        · exact .inl between
        · exact .inr ⟨piece, List.mem_cons_of_mem first found, inside⟩

theorem split_eq_splitOn (mark : CodePoint) (t : Text) : split mark t = t.splitOn mark := by
  induction t with
  | nil => rfl
  | cons c rest ih =>
    rw [List.splitOn, List.splitOnP_cons_eq_if_modifyHead, ← List.splitOn, ← ih]
    by_cases here : c = mark
    · simp [split, here]
    · simp [split, here]

theorem joinWith_split (mark : CodePoint) (t : Text) : joinWith [mark] (split mark t) = t := by
  rw [split_eq_splitOn]
  exact List.intercalate_splitOn mark

theorem split_append_mark (mark : CodePoint) (a b : Text) :
    split mark (a ++ mark :: b) = split mark a ++ split mark b := by
  rw [split_eq_splitOn, split_eq_splitOn, split_eq_splitOn]
  exact List.splitOn_append_cons_self a b

theorem not_mem_of_mem_split {mark : CodePoint} {t piece : Text} (member : piece ∈ split mark t) :
    mark ∉ piece := by
  induction t generalizing piece with
  | nil =>
    cases List.mem_singleton.mp member
    exact List.not_mem_nil
  | cons c rest ih =>
    obtain ⟨first, later, pieces⟩ : ∃ first later, split mark rest = first :: later := ⟨_, _, rfl⟩
    rw [pieces] at ih
    by_cases here : c = mark
    · have cut : split mark (c :: rest) = [] :: first :: later := by
        rw [← pieces]
        simp [split, here]
      rw [cut] at member
      rcases List.mem_cons.mp member with rfl | inside
      · exact List.not_mem_nil
      · exact ih inside
    · have longer : split mark (c :: rest) = (c :: first) :: later := by
        obtain ⟨rfl, rfl⟩ := List.cons.inj pieces
        simp [split, here]
      rw [longer] at member
      rcases List.mem_cons.mp member with rfl | inside
      · exact List.not_mem_cons_of_ne_of_not_mem (Ne.symm here) (ih List.mem_cons_self)
      · exact ih (List.mem_cons_of_mem first inside)

theorem split_joinWith {mark : CodePoint} {pieces : List Text} (nonempty : pieces ≠ [])
    (absent : ∀ piece ∈ pieces, mark ∉ piece) : split mark (joinWith [mark] pieces) = pieces := by
  rw [split_eq_splitOn]
  exact List.splitOn_intercalate _ absent nonempty

end PolicyHost.Text
