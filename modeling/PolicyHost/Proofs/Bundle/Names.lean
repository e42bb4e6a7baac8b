import Mathlib.Data.List.Forall2
import PolicyHost.Bundle.Basic
import PolicyHost.Deployment.Archives
import PolicyHost.Proofs.Text.Pieces

/-!
# Names of members

Names of members that have the same components are names of one file, however many slashes and single
dots stand between. But two slashes in front, and no more, are a root of their own, which is taken for one
more component: such a file is never the bytecode or the manifest, and a data document goes under a
directory whose name is a slash.

* `Path.componentsOf_append_slash`: everything about components follows from this equation.
* `Bundle.placeOf`: the directories and the name that a member goes by.
* `memberPath_eq_iff`: members go by one path just when they go by one place.
* `document_iff_placeOf`: where a data document goes, after its path has been read once more.
* `Draft.add_renamed`, `foldlM_add_renamed`: one file with another name, and files one after another.
* `renamed_members`: bundles whose members have other names.
* `bytecode_behind_two_slashes`: a member that two slashes in front hide.
-/

namespace PolicyHost

namespace Path

/-- What stands between slashes and counts. -/
def IsComponent (part : Text) : Prop := part ≠ [] ∧ part ≠ "." ∧ ('/' : CodePoint) ∉ part

theorem componentsOf_append_slash (a b : Text) :
    componentsOf (a ++ ('/' : CodePoint) :: b) = componentsOf a ++ componentsOf b := by
  unfold componentsOf
  rw [Text.split_append_mark, List.filter_append]

theorem componentsOf_slash (t : Text) : componentsOf (('/' : CodePoint) :: t) = componentsOf t :=
  componentsOf_append_slash [] t

theorem componentsOf_slashes (count : Nat) (t : Text) :
    componentsOf (List.replicate count ('/' : CodePoint) ++ t) = componentsOf t := by
  induction count with
  | zero => rfl
  | succ count ih =>
    rw [List.replicate_succ, List.cons_append, componentsOf_slash, ih]

theorem isComponent_of_mem {t part : Text} (member : part ∈ componentsOf t) : IsComponent part := by
  obtain ⟨piece, counts⟩ := List.mem_filter.mp member
  obtain ⟨nonempty, named⟩ := of_decide_eq_true counts
  exact ⟨nonempty, named, Text.not_mem_of_mem_split piece⟩

/-- Components with a slash between each two are found again. -/
theorem componentsOf_joinWith {parts : List Text} (clean : ∀ part ∈ parts, IsComponent part) :
    componentsOf (Text.joinWith "/" parts) = parts := by
  by_cases none : parts = []
  · rw [none]
    rfl
  · have pieces : Text.split '/' (Text.joinWith "/" parts) = parts :=
      Text.split_joinWith none fun part member => (clean part member).2.2
    rw [componentsOf, pieces, List.filter_eq_self]
    exact fun part member => decide_eq_true ⟨(clean part member).1, (clean part member).2.1⟩

/-- What stands behind the slashes in front does not start with one. -/
def Bare (t : Text) : Prop := t.head? ≠ some '/'

theorem bare_joinWith {parts : List Text} (clean : ∀ part ∈ parts, IsComponent part) :
    Bare (Text.joinWith "/" parts) := by
  cases parts with
  | nil => exact nofun
  | cons first rest =>
    obtain ⟨nonempty, -, absent⟩ := clean first List.mem_cons_self
    obtain ⟨c, later, rfl⟩ := List.exists_cons_of_ne_nil nonempty
    have other : c ≠ '/' := fun same => absent (same ▸ List.mem_cons_self)
    have head : (Text.joinWith "/" ((c :: later) :: rest)).head? = some c := by
      cases rest with
      | nil => rw [Text.joinWith_singleton]; rfl
      | cons second rest => rw [Text.joinWith_cons_cons]; rfl
    rw [Bare, head]
    exact fun same => other (Option.some.inj same)

def rootOfSlashes : Nat → Root
  | 0 => .relative
  | 2 => .double
  | _ => .single

theorem rootOf_slashes {t : Text} (bare : Bare t) (count : Nat) :
    rootOf (List.replicate count ('/' : CodePoint) ++ t) = rootOfSlashes count := by
  have none : t.takeWhile (fun (c : CodePoint) => c == '/') = [] := by
    cases t with
    | nil => rfl
    | cons c rest =>
      have other : (c == ('/' : CodePoint)) = false := beq_false_of_ne fun same => bare (congrArg some same)
      rw [List.takeWhile_cons, other]
      rfl
  have slashes : ((List.replicate count ('/' : CodePoint) ++ t).takeWhile
      fun (c : CodePoint) => c == '/').length = count := by
    rw [List.takeWhile_append_of_pos fun c member => beq_iff_eq.mpr (List.eq_of_mem_replicate member), none,
      List.append_nil, List.length_replicate]
  rw [rootOf, slashes]
  rfl

end Path

namespace Bundle

open PolicyHost.Path

/-! ## The place of a member -/

/-- The directories and the name that a member goes by: its components, and in front of them a slash as a
directory of its own if exactly two slashes stand in front of the name. -/
def placeOf (name : Text) : List Text :=
  if rootOf name = .double then ("/" : Text) :: componentsOf name else componentsOf name

theorem placeOf_of_double {name : Text} (double : rootOf name = .double) :
    placeOf name = ("/" : Text) :: componentsOf name := if_pos double

theorem placeOf_of_not_double {name : Text} (other : rootOf name ≠ .double) :
    placeOf name = componentsOf name := if_neg other

theorem slash_not_mem_componentsOf (name : Text) : Text.ofString "/" ∉ componentsOf name :=
  fun member => (isComponent_of_mem member).2.2 List.mem_cons_self

theorem counted_componentsOf (name : Text) :
    (componentsOf name).filter (fun part => part ≠ Text.ofString "/" ∧ part ≠ Text.ofString ".") =
      componentsOf name := by
  rw [List.filter_eq_self]
  intro part member
  refine decide_eq_true ⟨?_, (isComponent_of_mem member).2.1⟩
  exact fun slash => slash_not_mem_componentsOf name (slash ▸ member)

theorem memberPath_of_not_double {name : Text} (other : rootOf name ≠ .double) :
    memberPath name = Text.joinWith "/" (componentsOf name) := by
  unfold memberPath ofText parts
  dsimp only
  cases root : rootOf name with
  | double => exact absurd root other
  | relative => rw [counted_componentsOf]
  | single =>
    dsimp only
    rw [List.filter_cons_of_neg (by decide), counted_componentsOf]

theorem memberPath_of_double {name : Text} (double : rootOf name = .double) :
    memberPath name = Text.joinWith "/" (("//" : Text) :: componentsOf name) := by
  unfold memberPath ofText parts
  dsimp only
  rw [double]
  dsimp only
  rw [List.filter_cons_of_pos (by decide), counted_componentsOf]
  rfl

/-- The path of a member, read as a path again. -/
theorem ofText_memberPath_of_not_double {name : Text} (other : rootOf name ≠ .double) :
    ofText (memberPath name) = ⟨.relative, componentsOf name⟩ := by
  have clean : ∀ part ∈ componentsOf name, IsComponent part := fun _ => isComponent_of_mem
  rw [memberPath_of_not_double other, ofText, componentsOf_joinWith clean]
  exact congrArg (Path.mk · _) (rootOf_slashes (bare_joinWith clean) 0)

@[inherit_doc ofText_memberPath_of_not_double]
theorem ofText_memberPath_of_double {name : Text} (double : rootOf name = .double)
    (nonempty : componentsOf name ≠ []) : ofText (memberPath name) = ⟨.single, componentsOf name⟩ := by
  have clean : ∀ part ∈ componentsOf name, IsComponent part := fun _ => isComponent_of_mem
  -- Behind the two slashes of the root there is the one in front of the first component.
  have slashes : memberPath name =
      List.replicate 3 ('/' : CodePoint) ++ Text.joinWith "/" (componentsOf name) := by
    obtain ⟨first, rest, some⟩ := List.exists_cons_of_ne_nil nonempty
    rw [memberPath_of_double double, some, Text.joinWith_cons_cons]
    rfl
  rw [slashes, ofText, componentsOf_slashes, componentsOf_joinWith clean, rootOf_slashes (bare_joinWith clean)]
  rfl

/-- The place of a member can be told from its path alone. -/
theorem placeOf_eq (name : Text) :
    placeOf name = if (ofText (memberPath name)).root = .relative then (ofText (memberPath name)).components
      else ("/" : Text) :: (ofText (memberPath name)).components := by
  by_cases double : rootOf name = .double
  · rw [placeOf_of_double double]
    -- Of two slashes alone the path is these two slashes, which are a root of their own again; with
    -- components behind them there are three, which are not.
    by_cases none : componentsOf name = []
    · rw [memberPath_of_double double, none]
      rfl
    · rw [ofText_memberPath_of_double double none]
      rfl
  · rw [placeOf_of_not_double double, ofText_memberPath_of_not_double double]
    rfl

/-- A path and the place that it leads to determine each other. -/
theorem memberPath_eq_iff {name other : Text} :
    memberPath name = memberPath other ↔ placeOf name = placeOf other := by
  constructor
  · intro same
    rw [placeOf_eq name, same, ← placeOf_eq]
  · intro same
    -- A slash is no component, so a place tells whether two slashes stand in front of the name.
    by_cases double : rootOf name = .double <;> by_cases double' : rootOf other = .double
    · rw [placeOf_of_double double, placeOf_of_double double'] at same
      rw [memberPath_of_double double, memberPath_of_double double', (List.cons.inj same).2]
    · rw [placeOf_of_double double, placeOf_of_not_double double'] at same
      exact absurd (same ▸ List.mem_cons_self) (slash_not_mem_componentsOf other)
    · rw [placeOf_of_not_double double, placeOf_of_double double'] at same
      exact absurd (same ▸ List.mem_cons_self) (slash_not_mem_componentsOf name)
    · rw [placeOf_of_not_double double, placeOf_of_not_double double'] at same
      rw [memberPath_of_not_double double, memberPath_of_not_double double', same]

/-- Names with the same components lead to one path, unless exactly one of them has two slashes in front. -/
theorem memberPath_eq_iff_of_components {name other : Text} (same : componentsOf name = componentsOf other) :
    memberPath name = memberPath other ↔ (rootOf name = .double ↔ rootOf other = .double) := by
  rw [memberPath_eq_iff]
  constructor
  · intro place
    by_cases double : rootOf name = .double <;> by_cases double' : rootOf other = .double
    · exact iff_of_true double double'
    · rw [placeOf_of_double double, placeOf_of_not_double double', ← same] at place
      exact absurd place (List.cons_ne_self _ _)
    · rw [placeOf_of_not_double double, placeOf_of_double double', same] at place
      exact absurd place.symm (List.cons_ne_self _ _)
    · exact iff_of_false double double'
  · intro roots
    simp only [placeOf, same, roots]

theorem memberPath_slashes {t : Text} (bare : Bare t) (count : Nat) :
    memberPath (List.replicate count ('/' : CodePoint) ++ t) = memberPath t ↔ count ≠ 2 := by
  have relative : rootOf t ≠ .double := by
    rw [show rootOf t = .relative from rootOf_slashes bare 0]
    decide
  rw [memberPath_eq_iff_of_components (componentsOf_slashes count t), rootOf_slashes bare count,
    iff_false_right relative]
  match count with
  | 0 | 1 | 2 => decide
  | count + 3 => exact iff_of_true nofun (by omega)

/-! ## What a member is -/

/-- The bytecode, and the manifest, is the member at the place of its name. -/
theorem memberPath_eq_iff_placeOf {name file : Text} (plain : memberPath file = file)
    (alone : placeOf file = [file]) : memberPath name = file ↔ placeOf name = [file] := by
  rw [← alone, ← memberPath_eq_iff, plain]

theorem getLast_dropLast_iff {parts directories : List Text} {file : Text} (named : file ≠ []) :
    parts.getLast?.getD [] = file ∧ parts.dropLast = directories ↔ parts = directories ++ [file] := by
  rcases List.eq_nil_or_concat parts with rfl | ⟨before, last, rfl⟩
  · exact iff_of_false (fun both => named both.1.symm) fun same => List.append_ne_nil_of_right_ne_nil _
      (List.cons_ne_nil file []) same.symm
  · rw [List.concat_eq_append, List.getLast?_concat, List.dropLast_concat, List.append_singleton_inj,
      and_comm]
    rfl

/-- A data document goes under the directories of its place. -/
theorem document_iff_placeOf {name : Text} {directories : List Text} :
    (ofText (memberPath name)).name = dataName ∧ (ofText (memberPath name)).parent.parts = directories ↔
      placeOf name = directories ++ [dataName] := by
  have named : dataName ≠ [] := by decide
  rw [← getLast_dropLast_iff named]
  by_cases double : rootOf name = .double
  · rw [placeOf_of_double double]
    by_cases none : componentsOf name = []
    · have path : memberPath name = "//" := by
        rw [memberPath_of_double double, none]
        rfl
      rw [path, none]
      exact iff_of_false (fun both => absurd both.1 (by decide)) (fun both => absurd both.1 (by decide))
    · obtain ⟨first, rest, some⟩ := List.exists_cons_of_ne_nil none
      rw [ofText_memberPath_of_double double none, some]
      rfl
  · rw [placeOf_of_not_double double, ofText_memberPath_of_not_double double]
    rfl

/-! ## Other names -/

/-- A file with the same contents and another name, which has the same components and stands behind exactly
two slashes if the first one does. -/
structure Renamed (file other : File) : Prop where
  contents : file.contents = other.contents
  components : componentsOf file.name = componentsOf other.name
  double : rootOf file.name = .double ↔ rootOf other.name = .double

theorem Renamed.memberPath {file other : File} (renamed : Renamed file other) :
    memberPath file.name = memberPath other.name :=
  (memberPath_eq_iff_of_components renamed.components).mpr renamed.double

theorem Draft.add_renamed [Room] (d : Draft) {file other : File} (renamed : Renamed file other) :
    d.add file = d.add other := by
  unfold Draft.add
  rw [renamed.memberPath, renamed.contents]

theorem foldlM_add_renamed [Room] {files others : List File} (renamed : List.Forall₂ Renamed files others)
    (d : Draft) : files.foldlM Draft.add d = others.foldlM Draft.add d := by
  induction renamed generalizing d with
  | nil => rfl
  | cons first _ ih =>
    rw [List.foldlM_cons, List.foldlM_cons, d.add_renamed first]
    exact congrArg _ (funext ih)

/-- What a member is goes by its place, which is its components unless exactly two slashes stand in front.
So names with the same components lead to one path, any number of slashes in front but two leads to the
path without them, and a bundle is the same, or fails in the same way, when its members have other names
that keep their components and whether two slashes stand in front. -/
theorem renamed_members [Room] [Archives] {files others : List File}
    (renamed : List.Forall₂ Renamed files others) :
    (∀ name, rootOf name ≠ .double →
      placeOf name = componentsOf name ∧ memberPath name = Text.joinWith "/" (componentsOf name)) ∧
    (∀ name, rootOf name = .double → placeOf name = ("/" : Text) :: componentsOf name ∧
      memberPath name = Text.joinWith "/" (("//" : Text) :: componentsOf name)) ∧
    (∀ name other, componentsOf name = componentsOf other →
      (memberPath name = memberPath other ↔ (rootOf name = .double ↔ rootOf other = .double))) ∧
    (∀ t, Bare t → ∀ count,
      memberPath (List.replicate count ('/' : CodePoint) ++ t) = memberPath t ↔ count ≠ 2) ∧
    (∀ name, (memberPath name = policyName ↔ placeOf name = [policyName]) ∧
      (memberPath name = manifestName ↔ placeOf name = [manifestName]) ∧
      ∀ directories,
        (ofText (memberPath name)).name = dataName ∧ (ofText (memberPath name)).parent.parts = directories ↔
          placeOf name = directories ++ [dataName]) ∧
    (∀ ending, ofFiles files ending = ofFiles others ending) ∧
    ∀ raw raw' ending, filesOf raw = (files, ending) → filesOf raw' = (others, ending) →
      parse raw = parse raw' := by
  have bundles (ending : Option Failure) : ofFiles files ending = ofFiles others ending := by
    unfold ofFiles
    rw [foldlM_add_renamed renamed]
  refine ⟨fun name other => ⟨placeOf_of_not_double other, memberPath_of_not_double other⟩,
    fun name double => ⟨placeOf_of_double double, memberPath_of_double double⟩,
    fun _ _ => memberPath_eq_iff_of_components, fun t => memberPath_slashes, fun name => ⟨?_, ?_, ?_⟩,
    bundles, ?_⟩
  · exact memberPath_eq_iff_placeOf (by decide) (by decide)
  · exact memberPath_eq_iff_placeOf (by decide) (by decide)
  · exact fun directories => document_iff_placeOf
  · intro raw raw' ending first second
    unfold parse
    rw [first, second]
    exact bundles ending

section

attribute [local instance] Room.usual Tar.archives

/-- Dots and slashes do not count in the names of bytecode and of a data document. -/
theorem dotted_members :
    List.Forall₂ Renamed [⟨"policy.wasm", .ok []⟩, ⟨"a/data.json", .ok [0x7B, 0x7D]⟩]
        [⟨"./policy.wasm", .ok []⟩, ⟨"///a//./data.json", .ok [0x7B, 0x7D]⟩] ∧
      ofFiles [⟨"./policy.wasm", .ok []⟩, ⟨"///a//./data.json", .ok [0x7B, 0x7D]⟩] none =
        .ok ⟨[], [], [("a", .object [])]⟩ := by
  have renamed : List.Forall₂ Renamed [⟨"policy.wasm", .ok []⟩, ⟨"a/data.json", .ok [0x7B, 0x7D]⟩]
      [⟨"./policy.wasm", .ok []⟩, ⟨"///a//./data.json", .ok [0x7B, 0x7D]⟩] :=
    .cons ⟨rfl, by decide, by decide⟩ (.cons ⟨rfl, by decide, by decide⟩ .nil)
  obtain ⟨-, -, -, -, -, bundles, -⟩ := renamed_members renamed
  exact ⟨renamed, (bundles none).symm.trans rfl⟩

/-- Behind exactly two slashes there is no bytecode: the bundle lacks it. -/
theorem bytecode_behind_two_slashes :
    componentsOf "//policy.wasm" = componentsOf "policy.wasm" ∧
      memberPath "//policy.wasm" ≠ memberPath "policy.wasm" ∧
      ofFiles [⟨"//policy.wasm", .ok []⟩] none = .error (Failure.error .missingPolicy) ∧
      ofFiles [⟨"policy.wasm", .ok []⟩] none = .ok ⟨[], [], []⟩ := by
  refine ⟨by decide, by decide, rfl, rfl⟩

end

end Bundle

end PolicyHost
