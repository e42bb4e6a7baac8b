import PolicyHost.Proofs.Bundle.Merge

/-!
# The union of data documents

Documents that merge without a conflict make up their union: no value is lost, overwritten, moved or
invented.

* `DataDocument`, `mergeAll`: data documents, merged one after another.
* `mergeInto_unites`: what merging documents into a tree comes to, place by place.
* `IsUnion`: the union, said for every key path.
* `documentsOf`: the documents in files; `ofFiles_data`: the data of a bundle are what they make up.
* `merge_isUnion`: the data of documents, and those of a bundle, are a union.
-/

namespace PolicyHost

namespace Bundle

open Json

/-- A value whose names come once, under the names of its directories. `path` names the document in
conflicts. -/
structure DataDocument where
  path : Text
  directories : List Text
  contents : Json
  distinct : contents.Distinct

def DataDocument.wrapped (d : DataDocument) : Json := wrap d.directories d.contents

def DataDocument.Rooted (d : DataDocument) : Prop := Bundle.Rooted d.directories d.contents

/-- Merges documents into a tree, one after another. -/
def mergeInto (tree : Members) (docs : List DataDocument) : Except PolicyError Members :=
  docs.foldlM (fun tree d => mergeAt d.path tree d.directories d.contents) tree

def mergeAll (docs : List DataDocument) : Except PolicyError Members := mergeInto [] docs

/-- The values that documents hold at a key path, in the order of the documents. -/
def held (docs : List DataDocument) (path : List Text) : List Json :=
  docs.filterMap fun d => d.wrapped.at? path

theorem mergeInto_cons (tree : Members) (d : DataDocument) (rest : List DataDocument) :
    mergeInto tree (d :: rest) =
      (mergeAt d.path tree d.directories d.contents).bind fun tree => mergeInto tree rest := rfl

theorem joinAll?_held_cons (p : Json.Place) (d : DataDocument) (rest : List DataDocument)
    (path : List Text) :
    p.joinAll? (held (d :: rest) path) =
      (p.join? (d.wrapped.place path)).bind fun joined => joined.joinAll? (held rest path) := by
  unfold held place
  cases found : d.wrapped.at? path with
  | none =>
    rw [List.filterMap_cons, found, Json.Place.of_none, Json.Place.join?_vacant_right]
    rfl
  | some value =>
    rw [List.filterMap_cons, found]
    exact Json.Place.joinAll?_cons p value _

/-- What merging documents into a tree comes to. Each place is what the place of the tree and the
values that the documents hold there join to; or there is a conflict of data, and a place where they
do not join. -/
def UnitesAll (tree : Members) (docs : List DataDocument) : Except PolicyError Members → Prop
  | .ok data =>
    ∀ path, ((Json.object tree).place path).joinAll? (held docs path) =
      some ((Json.object data).place path)
  | .error cause =>
    cause.isDataConflict = true ∧
      ∃ path, ((Json.object tree).place path).joinAll? (held docs path) = none

/-- Merging comes to that, by induction over the documents: each one joins its places to those of the
tree so far. -/
theorem mergeInto_unites {docs : List DataDocument} (rooted : ∀ d ∈ docs, d.Rooted) (tree : Members) :
    UnitesAll tree docs (mergeInto tree docs) := by
  induction docs generalizing tree with
  | nil => exact fun path => rfl
  | cons d rest ih =>
    obtain ⟨first, others⟩ := List.forall_mem_cons.mp rooted
    have step := mergeAt_unites d.path first d.distinct tree
    rw [mergeInto_cons]
    cases merged : mergeAt d.path tree d.directories d.contents with
    | error cause =>
      rw [merged] at step
      obtain ⟨kind, path, apart⟩ := step
      refine ⟨kind, path, ?_⟩
      change ((Json.object tree).place path).join? (d.wrapped.place path) = none at apart
      rw [joinAll?_held_cons, apart]
      rfl
    | ok middle =>
      rw [merged] at step
      have same : ∀ path, ((Json.object tree).place path).joinAll? (held (d :: rest) path) =
          ((Json.object middle).place path).joinAll? (held rest path) := by
        intro path
        have joined : ((Json.object tree).place path).join? (d.wrapped.place path) =
            some ((Json.object middle).place path) := step path
        rw [joinAll?_held_cons, joined]
        rfl
      -- The others are merged into the tree that the first document leaves.
      have later := ih others middle
      change UnitesAll tree (d :: rest) (mergeInto middle rest)
      cases result : mergeInto middle rest with
      | error cause =>
        rw [result] at later
        obtain ⟨kind, path, apart⟩ := later
        exact ⟨kind, path, (same path).trans apart⟩
      | ok data =>
        rw [result] at later
        exact fun path => (same path).trans (later path)

/-- Documents that merge can stand in a tree, and the names of what they make up come once. -/
theorem rooted_distinct_of_mergeInto {docs : List DataDocument} {tree data : Members}
    (old : (Json.object tree).Distinct) (merged : mergeInto tree docs = .ok data) :
    (∀ d ∈ docs, d.Rooted) ∧ (Json.object data).Distinct := by
  induction docs generalizing tree with
  | nil =>
    cases merged
    exact ⟨by simp, old⟩
  | cons d rest ih =>
    rw [mergeInto_cons] at merged
    cases first : mergeAt d.path tree d.directories d.contents with
    | error cause =>
      rw [first] at merged
      cases merged
    | ok middle =>
      rw [first] at merged
      obtain ⟨others, distinct⟩ := ih (mergeAt_distinct d.distinct old first) merged
      exact ⟨List.forall_mem_cons.mpr ⟨rooted_of_mergeAt first, others⟩, distinct⟩

/-- Below the root, the values that documents hold join to the place of the data. -/
theorem joinAll?_held {docs : List DataDocument} {data : Members} (merged : mergeAll docs = .ok data)
    {path : List Text} (below : path ≠ []) :
    Json.Place.vacant.joinAll? (held docs path) = some ((Json.object data).place path) := by
  have unites := mergeInto_unites (rooted_distinct_of_mergeInto distinct_empty merged).1 []
  unfold mergeAll at merged
  rw [merged] at unites
  cases path with
  | nil => exact absurd rfl below
  | cons key rest => exact unites (key :: rest)

/-! ## The union -/

/-- The data are the union of documents. -/
structure IsUnion (docs : List DataDocument) (data : Members) : Prop where
  /-- There is an object where a document has one. -/
  objects : ∀ path ≠ [],
    (∃ members, (Json.object data).at? path = some (.object members)) ↔
      ∃ d ∈ docs, ∃ members, d.wrapped.at? path = some (.object members)
  /-- There is a value that is no object where one document has it and no other has anything. -/
  leaves : ∀ path ≠ [], ∀ x : Json, x.isObject = false →
    ((Json.object data).at? path = some x ↔
      ∃ before d after, docs = before ++ d :: after ∧ d.wrapped.at? path = some x ∧
        ∀ other ∈ before ++ after, other.wrapped.at? path = none)

theorem held_eq_singleton_iff {docs : List DataDocument} {path : List Text} {x : Json} :
    held docs path = [x] ↔
      ∃ before d after, docs = before ++ d :: after ∧ d.wrapped.at? path = some x ∧
        ∀ other ∈ before ++ after, other.wrapped.at? path = none := by
  unfold held
  rw [List.filterMap_eq_cons_iff]
  constructor
  · rintro ⟨before, d, after, split, earlier, found, later⟩
    rw [List.filterMap_eq_nil_iff] at later
    exact ⟨before, d, after, split, found, List.forall_mem_append.mpr ⟨earlier, later⟩⟩
  · rintro ⟨before, d, after, split, found, others⟩
    obtain ⟨earlier, later⟩ := List.forall_mem_append.mp others
    exact ⟨before, d, after, split, earlier, found, List.filterMap_eq_nil_iff.mpr later⟩

theorem mergeAll_isUnion {docs : List DataDocument} {data : Members}
    (merged : mergeAll docs = .ok data) : IsUnion docs data where
  objects path below := by
    have object := Json.Place.joinAll?_eq_object (joinAll?_held merged below)
    unfold place at object
    rw [Json.Place.of_eq_object_iff] at object
    rw [object]
    simp only [held, List.mem_filterMap]
    constructor
    · rintro ⟨members, d, member, found⟩
      exact ⟨d, member, members, found⟩
    · rintro ⟨d, member, members, found⟩
      exact ⟨members, d, member, found⟩
  leaves path below x leaf := by
    have lone := Json.Place.joinAll?_eq_leaf (joinAll?_held merged below) leaf
    unfold place at lone
    rw [Json.Place.of_eq_leaf_iff leaf] at lone
    rw [lone, held_eq_singleton_iff]

/-! ## Documents of files -/

/-- A file is a data document, by its name. -/
def File.isData (file : File) : Bool :=
  memberPath file.name ≠ policyName ∧ memberPath file.name ≠ manifestName ∧
    (Path.ofText (memberPath file.name)).name = dataName

def File.document? [Room] (file : File) : Option DataDocument :=
  match file.contents with
  | .error _ => none
  | .ok contents =>
    match read : Json.readOctets contents with
    | .error _ => none
    | .ok document =>
      if file.isData then
        some ⟨memberPath file.name, (Path.ofText (memberPath file.name)).parent.parts, document,
          readOctets_distinct read⟩
      else none

def documentsOf [Room] (files : List File) : List DataDocument := files.filterMap File.document?

theorem File.document?_of_not_isData [Room] {file : File} (other : file.isData = false) :
    file.document? = none := by
  unfold File.document?
  split
  · rfl
  · split
    · rfl
    · rw [other]
      rfl

theorem File.document?_of_isData [Room] {file : File} (data : file.isData = true) {contents : Bytes}
    (present : file.contents = .ok contents) {document : Json}
    (read : readOctets contents = .ok document) :
    file.document? = some ⟨memberPath file.name, (Path.ofText (memberPath file.name)).parent.parts,
      document, readOctets_distinct read⟩ := by
  unfold File.document?
  split
  · next missing =>
    rw [present] at missing
    cases missing
  · next bytes found =>
    rw [present] at found
    cases found
    split
    · next flawed =>
      rw [read] at flawed
      cases flawed
    · next value readable =>
      rw [read] at readable
      cases readable
      rw [data]
      rfl

theorem parseDocument_eq_ok_iff [Room] {path : Text} {contents : Bytes} {document : Json} :
    parseDocument path contents = .ok document ↔ readOctets contents = .ok document := by
  unfold parseDocument
  cases readOctets contents with
  | error flaw => exact ⟨nofun, nofun⟩
  | ok value => exact ⟨fun same => by cases same; rfl, fun same => by cases same; rfl⟩

/-- A file that is no data document leaves the data as they are. -/
theorem Draft.add_of_not_isData [Room] {draft next : Draft} {file : File} (other : file.isData = false)
    (added : draft.add file = .ok next) : next.data = draft.data := by
  unfold Draft.add at added
  by_cases policy : memberPath file.name = policyName
  · simp only [policy, if_true] at added
    obtain ⟨bytes, -, done⟩ := Outcome.bind_eq_ok_iff.mp added
    cases done
    rfl
  by_cases manifest : memberPath file.name = manifestName
  · simp only [manifest, if_true] at added
    obtain ⟨bytes, -, later⟩ := Outcome.bind_eq_ok_iff.mp added
    obtain ⟨members, -, done⟩ := Outcome.bind_eq_ok_iff.mp later
    cases done
    rfl
  · have name : (Path.ofText (memberPath file.name)).name ≠ dataName := by
      intro data
      simp [File.isData, policy, manifest, data] at other
    simp only [policy, manifest, name, if_false] at added
    cases added
    rfl

theorem Draft.add_eq_of_isData [Room] (draft : Draft) {file : File} (data : file.isData = true) :
    draft.add file = file.contents >>= fun contents =>
      parseDocument (memberPath file.name) contents >>= draft.addData (memberPath file.name) := by
  simp only [File.isData, decide_eq_true_eq] at data
  obtain ⟨policy, manifest, name⟩ := data
  simp only [Draft.add, policy, manifest, name, if_true, if_false]

/-- A data document is merged into the data. -/
theorem Draft.add_of_isData [Room] {draft next : Draft} {file : File} (data : file.isData = true)
    (added : draft.add file = .ok next) :
    ∃ d, file.document? = some d ∧
      mergeAt d.path draft.data d.directories d.contents = .ok next.data := by
  rw [Draft.add_eq_of_isData draft data] at added
  obtain ⟨contents, present, later⟩ := Outcome.bind_eq_ok_iff.mp added
  obtain ⟨document, parsed, merge⟩ := Outcome.bind_eq_ok_iff.mp later
  refine ⟨_, File.document?_of_isData data present (parseDocument_eq_ok_iff.mp parsed), ?_⟩
  unfold Draft.addData at merge
  split at merge
  · next merged =>
    cases merge
    exact merged
  · cases merge

/-- Taking in files merges the documents in them, and every data document is read. -/
theorem addAll_data [Room] {files : List File} {draft last : Draft}
    (added : files.foldlM Draft.add draft = .ok last) :
    mergeInto draft.data (documentsOf files) = .ok last.data ∧
      ∀ file ∈ files, file.isData = true → (file.document?).isSome = true := by
  induction files generalizing draft with
  | nil =>
    cases added
    exact ⟨rfl, by simp⟩
  | cons file rest ih =>
    rw [List.foldlM_cons] at added
    obtain ⟨next, first, later⟩ := Outcome.bind_eq_ok_iff.mp added
    obtain ⟨merged, read⟩ := ih later
    rw [List.forall_mem_cons]
    cases data : file.isData with
    | false =>
      rw [Draft.add_of_not_isData data first] at merged
      refine ⟨?_, nofun, read⟩
      rw [documentsOf, List.filterMap_cons, File.document?_of_not_isData data]
      exact merged
    | true =>
      obtain ⟨d, found, into⟩ := Draft.add_of_isData data first
      refine ⟨?_, fun _ => by rw [found]; rfl, read⟩
      rw [documentsOf, List.filterMap_cons, found]
      change mergeInto draft.data (d :: documentsOf rest) = .ok last.data
      rw [mergeInto_cons, into]
      exact merged

/-- The data of a bundle are those of the documents in its files. -/
theorem ofFiles_data [Room] {files : List File} {ending : Option Failure} {bundle : Bundle}
    (parsed : ofFiles files ending = .ok bundle) :
    mergeAll (documentsOf files) = .ok bundle.data ∧
      ∀ file ∈ files, file.isData = true → (file.document?).isSome = true := by
  unfold ofFiles at parsed
  obtain ⟨draft, added, last⟩ := Outcome.bind_eq_ok_iff.mp parsed
  have data : draft.data = bundle.data := by
    split at last
    · cases last
    · cases last
    · cases last
      rfl
  rw [← data]
  exact addAll_data added

/-! ## The data of a bundle -/

/-- Documents that merge make up their union. So do the documents in the files of a bundle, each of
which is read. -/
theorem merge_isUnion [Room] :
    (∀ docs data, mergeAll docs = .ok data → IsUnion docs data) ∧
      ∀ files ending bundle, ofFiles files ending = .ok bundle →
        (∀ file ∈ files, file.isData = true → (file.document?).isSome = true) ∧
          IsUnion (documentsOf files) bundle.data := by
  constructor
  · exact fun docs data merged => mergeAll_isUnion merged
  · intro files ending bundle parsed
    obtain ⟨merged, read⟩ := ofFiles_data parsed
    exact ⟨read, mergeAll_isUnion merged⟩

/-- A bundle with `{"b":1}` in a directory `a`, and `{"a":{"c":2}}` at the root. -/
def overlapping : List File :=
  [⟨"policy.wasm", .ok []⟩,
    ⟨"a/data.json", .ok [0x7B, 0x22, 0x62, 0x22, 0x3A, 0x31, 0x7D]⟩,
    ⟨"./data.json", .ok [0x7B, 0x22, 0x61, 0x22, 0x3A, 0x7B, 0x22, 0x63, 0x22, 0x3A, 0x32, 0x7D, 0x7D]⟩]

/-- What the documents of `overlapping` make up. -/
def overlaid : Members := [("a", .object [("b", .int 1), ("c", .int 2)])]

attribute [local instance] Room.usual in
theorem overlapping_isUnion :
    (mergeAll (documentsOf overlapping) = .ok overlaid ∧
      IsUnion (documentsOf overlapping) overlaid) ∧
    ofFiles overlapping none = .ok ⟨[], [], overlaid⟩ ∧
      ∀ file ∈ overlapping, file.isData = true → (file.document?).isSome = true := by
  have parsed : ofFiles overlapping none = .ok ⟨[], [], overlaid⟩ := by rfl
  have merged := (ofFiles_data parsed).1
  exact ⟨⟨merged, merge_isUnion.1 _ _ merged⟩, parsed, (merge_isUnion.2 _ _ _ parsed).1⟩

end Bundle

end PolicyHost
