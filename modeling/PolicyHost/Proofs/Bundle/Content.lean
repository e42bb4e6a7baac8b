import PolicyHost.Deployment.Archives
import PolicyHost.Proofs.Bundle.Failures
import PolicyHost.Proofs.Bundle.Order

/-!
# What counts in a bundle

Of the members of an archive only files count, and of the files only the bytecode, the manifest and data
documents. Each of the three goes its own way: of the bytecode, and of the manifest, the last one stays,
and the documents are merged. So members of different kinds may stand in any order between each other, and
the documents in any order at all.

* `contentsOf`, `placedDocuments`: what counts in files.
* `Draft.add_eq_ok_iff`, `foldlM_add_eq_ok_iff`: files are taken in just when they can go each of the three
  ways.
* `MakesUp`, `ofFiles_eq_ok_iff`: when files are a bundle, and which one.
* `SameContent`, `Alike`: files in which the same counts, and bundles that are the same up to the order of
  names in their data.
* `parsing_by_content`: a bundle is made of what counts.
-/

namespace PolicyHost

namespace Bundle

open Json

/-! ## What counts in files -/

/-- A file is the bytecode, by its name. -/
def File.isBytecode (file : File) : Bool := memberPath file.name = policyName

/-- A file is the manifest, by its name. -/
def File.isManifest (file : File) : Bool := memberPath file.name = manifestName

def File.directories (file : File) : List Text := (Path.ofText (memberPath file.name)).parent.parts

/-- The value that a file holds as a document, if it can be read. -/
def File.value? [Room] (file : File) : Option Json :=
  file.contents.toOption.bind fun contents => (readOctets contents).toOption

def contentsOf (kind : File → Bool) (files : List File) : List (Except Failure Bytes) :=
  (files.filter kind).map File.contents

def placedDocuments [Room] (files : List File) : List (List Text × Option Json) :=
  (files.filter File.isData).map fun file => (file.directories, file.value?)

/-- What a file is goes by its name: it is one of the three, or none of them. -/
theorem File.kind_cases (file : File) :
    (file.isBytecode = true ∧ file.isManifest = false ∧ file.isData = false) ∨
      (file.isBytecode = false ∧ file.isManifest = true ∧ file.isData = false) ∨
      (file.isBytecode = false ∧ file.isManifest = false ∧ file.isData = true) ∨
      (file.isBytecode = false ∧ file.isManifest = false ∧ file.isData = false) := by
  unfold File.isBytecode File.isManifest File.isData
  by_cases policy : memberPath file.name = policyName
  · rw [policy]
    exact .inl (by decide)
  by_cases manifest : memberPath file.name = manifestName
  · rw [manifest]
    exact .inr (.inl (by decide))
  by_cases data : (Path.ofText (memberPath file.name)).name = dataName
  · exact .inr (.inr (.inl (by simp [policy, manifest, data])))
  · exact .inr (.inr (.inr (by simp [policy, manifest, data])))

/-! ## The documents that are merged -/

theorem File.value?_eq_some [Room] {file : File} {document : Json} :
    file.value? = some document ↔
      ∃ contents, file.contents = .ok contents ∧ readOctets contents = .ok document := by
  unfold File.value?
  cases file.contents with
  | error failure => exact ⟨nofun, nofun⟩
  | ok contents =>
    cases read : readOctets contents with
    | error flaw => simp [Except.toOption, read]
    | ok value => simp [Except.toOption, read]

/-- A data document is the tree of its value under its directories; it is none if there is no value. -/
theorem File.document?_tree [Room] {file : File} (data : file.isData = true) :
    file.document?.map DataDocument.wrapped = file.value?.map (wrap file.directories) := by
  cases value : file.value? with
  | none =>
    unfold File.document?
    split
    · rfl
    · next contents held =>
      split
      · rfl
      · next document read =>
        rw [File.value?_eq_some.mpr ⟨contents, held, read⟩] at value
        cases value
  | some document =>
    obtain ⟨contents, held, read⟩ := File.value?_eq_some.mp value
    rw [File.document?_of_isData data held read]
    rfl

/-- The trees of the documents that are merged are those of the values that can be read. -/
theorem trees_documentsOf [Room] (files : List File) :
    (documentsOf files).map DataDocument.wrapped =
      (placedDocuments files).filterMap fun placed => placed.2.map (wrap placed.1) := by
  unfold documentsOf placedDocuments
  rw [List.map_filterMap, List.filterMap_map, List.filterMap_filter]
  refine List.filterMap_congr fun file _ => ?_
  cases data : file.isData with
  | false => rw [File.document?_of_not_isData data]; rfl
  | true => exact File.document?_tree data

theorem File.of_document? [Room] {file : File} (data : file.isData = true) {d : DataDocument}
    (found : file.document? = some d) :
    ∃ contents, file.contents = .ok contents ∧ readOctets contents = .ok d.contents ∧
      d.path = memberPath file.name ∧ d.directories = file.directories := by
  have tree := File.document?_tree data
  cases value : file.value? with
  | none =>
    rw [found, value] at tree
    cases tree
  | some document =>
    obtain ⟨contents, held, read⟩ := File.value?_eq_some.mp value
    rw [File.document?_of_isData data held read] at found
    cases found
    exact ⟨contents, held, read, rfl, rfl⟩

def AllRead [Room] (files : List File) : Prop := ∀ file ∈ files, file.isData = true → file.document?.isSome = true

theorem allRead_iff [Room] {files : List File} :
    AllRead files ↔ ∀ placed ∈ placedDocuments files, placed.2.isSome = true := by
  have same {file : File} (data : file.isData = true) : file.document?.isSome = file.value?.isSome := by
    rw [← Option.isSome_map, File.document?_tree data, Option.isSome_map]
  simp only [AllRead, placedDocuments, List.forall_mem_map, List.mem_filter, and_imp]
  exact forall₃_congr fun file _ data => by rw [same data]

/-! ## Three ways to go -/

/-- What contents come to of which the later replace the earlier, if all of them can be used. -/
def lastOf {α : Type} (use : Bytes → Except Failure α) (start : α)
    (contents : List (Except Failure Bytes)) : Except Failure α :=
  contents.foldlM (fun _ held => held >>= use) start

/-- Nothing but the last contents stays. -/
theorem last_of_lastOf {α : Type} {use : Bytes → Except Failure α} {start value : α}
    {contents : List (Except Failure Bytes)} (done : lastOf use start contents = .ok value) :
    (contents = [] ∧ value = start) ∨
      ∃ bytes, contents.getLast? = some (.ok bytes) ∧ use bytes = .ok value := by
  rcases List.eq_nil_or_concat contents with rfl | ⟨before, last, rfl⟩
  · cases done
    exact .inl ⟨rfl, rfl⟩
  · rw [List.concat_eq_append, lastOf, List.foldlM_append] at done
    obtain ⟨reached, -, later⟩ := Outcome.bind_eq_ok_iff.mp done
    obtain ⟨used, step, ⟨⟩⟩ := Outcome.bind_eq_ok_iff.mp later
    obtain ⟨bytes, present, made⟩ := Outcome.bind_eq_ok_iff.mp step
    rw [List.concat_eq_append, List.getLast?_concat, present]
    exact .inr ⟨bytes, rfl, made⟩

/-- A file of a kind replaces what an earlier one has left. -/
def replaceBy {α : Type} (kind : File → Bool) (use : Bytes → Except Failure α) (old : α) (file : File) :
    Except Failure α :=
  if kind file then file.contents >>= use else pure old

theorem foldlM_replaceBy {α : Type} (kind : File → Bool) (use : Bytes → Except Failure α)
    (files : List File) (start : α) :
    files.foldlM (replaceBy kind use) start = lastOf use start (contentsOf kind files) := by
  rw [lastOf, contentsOf, List.foldlM_map, List.foldlM_filter]
  rfl

def keep (contents : Bytes) : Except Failure (Option Bytes) := .ok (some contents)

def mergeFile [Room] (data : Members) (file : File) : Except Failure Members :=
  if file.isData then do
    let document ← parseDocument (memberPath file.name) (← file.contents)
    (mergeAt (memberPath file.name) data file.directories document).mapError Failure.error
  else pure data

theorem mergeFile_of_isData [Room] {file : File} (data : file.isData = true) {before after : Members} :
    mergeFile before file = .ok after ↔
      ∃ d, file.document? = some d ∧ mergeAt d.path before d.directories d.contents = .ok after := by
  rw [mergeFile, if_pos data]
  constructor
  · intro done
    obtain ⟨contents, held, later⟩ := Outcome.bind_eq_ok_iff.mp done
    obtain ⟨document, parsed, merged⟩ := Outcome.bind_eq_ok_iff.mp later
    exact ⟨_, File.document?_of_isData data held (parseDocument_eq_ok_iff.mp parsed),
      Outcome.mapError_eq_ok_iff.mp merged⟩
  · rintro ⟨d, found, merged⟩
    obtain ⟨contents, held, read, path, directories⟩ := File.of_document? data found
    rw [path, directories] at merged
    exact Outcome.bind_eq_ok_iff.mpr ⟨contents, held, Outcome.bind_eq_ok_iff.mpr
      ⟨d.contents, parseDocument_eq_ok_iff.mpr read, Outcome.mapError_eq_ok_iff.mpr merged⟩⟩

/-- Files are merged into the data just when each data document is read and the documents can be merged. -/
theorem foldlM_mergeFile [Room] {files : List File} {before after : Members} :
    files.foldlM mergeFile before = .ok after ↔
      AllRead files ∧ mergeInto before (documentsOf files) = .ok after := by
  induction files generalizing before with
  | nil =>
    have none : mergeInto before (documentsOf []) = .ok before := rfl
    have unread : AllRead [] := fun _ member => absurd member List.not_mem_nil
    rw [List.foldlM_nil, none, and_iff_right unread]
    constructor <;> (rintro ⟨⟩; rfl)
  | cons file rest ih =>
    rw [List.foldlM_cons, Outcome.bind_eq_ok_iff, AllRead, List.forall_mem_cons]
    cases data : file.isData with
    | false =>
      have skipped : mergeFile before file = .ok before := by
        rw [mergeFile, data]
        rfl
      have unmerged : documentsOf (file :: rest) = documentsOf rest :=
        List.filterMap_cons_none (File.document?_of_not_isData data)
      rw [skipped, unmerged]
      simp [ih, AllRead]
    | true =>
      simp only [mergeFile_of_isData data, ih]
      cases found : file.document? with
      | none => simp
      | some d =>
        have merged : documentsOf (file :: rest) = d :: documentsOf rest := List.filterMap_cons_some found
        have chained : mergeInto before (d :: documentsOf rest) = .ok after ↔
            ∃ middle, mergeAt d.path before d.directories d.contents = .ok middle ∧
              mergeInto middle (documentsOf rest) = .ok after := Outcome.bind_eq_ok_iff
        rw [merged, chained]
        constructor
        · rintro ⟨middle, ⟨_, ⟨⟩, first⟩, read, later⟩
          exact ⟨⟨fun _ => rfl, read⟩, middle, first, later⟩
        · rintro ⟨⟨-, read⟩, middle, first, later⟩
          exact ⟨middle, ⟨d, rfl, first⟩, read, later⟩

theorem Draft.addData_eq_ok_iff {draft next : Draft} {path : Text} {document : Json} :
    draft.addData path document = .ok next ↔
      mergeAt path draft.data (Path.ofText path).parent.parts document = .ok next.data ∧
        next.policy = draft.policy ∧ next.manifest = draft.manifest := by
  obtain ⟨policy, manifest, data⟩ := next
  unfold Draft.addData
  cases mergeAt path draft.data (Path.ofText path).parent.parts document with
  | error cause => exact ⟨nofun, nofun⟩
  | ok merged =>
    constructor
    · rintro ⟨⟩
      exact ⟨rfl, rfl, rfl⟩
    · rintro ⟨⟨⟩, rfl, rfl⟩
      rfl

/-- One file is taken in just when it can go each of the three ways. -/
theorem Draft.add_eq_ok_iff [Room] {draft next : Draft} {file : File} :
    draft.add file = .ok next ↔
      replaceBy File.isBytecode keep draft.policy file = .ok next.policy ∧
        replaceBy File.isManifest (parseObject manifestName) draft.manifest file = .ok next.manifest ∧
        mergeFile draft.data file = .ok next.data := by
  unfold replaceBy mergeFile
  rcases file.kind_cases with ⟨kind, other⟩ | ⟨other, kind, none⟩ | ⟨other, none, kind⟩ | ⟨a, b, c⟩
  · have named : memberPath file.name = policyName := of_decide_eq_true kind
    rw [kind, other.1, other.2]
    simp only [Draft.add, if_pos named, if_true, if_false, Bool.false_eq_true, Outcome.bind_eq_ok_iff]
    obtain ⟨policy, manifest, data⟩ := next
    constructor
    · rintro ⟨contents, held, ⟨⟩⟩
      exact ⟨⟨contents, held, rfl⟩, rfl, rfl⟩
    · rintro ⟨⟨contents, held, ⟨⟩⟩, ⟨⟩, ⟨⟩⟩
      exact ⟨contents, held, rfl⟩
  · have named : memberPath file.name = manifestName := of_decide_eq_true kind
    have policy : manifestName ≠ policyName := by decide
    rw [kind, other, none]
    simp only [Draft.add, named, if_neg policy, if_true, if_false, Bool.false_eq_true,
      Outcome.bind_eq_ok_iff]
    obtain ⟨policy, manifest, data⟩ := next
    constructor
    · rintro ⟨contents, held, members, parsed, ⟨⟩⟩
      exact ⟨rfl, ⟨contents, held, parsed⟩, rfl⟩
    · rintro ⟨⟨⟩, ⟨contents, held, parsed⟩, ⟨⟩⟩
      exact ⟨contents, held, manifest, parsed, rfl⟩
  · rw [Draft.add_eq_of_isData _ kind, kind, other, none]
    simp only [if_true, if_false, Bool.false_eq_true, Outcome.bind_eq_ok_iff, Draft.addData_eq_ok_iff,
      Outcome.mapError_eq_ok_iff]
    constructor
    · rintro ⟨contents, held, document, parsed, merged, policy, manifest⟩
      exact ⟨congrArg _ policy.symm, congrArg _ manifest.symm, contents, held, document, parsed, merged⟩
    · rintro ⟨policy, manifest, contents, held, document, parsed, merged⟩
      exact ⟨contents, held, document, parsed, merged, (Except.ok.inj policy).symm,
        (Except.ok.inj manifest).symm⟩
  · have policy : memberPath file.name ≠ policyName := of_decide_eq_false a
    have manifest : memberPath file.name ≠ manifestName := of_decide_eq_false b
    have document : (Path.ofText (memberPath file.name)).name ≠ dataName := by
      simpa [File.isData, policy, manifest] using c
    rw [a, b, c]
    simp only [Draft.add, policy, manifest, document, if_false, Bool.false_eq_true]
    obtain ⟨policy, manifest, data⟩ := next
    constructor
    · rintro ⟨⟩
      exact ⟨rfl, rfl, rfl⟩
    · rintro ⟨⟨⟩, ⟨⟩, ⟨⟩⟩
      rfl

/-- Files are taken in one after another just when they can go each of the three ways, by induction over the
files. -/
theorem foldlM_add_eq_ok_iff [Room] {files : List File} {draft last : Draft} :
    files.foldlM Draft.add draft = .ok last ↔
      files.foldlM (replaceBy File.isBytecode keep) draft.policy = .ok last.policy ∧
        files.foldlM (replaceBy File.isManifest (parseObject manifestName)) draft.manifest =
          .ok last.manifest ∧
        files.foldlM mergeFile draft.data = .ok last.data := by
  induction files generalizing draft with
  | nil =>
    obtain ⟨policy, manifest, data⟩ := last
    constructor
    · rintro ⟨⟩
      exact ⟨rfl, rfl, rfl⟩
    · rintro ⟨⟨⟩, ⟨⟩, ⟨⟩⟩
      rfl
  | cons file rest ih =>
    simp only [List.foldlM_cons, Outcome.bind_eq_ok_iff, ih, Draft.add_eq_ok_iff]
    constructor
    · rintro ⟨next, ⟨policy, manifest, data⟩, policy', manifest', data'⟩
      exact ⟨⟨_, policy, policy'⟩, ⟨_, manifest, manifest'⟩, ⟨_, data, data'⟩⟩
    · rintro ⟨⟨policy, first, last⟩, ⟨manifest, first', last'⟩, ⟨data, first'', last''⟩⟩
      exact ⟨⟨policy, manifest, data⟩, ⟨first, first', first''⟩, last, last', last''⟩

/-! ## Bundles -/

/-- Files make up a bundle. -/
structure MakesUp [Room] (files : List File) (bundle : Bundle) : Prop where
  policy : lastOf keep none (contentsOf File.isBytecode files) = .ok (some bundle.policy)
  manifest : lastOf (parseObject manifestName) [] (contentsOf File.isManifest files) = .ok bundle.manifest
  read : AllRead files
  data : mergeAll (documentsOf files) = .ok bundle.data

theorem ofFiles_eq_ok_iff [Room] {files : List File} {ending : Option Failure} {bundle : Bundle} :
    ofFiles files ending = .ok bundle ↔ ending = none ∧ MakesUp files bundle := by
  have drafts : MakesUp files bundle ↔
      files.foldlM Draft.add ⟨none, [], []⟩ = .ok ⟨some bundle.policy, bundle.manifest, bundle.data⟩ := by
    rw [foldlM_add_eq_ok_iff, foldlM_replaceBy, foldlM_replaceBy, foldlM_mergeFile]
    exact ⟨fun makes => ⟨makes.policy, makes.manifest, makes.read, makes.data⟩,
      fun taken => ⟨taken.1, taken.2.1, taken.2.2.1, taken.2.2.2⟩⟩
  rw [drafts, ofFiles, Outcome.bind_eq_ok_iff]
  constructor
  · rintro ⟨⟨policy, manifest, data⟩, taken, done⟩
    split at done
    · cases done
    · cases done
    · next found =>
      cases found
      cases done
      exact ⟨rfl, taken⟩
  · rintro ⟨rfl, taken⟩
    exact ⟨_, taken, rfl⟩

/-- The bytecode and the manifest of a bundle are the last ones; without a manifest there are no members. -/
theorem MakesUp.last [Room] {files : List File} {bundle : Bundle} (makes : MakesUp files bundle) :
    (contentsOf File.isBytecode files).getLast? = some (.ok bundle.policy) ∧
      ((contentsOf File.isManifest files = [] ∧ bundle.manifest = []) ∨
        ∃ contents, (contentsOf File.isManifest files).getLast? = some (.ok contents) ∧
          parseObject manifestName contents = .ok bundle.manifest) := by
  refine ⟨?_, last_of_lastOf makes.manifest⟩
  rcases last_of_lastOf makes.policy with ⟨-, ⟨⟩⟩ | ⟨contents, last, ⟨⟩⟩
  exact last

/-- Files in which the same counts: the same bytecodes and manifests in the same order, and the same data
documents in any order. -/
structure SameContent [Room] (files others : List File) : Prop where
  bytecodes : contentsOf File.isBytecode files = contentsOf File.isBytecode others
  manifests : contentsOf File.isManifest files = contentsOf File.isManifest others
  documents : (placedDocuments files).Perm (placedDocuments others)

theorem SameContent.symm [Room] {files others : List File} (same : SameContent files others) :
    SameContent others files :=
  ⟨same.bytecodes.symm, same.manifests.symm, same.documents.symm⟩

/-- Both fail, or both give bundles that are the same up to the order of names in their data. -/
inductive Alike : Except Failure Bundle → Except Failure Bundle → Prop
  | failed (failure other : Failure) : Alike (.error failure) (.error other)
  | parsed {bundle other : Bundle} :
      bundle.policy = other.policy → bundle.manifest = other.manifest →
      Reordered (.object bundle.data) (.object other.data) → Alike (.ok bundle) (.ok other)

theorem SameContent.makesUp [Room] {files others : List File} (same : SameContent files others)
    {bundle : Bundle}
    (makes : MakesUp files bundle) :
    ∃ data, MakesUp others { bundle with data } ∧ Reordered (.object bundle.data) (.object data) := by
  have trees : ((documentsOf files).map DataDocument.wrapped).Perm
      ((documentsOf others).map DataDocument.wrapped) := by
    rw [trees_documentsOf, trees_documentsOf]
    exact same.documents.filterMap _
  obtain ⟨data, merged⟩ := mergeAll_ok_of_trees trees ⟨_, makes.data⟩
  refine ⟨data, ⟨?_, ?_, ?_, merged⟩, reordered_of_trees trees makes.data merged⟩
  · rw [← same.bytecodes]
    exact makes.policy
  · rw [← same.manifests]
    exact makes.manifest
  · refine allRead_iff.mpr fun placed member => ?_
    exact allRead_iff.mp makes.read placed (same.documents.mem_iff.mpr member)

/-- Files in which the same counts come to the same. -/
theorem SameContent.alike [Room] {files others : List File} (same : SameContent files others)
    {ending ending' : Option Failure} (ends : ending = none ↔ ending' = none) :
    Alike (ofFiles files ending) (ofFiles others ending') := by
  cases first : ofFiles files ending with
  | ok bundle =>
    obtain ⟨ended, makes⟩ := ofFiles_eq_ok_iff.mp first
    obtain ⟨data, makes', reordered⟩ := same.makesUp makes
    rw [ofFiles_eq_ok_iff.mpr ⟨ends.mp ended, makes'⟩]
    exact .parsed rfl rfl reordered
  | error failure =>
    cases second : ofFiles others ending' with
    | ok bundle =>
      obtain ⟨ended, makes⟩ := ofFiles_eq_ok_iff.mp second
      obtain ⟨data, makes', -⟩ := same.symm.makesUp makes
      rw [ofFiles_eq_ok_iff.mpr ⟨ends.mpr ended, makes'⟩] at first
      cases first
    | error other => exact .failed failure other

/-- The files among members, each of which comes with its contents or the failure in their place. -/
def filesAmong (members : List (Archive.Member × Except Failure Bytes)) : List File :=
  (members.filter fun m => m.1.isFile).map fun m => ⟨m.1.name, m.2⟩

/-- A bundle is made of what counts in its members. Members in which the same counts, and octets in which
the same counts, come to the same. The bytecode and the manifest of a bundle are the last ones among its
members; and members among which no file is the bytecode make up no bundle. -/
theorem parsing_by_content [Room] [Archives] :
    (∀ members others ending ending', SameContent (filesAmong members) (filesAmong others) →
      (ending = none ↔ ending' = none) →
      Alike (ofFiles (filesAmong members) ending) (ofFiles (filesAmong others) ending')) ∧
    (∀ raw raw', SameContent (filesOf raw).1 (filesOf raw').1 →
      ((filesOf raw).2 = none ↔ (filesOf raw').2 = none) → Alike (parse raw) (parse raw')) ∧
    (∀ members ending bundle, ofFiles (filesAmong members) ending = .ok bundle →
      (contentsOf File.isBytecode (filesAmong members)).getLast? = some (.ok bundle.policy) ∧
      ((contentsOf File.isManifest (filesAmong members) = [] ∧ bundle.manifest = []) ∨
        ∃ contents, (contentsOf File.isManifest (filesAmong members)).getLast? = some (.ok contents) ∧
          parseObject manifestName contents = .ok bundle.manifest)) ∧
    ∀ members ending, (∀ m ∈ members, m.1.isFile = true → memberPath m.1.name ≠ policyName) →
      ∃ failure, ofFiles (filesAmong members) ending = .error failure := by
  refine ⟨fun _ _ _ _ same ends => same.alike ends, fun _ _ same ends => same.alike ends, ?_, ?_⟩
  · exact fun members ending bundle parsed => (ofFiles_eq_ok_iff.mp parsed).2.last
  · intro members ending absent
    have none : contentsOf File.isBytecode (filesAmong members) = [] := by
      simp only [contentsOf, filesAmong, List.map_eq_nil_iff, List.filter_eq_nil_iff, List.forall_mem_map,
        List.mem_filter, and_imp]
      exact fun m member isFile bytecode => absent m member isFile (of_decide_eq_true bytecode)
    cases done : ofFiles (filesAmong members) ending with
    | error failure => exact ⟨failure, rfl⟩
    | ok bundle =>
      have last := (ofFiles_eq_ok_iff.mp done).2.last.1
      rw [none] at last
      cases last

/-- A member, which is a file or not, with its contents. -/
def memberOf (isFile : Bool) (name : Text) (contents : Bytes) : Archive.Member × Except Failure Bytes :=
  (⟨name, isFile⟩, .ok contents)

/-- Bytecode, `{"b":1}` in a directory `a`, and `{"c":2}` at the root. -/
def tidyMembers : List (Archive.Member × Except Failure Bytes) :=
  [memberOf true "policy.wasm" [0],
    memberOf true "a/data.json" [0x7B, 0x22, 0x62, 0x22, 0x3A, 0x31, 0x7D],
    memberOf true "data.json" [0x7B, 0x22, 0x63, 0x22, 0x3A, 0x32, 0x7D]]

/-- The same in another order, with a directory, a link and another file between. -/
def strewnMembers : List (Archive.Member × Except Failure Bytes) :=
  [memberOf false ".manifest" [], memberOf true "./data.json" [0x7B, 0x22, 0x63, 0x22, 0x3A, 0x32, 0x7D],
    memberOf true "notes.txt" [0xFF], memberOf true "/policy.wasm" [0],
    memberOf true "a/./data.json" [0x7B, 0x22, 0x62, 0x22, 0x3A, 0x31, 0x7D],
    memberOf false "policy.wasm" []]

section

attribute [local instance] Room.usual Tar.archives

theorem strewn_alike :
    SameContent (filesAmong tidyMembers) (filesAmong strewnMembers) ∧
      Alike (ofFiles (filesAmong tidyMembers) none) (ofFiles (filesAmong strewnMembers) none) ∧
      (ofFiles (filesAmong strewnMembers) none =
          .ok ⟨[0], [], [("c", .int 2), ("a", .object [("b", .int 1)])]⟩ ∧
        (contentsOf File.isBytecode (filesAmong strewnMembers)).getLast? = some (.ok [0])) ∧
      ∃ failure, ofFiles (filesAmong (tidyMembers.drop 1)) none = .error failure := by
  let inner : List Text × Option Json := (["a"], some (.object [("b", .int 1)]))
  let outer : List Text × Option Json := ([], some (.object [("c", .int 2)]))
  have tidy : placedDocuments (filesAmong tidyMembers) = [inner, outer] := by rfl
  have strewn : placedDocuments (filesAmong strewnMembers) = [outer, inner] := by rfl
  have bytecode : contentsOf File.isBytecode (filesAmong tidyMembers) = [.ok [0]] ∧
      contentsOf File.isBytecode (filesAmong strewnMembers) = [.ok [0]] := ⟨by rfl, by rfl⟩
  have manifest : contentsOf File.isManifest (filesAmong tidyMembers) = [] ∧
      contentsOf File.isManifest (filesAmong strewnMembers) = [] := ⟨by rfl, by rfl⟩
  have same : SameContent (filesAmong tidyMembers) (filesAmong strewnMembers) := by
    refine ⟨bytecode.1.trans bytecode.2.symm, manifest.1.trans manifest.2.symm, ?_⟩
    rw [tidy, strewn]
    exact .swap _ _ _
  have parsed : ofFiles (filesAmong strewnMembers) none =
      .ok ⟨[0], [], [("c", .int 2), ("a", .object [("b", .int 1)])]⟩ := by rfl
  refine ⟨same, parsing_by_content.1 _ _ none none same Iff.rfl,
    ⟨parsed, (parsing_by_content.2.2.1 _ _ _ parsed).1⟩, parsing_by_content.2.2.2 _ none ?_⟩
  decide

end

end Bundle

end PolicyHost
