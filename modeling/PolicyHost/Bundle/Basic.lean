import PolicyHost.Archive
import PolicyHost.Bundle.Data
import PolicyHost.Note

/-!
# Bundles

A bundle is an archive with the bytecode of a policy, perhaps a manifest, and data documents. Only
files count; a file goes by the components of its name. A later bytecode or manifest replaces an
earlier one, and data documents are merged in the order of the archive.

* `Bundle`: what a bundle holds.
* `Bundle.ofFiles`: a bundle from the files of an archive.
* `Bundle.parse`: a bundle from octets.
-/

namespace PolicyHost

/-- What a bundle holds. -/
structure Bundle where
  policy : Bytes
  manifest : Json.Members
  data : Json.Members

namespace Bundle

def policyName : Text := "policy.wasm"

def manifestName : Text := ".manifest"

def dataName : Text := "data.json"

/-- The revision that the manifest names, in words. -/
def revision? (b : Bundle) : Option Text :=
  match Json.member? "revision" b.manifest with
  | none | some .null => none
  | some value => some value.display

def isNothing : Json → Bool
  | .null => true
  | .bool b => !b
  | .int n => n == 0
  | .float x => x == 0
  | .string t => t.isEmpty
  | .array items => items.isEmpty
  | .object members => members.isEmpty

/-- The entrypoint that an entry of the manifest names, in words. -/
def entrypointOf? : Json → Option Text
  | .object members =>
    match Json.member? "entrypoint" members with
    | some value => if isNothing value then none else some value.display
    | none => none
  | _ => none

def entrypoints (b : Bundle) : List Text :=
  match Json.member? "wasm" b.manifest with
  | some (.array entries) => entries.filterMap entrypointOf?
  | _ => []

/-- The path that a name of a member stands for: its components between single slashes. -/
def memberPath (name : Text) : Text :=
  let parts := (Path.ofText name).parts.filter fun part =>
    part ≠ Text.ofString "/" ∧ part ≠ Text.ofString "."
  Text.joinWith "/" parts

variable [Room]

def parseDocument (path : Text) (contents : Bytes) : Except Failure Json :=
  match Json.readOctets contents with
  | .ok document => .ok document
  | .error flaw => .error (flaw.failure (.memberJson path))

def parseObject (path : Text) (contents : Bytes) : Except Failure Json.Members := do
  match ← parseDocument path contents with
  | .object members => return members
  | _ => .error (Failure.error (.memberNotObject path))

/-- What has been found of a bundle. -/
structure Draft where
  policy : Option Bytes
  manifest : Json.Members
  data : Json.Members

def Draft.addData (d : Draft) (path : Text) (document : Json) : Except Failure Draft :=
  match mergeAt path d.data (Path.ofText path).parent.parts document with
  | .ok data => .ok { d with data }
  | .error cause => .error (.error cause)

/-- A file of an archive: its name and its contents, which may turn out to be missing. -/
structure File where
  name : Text
  contents : Except Failure Bytes

def Draft.add (d : Draft) (file : File) : Except Failure Draft := do
  let path := memberPath file.name
  if path = policyName then return { d with policy := some (← file.contents) }
  else if path = manifestName then
    return { d with manifest := ← parseObject path (← file.contents) }
  else if (Path.ofText path).name = dataName then
    d.addData path (← parseDocument path (← file.contents))
  else return d

/-- The bundle of files, one after another. `ending` is the failure that ends the archive, if there
is one. -/
def ofFiles (files : List File) (ending : Option Failure) : Except Failure Bundle := do
  let draft ← files.foldlM Draft.add ⟨none, [], []⟩
  match ending, draft.policy with
  | some failure, _ => .error failure
  | none, none => .error (Failure.error .missingPolicy)
  | none, some policy => return ⟨policy, draft.manifest, draft.data⟩

def archiveFailure : Archive.Fault → Failure
  | .malformed => .error .malformedArchive
  | .raised fault => .fault fault

variable [Archives]

/-- The files of an archive, and the failure that ends it if there is one. -/
def filesOf (raw : Bytes) : List File × Option Failure :=
  let (members, ending) := Archives.members raw
  let files := (members.filter fun m => m.1.isFile).map fun m =>
    (⟨m.1.name, m.2.mapError archiveFailure⟩ : File)
  (files, ending.map archiveFailure)

def note (b : Bundle) : Note :=
  .bundleParsed b.policy.length (((Json.member? "revision" b.manifest).getD .null).display)

def parse (raw : Bytes) : Except Failure Bundle :=
  let (files, ending) := filesOf raw
  ofFiles files ending

end Bundle

/-- Where a bundle comes from.

* `octets`: octets at hand;
* `stream`: a reader of octets, which may fail for a reason;
* `textStream`: a reader that gives text;
* `other`: something of another type. -/
inductive BundleSource
  | octets (bytes : Bytes)
  | stream (result : Except Text Bytes)
  | textStream
  | other (type : Text)

namespace BundleSource

def read : BundleSource → Except Failure Bytes
  | .octets bytes => .ok bytes
  | .stream (.ok bytes) => .ok bytes
  | .stream (.error reason) => .error (Failure.error (.unreadableStream reason))
  | .textStream => .error (.fault .textSource)
  | .other type => .error (.fault (.sourceType type))

variable [Room] [Archives]

def load (source : BundleSource) : Except Failure Bundle := do
  Bundle.parse (← source.read)

end BundleSource

end PolicyHost
