import PolicyHost.Deployment.Standard
import PolicyHost.Proofs.Sandbox.Build
import PolicyHost.Proofs.Sandbox.Linkage
import PolicyHost.Proofs.Table

/-!
# Builtins that a guest requires

A guest gives its host a table of the builtins that it may ask for, with their numbers, and the host turns
the table round: it looks for names by numbers. A build checks the names that are found in this way. So
nothing that a guest asks for later on is missing. But the check does not see a name whose number another
name behind it has as well, and numbers may become the same only once they are integers.

* `GoesBy`: the name by which a number goes; `get?_numbered`: turning a table round.
* `GivesTables`: the tables that a guest gives in a build.
* `resolve_eq_ok`, `resolve_eq_error`: tables that are taken, and tables that are not.
* `instantiate_requires`: a build that succeeds has such tables.
* `required_builtins`: what a build has checked.
* `clash_unchecked`: a name that no build sees.
-/

namespace PolicyHost.Sandbox

/-! ## Tables turned round -/

/-- A number goes by a name: it is the last one with this number. -/
def GoesBy (ids : List (Text × Int)) (id : Int) (name : Text) : Prop :=
  ∃ before after, ids = before ++ (name, id) :: after ∧ ∀ entry ∈ after, entry.2 ≠ id

def numbered (ids : List (Text × Int)) : Table Int Text :=
  Table.ofList (ids.map fun entry => (entry.2, entry.1))

theorem get?_numbered {ids : List (Text × Int)} {id : Int} {name : Text} :
    (numbered ids).get? id = some name ↔ GoesBy ids id name := by
  rw [numbered, Table.get?_ofList_eq_some_iff]
  constructor
  · rintro ⟨before, after, cut, apart⟩
    obtain ⟨front, rest, rfl, -, behind⟩ := List.map_eq_append_iff.mp cut
    obtain ⟨⟨_, _⟩, back, rfl, same, rfl⟩ := List.map_eq_cons_iff.mp behind
    cases same
    exact ⟨front, back, rfl, fun entry member => apart _ (List.mem_map_of_mem member)⟩
  · rintro ⟨before, after, rfl, apart⟩
    refine ⟨before.map _, after.map _, List.map_append, fun entry member => ?_⟩
    obtain ⟨source, inside, rfl⟩ := List.mem_map.mp member
    exact apart source inside

/-- Every number goes by some name. -/
theorem exists_goesBy {ids : List (Text × Int)} {entry : Text × Int} (member : entry ∈ ids) :
    ∃ name, GoesBy ids entry.2 name := by
  have known : entry.2 ∈ Table.keys (ids.map fun entry => (entry.2, entry.1)).reverse := by
    rw [Table.keys, List.map_reverse, List.mem_reverse, List.map_map]
    exact List.mem_map_of_mem member
  obtain ⟨name, found⟩ := Table.mem_keys_iff.mp known
  exact ⟨name, get?_numbered.mp (by rw [numbered, Table.get?_ofList, found])⟩

/-- With a number of its own, a name is what the number goes by. -/
theorem goesBy_of_nodup {ids : List (Text × Int)} (distinct : (ids.map Prod.snd).Nodup)
    {entry : Text × Int} (member : entry ∈ ids) : GoesBy ids entry.2 entry.1 := by
  obtain ⟨before, after, rfl⟩ := List.append_of_mem member
  rw [List.map_append, List.map_cons, List.nodup_append] at distinct
  refine ⟨before, after, rfl, fun other behind same => ?_⟩
  exact (List.nodup_cons.mp distinct.2.1).1 (same ▸ List.mem_map_of_mem behind)

theorem mem_names_numbered {ids : List (Text × Int)} {name : Text} :
    name ∈ (numbered ids).map Prod.snd ↔ ∃ id, GoesBy ids id name := by
  simp only [← get?_numbered]
  exact Table.mem_values_iff (Table.nodup_keys_ofList _)

theorem keys_of_identifiers {members : Json.Members} {ids : List (Text × Int)}
    (converted : identifiers members = .ok ids) : ids.map Prod.fst = members.keys := by
  induction members generalizing ids with
  | nil =>
    cases converted
    rfl
  | cons member rest ih =>
    rw [identifiers, List.mapM_cons] at converted
    obtain ⟨entry, first, converted⟩ := Outcome.bind_eq_ok_iff.mp converted
    obtain ⟨others, later, ⟨⟩⟩ := Outcome.bind_eq_ok_iff.mp converted
    obtain ⟨id, -, rfl⟩ := Outcome.map_eq_ok_iff.mp first
    exact congrArg (member.1 :: ·) (ih later)

/-- The names by which numbers go that are not registered. -/
theorem mem_unavailable {registry : Registry} {ids : List (Text × Int)} {name : Text} :
    name ∈ unavailable registry ((numbered ids).map Prod.snd) ↔
      (∃ id, GoesBy ids id name) ∧ registry.contains name = false := by
  rw [unavailable, Text.sort, List.mem_mergeSort, List.mem_filter, mem_names_numbered, Bool.not_eq_true']

/-! ## Stages of a build -/

variable {σ : Type}

/-- What is done with a guest until its tables are read. -/
def readStage [Platform] (guest : Guest σ) (registry : Registry) (activity : Activity σ) :
    Run σ (AbiVersion × Json.Members × Json.Members) := do
  let _ ← onStop .startFailed .notInstantiable (drive (Host.answer ⟨guest, registry, []⟩) activity)
  let version ← checkGuest guest
  let tables ← readTables ⟨guest, registry, []⟩
  return (version, tables)

/-- What the tables are turned into. -/
def resolve (registry : Registry) (tables : Json.Members × Json.Members) :
    Run σ (Table Int Text × Table Text Int) := do
  let ids ← lift (identifiers tables.1)
  let missing := unavailable registry ((numbered ids).map Prod.snd)
  if missing.isEmpty then
    let entrypoints ← lift (identifiers tables.2)
    return (numbered ids, entrypoints)
  else fail (.builtinsUnavailable missing)

/-- What is done with a guest once its tables are resolved. -/
def finish [Platform] (guest : Guest σ) (registry : Registry) (data : Bytes) (version : AbiVersion)
    (tables : Table Int Text × Table Text Int) : Run σ (Sandbox σ) := do
  note (.instantiated version tables.2.length tables.1.length)
  let bound ← bindData ⟨guest, registry, tables.1⟩ data
  return ⟨guest, version, tables.1, tables.2, bound.1, bound.2, (← get).store⟩

theorem setUp_eq [Platform] (guest : Guest σ) (registry : Registry) (activity : Activity σ) (data : Bytes) :
    setUp guest registry activity data =
      readStage guest registry activity >>= fun read =>
        resolve registry read.2 >>= finish guest registry data read.1 := by
  unfold setUp readStage resolveTables resolve finish numbered
  simp only [bind_assoc, pure_bind]

/-- The version and the tables that a guest gives its host in a build, and the session after that. -/
def GivesAll [Platform] (guest : Guest σ) (registry : Registry) (ambient : Ambient)
    (read : AbiVersion × Json.Members × Json.Members) (after : Session σ) : Prop :=
  ∃ activity store, guest.demand = .memory ∧ guest.start = .ok activity ∧ firstStore activity = .ok store ∧
    (readStage guest registry activity).run ⟨store, .fresh ambient, []⟩ = (.ok read, after)

/-- The tables of builtins and of entrypoints that a guest gives its host in a build. -/
def GivesTables [Platform] (guest : Guest σ) (registry : Registry) (ambient : Ambient)
    (tables : Json.Members × Json.Members) : Prop :=
  ∃ version after, GivesAll guest registry ambient (version, tables) after

variable {guest : Guest σ} {registry : Registry} {ambient : Ambient} {data : Bytes} {sandbox : Sandbox σ}
  {tables : Json.Members × Json.Members} {ids : List (Text × Int)}

/-- A guest gives the same tables in every build. -/
theorem GivesTables.unique [Platform] {others : Json.Members × Json.Members}
    (gives : GivesTables guest registry ambient tables) (again : GivesTables guest registry ambient others) :
    tables = others := by
  obtain ⟨version, after, activity, store, -, start, first, ran⟩ := gives
  obtain ⟨version', after', activity', store', -, start', first', ran'⟩ := again
  obtain rfl := Except.ok.inj (start.symm.trans start')
  obtain rfl := Except.ok.inj (first.symm.trans first')
  cases ran.symm.trans ran'
  rfl

/-- A build with tables is what their resolution and the rest come to. -/
theorem GivesAll.instantiate_eq [Platform] {version : AbiVersion} {after : Session σ}
    (gives : GivesAll guest registry ambient (version, tables) after) (data : Bytes) :
    (instantiate guest registry ambient data).1 =
      ((resolve registry tables >>= finish guest registry data version).run after).1.mapError
        Stop.toFailure := by
  obtain ⟨activity, store, demand, start, first, ran⟩ := gives
  unfold instantiate
  rw [demand, start]
  dsimp only
  rw [first]
  dsimp only
  rw [setUp_eq, run_bind_ok ran]
  rfl

/-- Without tables there is no build. -/
theorem exists_givesAll [Platform] (built : (instantiate guest registry ambient data).1 = .ok sandbox) :
    ∃ version tables after, GivesAll guest registry ambient (version, tables) after := by
  unfold instantiate at built
  split at built
  · cases built
  · cases built
  · next demand =>
    split at built
    · cases built
    · next activity start =>
      split at built
      · cases built
      · next store first =>
        obtain ⟨sandbox', ended, rfl⟩ : ∃ found,
            ((setUp guest registry activity data).run ⟨store, .fresh ambient, []⟩).1 = .ok found ∧
              found = sandbox := ⟨sandbox, Outcome.mapError_eq_ok_iff.mp built, rfl⟩
        rw [setUp_eq] at ended
        obtain ⟨⟨version, tables⟩, after, read, -⟩ := run_bind_eq_ok.mp (Prod.ext ended rfl)
        exact ⟨version, tables, after, activity, store, demand, start, first, read⟩

/-! ## What is required -/

theorem run_lift_eq_ok {α : Type} {result : Except Fault α} {value : α} {session after : Session σ} :
    (lift result : Run σ α).run session = (.ok value, after) ↔ result = .ok value ∧ after = session := by
  cases result with
  | ok other =>
    constructor
    · rintro ⟨⟩
      exact ⟨rfl, rfl⟩
    · rintro ⟨⟨⟩, rfl⟩
      rfl
  | error cause =>
    constructor
    · rintro ⟨⟩
    · rintro ⟨⟨⟩, -⟩

/-- Tables are resolved if the names by which numbers go are registered. -/
theorem resolve_eq_ok {session after : Session σ} {resolved : Table Int Text × Table Text Int}
    (done : (resolve registry tables).run session = (.ok resolved, after)) :
    ∃ ids, identifiers tables.1 = .ok ids ∧ resolved.1 = numbered ids ∧
      ∀ id name, GoesBy ids id name → registry.contains name = true := by
  unfold resolve at done
  obtain ⟨ids, middle, converted, done⟩ := run_bind_eq_ok.mp done
  refine ⟨ids, (run_lift_eq_ok.mp converted).1, ?_⟩
  dsimp only at done
  split at done
  · next none =>
    obtain ⟨entrypoints, last, -, done⟩ := run_bind_eq_ok.mp done
    cases done
    refine ⟨rfl, fun id name goes => ?_⟩
    by_contra missing
    have listed := mem_unavailable.mpr ⟨⟨id, goes⟩, Bool.not_eq_true _ ▸ missing⟩
    rw [List.isEmpty_iff.mp none] at listed
    cases listed
  · cases done

theorem resolve_eq_error (converted : identifiers tables.1 = .ok ids) {id : Int} {name : Text}
    (goes : GoesBy ids id name) (missing : registry.contains name = false) (session : Session σ) :
    (resolve registry tables).run session =
      (.error (.failure (.error (.builtinsUnavailable (unavailable registry ((numbered ids).map Prod.snd))))),
        session) := by
  have listed := mem_unavailable.mpr ⟨⟨id, goes⟩, missing⟩
  have some : (unavailable registry ((numbered ids).map Prod.snd)).isEmpty = false :=
    List.isEmpty_eq_false_iff.mpr (List.ne_nil_of_mem listed)
  unfold resolve
  rw [run_bind_ok (run_lift_eq_ok.mpr ⟨converted, rfl⟩)]
  dsimp only
  rw [some, if_neg Bool.false_ne_true]
  rfl

/-- A build that succeeds has turned a table round, and the names that were found are registered. -/
theorem instantiate_requires [Platform] (built : (instantiate guest registry ambient data).1 = .ok sandbox) :
    ∃ tables ids, GivesTables guest registry ambient tables ∧ identifiers tables.1 = .ok ids ∧
      sandbox.builtins = numbered ids ∧ ∀ id name, GoesBy ids id name → registry.contains name = true := by
  obtain ⟨version, tables, after, gives⟩ := exists_givesAll built
  rw [gives.instantiate_eq data] at built
  have ended := Outcome.mapError_eq_ok_iff.mp built
  obtain ⟨resolved, middle, done, finished⟩ := run_bind_eq_ok.mp (Prod.ext ended rfl)
  obtain ⟨ids, converted, turned, registered⟩ := resolve_eq_ok done
  refine ⟨tables, ids, ⟨version, after, gives⟩, converted, ?_, registered⟩
  unfold finish at finished
  obtain ⟨_, _, -, finished⟩ := run_bind_eq_ok.mp finished
  obtain ⟨_, _, -, finished⟩ := run_bind_eq_ok.mp finished
  obtain ⟨_, _, -, finished⟩ := run_bind_eq_ok.mp finished
  cases finished
  exact turned

/-- A build has looked for the name by which each number goes.

If it succeeds, the names by which numbers go are registered, and they are all that the guest can ask for; so
every name in the table is registered or has a number that goes by another one, which is. If one of them is
not registered it fails, and says which are not. And if numbers are distinct, every name is registered. -/
theorem required_builtins [Platform] (guest : Guest σ) (registry : Registry) (ambient : Ambient)
    (data : Bytes) :
    (∀ sandbox, (instantiate guest registry ambient data).1 = .ok sandbox →
      ∃ tables ids, GivesTables guest registry ambient tables ∧ identifiers tables.1 = .ok ids ∧
        ids.map Prod.fst = tables.1.keys ∧
        (∀ id name, sandbox.builtins.get? id = some name ↔ GoesBy ids id name) ∧
        (∀ id name, GoesBy ids id name → registry.contains name = true) ∧
        ∀ entry ∈ ids, registry.contains entry.1 = true ∨
          ∃ name, name ≠ entry.1 ∧ GoesBy ids entry.2 name ∧ registry.contains name = true) ∧
    (∀ tables ids id name, GivesTables guest registry ambient tables → identifiers tables.1 = .ok ids →
      GoesBy ids id name → registry.contains name = false →
      ∃ names, (instantiate guest registry ambient data).1 = .error (.error (.builtinsUnavailable names)) ∧
        ∀ name, name ∈ names ↔ (∃ id, GoesBy ids id name) ∧ registry.contains name = false) ∧
    ∀ sandbox tables ids, (instantiate guest registry ambient data).1 = .ok sandbox →
      GivesTables guest registry ambient tables → identifiers tables.1 = .ok ids →
      (ids.map Prod.snd).Nodup → ∀ name ∈ tables.1.keys, registry.contains name = true := by
  refine ⟨?_, ?_, ?_⟩
  · intro sandbox built
    obtain ⟨tables, ids, gives, converted, turned, registered⟩ := instantiate_requires built
    refine ⟨tables, ids, gives, converted, keys_of_identifiers converted, fun id name => ?_, registered, ?_⟩
    · rw [turned, get?_numbered]
    · intro entry member
      obtain ⟨name, goes⟩ := exists_goesBy member
      have known := registered entry.2 name goes
      by_cases same : name = entry.1
      · exact .inl (same ▸ known)
      · exact .inr ⟨name, same, goes, known⟩
  · rintro tables ids id name ⟨version, after, gives⟩ converted goes missing
    refine ⟨_, ?_, fun other => mem_unavailable⟩
    rw [gives.instantiate_eq data, run_bind_error (resolve_eq_error converted goes missing after)]
    rfl
  · intro sandbox tables ids built gives converted distinct name listed
    obtain ⟨tables', ids', gives', converted', -, registered⟩ := instantiate_requires built
    obtain rfl := gives.unique gives'
    obtain rfl := Except.ok.inj (converted.symm.trans converted')
    rw [← keys_of_identifiers converted] at listed
    obtain ⟨entry, member, rfl⟩ := List.mem_map.mp listed
    exact registered entry.2 entry.1 (goesBy_of_nodup distinct member)

/-! ## Guests with a table -/

/-- A memory of some octets, with room behind them. -/
def memoryOf (octets : Array UInt8) : Memory :=
  ⟨octets, octets.size + 1, octets.size + 1, by unfold pageSize; omega⟩

/-- A guest whose table of builtins is a text, and whose table of entrypoints is empty. -/
def lister (table : Text) : Guest Unit where
  demand := .memory
  start := .ok (.returned none ())
  memory := fun _ => memoryOf ([0x7B, 0x7D, 0] ++ table.map fun (c : CodePoint) => c.val.toUInt8).toArray
  setMemory := fun _ store => store
  refuel := id
  provides := fun _ => true
  global? := fun _ _ => some (.int 1)
  call := fun name args store =>
    let result :=
      if name = "builtins" then 3 else if name = "entrypoints" then 0
      else if name = "opa_json_dump" then args.headD 0 else 1
    .returned (some result) store

def lone : Registry := .ofList [("known", fun _ => throw (.fault .arity))]

/-- Any time, and any source of random numbers. -/
def someAmbient : Ambient := ⟨0, ⟨1, 0⟩⟩

/-- A table with a name that is registered. -/
def knownAlone : Text := "\x7b\"known\":7\x7d"

/-- A table with a name that is not registered. -/
def absentAlone : Text := "\x7b\"absent\":7\x7d"

/-- A table with both names, which have the same number. -/
def sameNumber : Text := "\x7b\"absent\":0,\"known\":0\x7d"

/-- The numbers in the table of builtins that has been read, if one has. -/
def idsIn : Except Stop (AbiVersion × Json.Members × Json.Members) → Option (List (Text × Int))
  | .ok read => (identifiers read.2.1).toOption
  | .error _ => none

theorem exists_of_idsIn {read : Except Stop (AbiVersion × Json.Members × Json.Members)}
    (found : idsIn read = some ids) :
    ∃ version tables, read = .ok (version, tables) ∧ identifiers tables.1 = .ok ids := by
  obtain ⟨stop⟩ | ⟨version, tables⟩ := read
  · cases found
  · refine ⟨version, tables, rfl, ?_⟩
    change (identifiers tables.1).toOption = some ids at found
    cases converted : identifiers tables.1 with
    | ok other =>
      rw [converted] at found
      exact congrArg Except.ok (Option.some.inj found)
    | error cause =>
      rw [converted] at found
      cases found

theorem lister_gives [Platform] {table : Text}
    (found : idsIn ((readStage (lister table) lone (.returned none ())).run
      ⟨(), .fresh someAmbient, []⟩).1 = some ids) :
    ∃ tables, GivesTables (lister table) lone someAmbient tables ∧ identifiers tables.1 = .ok ids := by
  obtain ⟨version, tables, read, converted⟩ := exists_of_idsIn found
  exact ⟨tables, ⟨version, _, .returned none (), (), rfl, rfl, rfl, Prod.ext read rfl⟩, converted⟩

/-- Something has succeeded. -/
def succeeds {ε α : Type} : Except ε α → Bool
  | .ok _ => true
  | .error _ => false

theorem exists_of_succeeds {ε α : Type} {result : Except ε α} (done : succeeds result = true) :
    ∃ value, result = .ok value := by
  cases result with
  | ok value => exact ⟨value, rfl⟩
  | error cause => cases done

section

attribute [local instance] Deployment.platform

/-- A name with a number of its own is required. -/
theorem own_number_required :
    (∃ sandbox tables,
      (instantiate (lister knownAlone) lone someAmbient Policy.emptyData).1 = .ok sandbox ∧
      GivesTables (lister knownAlone) lone someAmbient tables ∧
      ∀ name ∈ tables.1.keys, lone.contains name = true) ∧
    ∃ names, (instantiate (lister absentAlone) lone someAmbient Policy.emptyData).1 =
      .error (.error (.builtinsUnavailable names)) ∧ Text.ofString "absent" ∈ names := by
  constructor
  · have done : succeeds (instantiate (lister knownAlone) lone someAmbient Policy.emptyData).1 = true := by
      decide +kernel
    have found : idsIn ((readStage (lister knownAlone) lone (.returned none ())).run
        ⟨(), .fresh someAmbient, []⟩).1 = some [(Text.ofString "known", 7)] := by decide +kernel
    obtain ⟨sandbox, built⟩ := exists_of_succeeds done
    obtain ⟨tables, gives, converted⟩ := lister_gives found
    exact ⟨sandbox, tables, built, gives,
      (required_builtins _ _ _ _).2.2 sandbox tables _ built gives converted (by decide)⟩
  · have found : idsIn ((readStage (lister absentAlone) lone (.returned none ())).run
        ⟨(), .fresh someAmbient, []⟩).1 = some [(Text.ofString "absent", 7)] := by decide +kernel
    have goes : GoesBy [("absent", 7)] 7 "absent" := ⟨[], [], rfl, nofun⟩
    obtain ⟨tables, gives, converted⟩ := lister_gives found
    obtain ⟨names, failed, listed⟩ :=
      (required_builtins _ _ _ _).2.1 tables _ 7 "absent" gives converted goes (by decide)
    exact ⟨names, failed, (listed "absent").mpr ⟨⟨7, goes⟩, by decide⟩⟩

/-- A name is not looked for if another name behind it has its number. -/
theorem clash_unchecked :
    ∃ sandbox tables,
      (instantiate (lister sameNumber) lone someAmbient Policy.emptyData).1 = .ok sandbox ∧
      GivesTables (lister sameNumber) lone someAmbient tables ∧
      Text.ofString "absent" ∈ tables.1.keys ∧ lone.contains "absent" = false := by
  have done : succeeds (instantiate (lister sameNumber) lone someAmbient Policy.emptyData).1 = true := by
    decide +kernel
  have found : idsIn ((readStage (lister sameNumber) lone (.returned none ())).run
      ⟨(), .fresh someAmbient, []⟩).1 = some [(Text.ofString "absent", 0), (Text.ofString "known", 0)] := by
    decide +kernel
  obtain ⟨sandbox, built⟩ := exists_of_succeeds done
  obtain ⟨tables, gives, converted⟩ := lister_gives found
  refine ⟨sandbox, tables, built, gives, ?_, by decide⟩
  rw [← keys_of_identifiers converted]
  exact List.mem_cons_self

end

end PolicyHost.Sandbox
