import Mathlib.Data.List.TakeWhile
import PolicyHost.Proofs.Command.Work
import PolicyHost.Proofs.Config.Failures
import PolicyHost.Proofs.Table

/-!
# Limits in layers

The file and the variables lie on each other setting by setting: a variable that is not blank decides
over the entry of the file, and where neither says anything there is no limit. Only what decides is read.
So an entry that a variable covers may be anything, even a value that is no limit, and so may an entry of
a name that is no setting.

* `Blank`, `effective`: variables that say nothing, and the value that decides a setting.
* `get?_settings`: the layers on each other.
* `Decided`, `limits_eq_ok_iff`: limits are what each setting is decided to be, on its own.
* `SameOutcome`, `sameOutcome_of_effective`: only what decides counts.
* `TableAt`, `load_of_table`: the table of settings that a load finds.
* `limits_layered`: a whole load, and two loads that differ in what does not count.
-/

namespace PolicyHost.Config

/-! ## Layers on each other -/

/-- A variable is not there, or there is nothing but blanks in it. -/
def Blank (vars : Variables) (name : Text) : Prop :=
  ∀ value, vars.get? name = some value → ∀ c ∈ value, CodePoint.isBlank c = true

theorem trimBoth_eq_nil_iff {blank : CodePoint → Bool} {t : Text} :
    Text.trimBoth blank t = [] ↔ ∀ c ∈ t, blank c = true := by
  unfold Text.trimBoth
  rw [List.reverse_eq_nil_iff, List.dropWhile_eq_nil_iff]
  simp only [List.mem_reverse]
  constructor
  · intro rest c member
    rw [← List.takeWhile_append_dropWhile (p := blank) (l := t)] at member
    rcases List.mem_append.mp member with front | later
    · exact List.mem_takeWhile_imp front
    · exact rest c later
  · exact fun all c member => all c ((List.dropWhile_suffix blank).mem member)

theorem valueOf?_eq_none_iff {vars : Variables} {name : Text} :
    valueOf? vars name = none ↔ Blank vars name := by
  have trimmed : valueOf? vars name = none ↔
      Text.trimBoth CodePoint.isBlank ((vars.get? name).getD []) = [] := by
    unfold valueOf?
    dsimp only
    split <;> simp_all
  rw [trimmed, trimBoth_eq_nil_iff, Blank]
  cases vars.get? name with
  | none => simp
  | some value => simp

/-- The value that decides a setting: its variable without the blanks around it, unless it is blank, and
else the entry of the table. -/
def effective (table : Toml.Members) (vars : Variables) (s : Setting) : Option Toml :=
  match valueOf? vars s.variableName with
  | some text => some (.string text)
  | none => table.get? s.name

theorem mem_all (s : Setting) : s ∈ Setting.all := by
  cases s <;> decide

theorem get?_settings (table : Toml.Members) (vars : Variables) (s : Setting) :
    (settings table vars).get? s = effective table vars s := by
  have reversed : (overriding vars).reverse = Setting.all.reverse.filterMap fun s =>
      ((valueOf? vars s.variableName).map Toml.string).map fun value => (s, value) := by
    simp only [overriding, Option.map_map, List.filterMap_reverse]
    rfl
  have covering : Table.get? s (overriding vars).reverse =
      (valueOf? vars s.variableName).map Toml.string := by
    rw [reversed, Table.get?_tabulated, if_pos (List.mem_reverse.mpr (mem_all s))]
  unfold settings
  rw [Table.get?_foldl_put, covering, filed, Table.get?_tabulated, if_pos (mem_all s), effective]
  cases valueOf? vars s.variableName <;> rfl

theorem nodup_keys_settings (table : Toml.Members) (vars : Variables) :
    (settings table vars).keys.Nodup := by
  refine Table.nodup_keys_foldl_put _ ?_
  rw [filed, Table.keys_tabulated]
  exact List.Nodup.filter _ (by decide)

/-! ## Each setting on its own -/

def limitAt (l : Limits) : Setting → Option Int
  | .fuel => l.fuel
  | .memory => l.memory

theorem limitAt_set (l : Limits) (s : Setting) (n : Int) (other : Setting) :
    limitAt (set l s n) other = if s = other then some n else limitAt l other := by
  cases s <;> cases other <;> rfl

theorem limits_ext {l other : Limits} (same : ∀ s, limitAt l s = limitAt other s) : l = other := by
  obtain ⟨fuel, memory⟩ := l
  obtain ⟨fuel', memory'⟩ := other
  exact congrArg₂ Limits.mk (same .fuel) (same .memory)

/-- What is decided for a setting: the limit that the value stands for, which has to stand for one, or
without a value what there is anyway. -/
def Decided [Room] (s : Setting) (value : Option Toml) (otherwise limit : Option Int) : Prop :=
  match value with
  | some value => ∃ n, limitOf s value = .ok n ∧ limit = some n
  | none => limit = otherwise

/-- Settings one after another decide the limits each for itself, by induction over them. -/
theorem foldlM_set_eq_ok_iff [Room] {given : Table Setting Toml} (once : given.keys.Nodup) {start l : Limits} :
    given.foldlM (fun l entry => do return set l entry.1 (← limitOf entry.1 entry.2)) start = .ok l ↔
      ∀ s, Decided s (given.get? s) (limitAt start s) (limitAt l s) := by
  induction given generalizing start with
  | nil =>
    constructor
    · rintro ⟨⟩
      exact fun s => rfl
    · exact fun same => congrArg Except.ok (limits_ext fun s => (same s).symm)
  | cons entry rest ih =>
    obtain ⟨first, value⟩ := entry
    obtain ⟨fresh, once⟩ := List.nodup_cons.mp once
    have absent : Table.get? first rest = none := Table.get?_eq_none_of_not_mem fresh
    rw [List.foldlM_cons, Outcome.bind_eq_ok_iff]
    simp only [Outcome.bind_eq_ok_iff, ih once]
    constructor
    · rintro ⟨next, ⟨n, stands, ⟨⟩⟩, later⟩ s
      have here := later s
      rw [limitAt_set] at here
      rw [Table.get?]
      by_cases same : first = s
      · subst same
        rw [absent, if_pos rfl] at here
        rw [if_pos rfl]
        exact ⟨n, stands, here⟩
      · rw [if_neg same] at here ⊢
        exact here
    · intro decided
      have here := decided first
      rw [Table.get?, if_pos rfl] at here
      obtain ⟨n, stands, limit⟩ := here
      refine ⟨set start first n, ⟨n, stands, rfl⟩, fun s => ?_⟩
      have there := decided s
      rw [limitAt_set]
      rw [Table.get?] at there
      by_cases same : first = s
      · subst same
        rw [absent, if_pos rfl]
        exact limit
      · rw [if_neg same] at there ⊢
        exact there

theorem limits_eq_ok_iff [Room] {table : Toml.Members} {vars : Variables} {l : Limits} :
    limits (settings table vars) = .ok l ↔
      ∀ s, Decided s (effective table vars s) none (limitAt l s) := by
  rw [limits, foldlM_set_eq_ok_iff (nodup_keys_settings table vars)]
  refine forall_congr' fun s => ?_
  rw [get?_settings]
  cases s <;> rfl

/-- If no limits come of it, some setting, on its own, has a value that is no limit. -/
theorem exists_refused [Room] {table : Toml.Members} {vars : Variables} {failure : Failure}
    (stopped : limits (settings table vars) = .error failure) :
    ∃ s value, effective table vars s = some value ∧ limitOf s value = .error failure := by
  obtain ⟨⟨s, value⟩, member, refused⟩ := exists_of_limits_eq_error stopped
  have found := Table.get?_of_mem (nodup_keys_settings table vars) member
  exact ⟨s, value, (get?_settings table vars s).symm.trans found, refused⟩

/-- No limits come of it just when some setting, on its own, has a value that is no limit. -/
theorem limits_eq_error_iff [Room] {table : Toml.Members} {vars : Variables} :
    (∃ failure, limits (settings table vars) = .error failure) ↔
      ∃ s value failure, effective table vars s = some value ∧ limitOf s value = .error failure := by
  constructor
  · rintro ⟨failure, stopped⟩
    obtain ⟨s, value, held, refused⟩ := exists_refused stopped
    exact ⟨s, value, failure, held, refused⟩
  · rintro ⟨s, value, failure, held, stopped⟩
    cases done : limits (settings table vars) with
    | error other => exact ⟨other, rfl⟩
    | ok l =>
      have decided := limits_eq_ok_iff.mp done s
      rw [held] at decided
      obtain ⟨n, stands, -⟩ := decided
      rw [stopped] at stands
      cases stands

/-! ## Two loads -/

/-- The same limits, or a failure both times. -/
inductive SameOutcome : Except Failure Limits → Except Failure Limits → Prop
  | limits (l : Limits) : SameOutcome (.ok l) (.ok l)
  | failed (failure other : Failure) : SameOutcome (.error failure) (.error other)

/-- Only what decides counts. -/
theorem sameOutcome_of_effective [Room] {table table' : Toml.Members} {vars vars' : Variables}
    (same : ∀ s, effective table vars s = effective table' vars' s) :
    SameOutcome (limits (settings table vars)) (limits (settings table' vars')) := by
  have both (l : Limits) : limits (settings table vars) = .ok l ↔ limits (settings table' vars') = .ok l := by
    simp only [limits_eq_ok_iff, same]
  cases first : limits (settings table vars) with
  | ok l =>
    rw [(both l).mp first]
    exact .limits l
  | error failure =>
    cases second : limits (settings table' vars') with
    | error other => exact .failed failure other
    | ok l =>
      rw [(both l).mpr second] at first
      cases first

/-- Tables that say the same under every name but one. -/
def AgreeApart {α : Type} (name : Text) (first second : Table Text α) : Prop :=
  ∀ other, other ≠ name → first.get? other = second.get? other

theorem AgreeApart.put {α : Type} (name : Text) (value : α) (table : Table Text α) :
    AgreeApart name (table.put name value) table :=
  fun _ differ => Table.get?_put_of_ne differ value table

/-- An entry does not count that a variable covers, or whose name is no setting. -/
theorem effective_eq_of_entry {table table' : Toml.Members} {vars : Variables} {name : Text}
    (agree : AgreeApart name table table')
    (covered : ∀ s : Setting, s.name = name → ¬ Blank vars s.variableName) (s : Setting) :
    effective table vars s = effective table' vars s := by
  unfold effective
  cases value : valueOf? vars s.variableName with
  | some text => rfl
  | none =>
    refine agree s.name fun same => covered s same ?_
    exact valueOf?_eq_none_iff.mp value

/-- It does not count in which way a variable is blank. -/
theorem valueOf?_eq_of_blank {vars vars' : Variables} {name : Text} (agree : AgreeApart name vars vars')
    (blank : Blank vars name) (blank' : Blank vars' name) (other : Text) :
    valueOf? vars other = valueOf? vars' other := by
  by_cases same : other = name
  · subst same
    rw [valueOf?_eq_none_iff.mpr blank, valueOf?_eq_none_iff.mpr blank']
  · rw [valueOf?, valueOf?, agree other same]

theorem limitsOf_eq_of_values [Room] {vars vars' : Variables}
    (same : ∀ s : Setting, valueOf? vars s.variableName = valueOf? vars' s.variableName) (path : Path)
    (contents : Option Bytes) : limitsOf path contents vars = limitsOf path contents vars' := by
  have layers (table : Toml.Members) : settings table vars = settings table vars' := by
    simp only [settings, overriding, same]
  unfold limitsOf
  simp only [layers]

theorem limitsOf_eq [Room] (path : Path) (contents : Option Bytes) (vars : Variables) :
    limitsOf path contents vars =
      tableFrom path contents >>= fun table => limits (settings table vars) := by
  cases contents with
  | none => rfl
  | some bytes =>
    change (document path bytes >>= fun members =>
      tableOf path members >>= fun table => limits (settings table vars)) = _
    cases read : document path bytes <;> rw [tableFrom, read] <;> rfl

/-! ## A whole load -/

section

variable {σ : Type} [Files (StateM σ)]

/-- In a world, the file at a path is missing, or it has this table of settings. -/
def TableAt [Room] (path : Path) (world : σ) (table : Toml.Members) : Prop :=
  ∃ contents, (contentsAt (m := StateM σ) path world).1 = .ok contents ∧
    tableFrom path contents = .ok table

theorem load_of_table [Room] {env : Environment} {vars : Variables} {given : Option Path} {world : σ}
    {table : Toml.Members} (present : TableAt (pathOf env vars given) world table) :
    (load (m := StateM σ) env vars given world).1 = limits (settings table vars) := by
  obtain ⟨contents, held, found⟩ := present
  rw [load, Command.then_apply, held]
  dsimp only
  rw [limitsOf_eq, found]
  rfl

/-- The path and the values of the settings are all that a load has from the environment. -/
theorem load_eq_of_values [Room] {env env' : Environment} {vars vars' : Variables} {given given' : Option Path}
    (path : pathOf env vars given = pathOf env' vars' given')
    (same : ∀ s : Setting, valueOf? vars s.variableName = valueOf? vars' s.variableName) :
    load (m := StateM σ) env vars given = load env' vars' given' := by
  unfold load
  simp only [path, limitsOf_eq_of_values same]

/-- Limits are layered setting by setting.

Where the file is missing or has a table of settings, each limit is what the value stands for that decides
the setting, and there is no limit if nothing decides it; no limits come of it just when such a value stands
for none. Two files whose tables differ in one entry, which a variable covers or whose name is no setting,
come to the same. So do two environments that differ in how one variable is blank, whether it is one of
those that are asked or one of the process. And if a path is given, nothing counts of the environment but
the variables of the settings. -/
theorem limits_layered [Room] :
    (∀ (env : Environment) (vars : Variables) (given : Option Path) (world : σ) (table : Toml.Members),
      TableAt (pathOf env vars given) world table →
      (∀ l, (load (m := StateM σ) env vars given world).1 = .ok l ↔
        ∀ s, Decided s (effective table vars s) none (limitAt l s)) ∧
      ((∃ failure, (load (m := StateM σ) env vars given world).1 = .error failure) ↔
        ∃ s value failure, effective table vars s = some value ∧ limitOf s value = .error failure)) ∧
    (∀ (env : Environment) (vars : Variables) (given : Option Path) (world world' : σ)
      (table table' : Toml.Members) (name : Text),
      TableAt (pathOf env vars given) world table → TableAt (pathOf env vars given) world' table' →
      AgreeApart name table table' → (∀ s : Setting, s.name = name → ¬ Blank vars s.variableName) →
      SameOutcome (load (m := StateM σ) env vars given world).1
        (load (m := StateM σ) env vars given world').1) ∧
    (∀ (vars vars' : Variables) (given : Option Path) (name : Text),
      AgreeApart name vars vars' → Blank vars name → Blank vars' name →
      (∀ env, load (m := StateM σ) env vars given = load env vars' given) ∧
      ∀ directory, load (m := StateM σ) ⟨vars, directory⟩ vars given =
        load ⟨vars', directory⟩ vars' given) ∧
    ∀ (env env' : Environment) (vars vars' : Variables) (path : Path),
      (∀ s : Setting, vars.get? s.variableName = vars'.get? s.variableName) →
      load (m := StateM σ) env vars (some path) = load env' vars' (some path) := by
  refine ⟨?_, ?_, ?_, ?_⟩
  · intro env vars given world table present
    rw [load_of_table present]
    exact ⟨fun l => limits_eq_ok_iff, limits_eq_error_iff⟩
  · intro env vars given world world' table table' name present present' agree covered
    rw [load_of_table present, load_of_table present']
    exact sameOutcome_of_effective (effective_eq_of_entry agree covered)
  · intro vars vars' given name agree blank blank'
    have same := valueOf?_eq_of_blank agree blank blank'
    refine ⟨fun env => load_eq_of_values ?_ fun s => same _,
      fun directory => load_eq_of_values ?_ fun s => same _⟩
    all_goals simp only [pathOf, defaultPath, same]
  · intro env env' vars vars' path same
    refine load_eq_of_values rfl fun s => ?_
    rw [valueOf?, valueOf?, same s]

end

def octetsOf (t : Text) : Bytes := t.map fun c => c.val.toUInt8

def fileWorld (contents : Bytes) : World where
  tree := ⟨[(["config.toml"].map Text.ofString, .file contents)], []⟩
  now := 0
  seed := 0

/-- Two values are the same, and no containers. -/
def sameLeaf : Toml → Toml → Bool
  | .bool a, .bool b => a = b
  | .int a, .int b => a = b
  | .float a, .float b => a = b
  | .string a, .string b => a = b
  | .stamp a, .stamp b => a = b
  | _, _ => false

theorem eq_of_sameLeaf {a b : Toml} (same : sameLeaf a b = true) : a = b := by
  unfold sameLeaf at same
  split at same
  case h_6 => cases same
  all_goals exact congrArg _ (of_decide_eq_true same)

/-- What has been read is a table with these entries. -/
def isTable (expected : Toml.Members) : Except Failure Toml.Members → Bool
  | .ok table => table.isEqv expected fun a b => a.1 = b.1 && sameLeaf a.2 b.2
  | .error _ => false

theorem eq_of_isTable {expected : Toml.Members} {read : Except Failure Toml.Members}
    (same : isTable expected read = true) : read = .ok expected := by
  cases read with
  | error failure => cases same
  | ok table =>
    refine congrArg Except.ok ?_
    change table.isEqv expected _ = true at same
    induction table generalizing expected with
    | nil =>
      cases expected with
      | nil => rfl
      | cons entry rest => cases same
    | cons entry table ih =>
      cases expected with
      | nil => cases same
      | cons other rest =>
        rw [List.isEqv, Bool.and_eq_true, Bool.and_eq_true] at same
        obtain ⟨⟨name, value⟩, later⟩ := same
        rw [Prod.ext (of_decide_eq_true name) (eq_of_sameLeaf value), ih later]

/-- A table without an entry for the memory. -/
def fuelAlone : Toml.Members := [("fuel", .int 7)]

/-- The same table with an entry for the memory that is no limit. -/
def lotsOfMemory : Toml.Members := fuelAlone.put "max_memory_bytes" (.string "lots")

def memoryAlone : Variables := [("OPA_EMBED_MAX_MEMORY_BYTES", " 64 ")]

attribute [local instance] Room.usual in
/-- An entry that a variable covers, and a variable that is blank, do not count. -/
theorem covered_entry_layered :
    let path : Path := ⟨.relative, ["config.toml"]⟩
    let lots := fileWorld (octetsOf "[runtime]\nfuel = 7\nmax_memory_bytes = 'lots'\n")
    let without := fileWorld (octetsOf "[runtime]\nfuel = 7\n")
    let blankFuel : Variables := Table.put "OPA_EMBED_FUEL" " " memoryAlone
    TableAt path lots lotsOfMemory ∧ TableAt path without fuelAlone ∧
      (load (m := StateM World) ⟨[], []⟩ memoryAlone (some path) lots).1 = .ok ⟨some 7, some 64⟩ ∧
      SameOutcome (load (m := StateM World) ⟨[], []⟩ memoryAlone (some path) lots).1
        (load (m := StateM World) ⟨[], []⟩ memoryAlone (some path) without).1 ∧
      load (m := StateM World) ⟨[], []⟩ blankFuel none = load ⟨[], []⟩ memoryAlone none ∧
      load (m := StateM World) ⟨[], []⟩ (Table.put "OPA_EMBED_CONFIG" "other.toml" memoryAlone) (some path) =
        load ⟨[], "/root"⟩ memoryAlone (some path) := by
  intro path lots without blankFuel
  have full : TableAt path lots lotsOfMemory :=
    ⟨some (octetsOf "[runtime]\nfuel = 7\nmax_memory_bytes = 'lots'\n"), by rfl, eq_of_isTable (by decide +kernel)⟩
  have lean : TableAt path without fuelAlone :=
    ⟨some (octetsOf "[runtime]\nfuel = 7\n"), by rfl, eq_of_isTable (by decide +kernel)⟩
  obtain ⟨decided, entries, blanks, paths⟩ := @limits_layered World _ _
  refine ⟨full, lean, ?_, ?_, ?_, paths _ _ _ _ _ fun s => ?_⟩
  · refine ((decided _ _ (some path) _ _ full).1 _).mpr fun s => ?_
    cases s with
    | fuel => exact ⟨7, rfl, rfl⟩
    | memory => exact ⟨64, rfl, rfl⟩
  · refine entries _ _ (some path) _ _ _ _ _ full lean (.put _ _ _) fun s named blank => ?_
    cases s with
    | fuel => exact absurd named (by decide)
    | memory => exact absurd (blank " 64 " rfl '6' (by decide)) (by decide)
  · have absent : memoryAlone.get? (Setting.variableName .fuel) = none := by rfl
    have blank : blankFuel.get? (Setting.variableName .fuel) = some (Text.ofString " ") := by
      decide
    refine (blanks _ _ none (Setting.variableName .fuel) (.put _ _ _) ?_ ?_).1 _
    · intro value found
      obtain rfl := Option.some.inj (blank.symm.trans found)
      exact List.all_eq_true.mp (by decide)
    · intro value found
      cases absent.symm.trans found
  · cases s <;> rfl

end PolicyHost.Config
