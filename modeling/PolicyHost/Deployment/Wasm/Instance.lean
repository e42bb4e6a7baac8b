import PolicyHost.Deployment.Wasm.Decode
import PolicyHost.Deployment.Wasm.Validate
import PolicyHost.Deployment.Wasm.Machine

/-!
# Modules as guests

A module that decodes and is valid becomes a guest. Linking resolves its imports against the
functions of the host and a fresh memory, gives globals, tables and memory their first contents and
runs the start function.

* `compile`: octets to a valid module.
* `Module.link`: a fresh store.
* `Module.guest`: the guest.
-/

namespace PolicyHost.Wasm

/-- Bounds that a host sets: a supply of fuel for each run and the octets of a memory. -/
structure Bounds where
  fuel : Option Nat
  memory : Option Nat

def compile (bytes : Bytes) : Option Module :=
  match Module.decode bytes with
  | some m => if m.valid then some m else none
  | none => none

/-- The supply of fuel where no bound is set. No run lasts that long. -/
def unlimitedFuel : Nat := 2 ^ 62

def Bounds.supply (b : Bounds) : Nat := min (b.fuel.getD unlimitedFuel) unlimitedFuel

/-- The pages that a memory may reach. -/
def Bounds.pages (b : Bounds) (l : Limits) : Nat :=
  let most := l.most.getD maxPages
  match b.memory with
  | none => most
  | some octets => min most (octets / pageSize)

/-- The provider that the host's functions and memory go by. -/
def hostName : Text := "env"

def memoryName : Text := "memory"

def hostFunctions : List (Text × HostFunction) :=
  [("opa_abort", .abort), ("opa_println", .println), ("opa_builtin0", .builtin 0),
   ("opa_builtin1", .builtin 1), ("opa_builtin2", .builtin 2), ("opa_builtin3", .builtin 3),
   ("opa_builtin4", .builtin 4)]

/-- The first import under the name of the host's memory. -/
def Module.memoryImport? (m : Module) : Option Import :=
  m.imports.find? fun i => i.provider = hostName && i.name = memoryName

def Import.memory? (i : Import) : Option MemoryType :=
  match i.type with
  | .memory type => some type
  | _ => none

def Module.demand (m : Module) : MemoryDemand :=
  match m.memoryImport? with
  | none => .missing
  | some i => if i.memory?.isSome then .memory else .otherKind

/-- A memory of one type is good enough where another type is asked for. -/
def MemoryType.serves (given asked : MemoryType) : Bool :=
  !given.shared && !asked.shared && asked.limits.least ≤ given.limits.least
    && asked.limits.most.all fun most => given.limits.most.any fun own => own ≤ most

/-- The host's function for an import, if the host provides it with that type. All imported memories
are the one that the first of them asks for. -/
def Module.resolve (m : Module) (i : Import) : Option (Option Function) :=
  if i.provider ≠ hostName then none
  else
    match i.type with
    | .func type =>
      match (hostFunctions.find? fun f => f.1 = i.name), m.types[type]? with
      | some (_, which), some wanted =>
        if which.type = wanted then some (some (.host which)) else none
      | _, _ => none
    | .memory type =>
      let given := (m.memoryImport?.bind Import.memory?).any fun given => given.serves type
      if i.name = memoryName && given then some none else none
    | _ => none

/-- The functions of a linked module, imported ones first. -/
def Module.functions? (m : Module) : Option (List Function) := do
  let imported ← m.imports.mapM m.resolve
  let own := (m.functions.zip m.code).map fun pair =>
    Function.code ((m.types[pair.1]?).getD ⟨[], []⟩) (pair.2.locals.map ValType.initial) pair.2.body
  return imported.filterMap id ++ own

/-- The value of constant instructions, given the globals that come before. -/
def constant? (globals : Array Val) (body : List Instr) : Option Val :=
  let step := fun (stack : List Val) (instr : Instr) =>
    match instr with
    | .globalGet index => (globals[index]?).map fun v => v :: stack
    | instr => (pureStep instr stack).toOption
  match body.foldlM step [] with
  | some [v] => some v
  | _ => none

/-- The unsigned number of a 32-bit value. -/
def Val.address? : Val → Option Nat
  | .i32 x => some x.toNat
  | _ => none

/-- The most elements of a table that a host provides. -/
def maxTableSize : Nat := 10000000

def placeElements (store : Store) (segment : ElementSegment) : Except Trap Store :=
  match segment.placement with
  | .active table offset =>
    match (constant? store.globals offset).bind Val.address?, store.tables[table]? with
    | some start, some elements =>
      if start + segment.items.length ≤ elements.size then
        let refs := segment.items.map fun item =>
          match constant? store.globals item with
          | some (.ref _ target) => target
          | _ => none
        let filled := (refs.zipIdx start).foldl (fun t item => t.setIfInBounds item.2 item.1) elements
        .ok { store with tables := store.tables.setIfInBounds table filled }
      else .error .tableBounds
    | _, _ => .error .illTyped
  | _ => .ok store

/-- Puts octets into a memory. Octets that have a place from the start cannot be placed again. -/
def placeData (i : Instance) (store : Store) (segment : DataSegment × Nat) : Except Trap Store :=
  match segment.1.placement with
  | .active memory offset =>
    match (constant? store.globals offset).bind Val.address? with
    | some start =>
      match store.change? (i.place memory) (·.write? start segment.1.data) with
      | some filled =>
        .ok { filled with segments := filled.segments.setIfInBounds segment.2 [] }
      | none => .error .memoryBounds
    | none => .error .illTyped
  | _ => .ok store

/-- What stays the same while a module runs. -/
def Module.instance (m : Module) : Instance :=
  ⟨m.types, ((m.functions?).getD []).toArray, m.importedMemories.length⟩

/-- A fresh store with its first contents. -/
def Module.link (m : Module) (bounds : Bounds) : Except Trap Store :=
  match m.functions?, m.memoryImport?.bind Import.memory? with
  | some _, some type =>
    let memories := (type :: m.memories).map fun t => (t.limits.least, bounds.pages t.limits)
    if memories.any (fun t => t.2 < t.1) ∨ m.tables.any (fun t => maxTableSize < t.limits.least) then
      .error .unlinkable
    else
      let globals := m.globals.foldl
        (fun globals g => globals.push ((constant? globals g.value).getD g.type.value.initial)) #[]
      let tables := (m.tables.map fun t => Array.replicate t.limits.least none).toArray
      let store : Store :=
        ⟨.zeros type.limits.least (bounds.pages type.limits),
          (m.memories.map fun t => Memory.zeros t.limits.least (bounds.pages t.limits)).toArray,
          globals, tables, (m.data.map (·.data)).toArray, bounds.supply⟩
      do
        let placed ← m.elements.foldlM placeElements store
        m.data.zipIdx.foldlM (placeData m.instance) placed
  | _, _ => .error .unlinkable

/-- The signed integer that a host sees for a value. -/
def Val.toInt? : Val → Option Int
  | .i32 x => some x.toInt32.toInt
  | .i64 x => some x.toInt64.toInt
  | _ => none

/-- What a host sees for the value of a global. -/
def Val.toScalar : Val → Scalar
  | .i32 x => .int x.toInt32.toInt
  | .i64 x => .int x.toInt64.toInt
  | .f32 bits => .float (Float32.ofBits bits).toFloat
  | .f64 bits => .float (Float.ofBits bits)
  | .ref _ none => .other "NoneType"
  | .ref _ (some _) => .other "Func"

/-- The value of a type for an integer that a host passes, modulo the width of the type. -/
def ValType.ofInt? (n : Int) : ValType → Option Val
  | .i32 => some (.i32 (UInt32.ofInt n))
  | .i64 => some (.i64 (UInt64.ofInt n))
  | _ => none

def HostFunction.request (which : HostFunction) (args : List Val) : Request :=
  match which, args.map fun v => (v.toInt?).getD 0 with
  | .abort, address :: _ => .abort address
  | .println, address :: _ => .println address
  | .builtin _, id :: context :: rest => .builtin id context rest
  | _, _ => .abort 0

def Machine.answered (m : Machine) (which : HostFunction) (answer : Int) (store : Store) : Machine :=
  match which with
  | .builtin _ => { m with store, stack := .i32 (UInt32.ofInt answer) :: m.stack }
  | _ => { m with store }

/-- What a machine does. The first argument bounds the number of requests; every request takes fuel,
so the supply of fuel is enough. -/
def Machine.activity (i : Instance) : (requests : Nat) → Machine → Activity Store
  | 0, _ => .trapped .fuel
  | requests + 1, m =>
    match m.run i m.store.fuel with
    | .finished results store => .returned ((results.head?).bind Val.toInt?) store
    | .trapped trap => .trapped trap
    | .asked which args m =>
      .asked (which.request args) m.store fun answer store =>
        activity i requests (m.answered which answer store)

/-- Calls a function with integers. A call with too few or too many is refused. -/
def Instance.call (i : Instance) (f : Nat) (args : List Int) (store : Store) : Activity Store :=
  match i.functions[f]? with
  | none => .trapped .illTyped
  | some function =>
    let type := function.type
    if type.params.length = args.length then
      match (args.zip type.params).mapM fun pair => ValType.ofInt? pair.1 pair.2 with
      | some values =>
        (Machine.calling store f values type.results.length).activity i (store.fuel + 1)
      | none => .trapped .arguments
    else .trapped .arguments

def Module.export? (m : Module) (name : Text) : Option ExportTarget :=
  (m.exports.find? fun e => e.1 = name).map Prod.snd

def Module.guest (m : Module) (bounds : Bounds) : Guest Store :=
  let i := m.instance
  { demand := m.demand
    start := do
      let store ← m.link bounds
      match m.start with
      | some f => return i.call f [] store
      | none => return .returned none store
    memory := fun store => store.memory
    setMemory := fun memory store => { store with memory }
    refuel := fun store => { store with fuel := bounds.supply }
    provides := fun name =>
      match m.export? name with
      | some (.func _) => true
      | _ => false
    global? := fun name store =>
      match m.export? name with
      | some (.global index) => (store.globals[index]?).map Val.toScalar
      | _ => none
    call := fun name args store =>
      match m.export? name with
      | some (.func f) => i.call f args store
      | _ => .trapped .illTyped }

end PolicyHost.Wasm
