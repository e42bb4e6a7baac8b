import PolicyHost.Deployment.Wasm.Module

/-!
# Validation

A module is valid if its numbers refer to things that exist, its constants are constant and its
bodies are well typed. Code after a jump is never reached, so there the operand stack yields
whatever is asked of it.

* `Operands`: the stack of types while a body is checked.
* `checkInstr`, `checkBody`: bodies.
* `Module.valid`: a whole module.
-/

namespace PolicyHost.Wasm

/-- Types of the operands, topmost first; `none` is a type that nothing has fixed. An open stack
yields any types below those it lists. -/
structure Operands where
  types : List (Option ValType)
  isOpen : Bool

namespace Operands

/-- A type is what is asked for, or may be. -/
def admits (wanted : ValType) (found : Option ValType) : Bool :=
  match found with
  | none => true
  | some type => type == wanted

def popAny (s : Operands) : Option (Option ValType × Operands) :=
  match s.types with
  | type :: rest => some (type, { s with types := rest })
  | [] => if s.isOpen then some (none, s) else none

def pop (s : Operands) (wanted : ValType) : Option Operands := do
  let (found, rest) ← s.popAny
  if admits wanted found then some rest else none

/-- Takes operands of the given types, of which the last lies on top. -/
def popAll (s : Operands) (wanted : List ValType) : Option Operands :=
  wanted.reverse.foldlM pop s

def push (s : Operands) (type : ValType) : Operands := { s with types := some type :: s.types }

/-- Puts operands on top, the last one topmost. -/
def pushAll (s : Operands) (types : List ValType) : Operands := types.foldl push s

def apply (s : Operands) (params results : List ValType) : Option Operands :=
  (s.popAll params).map fun rest => rest.pushAll results

/-- Nothing but operands of the given types. -/
def isExactly (s : Operands) (wanted : List ValType) : Bool :=
  match s.popAll wanted with
  | some rest => rest.types.isEmpty
  | none => false

/-- The stack behind a jump. -/
def unreached : Operands := ⟨[], true⟩

end Operands

/-- What the instructions of a body may refer to. -/
structure Context where
  types : Array FuncType
  functions : List FuncType
  tables : List TableType
  memories : Nat
  globals : List GlobalType
  dataCount : Option Nat
  declared : List Nat
  locals : Array ValType
  results : List ValType

/-- Types of operands and results of the instructions whose types are fixed. -/
def Instr.signature? (c : Context) : Instr → Option (List ValType × List ValType)
  | .nop => some ([], [])
  | .call f => c.functions[f]?.map fun type => (type.params, type.results)
  | .callIndirect type table => do
    let t ← c.tables[table]?
    let f ← c.types[type]?
    if t.element = .funcRef then some (f.params ++ [.i32], f.results) else none
  | .localGet i => c.locals[i]?.map fun type => ([], [type])
  | .localSet i => c.locals[i]?.map fun type => ([type], [])
  | .localTee i => c.locals[i]?.map fun type => ([type], [type])
  | .globalGet i => c.globals[i]?.map fun type => ([], [type.value])
  | .globalSet i =>
    c.globals[i]?.bind fun type => if type.writable then some ([type.value], []) else none
  | .load access => if access.memory < c.memories then some ([.i32], [access.type]) else none
  | .store access => if access.memory < c.memories then some ([.i32, access.type], []) else none
  | .memorySize memory => if memory < c.memories then some ([], [.i32]) else none
  | .memoryGrow memory => if memory < c.memories then some ([.i32], [.i32]) else none
  | .memoryCopy target source =>
    if target < c.memories ∧ source < c.memories then some ([.i32, .i32, .i32], []) else none
  | .memoryFill memory => if memory < c.memories then some ([.i32, .i32, .i32], []) else none
  | .memoryInit segment memory =>
    if memory < c.memories ∧ segment < c.dataCount.getD 0 then some ([.i32, .i32, .i32], [])
    else none
  | .dataDrop segment => if segment < c.dataCount.getD 0 then some ([], []) else none
  | .const value => some ([], [value.type])
  | .testZero width => some ([width.type], [.i32])
  | .compare width _ => some ([width.type, width.type], [.i32])
  | .unary width _ => some ([width.type], [width.type])
  | .binary width _ => some ([width.type, width.type], [width.type])
  | .convert .wrap => some ([.i64], [.i32])
  | .convert .extendS | .convert .extendU => some ([.i32], [.i64])
  | .convert (.reinterpret source target) => some ([source], [target])
  | .refFunc f =>
    if f < c.functions.length ∧ f ∈ c.declared then some ([], [.funcRef]) else none
  | _ => none

/-- The type of what `select` yields, when it names none. -/
def selected? (a b : Option ValType) : Option (Option ValType) :=
  match a, b with
  | none, other => if other.all ValType.isNumeric then some other else none
  | other, none => if other.all ValType.isNumeric then some other else none
  | some x, some y => if x = y ∧ x.isNumeric then some (some x) else none

mutual

/-- Checks one instruction. `labels` lists what a jump to each enclosing label carries, innermost
first. -/
def checkInstr (c : Context) (labels : List (List ValType)) (s : Operands) :
    Instr → Option Operands
  | .unreachable => some .unreached
  | .block type body => do
    let f ← Module.blockType? c.types type
    let rest ← s.popAll f.params
    let final ← checkBody c (f.results :: labels) ⟨f.params.reverse.map some, false⟩ body
    if final.isExactly f.results then some (rest.pushAll f.results) else none
  | .loop type body => do
    let f ← Module.blockType? c.types type
    let rest ← s.popAll f.params
    let final ← checkBody c (f.params :: labels) ⟨f.params.reverse.map some, false⟩ body
    if final.isExactly f.results then some (rest.pushAll f.results) else none
  | .branch type yes no => do
    let f ← Module.blockType? c.types type
    let rest ← (← s.pop .i32).popAll f.params
    let one ← checkBody c (f.results :: labels) ⟨f.params.reverse.map some, false⟩ yes
    let other ← checkBody c (f.results :: labels) ⟨f.params.reverse.map some, false⟩ no
    if one.isExactly f.results && other.isExactly f.results then
      some (rest.pushAll f.results)
    else none
  | .br label => do
    let types ← labels[label]?
    let _ ← s.popAll types
    some .unreached
  | .brIf label => do
    let types ← labels[label]?
    (← s.pop .i32).apply types types
  | .brTable targets default => do
    let rest ← s.pop .i32
    let types ← labels[default]?
    let _ ← rest.popAll types
    let fits := targets.all fun target =>
      match labels[target]? with
      | some others => others.length == types.length && (rest.popAll others).isSome
      | none => false
    if fits then some .unreached else none
  | .ret => do
    let _ ← s.popAll c.results
    some .unreached
  | .drop => do
    let (_, rest) ← s.popAny
    some rest
  | .select none => do
    let (a, rest) ← (← s.pop .i32).popAny
    let (b, rest) ← rest.popAny
    let type ← selected? a b
    some { rest with types := type :: rest.types }
  | .select (some type) => s.apply [type, type, .i32] [type]
  | .refIsNull => do
    let (found, rest) ← s.popAny
    if found.any ValType.isNumeric then none else some (rest.push .i32)
  | instr => do
    let (params, results) ← instr.signature? c
    s.apply params results

def checkBody (c : Context) (labels : List (List ValType)) (s : Operands) :
    List Instr → Option Operands
  | [] => some s
  | instr :: rest =>
    match checkInstr c labels s instr with
    | some after => checkBody c labels after rest
    | none => none

end

/-- An instruction that may stand in a constant. Only imported globals that are never written may be
read. -/
def Instr.isConstant (imported : List GlobalType) : Instr → Bool
  | .const _ | .refFunc _ => true
  | .globalGet i => imported[i]?.any fun type => !type.writable
  | .binary _ .add | .binary _ .sub | .binary _ .mul => true
  | _ => false

/-- Instructions that give one constant of a type. -/
def isConstantOf (c : Context) (imported : List GlobalType) (type : ValType) (body : List Instr) :
    Bool :=
  body.all (Instr.isConstant imported) &&
    match checkBody c [] ⟨[], false⟩ body with
    | some s => s.isExactly [type]
    | none => false

/-- Functions that a module refers to outside of bodies, which is what allows references to them. -/
def Module.referred (m : Module) : List Nat :=
  let refs := fun (body : List Instr) => body.filterMap fun
    | .refFunc f => some f
    | _ => none
  (m.globals.flatMap fun g => refs g.value)
    ++ (m.elements.flatMap fun e => e.items.flatMap refs)
    ++ m.exports.filterMap fun e => match e.2 with
      | .func f => some f
      | _ => none

def Limits.valid (l : Limits) (bound : Nat) : Bool :=
  l.least ≤ bound && l.most.all fun most => most ≤ bound && l.least ≤ most

def maxMemories : Nat := 100

/-- The most pages of a memory of 32-bit addresses. -/
def maxPages : Nat := 65536

def maxElements : Nat := 4294967295

/-- What the bodies of a module may refer to, locals and results apart. -/
def Module.context? (m : Module) : Option Context := do
  let functions ← m.allFunctions.mapM fun type => m.types[type]?
  return ⟨m.types, functions, m.allTables, m.allMemories.length, m.allGlobals, m.dataCount,
    m.referred, #[], []⟩

/-- The body of a function is well typed. -/
def Code.valid (c : Context) (type : FuncType) (code : Code) : Bool :=
  let inner := { c with locals := (type.params ++ code.locals).toArray, results := type.results }
  match checkBody inner [type.results] ⟨[], false⟩ code.body with
  | some s => s.isExactly type.results
  | none => false

/-- An offer refers to something that exists. -/
def ExportTarget.valid (c : Context) : ExportTarget → Bool
  | .func i => i < c.functions.length
  | .table i => i < c.tables.length
  | .memory i => i < c.memories
  | .global i => i < c.globals.length

/-- A segment goes to something that exists, at a constant offset. -/
def Placement.valid (c : Context) (imported : List GlobalType) (targets : Nat) : Placement → Bool
  | .active target offset => target < targets && isConstantOf c imported .i32 offset
  | .passive | .declared => true

def Module.valid (m : Module) : Bool :=
  match m.context? with
  | none => false
  | some c =>
    let imported := m.importedGlobals
    let importsFit := m.imports.all fun i => match i.type with
      | .func type => type < m.types.size
      | _ => true
    let tablesFit := m.allTables.all fun t => t.limits.valid maxElements
    let memoriesFit :=
      m.allMemories.length ≤ maxMemories && m.allMemories.all fun t => t.limits.valid maxPages
    let globalsFit := m.globals.all fun g => isConstantOf c imported g.type.value g.value
    let names := m.exports.map Prod.fst
    let exportsFit := m.exports.all (fun e => e.2.valid c) && names.eraseDups.length == names.length
    let startFits := m.start.all fun f =>
      c.functions[f]?.any fun type => type.params.isEmpty && type.results.isEmpty
    let elementsFit := m.elements.all fun e =>
      e.placement.valid c imported c.tables.length
        && e.items.all (isConstantOf c imported e.type)
        && match e.placement with
          | .active table _ => c.tables[table]?.any fun t => t.element == e.type
          | _ => true
    let dataFits := m.data.all fun d => d.placement.valid c imported c.memories
    let counts := m.functions.length == m.code.length && m.dataCount.all (· == m.data.length)
    let bodies := (m.functions.zip m.code).all fun pair =>
      m.types[pair.1]?.any fun type => pair.2.valid c type
    importsFit && tablesFit && memoriesFit && globalsFit && exportsFit && startFits
      && elementsFit && dataFits && counts && bodies

end PolicyHost.Wasm
