import PolicyHost.Text.Basic

/-!
# WebAssembly modules

Types, instructions and the parts of a module. Instructions are structured: a block holds its body.
Floating-point values are kept as their bits; they can be moved, stored and compared for identity,
but no instruction calculates with them.

* `ValType`, `FuncType`, `Limits`: types.
* `Instr`: instructions.
* `Module`: a module as its sections describe it.
-/

namespace PolicyHost.Wasm

/-- Types of values. -/
inductive ValType
  | i32
  | i64
  | f32
  | f64
  | v128
  | funcRef
  | externRef
deriving DecidableEq, Repr

/-- Numbers and vectors, as opposed to references. -/
def ValType.isNumeric : ValType → Bool
  | .funcRef | .externRef => false
  | _ => true

/-- Parameters and results of a function. -/
structure FuncType where
  params : List ValType
  results : List ValType
deriving DecidableEq, Repr

/-- A size to begin with and, perhaps, a size not to exceed. -/
structure Limits where
  least : Nat
  most : Option Nat
deriving DecidableEq, Repr

/-- The type of a memory, in pages. -/
structure MemoryType where
  limits : Limits
  shared : Bool
deriving DecidableEq, Repr

structure TableType where
  element : ValType
  limits : Limits
deriving DecidableEq, Repr

structure GlobalType where
  value : ValType
  writable : Bool
deriving DecidableEq, Repr

/-- The width of an integer. -/
inductive Width
  | w32
  | w64
deriving DecidableEq, Repr

def Width.type : Width → ValType
  | .w32 => .i32
  | .w64 => .i64

/-- Integer operations on one operand. -/
inductive Unary
  | clz
  | ctz
  | popcnt
  | extend8
  | extend16
  | extend32
deriving DecidableEq, Repr

/-- Integer operations on two operands. -/
inductive Binary
  | add
  | sub
  | mul
  | divS
  | divU
  | remS
  | remU
  | and
  | or
  | xor
  | shl
  | shrS
  | shrU
  | rotl
  | rotr
deriving DecidableEq, Repr

/-- Comparisons of integers. -/
inductive Compare
  | eq
  | ne
  | ltS
  | ltU
  | gtS
  | gtU
  | leS
  | leU
  | geS
  | geU
deriving DecidableEq, Repr

/-- Conversions that keep or cut bits. -/
inductive Convert
  | wrap
  | extendS
  | extendU
  | reinterpret (source target : ValType)
deriving DecidableEq, Repr

inductive BlockType
  | plain (result : Option ValType)
  | indexed (type : Nat)
deriving DecidableEq, Repr

/-- A value. References point to functions or, for external ones, to nothing. -/
inductive Val
  | i32 (value : UInt32)
  | i64 (value : UInt64)
  | f32 (bits : UInt32)
  | f64 (bits : UInt64)
  | ref (type : ValType) (target : Option Nat)
deriving DecidableEq, Repr

def Val.type : Val → ValType
  | .i32 _ => .i32
  | .i64 _ => .i64
  | .f32 _ => .f32
  | .f64 _ => .f64
  | .ref type _ => type

/-- What a load or store touches: the memory, the type of the value, how many octets, whether a
shorter number is extended by its sign, and the offset. -/
structure Access where
  memory : Nat
  type : ValType
  width : Nat
  signed : Bool
  offset : Nat
deriving DecidableEq, Repr

/-- Instructions. -/
inductive Instr
  | unreachable
  | nop
  | block (type : BlockType) (body : List Instr)
  | loop (type : BlockType) (body : List Instr)
  | branch (type : BlockType) (yes no : List Instr)
  | br (label : Nat)
  | brIf (label : Nat)
  | brTable (labels : List Nat) (default : Nat)
  | ret
  | call (function : Nat)
  | callIndirect (type table : Nat)
  | drop
  | select (type : Option ValType)
  | localGet (index : Nat)
  | localSet (index : Nat)
  | localTee (index : Nat)
  | globalGet (index : Nat)
  | globalSet (index : Nat)
  | load (access : Access)
  | store (access : Access)
  | memorySize (memory : Nat)
  | memoryGrow (memory : Nat)
  | memoryCopy (target source : Nat)
  | memoryFill (memory : Nat)
  | memoryInit (segment memory : Nat)
  | dataDrop (segment : Nat)
  | const (value : Val)
  | testZero (width : Width)
  | compare (width : Width) (op : Compare)
  | unary (width : Width) (op : Unary)
  | binary (width : Width) (op : Binary)
  | convert (op : Convert)
  | refIsNull
  | refFunc (function : Nat)
deriving Repr

/-- What a module asks for. -/
inductive ImportType
  | func (type : Nat)
  | table (type : TableType)
  | memory (type : MemoryType)
  | global (type : GlobalType)
deriving DecidableEq, Repr

/-- A demand of a module, by the name of a provider and the name of an item. -/
structure Import where
  provider : Text
  name : Text
  type : ImportType
deriving DecidableEq

/-- What a module offers. -/
inductive ExportTarget
  | func (index : Nat)
  | table (index : Nat)
  | memory (index : Nat)
  | global (index : Nat)
deriving DecidableEq, Repr

/-- A global of a module and the instructions that give its first value. -/
structure Global where
  type : GlobalType
  value : List Instr

/-- The body of a function and the types of its locals beyond the parameters. -/
structure Code where
  locals : List ValType
  body : List Instr

/-- Where a segment goes. -/
inductive Placement
  | active (target : Nat) (offset : List Instr)
  | passive
  | declared

/-- Functions to put into a table; each is given by the instructions that refer to it. -/
structure ElementSegment where
  placement : Placement
  type : ValType
  items : List (List Instr)

/-- Octets to put into a memory. -/
structure DataSegment where
  placement : Placement
  data : Bytes

structure Module where
  types : Array FuncType
  imports : List Import
  functions : List Nat
  tables : List TableType
  memories : List MemoryType
  globals : List Global
  exports : List (Text × ExportTarget)
  start : Option Nat
  elements : List ElementSegment
  dataCount : Option Nat
  code : List Code
  data : List DataSegment

namespace Module

def importedFunctions (m : Module) : List Nat :=
  m.imports.filterMap fun i => match i.type with
    | .func type => some type
    | _ => none

def importedGlobals (m : Module) : List GlobalType :=
  m.imports.filterMap fun i => match i.type with
    | .global type => some type
    | _ => none

def importedMemories (m : Module) : List MemoryType :=
  m.imports.filterMap fun i => match i.type with
    | .memory type => some type
    | _ => none

/-- The types of all memories, imported ones first. -/
def allMemories (m : Module) : List MemoryType := m.importedMemories ++ m.memories

/-- The types of all tables, imported ones first. -/
def allTables (m : Module) : List TableType :=
  (m.imports.filterMap fun i => match i.type with
    | .table type => some type
    | _ => none) ++ m.tables

/-- The types of all globals, imported ones first. -/
def allGlobals (m : Module) : List GlobalType :=
  m.importedGlobals ++ m.globals.map (·.type)

/-- The type numbers of all functions, imported ones first. -/
def allFunctions (m : Module) : List Nat := m.importedFunctions ++ m.functions

def blockType? (types : Array FuncType) : BlockType → Option FuncType
  | .plain none => some ⟨[], []⟩
  | .plain (some type) => some ⟨[], [type]⟩
  | .indexed type => types[type]?

end Module

end PolicyHost.Wasm
