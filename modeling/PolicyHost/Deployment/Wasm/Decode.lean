import PolicyHost.Deployment.Wasm.Module
import PolicyHost.Text.Utf8

/-!
# The binary format of modules

A reader takes what it understands off the front of the octets, or refuses them. Sections come in
their order, at most once each, and fill exactly the size they announce; custom sections may stand
between them and are skipped.

* `Reader`: readers and their combinators.
* `instructions`: bodies.
* `Module.decode`: a whole module.
-/

namespace PolicyHost.Wasm

/-- A reader takes a value off the front of the octets, or refuses. -/
abbrev Reader (α : Type) := StateT Bytes Option α

namespace Reader

def refuse {α : Type} : Reader α := fun _ => none

def octet : Reader UInt8 := fun bytes =>
  match bytes with
  | b :: rest => some (b, rest)
  | [] => none

def expect (b : UInt8) : Reader Unit := do
  if (← octet) = b then return () else refuse

/-- Exactly `n` octets. -/
def take (n : Nat) : Reader Bytes := fun bytes =>
  let front := bytes.take n
  if front.length = n then some (front, bytes.drop n) else none

/-- The octets of a variable-length number: seven bits each, least significant first, and how many
octets there were. -/
def sevens : (most : Nat) → Reader (Nat × Nat)
  | 0 => refuse
  | most + 1 => do
    let b ← octet
    if b < 0x80 then return (b.toNat, 1)
    else
      let (rest, count) ← sevens most
      return (b.toNat % 128 + 128 * rest, count + 1)

/-- An unsigned number below `2 ^ bits`. -/
def unsigned (bits : Nat) : Reader Nat := do
  let (n, _) ← sevens ((bits + 6) / 7)
  if n < 2 ^ bits then return n else refuse

/-- A signed number of `bits` bits. -/
def signed (bits : Nat) : Reader Int := do
  let (n, count) ← sevens ((bits + 6) / 7)
  let value : Int := if n < 2 ^ (7 * count - 1) then n else (n : Int) - 2 ^ (7 * count)
  if -(2 ^ (bits - 1) : Int) ≤ value ∧ value < 2 ^ (bits - 1) then return value else refuse

def u32 : Reader Nat := unsigned 32

/-- Reads `n` items. -/
def times {α : Type} (item : Reader α) : (n : Nat) → (acc : List α) → Reader (List α)
  | 0, acc => return acc.reverse
  | n + 1, acc => do
    let first ← item
    times item n (first :: acc)

def vector {α : Type} (item : Reader α) : Reader (List α) := do
  let n ← u32
  times item n []

/-- A name, in UTF-8. -/
def name : Reader Text := do
  let n ← u32
  let bytes ← take n
  match Utf8.decode bytes with
  | .ok t => return t
  | .error _ => refuse

/-- Runs a reader on the next `n` octets, all of which it has to take. -/
def within {α : Type} (n : Nat) (inner : Reader α) : Reader α := do
  let bytes ← take n
  match inner bytes with
  | some (value, []) => return value
  | _ => refuse

end Reader

open Reader

def ValType.ofOctet? (b : UInt8) : Option ValType :=
  match b with
  | 0x7F => some .i32
  | 0x7E => some .i64
  | 0x7D => some .f32
  | 0x7C => some .f64
  | 0x7B => some .v128
  | 0x70 => some .funcRef
  | 0x6F => some .externRef
  | _ => none

def valType : Reader ValType := do
  match ValType.ofOctet? (← octet) with
  | some type => return type
  | none => refuse

def refType : Reader ValType := do
  let type ← valType
  if type.isNumeric then refuse else return type

def funcType : Reader FuncType := do
  expect 0x60
  let params ← vector valType
  let results ← vector valType
  return ⟨params, results⟩

def limits (bounded : Bool) : Reader Limits := do
  let least ← u32
  if bounded then return ⟨least, some (← u32)⟩ else return ⟨least, none⟩

/-- The type of a memory. A shared memory is bounded. -/
def memoryType : Reader MemoryType := do
  match ← octet with
  | 0 => return ⟨← limits false, false⟩
  | 1 => return ⟨← limits true, false⟩
  | 3 => return ⟨← limits true, true⟩
  | _ => refuse

def tableType : Reader TableType := do
  let element ← refType
  match ← octet with
  | 0 => return ⟨element, ← limits false⟩
  | 1 => return ⟨element, ← limits true⟩
  | _ => refuse

def globalType : Reader GlobalType := do
  let value ← valType
  match ← octet with
  | 0 => return ⟨value, false⟩
  | 1 => return ⟨value, true⟩
  | _ => refuse

/-- The type of a block: none, a type of values, or the number of a type of functions. -/
def blockType : Reader BlockType := fun bytes =>
  match bytes with
  | 0x40 :: rest => some (.plain none, rest)
  | b :: rest =>
    match ValType.ofOctet? b with
    | some type => some (.plain (some type), rest)
    | none =>
      match signed 33 bytes with
      | some (n, tail) => if 0 ≤ n then some (.indexed n.toNat, tail) else none
      | none => none
  | [] => none

/-- What is added to an alignment that the number of a memory follows. -/
def memoryMark : Nat := 64

/-- The alignment of an access, and its memory, which is the first one unless it is given. -/
def alignedMemory : Reader (Nat × Nat) := do
  let flags ← u32
  if flags / memoryMark % 2 = 1 then return (flags - memoryMark, ← u32) else return (flags, 0)

/-- Alignment, memory and offset of an access. The alignment does not exceed the width. -/
def access (type : ValType) (width : Nat) (signed : Bool) : Reader Access := do
  let (alignment, memory) ← alignedMemory
  let offset ← u32
  if alignment < 32 ∧ 2 ^ alignment ≤ width then return ⟨memory, type, width, signed, offset⟩
  else refuse

def comparisons : List Compare :=
  [.eq, .ne, .ltS, .ltU, .gtS, .gtU, .leS, .leU, .geS, .geU]

/-- The operations on one operand in the order of their codes. -/
def unaries : List Unary := [.clz, .ctz, .popcnt]

/-- The operations on two operands in the order of their codes. -/
def binaries : List Binary :=
  [.add, .sub, .mul, .divS, .divU, .remS, .remU, .and, .or, .xor, .shl, .shrS, .shrU, .rotl, .rotr]

/-- The integer instruction that an octet stands for. -/
def integerInstr? (code : Nat) : Option Instr :=
  let entry := fun {α : Type} (table : List α) (base : Nat) =>
    if base ≤ code then table[code - base]? else none
  match code with
  | 0x45 => some (.testZero .w32)
  | 0x50 => some (.testZero .w64)
  | 0xA7 => some (.convert .wrap)
  | 0xAC => some (.convert .extendS)
  | 0xAD => some (.convert .extendU)
  | 0xBC => some (.convert (.reinterpret .f32 .i32))
  | 0xBD => some (.convert (.reinterpret .f64 .i64))
  | 0xBE => some (.convert (.reinterpret .i32 .f32))
  | 0xBF => some (.convert (.reinterpret .i64 .f64))
  | 0xC0 => some (.unary .w32 .extend8)
  | 0xC1 => some (.unary .w32 .extend16)
  | 0xC2 => some (.unary .w64 .extend8)
  | 0xC3 => some (.unary .w64 .extend16)
  | 0xC4 => some (.unary .w64 .extend32)
  | _ =>
    ((entry comparisons 0x46).map (Instr.compare .w32)).or <|
    ((entry comparisons 0x51).map (Instr.compare .w64)).or <|
    ((entry unaries 0x67).map (Instr.unary .w32)).or <|
    ((entry binaries 0x6A).map (Instr.binary .w32)).or <|
    ((entry unaries 0x79).map (Instr.unary .w64)).or <|
    ((entry binaries 0x7C).map (Instr.binary .w64))

/-- An instruction whose code follows the octet 0xFC. -/
def extendedInstr : Reader Instr := do
  match ← u32 with
  | 8 =>
    let segment ← u32
    return .memoryInit segment (← u32)
  | 9 => return .dataDrop (← u32)
  | 10 =>
    let target ← u32
    return .memoryCopy target (← u32)
  | 11 => return .memoryFill (← u32)
  | _ => refuse

/-- Octets as a number, least significant first. -/
def littleEndian (bytes : Bytes) : Nat := bytes.foldr (fun b n => n * 256 + b.toNat) 0

/-- An instruction that holds no others, given its first octet. -/
def plainInstr (code : UInt8) : Reader Instr := do
  match code with
  | 0x00 => return .unreachable
  | 0x01 => return .nop
  | 0x0C => return .br (← u32)
  | 0x0D => return .brIf (← u32)
  | 0x0E =>
    let labels ← vector u32
    return .brTable labels (← u32)
  | 0x0F => return .ret
  | 0x10 => return .call (← u32)
  | 0x11 =>
    let type ← u32
    return .callIndirect type (← u32)
  | 0x1A => return .drop
  | 0x1B => return .select none
  | 0x1C =>
    match ← vector valType with
    | [type] => return .select (some type)
    | _ => refuse
  | 0x20 => return .localGet (← u32)
  | 0x21 => return .localSet (← u32)
  | 0x22 => return .localTee (← u32)
  | 0x23 => return .globalGet (← u32)
  | 0x24 => return .globalSet (← u32)
  | 0x28 => return .load (← access .i32 4 false)
  | 0x29 => return .load (← access .i64 8 false)
  | 0x2A => return .load (← access .f32 4 false)
  | 0x2B => return .load (← access .f64 8 false)
  | 0x2C => return .load (← access .i32 1 true)
  | 0x2D => return .load (← access .i32 1 false)
  | 0x2E => return .load (← access .i32 2 true)
  | 0x2F => return .load (← access .i32 2 false)
  | 0x30 => return .load (← access .i64 1 true)
  | 0x31 => return .load (← access .i64 1 false)
  | 0x32 => return .load (← access .i64 2 true)
  | 0x33 => return .load (← access .i64 2 false)
  | 0x34 => return .load (← access .i64 4 true)
  | 0x35 => return .load (← access .i64 4 false)
  | 0x36 => return .store (← access .i32 4 false)
  | 0x37 => return .store (← access .i64 8 false)
  | 0x38 => return .store (← access .f32 4 false)
  | 0x39 => return .store (← access .f64 8 false)
  | 0x3A => return .store (← access .i32 1 false)
  | 0x3B => return .store (← access .i32 2 false)
  | 0x3C => return .store (← access .i64 1 false)
  | 0x3D => return .store (← access .i64 2 false)
  | 0x3E => return .store (← access .i64 4 false)
  | 0x3F => return .memorySize (← u32)
  | 0x40 => return .memoryGrow (← u32)
  | 0x41 => return .const (.i32 (UInt32.ofInt (← signed 32)))
  | 0x42 => return .const (.i64 (UInt64.ofInt (← signed 64)))
  | 0x43 => return .const (.f32 (littleEndian (← take 4)).toUInt32)
  | 0x44 => return .const (.f64 (littleEndian (← take 8)).toUInt64)
  | 0xD0 => return .const (.ref (← refType) none)
  | 0xD1 => return .refIsNull
  | 0xD2 => return .refFunc (← u32)
  | 0xFC => extendedInstr
  | _ =>
    match integerInstr? code.toNat with
    | some instr => return instr
    | none => refuse

/-- What ends a sequence of instructions. -/
inductive Ending
  | finish
  | otherwise
deriving DecidableEq, Repr

/-- Instructions up to the octet that ends them. Every instruction takes an octet, so the number of
octets bounds the steps. -/
def instructions : (steps : Nat) → (acc : List Instr) → Reader (List Instr × Ending)
  | 0, _ => refuse
  | steps + 1, acc => do
    match ← octet with
    | 0x0B => return (acc.reverse, .finish)
    | 0x05 => return (acc.reverse, .otherwise)
    | 0x02 =>
      let type ← blockType
      let (body, ending) ← instructions steps []
      if ending = .otherwise then refuse
      instructions steps (.block type body :: acc)
    | 0x03 =>
      let type ← blockType
      let (body, ending) ← instructions steps []
      if ending = .otherwise then refuse
      instructions steps (.loop type body :: acc)
    | 0x04 =>
      let type ← blockType
      let (yes, ending) ← instructions steps []
      if ending = .finish then instructions steps (.branch type yes [] :: acc)
      else
        let (no, ending) ← instructions steps []
        if ending = .otherwise then refuse
        instructions steps (.branch type yes no :: acc)
    | code =>
      let instr ← plainInstr code
      instructions steps (instr :: acc)

/-- A sequence of instructions that ends for good. -/
def expression : Reader (List Instr) := fun bytes =>
  match instructions (bytes.length + 1) [] bytes with
  | some ((body, .finish), rest) => some (body, rest)
  | _ => none

def importItem : Reader Import := do
  let provider ← name
  let item ← name
  match ← octet with
  | 0 => return ⟨provider, item, .func (← u32)⟩
  | 1 => return ⟨provider, item, .table (← tableType)⟩
  | 2 => return ⟨provider, item, .memory (← memoryType)⟩
  | 3 => return ⟨provider, item, .global (← globalType)⟩
  | _ => refuse

def exportItem : Reader (Text × ExportTarget) := do
  let item ← name
  match ← octet with
  | 0 => return (item, .func (← u32))
  | 1 => return (item, .table (← u32))
  | 2 => return (item, .memory (← u32))
  | 3 => return (item, .global (← u32))
  | _ => refuse

def globalItem : Reader Global := do
  let type ← globalType
  return ⟨type, ← expression⟩

def functionItems : Reader (List (List Instr)) := do
  return (← vector u32).map fun f => [.refFunc f]

def functionKind : Reader Unit := expect 0

def elementItem : Reader ElementSegment := do
  match ← u32 with
  | 0 => return ⟨.active 0 (← expression), .funcRef, ← functionItems⟩
  | 1 =>
    functionKind
    return ⟨.passive, .funcRef, ← functionItems⟩
  | 2 =>
    let table ← u32
    let offset ← expression
    functionKind
    return ⟨.active table offset, .funcRef, ← functionItems⟩
  | 3 =>
    functionKind
    return ⟨.declared, .funcRef, ← functionItems⟩
  | 4 => return ⟨.active 0 (← expression), .funcRef, ← vector expression⟩
  | 5 =>
    let type ← refType
    return ⟨.passive, type, ← vector expression⟩
  | 6 =>
    let table ← u32
    let offset ← expression
    let type ← refType
    return ⟨.active table offset, type, ← vector expression⟩
  | 7 =>
    let type ← refType
    return ⟨.declared, type, ← vector expression⟩
  | _ => refuse

def dataItem : Reader DataSegment := do
  match ← u32 with
  | 0 =>
    let offset ← expression
    return ⟨.active 0 offset, ← take (← u32)⟩
  | 1 => return ⟨.passive, ← take (← u32)⟩
  | 2 =>
    let memory ← u32
    let offset ← expression
    return ⟨.active memory offset, ← take (← u32)⟩
  | _ => refuse

/-- Locals of one type: how many, and the type. -/
def localGroup : Reader (Nat × ValType) := do
  let count ← u32
  return (count, ← valType)

def maxLocals : Nat := 50000

def codeItem : Reader Code := do
  let size ← u32
  within size do
    let groups ← vector localGroup
    if maxLocals < groups.foldl (fun count group => count + group.1) 0 then refuse
    let body ← expression
    return ⟨groups.flatMap fun group => List.replicate group.1 group.2, body⟩

def Module.empty : Module :=
  ⟨#[], [], [], [], [], [], [], none, [], none, [], []⟩

def sectionPlace? (id : UInt8) : Option Nat :=
  ([1, 2, 3, 4, 5, 6, 7, 8, 9, 12, 10, 11] : List UInt8).findIdx? (· == id)

def sectionBody (m : Module) (id : UInt8) : Reader Module := do
  match id with
  | 1 => return { m with types := (← vector funcType).toArray }
  | 2 => return { m with imports := ← vector importItem }
  | 3 => return { m with functions := ← vector u32 }
  | 4 => return { m with tables := ← vector tableType }
  | 5 => return { m with memories := ← vector memoryType }
  | 6 => return { m with globals := ← vector globalItem }
  | 7 => return { m with exports := ← vector exportItem }
  | 8 => return { m with start := some (← u32) }
  | 9 => return { m with elements := ← vector elementItem }
  | 10 => return { m with code := ← vector codeItem }
  | 11 => return { m with data := ← vector dataItem }
  | 12 => return { m with dataCount := some (← u32) }
  | _ => refuse

/-- The sections up to the end of the octets. `next` is the first place that is still free. Every
section takes octets, so their number bounds the steps. -/
def sections : (steps : Nat) → (next : Nat) → Module → Reader Module
  | 0, _, _ => refuse
  | steps + 1, next, m => fun bytes =>
    match bytes with
    | [] => some (m, [])
    | id :: rest =>
      let body : Reader (Nat × Module) := do
        let size ← u32
        if id = 0 then
          let _ ← within size do
            let _ ← name
            fun bytes => some ((), bytes.drop bytes.length)
          return (next, m)
        else
          match sectionPlace? id with
          | some place =>
            if place < next then refuse
            return (place + 1, ← within size (sectionBody m id))
          | none => refuse
      match body rest with
      | some ((place, extended), tail) => sections steps place extended tail
      | none => none

/-- The first octets of every module. -/
def magic : Bytes := [0x00, 0x61, 0x73, 0x6D, 0x01, 0x00, 0x00, 0x00]

def Module.decode (bytes : Bytes) : Option Module :=
  if magic.isPrefixOf bytes then
    let body := bytes.drop magic.length
    match sections (body.length + 1) 0 .empty body with
    | some (m, []) => some m
    | _ => none
  else none

end PolicyHost.Wasm
