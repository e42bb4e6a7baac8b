import PolicyHost.Sandbox.Guest
import PolicyHost.Deployment.Wasm.Module
import PolicyHost.Deployment.Wasm.Numeric

/-!
# The machine

A machine executes one instruction after another. An enclosing block is a `Label`, which knows where
a jump to it goes on and which operands lie below it; a caller is kept whole. The machine stops when
its function returns, when it traps, which ends it for good, and when it calls a function of the
host, which leaves it ready to go on with the answer.

* `Instance`, `Store`: what stays the same and what changes while a module runs.
* `Machine.step`: one instruction.
* `Machine.run`: instructions as long as fuel lasts.
-/

namespace PolicyHost.Wasm

/-- The functions a host provides: with `builtin n` a guest passes `n` arguments to a builtin. -/
inductive HostFunction
  | abort
  | println
  | builtin (arity : Nat)
deriving DecidableEq, Repr

/-- The type of a function of the host. A builtin takes its number and a context before its
arguments. -/
def HostFunction.type : HostFunction → FuncType
  | .abort | .println => ⟨[.i32], []⟩
  | .builtin arity => ⟨List.replicate (arity + 2) .i32, [.i32]⟩

/-- A function of an instance. -/
inductive Function
  | host (which : HostFunction)
  | code (type : FuncType) (locals : List Val) (body : List Instr)

def Function.type : Function → FuncType
  | .host which => which.type
  | .code type _ _ => type

/-- What stays the same while a module runs: types, functions, and the number of imported
memories. -/
structure Instance where
  types : Array FuncType
  functions : Array Function
  imported : Nat

/-- What changes while a module runs: the memory of the host and the module's own, globals, tables,
segments and fuel. An element of a table is the number of a function. Segments that have been
dropped hold nothing. -/
structure Store where
  memory : Memory
  others : Array Memory
  globals : Array Val
  tables : Array (Array (Option Nat))
  segments : Array Bytes
  fuel : Nat

/-- An enclosing block: how many operands a jump to it carries, where it goes on, where the block
goes on when its end is reached, and the operands below it. -/
structure Label where
  arity : Nat
  target : List Instr
  after : List Instr
  below : List Val

/-- A caller that waits for its callee. -/
structure Caller where
  locals : Array Val
  labels : List Label
  stack : List Val
  code : List Instr
  arity : Nat

/-- A machine. The top of the stack comes first. -/
structure Machine where
  store : Store
  locals : Array Val
  labels : List Label
  stack : List Val
  code : List Instr
  arity : Nat
  callers : List Caller
  depth : Nat

/-- What one step leads to. -/
inductive Step
  | next (m : Machine)
  | finished (results : List Val) (store : Store)
  | trapped (trap : Trap)
  | asked (which : HostFunction) (args : List Val) (m : Machine)

/-- The most calls that may be under way. -/
def maxCalls : Nat := 10000

/-- The truth value as an operand. -/
def Val.ofBool (b : Bool) : Val := .i32 (if b then 1 else 0)

/-- The value that a local of a type has at first. -/
def ValType.initial : ValType → Val
  | .i32 => .i32 0
  | .i64 => .i64 0
  | .f32 => .f32 0
  | .f64 | .v128 => .f64 0
  | .funcRef => .ref .funcRef none
  | .externRef => .ref .externRef none

def Val.bits : Val → Nat
  | .i32 x | .f32 x => x.toNat
  | .i64 x | .f64 x => x.toNat
  | .ref .. => 0

def ValType.ofBits (type : ValType) (bits : Nat) : Val :=
  match type with
  | .i32 => .i32 bits.toUInt32
  | .f32 => .f32 bits.toUInt32
  | .f64 => .f64 bits.toUInt64
  | _ => .i64 bits.toUInt64

/-- The value that a load yields for the octets it found. -/
def Access.value (a : Access) (found : Nat) : Val :=
  if a.signed then
    match a.type with
    | .i32 => .i32 (UInt32.ofInt (signExtend (8 * a.width) found))
    | _ => .i64 (UInt64.ofInt (signExtend (8 * a.width) found))
  else a.type.ofBits found

/-- The trap of a division without a result. -/
def ArithmeticFault.trap : ArithmeticFault → Trap
  | .divideByZero => .divideByZero
  | .overflow => .overflow

/-- The result of a conversion. -/
def convert? : Convert → Val → Option Val
  | .wrap, .i64 x => some (.i32 x.toUInt32)
  | .extendS, .i32 x => some (.i64 (UInt64.ofInt (signExtend 32 x.toNat)))
  | .extendU, .i32 x => some (.i64 x.toUInt64)
  | .reinterpret _ target, x => some (target.ofBits x.bits)
  | _, _ => none

/-- The result of an instruction that looks at its operands and nothing else: the new stack, or the
trap. -/
def pureStep (instr : Instr) (stack : List Val) : Except Trap (List Val) :=
  match instr, stack with
  | .const v, stack => .ok (v :: stack)
  | .nop, stack => .ok stack
  | .drop, _ :: stack => .ok stack
  | .select _, .i32 c :: b :: a :: stack => .ok ((if c = 0 then b else a) :: stack)
  | .testZero .w32, .i32 x :: stack => .ok (Val.ofBool (x == 0) :: stack)
  | .testZero .w64, .i64 x :: stack => .ok (Val.ofBool (x == 0) :: stack)
  | .compare .w32 op, .i32 y :: .i32 x :: stack => .ok (Val.ofBool (compare32 op x y) :: stack)
  | .compare .w64 op, .i64 y :: .i64 x :: stack => .ok (Val.ofBool (compare64 op x y) :: stack)
  | .unary .w32 op, .i32 x :: stack => .ok (.i32 (unary32 op x) :: stack)
  | .unary .w64 op, .i64 x :: stack => .ok (.i64 (unary64 op x) :: stack)
  | .binary .w32 op, .i32 y :: .i32 x :: stack =>
    match binary32 op x y with
    | .ok z => .ok (.i32 z :: stack)
    | .error fault => .error fault.trap
  | .binary .w64 op, .i64 y :: .i64 x :: stack =>
    match binary64 op x y with
    | .ok z => .ok (.i64 z :: stack)
    | .error fault => .error fault.trap
  | .convert op, x :: stack =>
    match convert? op x with
    | some y => .ok (y :: stack)
    | none => .error .illTyped
  | .refIsNull, .ref _ target :: stack => .ok (Val.ofBool target.isNone :: stack)
  | .refFunc f, stack => .ok (.ref .funcRef (some f) :: stack)
  | _, _ => .error .illTyped

/-- The place of a memory in a store: all that a module imports are the one of the host, and its own
come behind it. -/
def Instance.place (i : Instance) (memory : Nat) : Nat := memory + 1 - i.imported

def Store.memoryAt? (store : Store) (place : Nat) : Option Memory :=
  match place with
  | 0 => some store.memory
  | n + 1 => store.others[n]?

/-- Changes the memory at a place, if that is possible. -/
def Store.change? (place : Nat) (change : Memory → Option Memory) (store : Store) : Option Store :=
  match store with
  | ⟨memory, others, globals, tables, segments, fuel⟩ =>
    match place with
    | 0 => (change memory).map fun memory => ⟨memory, others, globals, tables, segments, fuel⟩
    | n + 1 => do
      let changed ← change (← others[n]?)
      return ⟨memory, others.setIfInBounds n changed, globals, tables, segments, fuel⟩

/-- Changes the memory at a place; what is not possible lies outside of it. -/
def Store.change (place : Nat) (change : Memory → Option Memory) (stack : List Val) (store : Store) :
    Except Trap (Store × List Val) :=
  match store.change? place change with
  | some store => .ok (store, stack)
  | none => .error .memoryBounds

/-- The octets of a memory from `start` on, if they lie inside. -/
def Store.slice? (store : Store) (place start count : Nat) : Option Bytes := do
  let memory ← store.memoryAt? place
  if start + count ≤ memory.size then some (memory.slice start (start + count)) else none

/-- An instruction on memories, with its operands: the new store and stack, or the trap. -/
def memoryStep (i : Instance) (instr : Instr) (store : Store) (stack : List Val) :
    Except Trap (Store × List Val) :=
  match instr, stack with
  | .load a, .i32 base :: stack =>
    match (store.memoryAt? (i.place a.memory)).bind (·.load? (base.toNat + a.offset) a.width) with
    | some found => .ok (store, a.value found :: stack)
    | none => .error .memoryBounds
  | .store a, value :: .i32 base :: stack =>
    let bits := value.bits % 256 ^ a.width
    store.change (i.place a.memory) (·.store? (base.toNat + a.offset) a.width bits) stack
  | .memorySize memory, stack =>
    match store.memoryAt? (i.place memory) with
    | some found => .ok (store, .i32 found.pages.toUInt32 :: stack)
    | none => .error .illTyped
  | .memoryGrow memory, .i32 more :: stack =>
    let before := ((store.memoryAt? (i.place memory)).map (·.pages)).getD 0
    match store.change? (i.place memory) (·.grow? more.toNat) with
    | some grown => .ok (grown, .i32 before.toUInt32 :: stack)
    | none => .ok (store, .i32 0xFFFFFFFF :: stack)
  | .memoryCopy into outOf, .i32 count :: .i32 source :: .i32 target :: stack =>
    match store.slice? (i.place outOf) source.toNat count.toNat with
    | some data => store.change (i.place into) (·.write? target.toNat data) stack
    | none => .error .memoryBounds
  | .memoryFill memory, .i32 count :: .i32 value :: .i32 target :: stack =>
    match store.slice? (i.place memory) target.toNat count.toNat with
    | some _ =>
      let data := List.replicate count.toNat value.toUInt8
      store.change (i.place memory) (·.write? target.toNat data) stack
    | none => .error .memoryBounds
  | .memoryInit segment memory, .i32 count :: .i32 source :: .i32 target :: stack =>
    let data := (store.segments[segment]?).getD []
    if source.toNat + count.toNat ≤ data.length then
      let part := (data.drop source.toNat).take count.toNat
      store.change (i.place memory) (·.write? target.toNat part) stack
    else .error .memoryBounds
  | .dataDrop segment, stack =>
    .ok ({ store with segments := store.segments.setIfInBounds segment [] }, stack)
  | _, _ => .error .illTyped

namespace Machine

/-- Leaves the innermost block at its end, or returns from the function. -/
def leave (m : Machine) : Step :=
  match m.labels with
  | label :: labels =>
    .next { m with labels, stack := m.stack ++ label.below, code := label.after }
  | [] =>
    let results := m.stack.take m.arity
    match m.callers with
    | [] => .finished results m.store
    | caller :: callers =>
      .next ⟨m.store, caller.locals, caller.labels, results ++ caller.stack, caller.code,
        caller.arity, callers, m.depth - 1⟩

def return_ (m : Machine) : Step := leave { m with labels := [] }

/-- Jumps to an enclosing block; the outermost jump returns from the function. -/
def jump (m : Machine) (label : Nat) : Step :=
  match m.labels.drop label with
  | target :: labels =>
    .next { m with
      labels
      stack := m.stack.take target.arity ++ target.below
      code := target.target }
  | [] => m.return_

/-- Enters a block. A jump to a loop starts it again. -/
def enter (i : Instance) (m : Machine) (type : BlockType) (body : List Instr)
    (again : Option Instr) (rest : List Instr) : Step :=
  match Module.blockType? i.types type with
  | none => .trapped .illTyped
  | some f =>
    let params := f.params.length
    let below := m.stack.drop params
    let label : Label := match again with
      | some loop => ⟨params, loop :: rest, rest, below⟩
      | none => ⟨f.results.length, rest, rest, below⟩
    .next { m with labels := label :: m.labels, stack := m.stack.take params, code := body }

/-- Calls a function with the operands on top. -/
def invoke (i : Instance) (m : Machine) (f : Nat) (rest : List Instr) : Step :=
  match i.functions[f]? with
  | none => .trapped .illTyped
  | some (.host which) =>
    let count := which.type.params.length
    .asked which (m.stack.take count).reverse { m with stack := m.stack.drop count, code := rest }
  | some (.code type locals body) =>
    if maxCalls ≤ m.depth then .trapped .stack
    else
      let count := type.params.length
      let caller : Caller := ⟨m.locals, m.labels, m.stack.drop count, rest, m.arity⟩
      .next ⟨m.store, ((m.stack.take count).reverse ++ locals).toArray, [], [], body,
        type.results.length, caller :: m.callers, m.depth + 1⟩

/-- The function that an element of a table refers to, if it has the type. -/
def callee? (i : Instance) (m : Machine) (type table index : Nat) : Except Trap Nat :=
  match m.store.tables[table]?.bind fun t => t[index]? with
  | none => .error .tableBounds
  | some none => .error .indirectCall
  | some (some f) =>
    match i.functions[f]?, i.types[type]? with
    | some callee, some wanted => if callee.type = wanted then .ok f else .error .indirectCall
    | _, _ => .error .illTyped

/-- Executes one instruction. -/
def step (i : Instance) (m : Machine) : Step :=
  match m.code with
  | [] => m.leave
  | instr :: rest =>
    match instr with
    | .unreachable => .trapped .unreachable
    | .block type body => m.enter i type body none rest
    | .loop type body => m.enter i type body (some instr) rest
    | .branch type yes no =>
      match m.stack with
      | .i32 c :: stack =>
        enter i { m with stack } type (if c = 0 then no else yes) none rest
      | _ => .trapped .illTyped
    | .br label => m.jump label
    | .brIf label =>
      match m.stack with
      | .i32 c :: stack =>
        if c = 0 then .next { m with stack, code := rest } else jump { m with stack } label
      | _ => .trapped .illTyped
    | .brTable labels default =>
      match m.stack with
      | .i32 c :: stack => jump { m with stack } ((labels[c.toNat]?).getD default)
      | _ => .trapped .illTyped
    | .ret => m.return_
    | .call f => m.invoke i f rest
    | .callIndirect type table =>
      match m.stack with
      | .i32 c :: stack =>
        match m.callee? i type table c.toNat with
        | .ok f => invoke i { m with stack } f rest
        | .error trap => .trapped trap
      | _ => .trapped .illTyped
    | .localGet index =>
      match m.locals[index]? with
      | some v => .next { m with stack := v :: m.stack, code := rest }
      | none => .trapped .illTyped
    | .localSet index =>
      match m.stack with
      | v :: stack =>
        .next { m with locals := m.locals.setIfInBounds index v, stack, code := rest }
      | [] => .trapped .illTyped
    | .localTee index =>
      match m.stack with
      | v :: _ => .next { m with locals := m.locals.setIfInBounds index v, code := rest }
      | [] => .trapped .illTyped
    | .globalGet index =>
      match m.store.globals[index]? with
      | some v => .next { m with stack := v :: m.stack, code := rest }
      | none => .trapped .illTyped
    | .globalSet index =>
      match m.stack with
      | v :: stack =>
        let globals := m.store.globals.setIfInBounds index v
        .next { m with store := { m.store with globals }, stack, code := rest }
      | [] => .trapped .illTyped
    | .load _ | .store _ | .memorySize _ | .memoryGrow _ | .memoryCopy .. | .memoryFill _
    | .memoryInit .. | .dataDrop _ =>
      match m with
      | ⟨store, locals, labels, stack, _, arity, callers, depth⟩ =>
        match memoryStep i instr store stack with
        | .ok (store, stack) => .next ⟨store, locals, labels, stack, rest, arity, callers, depth⟩
        | .error trap => .trapped trap
    | instr =>
      match pureStep instr m.stack with
      | .ok stack => .next { m with stack, code := rest }
      | .error trap => .trapped trap

/-- What a run leads to. -/
inductive Pause
  | finished (results : List Val) (store : Store)
  | trapped (trap : Trap)
  | asked (which : HostFunction) (args : List Val) (m : Machine)

/-- Executes instructions until the machine stops, each at the price of one unit of fuel. -/
def run (i : Instance) : (fuel : Nat) → Machine → Pause
  | 0, _ => .trapped .fuel
  | fuel + 1, m =>
    match step i m with
    | .next m => run i fuel m
    | .finished results store => .finished results { store with fuel }
    | .trapped trap => .trapped trap
    | .asked which args m => .asked which args { m with store := { m.store with fuel } }

def calling (store : Store) (f : Nat) (args : List Val) (arity : Nat) : Machine :=
  ⟨store, #[], [], args.reverse, [.call f], arity, [], 0⟩

end Machine

end PolicyHost.Wasm
