import PageBoot.Wasm.Module
import PageBoot.Failure

/-!
Validation of modules. Every body is checked against its type with a stack of operand types;
after `unreachable` the stack yields operands of any type. What passes becomes a program: a
module with its instructions read.
-/

namespace PageBoot.Wasm

/-- A function body ready to run. -/
structure Routine where
  type : FuncType
  locals : Nat
  code : List Instr
  deriving DecidableEq, Repr

structure Program where
  imports : List (Import × FuncType)
  routines : List Routine
  memory : Option Nat
  globals : List GlobalDef
  exports : List Export
  deriving DecidableEq, Repr

/-- Types of the functions by their index, imports first. -/
def Program.funcs (p : Program) : List FuncType :=
  p.imports.map (·.2) ++ p.routines.map (·.type)

namespace Check

structure Context where
  funcs : List FuncType
  globals : List GlobalDef
  memory : Bool
  locals : List ValType

/-- Operand types, top first; `none` is an operand of any type. `dead` is set once the end of
the code cannot be reached. -/
structure Operands where
  stack : List (Option ValType) := []
  dead : Bool := false

namespace Operands

def pop (s : Operands) : Option (Option ValType × Operands) :=
  match s.stack with
  | v :: rest => some (v, { s with stack := rest })
  | [] => if s.dead then some (none, s) else none

def popType (s : Operands) (t : ValType) : Option Operands :=
  match s.pop with
  | some (some v, s) => if v = t then some s else none
  | some (none, s) => some s
  | none => none

def popTypes (s : Operands) : List ValType → Option Operands
  | [] => some s
  | t :: ts => (s.popType t).bind fun s => s.popTypes ts

def push (s : Operands) (t : ValType) : Operands := { s with stack := some t :: s.stack }

def pushAll (s : Operands) (ts : List ValType) : Operands := ts.foldl push s

end Operands

def unary (s : Operands) : Option Operands := (s.popType .i32).map (·.push .i32)

def binary (s : Operands) : Option Operands :=
  (s.popTypes [.i32, .i32]).map (·.push .i32)

/-- Operand types after an instruction. -/
def instr (c : Context) (s : Operands) : Instr → Option Operands
  | .unreachable => some { stack := [], dead := true }
  | .call f => do
    let t ← c.funcs[f]?
    let s ← s.popTypes t.params.reverse
    return s.pushAll t.results
  | .select => do
    let s ← s.popType .i32
    let (a, s) ← s.pop
    let (b, s) ← s.pop
    match a, b with
    | some a, some b => if a = b then return s.push a else none
    | some a, none => return s.push a
    | none, b => return { s with stack := b :: s.stack }
  | .localGet i => (c.locals[i]?).map s.push
  | .globalGet i => (c.globals[i]?).map fun g => s.push g.type
  | .globalSet i => do
    let g ← c.globals[i]?
    if g.mutable then s.popType g.type else none
  | .load align _ => if c.memory ∧ align ≤ 2 then unary s else none
  | .load8 align _ => if c.memory ∧ align = 0 then unary s else none
  | .const _ => some (s.push .i32)
  | .eqz => unary s
  | .eq | .ltS | .leU | .add | .and => binary s

def instrs (c : Context) : Operands → List Instr → Option Operands
  | s, [] => some s
  | s, i :: is => (instr c s i).bind fun s => instrs c s is

/-- Whether a body leaves exactly the results of its type. -/
def body (c : Context) (t : FuncType) (code : List Instr) : Bool :=
  match instrs c {} code with
  | none => false
  | some s =>
    match s.popTypes t.results.reverse with
    | some s => s.stack.isEmpty
    | none => false

end Check

namespace Module

def exportsValid (m : Module) (funcs : Nat) : Bool :=
  (m.exports.map (·.name)).eraseDups.length == m.exports.length &&
  m.exports.all fun e =>
    match e.kind with
    | 0x00 => e.index < funcs
    | 0x02 => e.index == 0 && m.memory.isSome
    | 0x03 => e.index < m.globals.length
    | _ => false

/-- How a function is called in a complaint: its place, and the names it is exported under. -/
def describe (m : Module) (i : Nat) : Text :=
  let names := m.exports.filterMap fun e =>
    if e.kind = 0 ∧ e.index = m.imports.length + i then some (Text.quote e.name) else none
  "function[" ++ Text.ofNat i ++ "]" ++
    Text.when (!names.isEmpty) (" export[" ++ Text.join "," (Text.sort names) ++ "]")

def checkBodies (m : Module) (funcs : List FuncType) :
    List (Nat × Body) → Nat → Except Failure (List Routine)
  | [], _ => .ok []
  | (typeIndex, b) :: rest, i =>
    match m.types[typeIndex]? with
    | none => .error .foreign
    | some type =>
      let context : Check.Context :=
        { funcs, globals := m.globals, memory := m.memory.isSome, locals := type.params ++ b.locals }
      let bad := .error (.saying ("invalid " ++ m.describe i) .foreign)
      match Instr.readAll? b.code.length b.code with
      | none => bad
      | some code =>
        if Check.body context type code then
          (checkBodies m funcs rest (i + 1)).map fun rs =>
            { type, locals := b.locals.length, code } :: rs
        else bad

/-- The program of a module that is well formed. -/
def check (m : Module) : Except Failure Program :=
  let typed := m.imports.filterMap fun i => (m.types[i.typeIndex]?).map fun t => (i, t)
  let own := m.funcs.filterMap fun i => m.types[i]?
  if typed.length ≠ m.imports.length ∨ own.length ≠ m.funcs.length then .error .foreign
  else
    let funcs := typed.map (·.2) ++ own
    if !exportsValid m funcs.length then .error .foreign
    else
      (checkBodies m funcs (m.funcs.zip m.bodies) 0).map fun routines =>
        { imports := typed, routines, memory := m.memory, globals := m.globals, exports := m.exports }

end Module

/-- Reads and validates a module. -/
def compile (bytes : Text) : Except Failure Program :=
  match Module.read? .engine bytes with
  | none => .error .foreign
  | some m => m.check

end PageBoot.Wasm
