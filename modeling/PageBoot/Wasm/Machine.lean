import PageBoot.Wasm.Check

/-!
Running programs. Guests have no store instruction, so only their globals change while they
run; memory is written by the host between calls. The one import that can be linked signals a
lost connection, and a run counts those signals. A chain of calls longer than there are
functions repeats one of them, and as there are no branches it would go on for ever: it is cut
off as an overflow of the call stack.
-/

namespace PageBoot.Wasm

/-! ## Memory -/

/-- A memory of `size` bytes, zero but for what was written to it, the last write first. -/
structure Memory where
  size : Nat
  writes : List (Nat × Text) := []
  deriving DecidableEq, Repr

namespace Memory

def pageSize : Nat := 65536

def byteIn : List (Nat × Text) → Nat → UInt8
  | [], _ => 0
  | (base, chunk) :: rest, a =>
    if base ≤ a ∧ a < base + chunk.length then (chunk[a - base]?).getD 0 else byteIn rest a

def byte (m : Memory) (a : Nat) : UInt8 := byteIn m.writes a

/-- Writes bytes if they fit. -/
def write (m : Memory) (a : Nat) (bytes : Text) : Memory :=
  if a + bytes.length ≤ m.size then { m with writes := (a, bytes) :: m.writes } else m

def load8? (m : Memory) (a : Nat) : Option UInt64 :=
  if a + 1 ≤ m.size then some (UInt64.ofNat (m.byte a).toNat) else none

/-- Four bytes as a number, least significant first. -/
def load32? (m : Memory) (a : Nat) : Option UInt64 :=
  if a + 4 ≤ m.size then
    some (UInt64.ofNat ((m.byte a).toNat + (m.byte (a + 1)).toNat * 256 +
      (m.byte (a + 2)).toNat * 65536 + (m.byte (a + 3)).toNat * 16777216))
  else none

/-- Four bytes of a number, least significant first. -/
def bytes32 (n : Nat) : Text :=
  [UInt8.ofNat (n % 256), UInt8.ofNat (n / 256 % 256), UInt8.ofNat (n / 65536 % 256),
    UInt8.ofNat (n / 16777216 % 256)]

end Memory

/-! ## Runs -/

/-- Operands are raw words of 64 bits; integers of 32 bits use the lower half. -/
abbrev Stack := List UInt64

/-- Why a run is cut off. -/
inductive TrapCause where
  | unreachable
  | outOfBounds
  | overflow
  deriving DecidableEq, Repr

namespace TrapCause

def text : TrapCause → Text
  | .unreachable => "unreachable"
  | .outOfBounds => "out of bounds memory access"
  | .overflow => "stack overflow"

end TrapCause

/-- A run that was cut off: why, and the functions that were running, innermost first. -/
structure Trap where
  cause : TrapCause
  frames : List Nat
  deriving DecidableEq, Repr

structure State where
  globals : List UInt64
  signals : Nat := 0
  deriving DecidableEq, Repr

/-- The low 32 bits of an integer. -/
def int32Word (n : Int) : UInt64 := UInt64.ofNat (n % UInt32.size).toNat

private def word (n : UInt32) : UInt64 := n.toUInt64

private def truth (b : Bool) : UInt64 := if b then 1 else 0

/-- Puts a word on the stack, if there is one. -/
def pushed (s : Stack) (cause : TrapCause) : Option UInt64 → Except TrapCause Stack
  | some v => .ok (v :: s)
  | none => .error cause

/-- Instructions that neither call nor change a global. A checked program has every operand and
every index it needs, so that only a load can leave the memory and only `unreachable` gets to the
last case. -/
def Instr.step (locals : Stack) (globals : List UInt64) (memory : Option Memory) :
    Instr → Stack → Except TrapCause Stack
  | .select, c :: b :: a :: s => .ok ((if c.toUInt32 ≠ 0 then a else b) :: s)
  | .localGet i, s => pushed s .unreachable locals[i]?
  | .globalGet i, s => pushed s .unreachable globals[i]?
  | .load _ o, a :: s => pushed s .outOfBounds (memory.bind (·.load32? (a.toUInt32.toNat + o)))
  | .load8 _ o, a :: s => pushed s .outOfBounds (memory.bind (·.load8? (a.toUInt32.toNat + o)))
  | .const v, s => .ok (int32Word v :: s)
  | .eqz, a :: s => .ok (truth (a.toUInt32 == 0) :: s)
  | .eq, b :: a :: s => .ok (truth (a.toUInt32 == b.toUInt32) :: s)
  | .ltS, b :: a :: s => .ok (truth (a.toUInt32.toInt32 < b.toUInt32.toInt32) :: s)
  | .leU, b :: a :: s => .ok (truth (a.toUInt32 ≤ b.toUInt32) :: s)
  | .add, b :: a :: s => .ok (word (a.toUInt32 + b.toUInt32) :: s)
  | .and, b :: a :: s => .ok (word (a.toUInt32 &&& b.toUInt32) :: s)
  | _, _ => .error .unreachable

abbrev Run (α : Type) := Except Trap α × State

/-- Runs the body of function `self`; `call` runs the functions it calls. -/
def runBody (p : Program) (memory : Option Memory) (self : Nat)
    (call : Nat → Stack → State → Run Stack) (locals : Stack) :
    List Instr → Stack → State → Run Stack
  | [], s, st => (.ok s, st)
  | .call f :: is, s, st =>
    let type := (p.funcs[f]?).getD ⟨[], []⟩
    let n := type.params.length
    match call f (s.take n).reverse st with
    | (.ok results, st) => runBody p memory self call locals is (results.reverse ++ s.drop n) st
    | (.error t, st) => (.error { t with frames := t.frames ++ [self] }, st)
  | .globalSet i :: is, v :: s, st =>
    runBody p memory self call locals is s { st with globals := st.globals.set i v }
  | i :: is, s, st =>
    match i.step locals st.globals memory s with
    | .ok s => runBody p memory self call locals is s st
    | .error c => (.error ⟨c, [self]⟩, st)

/-- Runs a function; the bound is the number of calls that may still be nested. -/
def run (p : Program) (memory : Option Memory) : Nat → Nat → Stack → State → Run Stack
  | depth, f, args, st =>
    if f < p.imports.length then (.ok [], { st with signals := st.signals + 1 })
    else match p.routines[f - p.imports.length]? with
      | none => (.error ⟨.unreachable, [f]⟩, st)
      | some r =>
        match depth with
        | 0 => (.error ⟨.overflow, [f]⟩, st)
        | depth + 1 =>
          match runBody p memory f (run p memory depth) (args ++ List.replicate r.locals 0)
              r.code [] st with
          | (.ok s, st) => (.ok (s.take r.type.results.length).reverse, st)
          | (.error t, st) => (.error t, st)

/-! ## Instances -/

structure Instance where
  program : Program
  globals : List UInt64
  memory : Option Memory
  closed : Bool := false
  deriving DecidableEq, Repr

namespace Instance

def ofProgram (p : Program) : Instance where
  program := p
  globals := p.globals.map fun g => int32Word g.init
  memory := p.memory.map fun pages => { size := pages * Memory.pageSize }

/-- Index of the function exported under a name. -/
def func? (i : Instance) (name : Text) : Option Nat :=
  (i.program.exports.find? fun e => e.kind == 0 && e.name == name).map (·.index)

def type? (i : Instance) (f : Nat) : Option FuncType := i.program.funcs[f]?

/-- The longest chain of nested calls that is let run. -/
def depthLimit (i : Instance) : Nat := max i.program.routines.length 64

/-- A function as it is shown in a stack trace. -/
def signature (i : Instance) (f : Nat) : Text :=
  let type := (i.type? f).getD ⟨[], []⟩
  let list (ts : List ValType) := Text.join "," (ts.map ValType.name)
  ".$" ++ Text.ofNat f ++ "(" ++ list type.params ++ ")" ++
    (match type.results with
      | [] => []
      | [r] => " " ++ r.name
      | rs => " (" ++ list rs ++ ")")

/-- The failure of a run that was cut off, with the innermost thirty functions that were running.
An overflow of the call stack is told without them. -/
def trapped (i : Instance) (t : Trap) : Failure :=
  let shown := (t.frames.take 30).map i.signature
  let lines :=
    if t.frames.length ≥ 30 then shown ++ (["... maybe followed by omitted frames"] : List Text)
    else shown
  match t.cause with
  | .overflow => .external t.cause.text
  | _ =>
    .remark "wasm error: " ("\nwasm stack trace:\n\t" ++ Text.join "\n\t" lines)
      (.external t.cause.text)

/-- What a call into a closed guest ends with. -/
def guestClosed : Failure := .external "module closed with exit_code(0)"

/-- Calls a function. The number of arguments has to be that of its parameters. A closed guest still
runs, but its results are not handed out. -/
def call (i : Instance) (f : Nat) (args : Stack) : Except Failure Stack × Nat × Instance :=
  let params := ((i.type? f).getD ⟨[], []⟩).params
  if params.length ≠ args.length then
    (.error (.external ("expected " ++ Text.ofNat params.length ++ " params, but passed " ++
      Text.ofNat args.length)), 0, i)
  else
    let (out, st) := run i.program i.memory i.depthLimit f args { globals := i.globals }
    let i' := { i with globals := st.globals }
    match out with
    | .ok results => (if i.closed then .error guestClosed else .ok results, st.signals, i')
    | .error t => (.error (i.trapped t), st.signals, i')

end Instance

end PageBoot.Wasm
