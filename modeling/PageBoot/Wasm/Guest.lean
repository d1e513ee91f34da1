import PageBoot.Wasm.Draft
import PageBoot.Wasm.Instr

/-!
Connector guests: small modules that speak the plugin side of the connection. A guest allocates
from a heap that only grows, answers the handshake by its behaviour, counts disconnect calls,
and may echo dispatched calls.
-/

namespace PageBoot.Wasm.Guest

/-! ## Names shared by host and guest -/

def hostModule : Text := "bridge"
def disconnectedImport : Text := "disconnected"
def memoryExport : Text := "memory"
def allocExport : Text := "alloc"
def initExport : Text := "init"
def connectExport : Text := "connect"
def disconnectExport : Text := "disconnect"
def dispatchExport : Text := "dispatch"
def disconnectCallsExport : Text := "disconnect_calls"

/-- The kind of a dispatch result: an integer, an object id, or a thrown integer. -/
inductive ResultKind where
  | value
  | object
  | exception
  deriving DecidableEq, Repr

def ResultKind.code : ResultKind → Int
  | .value => 0
  | .object => 1
  | .exception => 2

structure Behavior where
  /-- The answer to `init`. -/
  init : Bool := false
  /-- The answer to `connect`. -/
  accept : Bool := false
  /-- Accept only protocol versions of three bytes that start with `2`. -/
  checkVersion : Bool := false
  /-- How often `connect` signals a lost connection before it answers. -/
  signals : Int := 0
  /-- Whether calls are echoed. -/
  dispatch : Bool := false
  deriving DecidableEq, Repr

def loopback : Behavior := { init := true, accept := true, checkVersion := true, dispatch := true }

private def truth (b : Bool) : Instr := .const (if b then 1 else 0)

def allocBody (heap : Nat) : List Instr :=
  [.globalGet heap, .globalGet heap, .localGet 0, .add, .globalSet heap]

def connectBody (b : Behavior) (signal : Nat) : List Instr :=
  List.replicate b.signals.toNat (.call signal) ++
    (if !b.accept then [.const 0]
    else if b.checkVersion then
      [.localGet 8, .load8 0 0, .const 50, .eq, .localGet 9, .const 3, .eq, .and]
    else [.const 1])

def disconnectBody (calls : Nat) : List Instr :=
  [.globalGet calls, .const 1, .add, .globalSet calls]

/-- Id 0 gives the receiver back, id 1 the first argument, a negative id throws itself, and any
other id gives itself plus the number of arguments. -/
def dispatchBody : List Instr :=
  let negative : List Instr := [.localGet 0, .const 0, .ltS]
  let echo : List Instr := [.localGet 0, .const 1, .leU]
  let kind (k : ResultKind) : Instr := .const k.code
  [kind .exception, kind .object, kind .value] ++ echo ++ [.select] ++ negative ++ [.select] ++
  [.localGet 0, .localGet 1, .localGet 3, .load 2 0, .localGet 0, .eqz, .select,
    .localGet 0, .localGet 2, .add] ++ echo ++ [.select] ++ negative ++ [.select]

/-- The module of a guest. -/
def draft (b : Behavior) : Draft :=
  let signal := 0
  let d : Draft :=
    { types := [⟨[], []⟩], imports := [⟨hostModule, disconnectedImport, 0⟩] }
  let d := d.memory 1 memoryExport
  let (heap, d) := d.global [] 1024 true
  let (calls, d) := d.global disconnectCallsExport 0 true
  let (_, d) := d.func allocExport [.i32] [.i32] (Instr.code (allocBody heap))
  let (_, d) := d.func initExport [] [.i32] (truth b.init).bytes
  let (_, d) := d.func connectExport (List.replicate 10 .i32) [.i32]
    (Instr.code (connectBody b signal))
  let (_, d) := d.func disconnectExport [] [] (Instr.code (disconnectBody calls))
  if b.dispatch then
    (d.func dispatchExport (List.replicate 4 .i32) [.i32, .i32] (Instr.code dispatchBody)).2
  else d

def bytes (b : Behavior) : Text := (draft b).build

end PageBoot.Wasm.Guest
