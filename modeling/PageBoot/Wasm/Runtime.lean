import PageBoot.Wasm.Guest
import PageBoot.Wasm.Machine

/-!
What a host needs of a runtime: it compiles modules, makes guests of them, calls their functions and
writes to their memory. Everything a host does is done through this interface, whatever runs the
guests; instances are the guests that run here.
-/

namespace PageBoot.Wasm

/-- A runtime, whose guests are of type `G`. -/
class Runtime (G : Type) where
  /-- Compiles a module. What comes back makes a guest of it under a name, and tells how often the
  guest signalled meanwhile. -/
  compile : Text → Except Failure (Text → Except Failure (G × Nat))
  /-- Index of the function that a guest exports under a name. -/
  func? : G → Text → Option Nat
  /-- Number of results that a function declares. -/
  results : G → Nat → Nat
  /-- Calls a function: its results, how often the guest signalled, and the guest afterwards. -/
  call : G → Nat → Stack → Except Failure Stack × Nat × G
  /-- Size of the memory in bytes, if there is one. -/
  size? : G → Option Nat
  /-- Writes to the memory, and tells whether that was done. -/
  write : G → Nat → Text → Bool × G
  close : G → G

namespace Instance

/-- The one import that the host offers. -/
def linkImport (i : Import × FuncType) : Except Failure Unit :=
  let (imp, type) := i
  if imp.module ≠ Guest.hostModule ∨ imp.name ≠ Guest.disconnectedImport then .error .foreign
  else if type ≠ ⟨[], []⟩ then
    .error (.saying ("import func[" ++ imp.module ++ "." ++ imp.name ++ "]") .foreign)
  else .ok ()

def startExport : Text := "_start"

/-- Links the imports, registers the name and runs the start function when there is one. -/
def instantiate (p : Program) (name : Text) : Except Failure (Instance × Nat) := do
  p.imports.forM linkImport
  if name = Guest.hostModule then throw .foreign
  let i := Instance.ofProgram p
  match i.func? startExport with
  | none => return (i, 0)
  | some f =>
    match i.call f [] with
    | (.ok _, signals, i) => return (i, signals)
    | (.error e, _, _) =>
      throw (.saying ("module[" ++ name ++ "] function[" ++ startExport ++ "] failed") e)

def results (i : Instance) (f : Nat) : Nat := ((i.type? f).getD ⟨[], []⟩).results.length

def size? (i : Instance) : Option Nat := i.memory.map (·.size)

def write (i : Instance) (place : Nat) (bytes : Text) : Bool × Instance :=
  (i.memory.any fun m => place + bytes.length ≤ m.size,
    { i with memory := i.memory.map (·.write place bytes) })

def close (i : Instance) : Instance := { i with closed := true }

instance : Runtime Instance where
  compile bytes := (compile bytes).map instantiate
  func? := func?
  results := results
  call := call
  size? := size?
  write := write
  close := close

@[simp] theorem runtime_func? (i : Instance) (name : Text) : Runtime.func? i name = i.func? name := rfl

@[simp] theorem runtime_call (i : Instance) (f : Nat) (args : Stack) : Runtime.call i f args = i.call f args :=
  rfl

@[simp] theorem runtime_size? (i : Instance) : Runtime.size? i = i.memory.map (·.size) := rfl

@[simp] theorem runtime_write (i : Instance) (place : Nat) (bytes : Text) :
    (Runtime.write i place bytes).2 = { i with memory := i.memory.map (·.write place bytes) } := rfl

end Instance

end PageBoot.Wasm
