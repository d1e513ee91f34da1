import PageBoot.Wasm.Draft
import PageBoot.Wasm.Instr
import PageBoot.Text.Utf8

/-!
Modules read from their binary form. Sections come in the order of their numbers; custom
sections are skipped. Every length has to be met exactly. Beyond its form a reader may demand
something of a module's names and of the size of its memory.
-/

namespace PageBoot.Wasm

/-- A function body: the types of its extra locals and its bytes up to the closing `end`. -/
structure Body where
  locals : List ValType
  code : Text
  deriving DecidableEq, Repr

structure GlobalDef where
  type : ValType
  mutable : Bool
  init : Int
  deriving DecidableEq, Repr

structure Module where
  types : List FuncType := []
  imports : List Import := []
  funcs : List Nat := []
  /-- Least number of pages of the memory, when there is one. -/
  memory : Option Nat := none
  globals : List GlobalDef := []
  exports : List Export := []
  bodies : List Body := []
  deriving DecidableEq, Repr

/-- What a reader demands beyond the form of a module. -/
structure Demands where
  isName : Text → Bool
  maxPages : Nat

namespace Demands

/-- Nothing is demanded: any bytes are a name, and a memory has any size. -/
def form : Demands := { isName := fun _ => true, maxPages := 4294967296 }

/-- What is demanded of modules that are to run: names are UTF-8, and a memory can be addressed. -/
def engine : Demands := { isName := Text.isValid, maxPages := 65536 }

end Demands

namespace Module

abbrev Reader (α : Type) := Text → Option (α × Text)

def readByte : Reader UInt8
  | [] => none
  | b :: t => some (b, t)

/-- Reads `n` items one after another. -/
def readMany {α : Type} (item : Reader α) : Nat → Reader (List α)
  | 0, t => some ([], t)
  | n + 1, t => do
    let (x, t) ← item t
    let (xs, t) ← readMany item n t
    return (x :: xs, t)

def readVector {α : Type} (item : Reader α) : Reader (List α) := fun t => do
  let (n, t) ← decodeU t
  if n > t.length then none else readMany item n t

def readBytes (n : Nat) : Reader Text := fun t =>
  if t.length < n then none else some (t.take n, t.drop n)

def readName (d : Demands) : Reader Text := fun t => do
  let (n, t) ← decodeU t
  let (name, t) ← readBytes n t
  if d.isName name then return (name, t) else none

def readValType : Reader ValType
  | 0x7F :: t => some (.i32, t)
  | 0x7E :: t => some (.i64, t)
  | 0x7D :: t => some (.f32, t)
  | 0x7C :: t => some (.f64, t)
  | _ => none

def readFuncType : Reader FuncType
  | 0x60 :: t => do
    let (params, t) ← readVector readValType t
    let (results, t) ← readVector readValType t
    return ({ params, results }, t)
  | _ => none

def readImport (d : Demands) : Reader Import := fun t => do
  let (module, t) ← readName d t
  let (name, t) ← readName d t
  let (kind, t) ← readByte t
  if kind ≠ 0 then none
  else
    let (typeIndex, t) ← decodeU t
    return ({ module, name, typeIndex }, t)

def readMemory (d : Demands) : Reader Nat := fun t => do
  let (flag, t) ← readByte t
  let (least, t) ← decodeU t
  if flag = 0 then return (least, t)
  else if flag = 1 then
    let (most, t) ← decodeU t
    if most < least ∨ most > d.maxPages then none else return (least, t)
  else none

def readGlobal : Reader GlobalDef := fun t => do
  let (type, t) ← readValType t
  let (mut_, t) ← readByte t
  let (op, t) ← readByte t
  if mut_ > 1 ∨ op ≠ 0x41 ∨ type ≠ .i32 then none
  else
    let (init, t) ← decodeS t
    let (fin, t) ← readByte t
    if fin ≠ 0x0B then none else return ({ type, mutable := mut_ == 1, init }, t)

def readExport (d : Demands) : Reader Export := fun t => do
  let (name, t) ← readName d t
  let (kind, t) ← readByte t
  let (index, t) ← decodeU t
  return ({ name, kind, index }, t)

def readLocals : Reader (List ValType) := fun t => do
  let (groups, t) ← readVector (fun t => do
    let (n, t) ← decodeU t
    let (v, t) ← readValType t
    return ((n, v), t)) t
  if groups.foldl (fun n g => n + g.1) 0 > 50000 then none
  else return (groups.flatMap fun (n, v) => List.replicate n v, t)

def readBody : Reader Body := fun t => do
  let (n, t) ← decodeU t
  let (body, t) ← readBytes n t
  let (locals, code) ← readLocals body
  if code.getLast? = some 0x0B then return ({ locals, code }, t) else none

/-- Reads a section that has to be used up by its contents. -/
def whole {α : Type} (r : Reader α) (body : Text) : Option α :=
  match r body with
  | some (x, []) => some x
  | _ => none

/-- Adds the contents of a section to the module. -/
def readSection (d : Demands) (m : Module) (id : UInt8) (body : Text) : Option Module :=
  match id with
  | 0x00 => (readName d body).map fun _ => m
  | 0x01 => (whole (readVector readFuncType) body).map fun types => { m with types }
  | 0x02 => (whole (readVector (readImport d)) body).map fun imports => { m with imports }
  | 0x03 => (whole (readVector decodeU) body).map fun funcs => { m with funcs }
  | 0x05 =>
    match whole (readVector (readMemory d)) body with
    | some [] => some m
    | some [pages] => if pages > d.maxPages then none else some { m with memory := some pages }
    | _ => none
  | 0x06 => (whole (readVector readGlobal) body).map fun globals => { m with globals }
  | 0x07 => (whole (readVector (readExport d)) body).map fun exports => { m with exports }
  | 0x0A => (whole (readVector readBody) body).map fun bodies => { m with bodies }
  | _ => none

/-- Reads sections in ascending order. The bound is the number of bytes. -/
def readSections (d : Demands) : Nat → UInt8 → Module → Text → Option Module
  | _, _, m, [] => some m
  | 0, _, _, _ => none
  | n + 1, last, m, id :: t => do
    let (size, t) ← decodeU t
    let (body, t) ← readBytes size t
    if id ≠ 0 ∧ id ≤ last then none
    else
      let m ← readSection d m id body
      readSections d n (if id = 0 then last else id) m t

def read? (d : Demands) (bytes : Text) : Option Module :=
  if Draft.header.isPrefixOf bytes then do
    let body := bytes.drop 8
    let m ← readSections d body.length 0 {} body
    if m.funcs.length = m.bodies.length then some m else none
  else none

end Module

end PageBoot.Wasm
