import PageBoot.Wasm.Leb128

/-!
Drafts of core wasm modules, and their binary form. Imports come before functions, so that the
index handed out for a definition stays its index whatever is added later.
-/

namespace PageBoot.Wasm

inductive ValType where
  | i32
  | i64
  | f32
  | f64
  deriving DecidableEq, Repr

def ValType.code : ValType → UInt8
  | .i32 => 0x7F
  | .i64 => 0x7E
  | .f32 => 0x7D
  | .f64 => 0x7C

def ValType.name : ValType → Text
  | .i32 => "i32"
  | .i64 => "i64"
  | .f32 => "f32"
  | .f64 => "f64"

/-- The type with a name; 32-bit integers stand in for types that are not known here. -/
def ValType.ofName (t : Text) : ValType :=
  ([ValType.i64, .f32, .f64].find? fun v => v.name == t).getD .i32

structure FuncType where
  params : List ValType
  results : List ValType
  deriving DecidableEq, Repr

structure Import where
  module : Text
  name : Text
  typeIndex : Nat
  deriving DecidableEq, Repr

structure Func where
  /-- The name it is exported under; none when empty. -/
  exportName : Text
  /-- Instructions without the closing `end`. -/
  body : Text
  typeIndex : Nat
  deriving DecidableEq, Repr

structure Global where
  exportName : Text
  init : Int
  mutable : Bool
  deriving DecidableEq, Repr

/-- An exported name, with the kind and index of what it names. -/
structure Export where
  name : Text
  kind : UInt8
  index : Nat
  deriving DecidableEq, Repr

structure Draft where
  types : List FuncType := []
  imports : List Import := []
  funcs : List Func := []
  globals : List Global := []
  memoryExport : Text := []
  memoryPages : Nat := 0
  deriving DecidableEq, Repr

namespace Draft

def addType (d : Draft) (params results : List ValType) : Nat × Draft :=
  (d.types.length, { d with types := d.types ++ [{ params, results }] })

/-- Imports a function and gives its index; `none` once a function has been defined. -/
def importFunc? (d : Draft) (module name : Text) (params results : List ValType) :
    Option (Nat × Draft) :=
  if d.funcs.isEmpty then
    let (typeIndex, d) := d.addType params results
    some (d.imports.length, { d with imports := d.imports ++ [{ module, name, typeIndex }] })
  else none

/-- Defines the memory, in pages of 64 KiB. -/
def memory (d : Draft) (pages : Nat) (exportName : Text) : Draft :=
  { d with memoryPages := pages, memoryExport := exportName }

def global (d : Draft) (exportName : Text) (init : Int) (mutable : Bool) : Nat × Draft :=
  (d.globals.length, { d with globals := d.globals ++ [{ exportName, init, mutable }] })

/-- Defines a function with no locals beyond its parameters and gives its index. -/
def func (d : Draft) (exportName : Text) (params results : List ValType) (body : Text) :
    Nat × Draft :=
  let (typeIndex, d) := d.addType params results
  (d.imports.length + d.funcs.length, { d with funcs := d.funcs ++ [{ exportName, body, typeIndex }] })

end Draft

/-! ## Binary form -/

def nameBytes (t : Text) : Text := encodeU t.length ++ t

def sectionBytes (id : UInt8) (body : Text) : Text := id :: encodeU body.length ++ body

/-- A vector: its length and its items. -/
def vector {α : Type} (item : α → Text) (items : List α) : Text :=
  encodeU items.length ++ items.flatMap item

def FuncType.bytes (t : FuncType) : Text :=
  [0x60] ++ vector (fun p => [p.code]) t.params ++ vector (fun r => [r.code]) t.results

def Import.bytes (i : Import) : Text :=
  nameBytes i.module ++ nameBytes i.name ++ [0x00] ++ encodeU i.typeIndex

def Global.bytes (g : Global) : Text :=
  [0x7F, if g.mutable then 0x01 else 0x00] ++ ([0x41] ++ encodeS g.init) ++ [0x0B]

def Export.bytes (e : Export) : Text := nameBytes e.name ++ [e.kind] ++ encodeU e.index

def Func.code (f : Func) : Text :=
  let body := [0x00] ++ f.body ++ [0x0B]
  encodeU body.length ++ body

namespace Draft

/-- Exports of functions, the memory and globals, in this order. -/
def exports (d : Draft) : List Export :=
  (d.funcs.zipIdx.filterMap fun (f, i) =>
    if f.exportName.isEmpty then none
    else some { name := f.exportName, kind := 0x00, index := d.imports.length + i }) ++
  (if d.memoryPages > 0 ∧ ¬ d.memoryExport.isEmpty then
    [{ name := d.memoryExport, kind := 0x02, index := 0 }] else []) ++
  (d.globals.zipIdx.filterMap fun (g, i) =>
    if g.exportName.isEmpty then none
    else some { name := g.exportName, kind := 0x03, index := i })

def header : Text := [0x00, 0x61, 0x73, 0x6D, 0x01, 0x00, 0x00, 0x00]

/-- A section that is left out when there is nothing to say in it. -/
def sectionUnless (empty : Bool) (id : UInt8) (body : Text) : List (UInt8 × Text) :=
  if empty then [] else [(id, body)]

/-- Numbers and contents of the sections, in their order. Those without entries are left out, but
for the exports. -/
def sections (d : Draft) : List (UInt8 × Text) :=
  sectionUnless d.types.isEmpty 0x01 (vector FuncType.bytes d.types) ++
  sectionUnless d.imports.isEmpty 0x02 (vector Import.bytes d.imports) ++
  sectionUnless d.funcs.isEmpty 0x03 (vector (fun f => encodeU f.typeIndex) d.funcs) ++
  sectionUnless (d.memoryPages == 0) 0x05 ([0x01, 0x00] ++ encodeU d.memoryPages) ++
  sectionUnless d.globals.isEmpty 0x06 (vector Global.bytes d.globals) ++
  [(0x07, vector Export.bytes d.exports)] ++
  sectionUnless d.funcs.isEmpty 0x0A (vector Func.code d.funcs)

/-- The module as bytes. -/
def build (d : Draft) : Text := header ++ d.sections.flatMap fun s => sectionBytes s.1 s.2

end Draft

end PageBoot.Wasm
