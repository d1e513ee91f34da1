import PageBoot.Dict
import PageBoot.Wasm.Leb128

/-!
The instructions that connector guests are made of, with their binary form. Integers are of 32
bits.
-/

namespace PageBoot.Wasm

inductive Instr where
  | unreachable
  | call (f : Nat)
  | select
  | localGet (i : Nat)
  | globalGet (i : Nat)
  | globalSet (i : Nat)
  /-- Loads four bytes, least significant first. -/
  | load (align offset : Nat)
  /-- Loads one byte. -/
  | load8 (align offset : Nat)
  | const (v : Int)
  | eqz
  | eq
  | ltS
  | leU
  | add
  | and
  deriving DecidableEq, Repr

namespace Instr

def bytes : Instr → Text
  | .unreachable => [0x00]
  | .call f => 0x10 :: encodeU f
  | .select => [0x1B]
  | .localGet i => 0x20 :: encodeU i
  | .globalGet i => 0x23 :: encodeU i
  | .globalSet i => 0x24 :: encodeU i
  | .load a o => 0x28 :: encodeU a ++ encodeU o
  | .load8 a o => 0x2D :: encodeU a ++ encodeU o
  | .const v => 0x41 :: encodeS v
  | .eqz => [0x45]
  | .eq => [0x46]
  | .ltS => [0x48]
  | .leU => [0x4D]
  | .add => [0x6A]
  | .and => [0x71]

/-- Bytes of a sequence of instructions. -/
def code (is : List Instr) : Text := is.flatMap bytes

/-- The instruction with a name of the text format, and with a number where it takes one. Loads go
to the given address at their natural alignment. -/
def ofName? (name : Text) (n : Int) : Option Instr :=
  let named : Dict Instr :=
    [("unreachable", .unreachable), ("call", .call n.toNat), ("select", .select),
     ("local.get", .localGet n.toNat), ("global.get", .globalGet n.toNat),
     ("global.set", .globalSet n.toNat), ("i32.load", .load 2 0), ("i32.load8_u", .load8 0 0),
     ("i32.const", .const n), ("i32.eqz", .eqz), ("i32.eq", .eq), ("i32.lt_s", .ltS), ("i32.le_u", .leU),
     ("i32.add", .add), ("i32.and", .and)]
  named.get? name

/-- Reads one instruction. -/
def read? : Text → Option (Instr × Text)
  | [] => none
  | op :: t =>
    let index (f : Nat → Instr) := (decodeU t).map fun (n, t) => (f n, t)
    let memory (f : Nat → Nat → Instr) := do
      let (a, t) ← decodeU t
      let (o, t) ← decodeU t
      return (f a o, t)
    match op with
    | 0x00 => some (.unreachable, t)
    | 0x10 => index .call
    | 0x1B => some (.select, t)
    | 0x20 => index .localGet
    | 0x23 => index .globalGet
    | 0x24 => index .globalSet
    | 0x28 => memory .load
    | 0x2D => memory .load8
    | 0x41 => (decodeS t).map fun (v, t) => (.const v, t)
    | 0x45 => some (.eqz, t)
    | 0x46 => some (.eq, t)
    | 0x48 => some (.ltS, t)
    | 0x4D => some (.leU, t)
    | 0x6A => some (.add, t)
    | 0x71 => some (.and, t)
    | _ => none

/-- Reads instructions up to the closing `end`, which has to be the last byte. The bound is the
number of bytes. -/
def readAll? : Nat → Text → Option (List Instr)
  | _, [0x0B] => some []
  | 0, _ => none
  | n + 1, t => do
    let (i, t) ← read? t
    let is ← readAll? n t
    return i :: is

end Instr

end PageBoot.Wasm
