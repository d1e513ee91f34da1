import PageBoot.Text.Basic

/-!
LEB128 integers: seven bits a byte, least significant first, the top bit set on every byte but
the last. The signed form extends the sign from the last byte.
-/

namespace PageBoot.Wasm

/-- Unsigned form. -/
def encodeU (n : Nat) : Text :=
  if n < 128 then [UInt8.ofNat n] else UInt8.ofNat (n % 128 + 128) :: encodeU (n / 128)
termination_by n

/-- Signed form. -/
def encodeS (v : Int) : Text :=
  let low := (v % 128).toNat
  let rest := v / 128
  if (rest = 0 ∧ low < 64) ∨ (rest = -1 ∧ 64 ≤ low) then [UInt8.ofNat low]
  else UInt8.ofNat (low + 128) :: encodeS rest
termination_by v.natAbs
decreasing_by omega

/-- Reads an unsigned integer of at most `32 - shift` bits in the bytes left. -/
def decodeUFrom (shift : Nat) : Text → Option (Nat × Text)
  | [] => none
  | b :: t =>
    let low := b.toNat % 128
    if shift > 28 ∨ (shift = 28 ∧ low ≥ 16) then none
    else if b.toNat < 128 then some (low <<< shift, t)
    else (decodeUFrom (shift + 7) t).map fun (n, rest) => ((low <<< shift) + n, rest)

/-- Reads an unsigned integer of 32 bits. -/
def decodeU (t : Text) : Option (Nat × Text) := decodeUFrom 0 t

/-- Reads a signed integer. The last byte of five has room for four bits and the sign. -/
def decodeSFrom (shift : Nat) : Text → Option (Int × Text)
  | [] => none
  | b :: t =>
    let low := b.toNat % 128
    if shift > 28 ∨ (shift = 28 ∧ 8 ≤ low ∧ low < 120) then none
    else if b.toNat < 128 then
      let v : Int := if low < 64 then low else (low : Int) - 128
      some (v <<< shift, t)
    else (decodeSFrom (shift + 7) t).map fun (v, rest) => (((low : Int) <<< shift) + v, rest)

/-- Reads a signed integer of 32 bits. -/
def decodeS (t : Text) : Option (Int × Text) := decodeSFrom 0 t

end PageBoot.Wasm
