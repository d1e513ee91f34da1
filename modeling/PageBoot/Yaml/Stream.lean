import PageBoot.Text.Utf8

/-!
The characters of a YAML stream. Bytes are read in blocks. A block with a flaw in it is refused
as a whole, but only when it is reached: the characters before it can be read.
-/

namespace PageBoot.Yaml

/-- Characters that may stand in a stream. -/
def isAllowed (c : Char) : Bool :=
  let n := c.toNat
  n == 9 || n == 10 || n == 13 || (0x20 ≤ n && n ≤ 0x7E) || n == 0x85 || (0xA0 ≤ n && n ≤ 0xD7FF) ||
    (0xE000 ≤ n && n ≤ 0xFFFD) || 0x10000 ≤ n

/-- What is read at a place of a stream of bytes. -/
inductive Reading where
  | char (c : Char) (width : Nat)
  /-- The bytes end inside a character. -/
  | broken
  | refused
  deriving DecidableEq, Repr

namespace Reading

def ofCode (code width : Nat) : Reading :=
  if code.isValidChar && isAllowed (Char.ofNat code) then .char (Char.ofNat code) width else .refused

/-- How many bytes a character in UTF-8 has, by its first byte; zero when none begins so. -/
def utf8Width (b : UInt8) : Nat :=
  if b < 0x80 then 1
  else if b < 0xC0 then 0
  else if b < 0xE0 then 2
  else if b < 0xF0 then 3
  else if b < 0xF8 then 4
  else 0

def utf8 : Text → Reading
  | [] => .broken
  | b :: t =>
    let width := utf8Width b
    if width = 0 then .refused
    else if t.length + 1 < width then .broken
    else match Text.sequence? b t with
      | some (code, _) => ofCode code width
      | none => .refused

/-- A character of one or two code units; `unit` puts the bytes of a unit together. -/
def utf16 (unit : UInt8 → UInt8 → Nat) : Text → Reading
  | a :: b :: t =>
    let high := unit a b
    if high < 0xD800 ∨ 0xE000 ≤ high then ofCode high 2
    else if 0xDC00 ≤ high then .refused
    else match t with
      | c :: d :: _ =>
        let low := unit c d
        if 0xDC00 ≤ low ∧ low < 0xE000 then ofCode (0x10000 + (high - 0xD800) * 0x400 + (low - 0xDC00)) 4
        else .refused
      | _ => .broken
  | _ => .broken

end Reading

/-- Bytes of a block. -/
def blockSize : Nat := 512

/-- The characters of a stream, as far as it can be read. -/
structure Stream where
  characters : List Char
  /-- Something follows that cannot be read. -/
  isCut : Bool

namespace Stream

def before (s : Stream) (cs : List Char) : Stream := { s with characters := cs ++ s.characters }

/-- Reads block after block. `used` counts the bytes of the current block, and `block` holds its
characters, the last one first. -/
def read (next : Text → Reading) : Nat → Text → Nat → List Char → Stream
  | 0, _, _, block => ⟨block.reverse, false⟩
  | fuel + 1, t, used, block =>
    if t.isEmpty then ⟨block.reverse, false⟩
    else match next t with
      | .broken => ⟨block.reverse, true⟩
      | .refused => ⟨if used < blockSize then [] else block.reverse, true⟩
      | .char c width =>
        if used + width ≤ blockSize then read next fuel (t.drop width) (used + width) (c :: block)
        else (read next fuel (t.drop width) width [c]).before block.reverse

/-- Reads a stream by its byte order mark; without one it is UTF-8. -/
def ofText (t : Text) : Stream :=
  match t with
  | 0xFF :: 0xFE :: u => read (Reading.utf16 fun a b => a.toNat + b.toNat * 256) u.length u 2 []
  | 0xFE :: 0xFF :: u => read (Reading.utf16 fun a b => a.toNat * 256 + b.toNat) u.length u 2 []
  | 0xEF :: 0xBB :: 0xBF :: u => read Reading.utf8 u.length u 3 []
  | _ => read Reading.utf8 t.length t 0 []

end Stream

end PageBoot.Yaml
