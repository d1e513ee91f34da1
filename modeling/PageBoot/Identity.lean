import PageBoot.Text.Basic

/-!
Session identities: sixteen characters with code points from 33 to 126, each drawn from a
source of integers.
-/

namespace PageBoot.Identity

def length : Nat := 16
def least : Nat := 33
def greatest : Nat := 126

/-- A source answers a bound with an integer, meant to be below the bound, and moves on. -/
abbrev Source (σ : Type) := Int → σ → Int × σ

/-- The byte for a drawn integer; the sum wraps around at 256. -/
def byteOf (v : Int) : UInt8 := UInt8.ofNat (((least : Int) + v) % 256).toNat

/-- Draws `n` bytes, one after another. -/
def draw {σ : Type} (source : Source σ) : Nat → σ → Text × σ
  | 0, s => ([], s)
  | n + 1, s =>
    let (v, s) := source ((greatest : Int) - least + 1) s
    let (rest, s) := draw source n s
    (byteOf v :: rest, s)

def generate {σ : Type} (source : Source σ) (s : σ) : Text × σ := draw source length s

def isValid (id : Text) : Bool :=
  id.length == length && id.all fun b => least ≤ b.toNat && b.toNat ≤ greatest

/-- A source that goes round a list of integers, or answers zero when the list is empty, and
records the bounds it was asked with. -/
structure Rounds where
  values : List Int
  next : Nat := 0
  asked : List Int := []

namespace Rounds

def source : Source Rounds := fun bound r =>
  let v := if r.values.isEmpty then 0 else (r.values[r.next % r.values.length]?).getD 0
  (v, { r with next := r.next + 1, asked := r.asked ++ [bound] })

end Rounds

/-- A source whose integers follow from a seed. It is for tests: whoever sees a few of them can tell
the rest. -/
structure Seeded where
  state : UInt64
  deriving DecidableEq, Repr

namespace Seeded

def ofSeed (seed : Int) : Seeded := ⟨UInt64.ofInt seed⟩

def stride : UInt64 := 0x9E3779B97F4A7C15

/-- Spreads the bits of a word. -/
def mix (x : UInt64) : UInt64 :=
  let x := (x ^^^ (x >>> 30)) * 0xBF58476D1CE4E5B9
  let x := (x ^^^ (x >>> 27)) * 0x94D049BB133111EB
  x ^^^ (x >>> 31)

/-- Answers zero to a bound that leaves nothing to draw. -/
def source : Source Seeded := fun bound s =>
  if bound ≤ 0 then (0, s)
  else
    let state := s.state + stride
    (((mix state).toNat : Int) % bound, ⟨state⟩)

/-- The first integers drawn below a bound. -/
def draws (bound : Int) : Nat → Seeded → List Int
  | 0, _ => []
  | n + 1, s =>
    let (v, s) := source bound s
    v :: draws bound n s

end Seeded

/-- Draws `n` identities, one after another. -/
def several {σ : Type} (source : Source σ) : Nat → σ → List Text
  | 0, _ => []
  | n + 1, s =>
    let (id, s) := generate source s
    id :: several source n s

end PageBoot.Identity
