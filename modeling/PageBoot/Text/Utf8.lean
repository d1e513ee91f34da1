import PageBoot.Text.Basic

/-!
Reading texts as UTF-8. A byte that starts no well-formed sequence is a stray byte of its
own, so every text has exactly one reading and can be put together again from it.
-/

namespace PageBoot.Text

/-- What stands at one place of a text. -/
inductive Scalar where
  | char (c : Char)
  | stray (b : UInt8)
  deriving DecidableEq, Repr, Inhabited

namespace Scalar

/-- The code point shown for the scalar; a stray byte shows as U+FFFD. -/
def code : Scalar → Nat
  | .char c => c.toNat
  | .stray _ => 0xFFFD

def bytes : Scalar → Text
  | .char c => String.utf8EncodeChar c
  | .stray b => [b]

end Scalar

def isTail (b : UInt8) : Bool := 0x80 ≤ b && b ≤ 0xBF

def low6 (b : UInt8) : Nat := b.toNat % 64

/-- Code point of the sequence that starts with `a` and goes on in the given bytes, with the
number of bytes after `a` that belong to it. -/
def sequence? (a : UInt8) (rest : Text) : Option (Nat × Nat) :=
  if a < 0x80 then some (a.toNat, 0)
  else if 0xC2 ≤ a ∧ a ≤ 0xDF then
    match rest with
    | b :: _ => if isTail b then some (a.toNat % 32 * 64 + low6 b, 1) else none
    | _ => none
  else if 0xE0 ≤ a ∧ a ≤ 0xEF then
    match rest with
    | b :: c :: _ =>
      let lo : UInt8 := if a = 0xE0 then 0xA0 else 0x80
      let hi : UInt8 := if a = 0xED then 0x9F else 0xBF
      if lo ≤ b ∧ b ≤ hi ∧ isTail c then
        some ((a.toNat % 16 * 64 + low6 b) * 64 + low6 c, 2)
      else none
    | _ => none
  else if 0xF0 ≤ a ∧ a ≤ 0xF4 then
    match rest with
    | b :: c :: d :: _ =>
      let lo : UInt8 := if a = 0xF0 then 0x90 else 0x80
      let hi : UInt8 := if a = 0xF4 then 0x8F else 0xBF
      if lo ≤ b ∧ b ≤ hi ∧ isTail c ∧ isTail d then
        some (((a.toNat % 8 * 64 + low6 b) * 64 + low6 c) * 64 + low6 d, 3)
      else none
    | _ => none
  else none

/-- Reads on after skipping the tail bytes of the sequence before. -/
def scalarsAfter : Nat → Text → List Scalar
  | _, [] => []
  | skip + 1, _ :: t => scalarsAfter skip t
  | 0, a :: t =>
    match sequence? a t with
    | some (n, k) => .char (Char.ofNat n) :: scalarsAfter k t
    | none => .stray a :: scalarsAfter 0 t

def scalars (t : Text) : List Scalar := scalarsAfter 0 t

def ofScalars (ss : List Scalar) : Text := ss.flatMap Scalar.bytes

/-- Code points of a text, stray bytes as U+FFFD. -/
def codes (t : Text) : List Nat := (scalars t).map Scalar.code

def isValid (t : Text) : Bool :=
  (scalars t).all fun
    | .char _ => true
    | .stray _ => false

/-- The text as a string of characters, when it is UTF-8. -/
def toString? (t : Text) : Option String :=
  let ss := scalars t
  let cs := ss.filterMap fun
    | .char c => some c
    | .stray _ => none
  if cs.length = ss.length then some (String.ofList cs) else none

def isAscii (t : Text) : Bool := t.all (· < 0x80)

/-- UTF-8 form of a code point; a surrogate or a number out of range is written as U+FFFD. -/
def ofCode (n : Nat) : Text :=
  if n.isValidChar then String.utf8EncodeChar (Char.ofNat n) else [0xEF, 0xBF, 0xBD]

end PageBoot.Text
