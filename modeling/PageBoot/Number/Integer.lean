import PageBoot.Text.Basic

/-!
Reading integers of 64 bits. The base is marked in front of the digits.
-/

namespace PageBoot.Integer

private def digit? (base : Nat) (b : UInt8) : Option Nat :=
  (Text.hexDigit? b).bind fun d => if d.toNat < base then some d.toNat else none

/-- A non-empty row of digits of a base. -/
def natural? (base : Nat) (t : Text) : Option Nat :=
  if t.isEmpty then none else t.foldl (fun n b => do return (← n) * base + (← digit? base b)) (some 0)

/-- The base that is marked in front of a number, and its digits: `0x`, `0o`, `0b`, or `0` for octal. -/
def splitBase : Text → Nat × Text
  | [48] => (10, [48])
  | 48 :: m :: c :: t =>
    if m = 120 ∨ m = 88 then (16, c :: t)
    else if m = 111 ∨ m = 79 then (8, c :: t)
    else if m = 98 ∨ m = 66 then (2, c :: t)
    else (8, m :: c :: t)
  | 48 :: t => (8, t)
  | t => (10, t)

/-- A natural number with its base marked in front. -/
def marked? (t : Text) : Option Nat :=
  let (base, digits) := splitBase t
  natural? base digits

/-- The least natural number that is too large for 64 bits with a sign. -/
def signedLimit : Nat := UInt64.size / 2

/-- An integer in 64 bits with a sign. -/
def withSign? (isNegative : Bool) (n : Nat) : Option Int :=
  if isNegative then (if n ≤ signedLimit then some (-(n : Int)) else none)
  else if n < signedLimit then some (n : Int)
  else none

/-- A sign, if one is there, and what follows it. -/
def splitSign : Text → Option Bool × Text
  | 45 :: t => (some true, t)
  | 43 :: t => (some false, t)
  | t => (none, t)

/-- An integer that fits 64 bits, signed or, without a sign, unsigned. `magnitude` reads what follows
the sign. -/
def wordBy? (magnitude : Text → Option Nat) (t : Text) : Option Int :=
  match splitSign t with
  | (some isNegative, t) => (magnitude t).bind (withSign? isNegative)
  | (none, t) => (magnitude t).bind fun n => if n < UInt64.size then some (n : Int) else none

/-- An integer of 64 bits with its base marked. -/
def word? : Text → Option Int := wordBy? marked?

/-- An integer of 64 bits in a given base. -/
def wordIn? (base : Nat) : Text → Option Int := wordBy? (natural? base)

def isDecimal (b : UInt8) : Bool := 48 ≤ b && b ≤ 57

/-- Whether every underscore stands between two digits; `afterDigit` tells whether something that
counts as a digit stands before the text. -/
def isSpaced (isDigit : UInt8 → Bool) : Bool → Text → Bool
  | _, [] => true
  | afterDigit, 95 :: b :: t => afterDigit && isDigit b && isSpaced isDigit false (b :: t)
  | _, [95] => false
  | _, b :: t => isSpaced isDigit (isDigit b) t

/-- A signed integer of 64 bits; underscores may stand between its digits, and after the mark of its
base. -/
def signed? (t : Text) : Option Int :=
  let (sign, body) := splitSign t
  let (base, digits) := splitBase body
  if isSpaced (fun b => (digit? base b).isSome) (base != 10) digits then
    (natural? base (digits.filter (· != 95))).bind (withSign? (sign.getD false))
  else none

end PageBoot.Integer
