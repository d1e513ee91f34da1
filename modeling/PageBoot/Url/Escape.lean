import PageBoot.Text.Basic

/-!
Percent escapes in the parts of a URL. Each part has its own set of bytes that stand for
themselves; every other byte is written as a percent sign and two hexadecimal digits. In a
query a space is written as a plus sign.
-/

namespace PageBoot.Url

/-- The part of a URL a text stands in. -/
inductive Part where
  | path
  | segment
  | host
  | zone
  | user
  | query
  | fragment
  deriving DecidableEq, Repr

def isAlnum (b : UInt8) : Bool :=
  (97 ≤ b && b ≤ 122) || (65 ≤ b && b ≤ 90) || (48 ≤ b && b ≤ 57)

def among (s : String) (b : UInt8) : Bool := (Text.ofString s).contains b

/-- Whether a byte has to be escaped in a part. -/
def mustEscape (part : Part) (b : UInt8) : Bool :=
  if isAlnum b then false
  else if (part = .host || part = .zone) && among "!$&'()*+,;=:[]<>\"" b then false
  else if among "-_.~" b then false
  else if among "$&+,/:;=?@" b then
    match part with
    | .path => b == 63
    | .segment => among "/;,?" b
    | .user => among "@/?:" b
    | .query => true
    | .fragment => false
    | _ => true
  else if part = .fragment && among "!()*" b then false
  else true

def upperHex (n : UInt8) : UInt8 := if n < 10 then 48 + n else 55 + n

def escapeByte (part : Part) (b : UInt8) : Text :=
  if mustEscape part b then
    if b = 32 ∧ part = .query then [43] else [37, upperHex (b / 16), upperHex (b % 16)]
  else [b]

def escape (part : Part) (t : Text) : Text := t.flatMap (escapeByte part)

/-- Whether an escaped byte `v` may stand in the part. A host admits escapes of bytes beyond
ASCII and of the percent sign only. -/
def escapeAllowed (part : Part) (v : UInt8) : Bool :=
  match part with
  | .host => v ≥ 0x80 || v == 37
  | .zone => v == 37 || v == 32 || !mustEscape .host v
  | _ => true

def plainAllowed (part : Part) (b : UInt8) : Bool :=
  match part with
  | .host | .zone => b ≥ 0x80 || !mustEscape part b
  | _ => true

/-- Undoes the escapes of a part; `none` when an escape is malformed or not allowed there. -/
def unescape? (part : Part) : Text → Option Text
  | [] => some []
  | 37 :: a :: b :: rest => do
    let hi ← Text.hexDigit? a
    let lo ← Text.hexDigit? b
    let v := hi * 16 + lo
    if escapeAllowed part v then
      let t ← unescape? part rest
      return v :: t
    else none
  | b :: rest =>
    if b = 37 then none
    else if b = 43 ∧ part = .query then (unescape? part rest).map (32 :: ·)
    else if plainAllowed part b then (unescape? part rest).map (b :: ·)
    else none

end PageBoot.Url
