import PageBoot.Text.Utf8
import PageBoot.Text.Printable

/-!
Quoted texts as they stand in messages: between double quotes, with every character that has
no visible form, and every stray byte, written as an escape.
-/

namespace PageBoot.Text

/-- The escape letters that stand after a backslash. -/
def escapeLetter? (n : Nat) : Option Char :=
  match n with
  | 7 => some 'a'
  | 8 => some 'b'
  | 12 => some 'f'
  | 10 => some 'n'
  | 13 => some 'r'
  | 9 => some 't'
  | 11 => some 'v'
  | _ => none

/-- A character that may be shown as it is, unless it is a quote or a backslash. -/
def quoteScalarIf (isShown : Nat → Bool) : Scalar → Text
  | .stray b => ofString "\\x" ++ hexByte b
  | .char c =>
    let n := c.toNat
    if n = 34 ∨ n = 92 then 92 :: ofCode n
    else if isShown n then ofCode n
    else match escapeLetter? n with
      | some l => ofChars ['\\', l]
      | none =>
        if n < 0x20 ∨ n = 0x7F then ofString "\\x" ++ ofNatPadded 16 2 n
        else if n < 0x10000 then ofString "\\u" ++ ofNatPadded 16 4 n
        else ofString "\\U" ++ ofNatPadded 16 8 n

def quoteScalar : Scalar → Text := quoteScalarIf isPrintable

/-- Characters that are shown as they are where only ASCII may stand. -/
def isPrintableAscii (n : Nat) : Bool := n < 0x80 && isPrintable n

def quote (t : Text) : Text := [34] ++ t.scalars.flatMap quoteScalar ++ [34]

/-- A text quoted in ASCII alone. -/
def asciiQuote (t : Text) : Text := [34] ++ t.scalars.flatMap (quoteScalarIf isPrintableAscii) ++ [34]

/-- Whether a character may stand in a raw quote: no control but the tab, no backquote, no byte order
mark. -/
def isRaw : Scalar → Bool
  | .stray _ => false
  | .char c => (c.toNat = 9 || 32 ≤ c.toNat) && c.toNat != 96 && c.toNat != 127 && c.toNat != 0xFEFF

/-- A text between backquotes where it can stand so, and quoted otherwise. -/
def rawQuote (t : Text) : Text := if t.scalars.all isRaw then [96] ++ t ++ [96] else t.quote

end PageBoot.Text
