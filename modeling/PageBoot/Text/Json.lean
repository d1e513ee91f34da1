import PageBoot.Text.Utf8

/-!
Texts as JSON strings that are safe inside HTML: angle brackets, ampersands and the two line
separators are written as escapes.
-/

namespace PageBoot.Text

private def unicodeEscape (n : Nat) : Text := ofString "\\u" ++ ofNatPadded 16 4 n

def jsonScalar : Scalar → Text
  | .stray _ => unicodeEscape 0xFFFD
  | .char c =>
    let n := c.toNat
    if n = 34 ∨ n = 92 then 92 :: ofCode n
    else if n = 8 then ofString "\\b"
    else if n = 12 then ofString "\\f"
    else if n = 10 then ofString "\\n"
    else if n = 13 then ofString "\\r"
    else if n = 9 then ofString "\\t"
    else if n < 32 ∨ n = 60 ∨ n = 62 ∨ n = 38 ∨ n = 0x2028 ∨ n = 0x2029 then unicodeEscape n
    else ofCode n

def jsonString (t : Text) : Text := [34] ++ t.scalars.flatMap jsonScalar ++ [34]

end PageBoot.Text
