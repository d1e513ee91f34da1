import PageBoot.Number.Notation
import PageBoot.Text.Quoted

/-!
How arguments of a message are written: signs, padding, bases and numbers of digits.
-/

namespace PageBoot.Template

/-- What a template asks for besides the letter. -/
structure Style where
  /-- Positive numbers have a sign, and quoted texts are ASCII. -/
  plus : Bool := false
  /-- Blanks go after the argument. -/
  minus : Bool := false
  /-- The base of a number is marked, and quotes are raw. -/
  sharp : Bool := false
  /-- A blank stands for the sign of positive numbers. -/
  space : Bool := false
  /-- Zeros are put before the argument instead of blanks. -/
  zero : Bool := false
  width : Option Nat := none
  precision : Option Nat := none
  /-- Values are written as in a source text. -/
  literal : Bool := false

namespace Style

/-- What fills up to a number of characters. -/
def padding (s : Style) (n : Nat) : Text := List.replicate n (if s.zero && !s.minus then 48 else 32)

/-- A text filled up to the width, counted in characters. -/
def pad (s : Style) (t : Text) : Text :=
  let filler := s.padding (s.width.getD 0 - t.scalars.length)
  if s.minus then t ++ filler else filler ++ t

def padBlank (s : Style) (t : Text) : Text := { s with zero := false }.pad t

/-! ## Texts -/

/-- The characters that the precision leaves. -/
def shortened (s : Style) (t : Text) : Text :=
  match s.precision with
  | none => t
  | some n => Text.ofScalars (t.scalars.take n)

def text (s : Style) (t : Text) : Text := s.pad (s.shortened t)

def quoted (s : Style) (t : Text) : Text :=
  let t := s.shortened t
  s.pad (if s.sharp && t.scalars.all Text.isRaw then t.rawQuote
    else if s.plus then t.asciiQuote else t.quote)

/-- Capital letters where they are asked for. -/
def cased (upper : Bool) (t : Text) : Text :=
  if upper then t.map fun b => if 97 ≤ b ∧ b ≤ 122 then b - 32 else b else t

/-- The bytes of a text in hexadecimal, apart when a blank is asked for. -/
def bytes (s : Style) (upper : Bool) (t : Text) : Text :=
  let mark : Text := Text.when s.sharp "0x"
  let bs := (t.take (s.precision.getD t.length)).map Text.hexByte
  let body := cased upper <|
    if s.space then Text.join " " (bs.map (mark ++ ·))
    else Text.when (!bs.isEmpty) mark ++ bs.flatMap fun b => b
  s.pad body

/-! ## Integers -/

def sign (s : Style) (negative : Bool) : Text :=
  if negative then "-" else if s.plus then "+" else if s.space then " " else []

/-- The mark of a base before digits; `octal` asks for one by itself. -/
def baseMark (s : Style) (base : Nat) (octal : Bool) (digits : Text) : Text :=
  Text.when octal "0o" ++
    Text.when s.sharp (match base with
      | 2 => "0b"
      | 8 => Text.when (digits.head? != some 48) "0"
      | 16 => "0x"
      | _ => [])

/-- An integer in a base. The precision is the least number of digits, and leaves nothing of a zero
when it is zero itself. -/
def integer (s : Style) (base : Nat) (upper octal : Bool) (n : Int) : Text :=
  let sign := s.sign (n < 0)
  let least := match s.precision with
    | some p => p
    | none => if s.zero && !s.minus then s.width.getD 0 - sign.length else 0
  if s.precision = some 0 ∧ n = 0 then s.padBlank []
  else
    let digits := Text.ofNatPadded base least n.natAbs
    s.padBlank (sign ++ cased upper (s.baseMark base octal digits ++ digits))

/-- The code point of an integer; one that is out of range is replaced. -/
def codeOf (n : Int) : Nat := if n < 0 ∨ n > 0x10FFFF then 0xFFFD else n.toNat

def character (s : Style) (n : Int) : Text := s.pad (Text.ofCode (codeOf n))

/-- A code point between single quotes. -/
def quotedCharacter (s : Style) (n : Int) : Text :=
  let code := codeOf n
  let code := if code.isValidChar then code else 0xFFFD
  let isShown := if s.plus then Text.isPrintableAscii else Text.isPrintable
  let body := if code = 39 then Text.ofString "\\'"
    else if code = 34 then [34]
    else Text.quoteScalarIf isShown (.char (Char.ofNat code))
  s.pad ([39] ++ body ++ [39])

/-- The number of a code point, and the character if it is asked for and can be shown. A negative
number counts from the end of 64 bits. -/
def codePoint (s : Style) (n : Int) : Text :=
  let code := (n % UInt64.size).toNat
  let shown := Text.when (s.sharp && code ≤ 0x10FFFF && Text.isPrintable code)
    (Text.ofString " '" ++ Text.ofCode code ++ [39])
  s.padBlank ("U+" ++ cased true (Text.ofNatPadded 16 (max 4 (s.precision.getD 0)) code) ++ shown)

/-! ## Floats -/

/-- Puts a point into digits that have none, and zeros up to `digits` significant ones. `tail` begins
the exponent. -/
def filled (digits : Nat) (tail : UInt8 → Bool) (t : Text) : Text :=
  let body := t.takeWhile (!tail ·)
  let hasPoint := body.contains 46
  let count := ((body.filter (· != 46)).dropWhile (· == 48)).length
  let count := if !hasPoint && body == Text.ofString "0" then count + 1 else count
  body ++ Text.when (!hasPoint) "." ++ List.replicate (digits - count) 48 ++ t.drop body.length

/-- The magnitude of a float in one of the notations, which a letter names. With a mark asked for,
the general and the small hexadecimal notation keep their zeros. -/
def magnitude (s : Style) (letter : Char) (upper : Bool) (x : Binary64) : Text :=
  let places := s.precision.getD 6
  let keepsZeros := letter == 'g' || (letter == 'x' && !upper)
  let isTail (c : UInt8) : Bool := if letter == 'x' then c == 112 else c == 101
  let plain := match letter with
    | 'e' => x.exponential places
    | 'f' => x.fixed places
    | 'x' => x.hexadecimal s.precision
    | 'b' => x.binary
    | _ => x.general s.precision
  if !s.sharp || letter == 'b' then plain
  else filled (if keepsZeros then places else 0) isTail plain

/-- A float. Zeros go between its sign and its digits. -/
def float (s : Style) (letter : Char) (upper : Bool) (x : Binary64) : Text :=
  let sign : Text := if x.sign && !x.isNaN then "-" else if s.plus then "+" else if s.space then " " else []
  if x.isNaN then s.padBlank (sign ++ "NaN")
  else if x.isInfinite then s.padBlank ((if sign.isEmpty then Text.ofString "+" else sign) ++ "Inf")
  else
    let body := cased upper (s.magnitude letter upper x)
    let missing := s.width.getD 0 - (sign.length + body.length)
    if s.zero && !s.minus then sign ++ List.replicate missing 48 ++ body else s.padBlank (sign ++ body)

end Style

end PageBoot.Template
