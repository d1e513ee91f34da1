import PageBoot.Text.Basic

/-!
How a terminal writes: attributes, underline and colours, as they are set by the numbers of a style
sequence.
-/

namespace PageBoot.Terminal

/-- A number of a sequence, and whether a colon joins the next one to it. -/
structure Param where
  value : Nat
  isJoined : Bool
  deriving DecidableEq, Repr

inductive Colour where
  /-- The eight basic colours, and the bright ones after them. -/
  | basic (n : Nat)
  | indexed (n : Nat)
  | direct (red green blue : Nat)
  deriving DecidableEq, Repr

namespace Colour

/-- The colour that is left after taking cyan, magenta, yellow and black from white. -/
def ofInk (cyan magenta yellow black : Nat) : Colour :=
  let white := 65535 - black * 257
  let share (ink : Nat) : Nat :=
    let v := (65535 - ink * 257) * white / 65535
    if v > 255 then v / 256 else v
  .direct (share cyan) (share magenta) (share yellow)

/-- Where the numbers of a colour are: how many are used in all, and up to four of them. They stand
after the kind, alone or, joined by colons, after the name of a colour space. -/
private def channels? (ps : List Param) : Option (Nat × List Nat) :=
  let isJoined (i : Nat) : Bool := (ps[i]?).any (·.isJoined)
  let values (i n : Nat) : List Nat := ((ps.drop i).take n).map (·.value % 256)
  let areJoined (n : Nat) : Bool := (List.range n).all isJoined
  let isLegacy : Bool := (ps[1]?).any (·.value == 2)
  if ps.length > 8 && areJoined 8 then some (9, values 3 4)
  else if ps.length > 7 && areJoined 7 then some (8, values 3 4)
  else if ps.length > 6 && areJoined 6 then some (7, values 3 4)
  else if ps.length > 5 && areJoined 5 && !isJoined 5 then some (6, values 3 3)
  else if isLegacy && areJoined 4 && !isJoined 4 then some (5, values 2 3)
  else if isLegacy && (List.range 5).all (!isJoined ·) then some (5, values 2 3)
  else none

/-- The colour that the numbers from the first one on say, and how many of them do. -/
def read? (ps : List Param) : Option (Option Colour × Nat) :=
  match ps with
  | first :: kind :: rest =>
    let isEven : Bool := first.isJoined == kind.isJoined
    let shades (least : Nat) : Option (Nat × List Nat) :=
      if ps.length < least then none else channels? ps
    match kind.value with
    | 0 => some (none, 2)
    | 1 => some (some (.direct 0 0 0), 2)
    | 2 =>
      match shades 5 with
      | some (n, r :: g :: b :: _) => some (some (.direct r g b), n)
      | _ => none
    | 3 =>
      match shades 5 with
      | some (n, c :: m :: y :: _) => some (some (.ofInk c m y 0), n)
      | _ => none
    | 4 =>
      match shades 6 with
      | some (n, [c, m, y, k]) => some (some (.ofInk c m y k), n)
      | _ => none
    | 5 =>
      match rest with
      | i :: _ => if isEven && !i.isJoined then some (some (.indexed (i.value % 256)), 3) else none
      | [] => none
    | 6 =>
      match shades 6 with
      | some (n, [r, g, b, _]) => some (some (.direct r g b), n)
      | _ => none
    | _ => none
  | _ => none

private def extended (lead : Text) : Colour → Text
  | .basic n => lead ++ ";5;" ++ Text.ofNat n
  | .indexed n => lead ++ ";5;" ++ Text.ofNat n
  | .direct r g b => lead ++ ";2;" ++ Text.join ";" [Text.ofNat r, Text.ofNat g, Text.ofNat b]

/-- The code of a colour; `base` is that of the first basic colour, and the bright ones begin
sixty further on. -/
def code (base : Nat) : Colour → Text
  | .basic n => Text.ofNat (if n < 8 then base + n else base + 52 + n)
  | c => extended (Text.ofNat (base + 8)) c

/-- The code of a colour for underlines, which has no basic form. -/
def underlineCode (c : Colour) : Text := extended "58" c

end Colour

structure Pen where
  /-- Codes of the attributes that are on. -/
  attributes : List Nat := []
  /-- The kind of underline, zero for none. -/
  underline : Nat := 0
  foreground : Option Colour := none
  background : Option Colour := none
  underlineColour : Option Colour := none
  deriving DecidableEq, Repr

namespace Pen

def plain : Pen := {}

/-- Bold, faint, italic, two speeds of blinking, reverse, concealed, struck through. -/
def attributeCodes : List Nat := [1, 2, 3, 5, 6, 7, 8, 9]

def reverse : Nat := 7

/-- Attributes that a code turns off. -/
def endedBy (code : Nat) : List Nat :=
  if code = 22 then [1, 2]
  else if code = 23 then [3]
  else if code = 25 then [5, 6]
  else if 27 ≤ code ∧ code ≤ 29 then [code - 20]
  else []

/-- Whether a blank written with the pen cannot be seen. -/
def hidesBlanks (p : Pen) : Bool :=
  !p.attributes.contains reverse && p.background.isNone && p.underline == 0

/-- A code that stands alone. -/
def apply (p : Pen) (code : Nat) : Pen :=
  if code = 0 then .plain
  else if attributeCodes.contains code then { p with attributes := code :: p.attributes }
  else if code = 24 then { p with underline := 0 }
  else if 30 ≤ code ∧ code ≤ 37 then { p with foreground := some (.basic (code - 30)) }
  else if code = 39 then { p with foreground := none }
  else if 40 ≤ code ∧ code ≤ 47 then { p with background := some (.basic (code - 40)) }
  else if code = 49 then { p with background := none }
  else if code = 59 then { p with underlineColour := none }
  else if 90 ≤ code ∧ code ≤ 97 then { p with foreground := some (.basic (code - 82)) }
  else if 100 ≤ code ∧ code ≤ 107 then { p with background := some (.basic (code - 92)) }
  else { p with attributes := p.attributes.filter (!(endedBy code).contains ·) }

/-- Sets the colour that a code names. -/
def paint (p : Pen) (code : Nat) (c : Option Colour) : Pen :=
  if code = 38 then { p with foreground := c }
  else if code = 48 then { p with background := c }
  else { p with underlineColour := c }

/-- Applies numbers one after another; the bound is how many there are. -/
def applyAll : Nat → List Param → Pen → Pen
  | 0, _, p => p
  | _, [], p => p
  | fuel + 1, q :: rest, p =>
    if q.value = 4 then
      if q.isJoined then
        match rest with
        | [] => { p with underline := 1 }
        | r :: more =>
          if r.value ≤ 5 then applyAll fuel more { p with underline := r.value } else applyAll fuel rest p
      else applyAll fuel rest { p with underline := 1 }
    else if q.value = 38 ∨ q.value = 48 ∨ q.value = 58 then
      match Colour.read? (q :: rest) with
      | some (c, n) => applyAll fuel (rest.drop (n - 1)) (p.paint q.value c)
      | none => applyAll fuel rest p
    else applyAll fuel rest (p.apply q.value)

/-- The pen after a style sequence; one without numbers resets it. -/
def after (p : Pen) (ps : List Param) : Pen := if ps.isEmpty then .plain else applyAll ps.length ps p

/-- The codes that set the pen. -/
def codes (p : Pen) : List Text :=
  (attributeCodes.filter p.attributes.contains).map Text.ofNat ++
    (if p.underline = 0 then []
     else if p.underline = 1 then [Text.ofString "4"]
     else [Text.ofString "4:" ++ Text.ofNat p.underline]) ++
    (p.foreground.map (Colour.code 30)).toList ++ (p.background.map (Colour.code 40)).toList ++
    (p.underlineColour.map Colour.underlineCode).toList

/-- The sequence that sets the pen. -/
def text (p : Pen) : Text := "\x1b[" ++ Text.join ";" p.codes ++ "m"

def isPlain (p : Pen) : Bool := p.codes.isEmpty

end Pen

end PageBoot.Terminal
