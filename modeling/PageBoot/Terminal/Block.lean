import PageBoot.Terminal.Sequence

/-!
Blocks of lines: wrapping at word bounds, padding, borders and putting blocks below each other.
-/

namespace PageBoot.Terminal

abbrev Block := List Text

def blanks (n : Nat) : Text := List.replicate n 32

/-- Cells of the widest line. -/
def Block.width (b : Block) : Nat := b.foldl (fun n l => max n (Terminal.width l)) 0

def Block.text (b : Block) : Text := Text.join "\n" b

/-! ## Wrapping -/

/-- What text is written with: a pen and a link. -/
structure Ink where
  pen : Pen := .plain
  linkParams : Text := []
  linkUrl : Text := []
  deriving DecidableEq, Repr

namespace Ink

def after (i : Ink) : Effect → Ink
  | .nothing => i
  | .style ps => { i with pen := i.pen.after ps }
  | .link linkParams linkUrl => { i with linkParams, linkUrl }

def hasLink (i : Ink) : Bool := !i.linkParams.isEmpty || !i.linkUrl.isEmpty

private def setLink (linkParams url : Text) : Text := "\x1b]8;" ++ linkParams ++ ";" ++ url ++ "\x07"

def endPen (i : Ink) : Text := Text.when (!i.pen.isPlain) Pen.plain.text

def endLink (i : Ink) : Text := Text.when i.hasLink (setLink [] [])

/-- A line break: pen and link end before it and begin again after it. -/
def lineBreak (i : Ink) : Text :=
  i.endPen ++ i.endLink ++ "\n" ++ Text.when i.hasLink (setLink i.linkParams i.linkUrl) ++
    Text.when (!i.pen.isPlain) i.pen.text

end Ink

/-- A text while it is wrapped: what is written, blanks and a word that are not placed yet, and the
cells of the last line and of the word. -/
structure Wrapping where
  written : Text := []
  space : Text := []
  word : Text := []
  lineCells : Nat := 0
  wordCells : Nat := 0
  /-- The ink at the end of the word, and at the end of what is written. -/
  ink : Ink := {}
  writtenInk : Ink := {}

namespace Wrapping

def addSpace (w : Wrapping) : Wrapping :=
  { w with written := w.written ++ w.space, lineCells := w.lineCells + w.space.length, space := [] }

def addWord (w : Wrapping) : Wrapping :=
  if w.word.isEmpty then w
  else
    let w := w.addSpace
    { w with
      written := w.written ++ w.word
      lineCells := w.lineCells + w.wordCells
      word := []
      wordCells := 0
      writtenInk := w.ink }

/-- Ends the line; blanks at its end are dropped. -/
def newLine (w : Wrapping) : Wrapping :=
  { w with written := w.written ++ w.writtenInk.lineBreak, lineCells := 0, space := [] }

/-- Keeps blanks at the end of a line if they fit. -/
def settleSpace (limit : Nat) (w : Wrapping) : Wrapping :=
  if w.wordCells ≠ 0 then w
  else if w.lineCells + w.space.length > limit then { w with lineCells := 0, space := [] }
  else { w with written := w.written ++ w.space, space := [] }

/-- Adds to the word. One that is wider than the limit is broken. -/
def grow (limit : Nat) (p : Piece) (w : Wrapping) : Wrapping :=
  let w := if w.wordCells + p.cells > limit then w.addWord else w
  let w := { w with word := w.word ++ p.text, wordCells := w.wordCells + p.cells }
  if w.lineCells + w.wordCells + w.space.length > limit then w.newLine else w

def hyphen : Text := [45]
def blank : Text := [32]
def tab : Text := [9]
def feed : Text := [10]

/-- Takes one piece: words part at blanks that cannot be seen, and may part after hyphens. -/
def takePiece (limit : Nat) (w : Wrapping) (p : Piece) : Wrapping :=
  if p.text = feed then (w.settleSpace limit).addWord.newLine
  else if p.text = tab ∨ (p.text = blank ∧ w.ink.pen.hidesBlanks) then
    let w := w.addWord
    { w with space := w.space ++ p.text }
  else if p.cells = 0 then { w with word := w.word ++ p.text }
  else if p.text = hyphen then
    let w := w.addSpace
    if w.lineCells + w.wordCells + 1 ≤ limit then
      let w := w.addWord
      { w with written := w.written ++ p.text, lineCells := w.lineCells + 1 }
    else w.grow limit p
  else w.grow limit p

/-- Takes one item. A sequence belongs to the word that it stands in. -/
def take (limit : Nat) (w : Wrapping) : Item → Wrapping
  | .shown p => w.takePiece limit p
  | .sequence t e => { w with word := w.word ++ t, ink := w.ink.after e }

/-- The text, with link and pen ended. -/
def text (w : Wrapping) : Text := w.written ++ w.writtenInk.endLink ++ w.writtenInk.endPen

end Wrapping

/-- Breaks a text into lines of at most `limit` cells, between words where that is possible. A limit
of zero is none. -/
def wrap (limit : Nat) (t : Text) : Block :=
  if t.isEmpty || limit == 0 then t.lines
  else (((items t).foldl (Wrapping.take limit) {}).settleSpace limit).addWord.text.lines

/-! ## Boxes -/

structure Border where
  horizontal : Text
  vertical : Text
  topLeft : Text
  topRight : Text
  bottomLeft : Text
  bottomRight : Text

namespace Border

def single : Border := ⟨"─", "│", "┌", "┐", "└", "┘"⟩

def double : Border := ⟨"═", "║", "╔", "╗", "╚", "╝"⟩

end Border

/-- How a text is laid out. A width of zero is none; the padding counts to the width and the
border does not. -/
structure Box where
  width : Nat := 0
  vertical : Nat := 0
  horizontal : Nat := 0
  border : Option Border := none

def repeated (n : Nat) (t : Text) : Text := (List.replicate n t).flatten

/-- Fills lines up to a number of cells, and at least to the widest of them. -/
def aligned (width : Nat) (b : Block) : Block :=
  let full := max width b.width
  b.map fun l => l ++ blanks (full - Terminal.width l)

def bordered (s : Border) (b : Block) : Block :=
  let edge := repeated b.width s.horizontal
  [s.topLeft ++ edge ++ s.topRight] ++ b.map (fun l => s.vertical ++ l ++ s.vertical) ++
    [s.bottomLeft ++ edge ++ s.bottomRight]

/-- The text without carriage returns before line feeds. -/
def unreturned : Text → Text
  | [] => []
  | 13 :: 10 :: t => 10 :: unreturned t
  | b :: t => b :: unreturned t

/-- A tab stands for four blanks, and a carriage return before a line feed does not count. -/
def tidy (t : Text) : Text := unreturned (t.flatMap fun b => if b = 9 then blanks 4 else [b])

namespace Box

/-- Cells that padding and border take from a line. -/
def frame (s : Box) : Nat := 2 * s.horizontal + (if s.border.isSome then 2 else 0)

def render (s : Box) (t : Text) : Block :=
  let t := tidy t
  let b := if s.width = 0 then t.lines else wrap (s.width - 2 * s.horizontal) t
  let b := b.map fun l => blanks s.horizontal ++ l ++ blanks s.horizontal
  let edge : Block := List.replicate s.vertical []
  let b := edge ++ b ++ edge
  let b := if b.length ≤ 1 && s.width == 0 then b else aligned s.width b
  match s.border with
  | none => b
  | some border => bordered border b

end Box

/-- Blocks below each other, as wide as the widest. -/
def stacked (bs : List Block) : Block := aligned 0 bs.flatten

/-- Blocks of one height beside each other. -/
def beside : List Block → Block
  | [] => []
  | [b] => b
  | b :: bs => List.zipWith (· ++ ·) b (beside bs)

end PageBoot.Terminal
