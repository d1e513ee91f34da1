import PageBoot.Terminal.Block

/-!
Tables with a head and ruled lines. A column is as wide as its widest cell, with a blank on each
side. The head is one line high. A row is as high as its cells would be if they were filled up
word by word; cells that turn out higher are cut off.
-/

namespace PageBoot.Terminal

/-! ## Heights of cells -/

/-- A line while it is filled up: cells of the line, of the word and bytes of the blanks that are
not placed yet, and the line breaks so far. -/
structure Filling where
  line : Nat := 0
  word : Nat := 0
  space : Nat := 0
  /-- A word has begun, if only with a sequence. -/
  hasWord : Bool := false
  breaks : Nat := 0

namespace Filling

def addSpace (f : Filling) : Filling := { f with line := f.line + f.space, space := 0 }

def addWord (f : Filling) : Filling :=
  if f.hasWord then { f with line := f.line + f.space + f.word, space := 0, word := 0, hasWord := false } else f

/-- Breaks the line when it has become too long. -/
def settle (limit : Nat) (f : Filling) : Filling :=
  if f.line + f.word + f.space > limit then { f with line := 0, space := 0, breaks := f.breaks + 1 } else f

/-- Blanks of a width that counts in bytes. -/
def addBlank (bytes : Nat) (f : Filling) : Filling :=
  let f := f.addWord
  { f with space := f.space + bytes }

/-- Blanks beyond ASCII; one that does not break is none. -/
def isBlankCode (n : Nat) : Bool :=
  n == 0x85 || n == 0x1680 || (0x2000 ≤ n && n ≤ 0x200A) || [0x2028, 0x2029, 0x202F, 0x205F, 0x3000].contains n

/-- Takes a single byte. -/
def takeByte (limit : Nat) (b : UInt8) (f : Filling) : Filling :=
  if b = 32 ∨ (9 ≤ b ∧ b ≤ 13) then f.addBlank 1
  else if b = 0x85 then f.addBlank 2
  else if b = 45 then
    let f := f.addSpace
    if f.line + f.word ≥ limit then { f with word := f.word + 1, hasWord := true }
    else
      let f := f.addWord
      { f with line := f.line + 1 }
  else
    let f := { f with word := f.word + 1, hasWord := true }
    (if f.word = limit then f.addWord else f).settle limit

/-- Takes a character beyond ASCII. -/
def takeCluster (limit : Nat) (p : Piece) (f : Filling) : Filling :=
  match p.text.scalars with
  | s :: _ =>
    if isBlankCode s.code then f.addBlank s.bytes.length
    else
      let f := if f.word + p.cells > limit then f.addWord else f
      settle limit { f with word := f.word + p.cells, hasWord := true }
  | [] => f

def take (limit : Nat) (f : Filling) : Event → Filling
  | .silent => { f with hasWord := true }
  | .executed b => f.takeByte limit b
  | .shown p =>
    match p.text with
    | [b] => if b < 128 then f.takeByte limit b else f.takeCluster limit p
    | _ => f.takeCluster limit p

end Filling

/-- The lines that a cell takes when it is filled up to a width; none is one line. -/
def filledHeight (limit : Nat) (cell : Text) : Nat :=
  if limit = 0 then 1
  else (unreturned cell).lines.foldl
    (fun n l => n + ((events l).foldl (Filling.take limit) {}).breaks + 1) 0

/-! ## Tables -/

structure Grid where
  head : List Text
  rows : List (List Text)

namespace Grid

/-- Blanks on both sides of a cell. -/
def padding : Nat := 2

/-- Cells of each column, padding included. -/
def widths (g : Grid) : List Nat :=
  (List.range g.head.length).map fun i =>
    padding + ((g.head :: g.rows).map fun r => ((r[i]?).map fun c => Block.width c.lines).getD 0).foldl max 0

private def bar (height : Nat) : Block := List.replicate height Border.single.vertical

/-- One row of a given height: its cells between bars. -/
def row (height : Nat) (widths : List Nat) (cells : List Text) : Block :=
  let blocks := List.zipWith (fun w c =>
    let b := (Box.render { width := w, horizontal := 1 } c).take height
    b ++ List.replicate (height - b.length) (blanks w)) widths cells
  beside (bar height :: blocks.flatMap fun b => [aligned 0 b, bar height])

/-- The lines of the highest cell. -/
def rowHeight (widths : List Nat) (cells : List Text) : Nat :=
  (List.zipWith (fun w c => filledHeight (w - padding) c) widths cells).foldl max 1

/-- A ruled line with a joint between columns. -/
def rule (left joint right : Text) (widths : List Nat) : Text :=
  left ++ Text.join joint (widths.map fun w => repeated w Border.single.horizontal) ++ right

def render (g : Grid) : Block :=
  let ws := g.widths
  aligned 0 ([rule "┌" "┬" "┐" ws] ++ row 1 ws g.head ++ [rule "├" "┼" "┤" ws] ++
    g.rows.flatMap (fun r => row (rowHeight ws r) ws r) ++ [rule "└" "┴" "┘" ws])

end Grid

end PageBoot.Terminal
