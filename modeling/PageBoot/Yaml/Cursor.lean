import PageBoot.Yaml.Stream

/-!
A place in a YAML stream. The place knows its line and column, since indentation is part of the
grammar.
-/

namespace PageBoot.Yaml

def singleQuote : Char := Char.ofNat 39
def doubleQuote : Char := Char.ofNat 34
def backslash : Char := Char.ofNat 92

def isBlank (c : Char) : Bool := c == ' ' || c == '\t'

/-- Line breaks: line feed, carriage return, next line, line and paragraph separator. -/
def isBreak (c : Char) : Bool :=
  c == '\n' || c == '\r' || c.toNat == 0x85 || c.toNat == 0x2028 || c.toNat == 0x2029

def isGap (c : Char) : Bool := isBlank c || isBreak c

/-- Characters of names of anchors and tag handles. -/
def isWord (c : Char) : Bool := c.isAlphanum || c == '_' || c == '-'

def byteOrderMark : Char := Char.ofNat 0xFEFF

structure Cursor where
  rest : List Char
  /-- What follows the rest cannot be read. -/
  isCut : Bool := false
  index : Nat := 0
  line : Nat := 0
  column : Nat := 0
  /-- Nothing but blanks stands between the last line break and the place. -/
  isFresh : Bool := false
  /-- The part of the stream that is being looked at begins with a byte order mark. -/
  isMarked : Bool := false

namespace Cursor

def head? (c : Cursor) : Option Char := c.rest.head?

def isDone (c : Cursor) : Bool := c.rest.isEmpty

/-- Whether a blank, a line break or the end stands `n` characters ahead. -/
def gapAt (c : Cursor) (n : Nat) : Bool :=
  match c.rest[n]? with
  | none => true
  | some ch => isGap ch

def starts (c : Cursor) (s : String) : Bool := s.toList.isPrefixOf c.rest

def skip (c : Cursor) (n : Nat) : Cursor :=
  { c with
    rest := c.rest.drop n
    index := c.index + n
    column := c.column + n
    isFresh := c.isFresh && (c.rest.take n).all isBlank }

def skipWhile (p : Char → Bool) (c : Cursor) : Cursor := c.skip (c.rest.takeWhile p).length

/-- The place after a line break. -/
def skipLine (c : Cursor) : Cursor :=
  let next : Cursor := { c with line := c.line + 1, column := 0, isFresh := true }
  match c.rest with
  | '\r' :: '\n' :: r => { next with rest := r, index := c.index + 2 }
  | ch :: r => if isBreak ch then { next with rest := r, index := c.index + 1 } else c
  | [] => c

/-- What a line break is read as: all but the separators are line feeds. -/
def lineBreak (c : Cursor) : List Char :=
  match c.head? with
  | none => []
  | some ch => if !isBreak ch then [] else if ch.toNat ≥ 0x2028 then [ch] else ['\n']

/-- Whether a document indicator stands here. -/
def atDocumentMark (c : Cursor) : Bool :=
  c.column == 0 && (c.starts "---" || c.starts "...") && c.gapAt 3

/-- Looks ahead. When the end is near, what is left is looked at anew. -/
def refill (c : Cursor) : Cursor :=
  if (c.rest.drop 3).isEmpty then { c with isMarked := c.head? == some byteOrderMark } else c

/-- The beginning of a stream. -/
def ofStream (s : Stream) : Cursor where
  rest := s.characters
  isCut := s.isCut
  isMarked := s.characters.head? == some byteOrderMark

/-- Skips to the end of the line. -/
def toLineEnd (c : Cursor) : Cursor := c.skipWhile (!isBreak ·)

end Cursor

end PageBoot.Yaml
