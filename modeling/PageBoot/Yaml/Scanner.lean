import PageBoot.Yaml.Token

/-!
Reading the tokens of a YAML stream. Whether a token begins a key is known only at the colon after
it, so tokens wait in a queue: the first one is taken when two more have been read and no colon can
make it the beginning of a key any more. What cannot be read ends the tokens with a fault; the
tokens that were taken before it stand.
-/

namespace PageBoot.Yaml

/-- A key that may have begun with a token. -/
structure Candidate where
  isPossible : Bool := false
  /-- Nothing but a key can stand at this indentation. -/
  isRequired : Bool := false
  /-- The number of the token. -/
  number : Nat := 0
  index : Nat := 0
  line : Nat := 0
  column : Nat := 0

namespace Candidate

/-- How a candidate stands when the reader has come to a place. -/
inductive Standing where
  | holds
  | lapsed
  /-- There had to be a key, and there is none. -/
  | missing
  deriving DecidableEq, Repr

/-- A key has to stand on one line, and cannot be longer than 1024 characters. -/
def standing (k : Candidate) (place : Cursor) : Standing :=
  if !k.isPossible then .lapsed
  else if k.line == place.line && place.index ≤ k.index + 1024 then .holds
  else if k.isRequired then .missing
  else .lapsed

end Candidate

structure Scanner where
  place : Cursor
  /-- The tokens that were read and not yet taken. -/
  queue : List Token := [.streamStart]
  /-- How many tokens were taken. -/
  taken : Nat := 0
  /-- The innermost candidate, and those around it, one for each open bracket. -/
  candidate : Candidate := {}
  outer : List Candidate := []
  /-- Numbers of tokens that may have to wait, each with the depth of its candidate. -/
  awaited : List (Nat × Nat) := []
  /-- Indentations of the open block collections, the innermost first. -/
  indents : List Nat := []
  keyAllowed : Bool := true

namespace Scanner

def depth (s : Scanner) : Nat := s.outer.length

def inFlow (s : Scanner) : Bool := !s.outer.isEmpty

/-- Collections cannot be nested deeper than this. -/
def deepest : Nat := 10000

def push (s : Scanner) (t : Token) : Scanner := { s with queue := s.queue ++ [t] }

/-- Puts a token before the one with the given number, or last when that one was taken. -/
def insert (s : Scanner) (number : Nat) (t : Token) : Scanner :=
  if number < s.taken then s.push t
  else
    let i := number - s.taken
    { s with queue := s.queue.take i ++ t :: s.queue.drop i }

def move (s : Scanner) (n : Nat) : Scanner := { s with place := s.place.skip n }

/-- The number of the token that is read next. -/
def nextNumber (s : Scanner) : Nat := s.taken + s.queue.length

/-! ## Indentation -/

/-- Ends block collections that are indented more than the given column; `none` ends all. -/
def unroll (column : Option Nat) (s : Scanner) : Scanner :=
  if s.inFlow then s
  else
    let isInside (i : Nat) : Bool := match column with
      | none => true
      | some c => c < i
    let ended := s.indents.takeWhile isInside
    { s with
      indents := s.indents.drop ended.length
      queue := s.queue ++ ended.map fun _ => Token.blockEnd }

/-- Whether a column is deeper than the innermost block collection. -/
def isDeeper (s : Scanner) (column : Nat) : Bool :=
  match s.indents with
  | [] => true
  | i :: _ => i < column

/-- Begins a block collection, before the token with the given number, when the column is deeper
than the one around it. -/
def roll (column number : Nat) (start : Token) (s : Scanner) : Option Scanner :=
  if s.inFlow || !s.isDeeper column then some s
  else if s.indents.length ≥ deepest then none
  else some { s.insert number start with indents := column :: s.indents }

/-! ## Candidates -/

def await (s : Scanner) (number : Nat) : Scanner :=
  { s with awaited := (number, s.depth) :: s.awaited.filter (·.1 != number) }

def release (s : Scanner) (number : Nat) : Scanner :=
  { s with awaited := s.awaited.filter (·.1 != number) }

/-- Gives the candidate up. -/
def withdraw (s : Scanner) : Scanner :=
  { s.release s.candidate.number with candidate := { s.candidate with isPossible := false } }

/-- Gives the candidate up, unless it had to be a key. -/
def dropCandidate (s : Scanner) : Option Scanner :=
  if !s.candidate.isPossible then some s
  else if s.candidate.isRequired then none
  else some s.withdraw

/-- Notes that a key may begin here. -/
def saveCandidate (s : Scanner) : Option Scanner :=
  if !s.keyAllowed then some s
  else do
    let s ← s.dropCandidate
    let candidate : Candidate := {
      isPossible := true
      isRequired := !s.inFlow && s.indents.head? == some s.place.column
      number := s.nextNumber
      index := s.place.index
      line := s.place.line
      column := s.place.column }
    return { s.await s.nextNumber with candidate }

/-- The candidate that the first token of the queue may belong to. -/
def holder? (s : Scanner) : Option Candidate := do
  let depth ← s.awaited.lookup s.taken
  if depth ≤ s.depth then (s.candidate :: s.outer)[s.depth - depth]? else none

/-! ## Blanks and comments -/

/-- Skips comments on lines of their own after a comment, as long as fewer than 512 bytes lie
between two of them. -/
def moreComments : Nat → Cursor → Cursor
  | 0, c => c
  | fuel + 1, c =>
    let isSpace (ch : Char) : Bool := isBlank ch || ch == '\n' || ch == '\r'
    let gap := c.rest.takeWhile isSpace
    if c.head?.any isSpace && gap.length < 512 && c.rest[gap.length]? == some '#' then
      match Gap.read 0 c.rest.length c {} with
      | some (c', _) => moreComments fuel c'.toLineEnd
      | none => c
    else c

/-- Skips blanks, comments and line breaks before a token. A tab is not skipped where it could be
taken for indentation. A line break allows a key in block context. In a stream with a second byte
order mark a character is skipped at the beginning of each line. -/
def toToken (inFlow : Bool) : Nat → Cursor → Bool → Cursor × Bool
  | 0, c, allowed => (c, allowed)
  | fuel + 1, c, allowed =>
    let c := if c.column == 0 && c.isMarked then c.skip 1 else c
    let c := c.skipWhile fun ch => ch == ' ' || ((inFlow || !allowed) && ch == '\t')
    let c := if c.head? == some '#' then moreComments c.rest.length c.toLineEnd else c
    match c.head? with
    | none => (c, allowed)
    | some ch => if isBreak ch then toToken inFlow fuel c.skipLine (allowed || !inFlow) else (c, allowed)

/-- Skips a comment on the line of the token that was just read. -/
def lineComment (c : Cursor) : Cursor :=
  let blanks := c.rest.takeWhile isBlank
  if !c.isFresh && blanks.length < 512 && c.rest[blanks.length]? == some '#' then c.toLineEnd else c

/-! ## Tokens -/

private def indicator (t : Token) (s : Scanner) : Scanner := (s.push t).move 1

private def openBracket (t : Token) (s : Scanner) : Option Scanner := do
  let s ← s.saveCandidate
  if s.depth ≥ deepest then none
  return indicator t { s with
    outer := s.candidate :: s.outer
    candidate := { number := s.nextNumber }
    keyAllowed := true }

private def closeBracket (t : Token) (s : Scanner) : Option Scanner := do
  let s ← s.dropCandidate
  let s := match s.outer with
    | [] => s
    | k :: outer => { s.release s.candidate.number with candidate := k, outer }
  return indicator t { s with keyAllowed := false }

private def comma (s : Scanner) : Option Scanner := do
  let s ← s.dropCandidate
  return indicator .flowEntry { s with keyAllowed := true }

private def dash (s : Scanner) : Option Scanner := do
  if !s.inFlow && !s.keyAllowed then none
  let s ← s.roll s.place.column s.nextNumber .blockSequenceStart
  let s ← s.dropCandidate
  return indicator .blockEntry { s with keyAllowed := true }

private def questionMark (s : Scanner) : Option Scanner := do
  if !s.inFlow && !s.keyAllowed then none
  let s ← s.roll s.place.column s.nextNumber .blockMappingStart
  let s ← s.dropCandidate
  return indicator .key { s with keyAllowed := !s.inFlow }

/-- The colon makes the candidate a key, if it still holds. -/
private def colon (s : Scanner) : Option Scanner :=
  let k := s.candidate
  match k.standing s.place with
  | .missing => none
  | .holds => do
    let s ← (s.insert k.number .key).roll k.column k.number .blockMappingStart
    return indicator .value { s.withdraw with keyAllowed := false }
  | .lapsed => do
    if !s.inFlow && !s.keyAllowed then none
    let s ← s.roll s.place.column s.nextNumber .blockMappingStart
    return indicator .value { s with
      candidate := { k with isPossible := false }
      keyAllowed := !s.inFlow }

private def named (mk : Text → Token) (s : Scanner) : Option Scanner := do
  let s ← s.saveCandidate
  let (name, c) ← Token.readName (s.place.skip 1)
  return { s.push (mk name) with place := c, keyAllowed := false }

private def tagged (s : Scanner) : Option Scanner := do
  let s ← s.saveCandidate
  let (t, c) ← Token.readTag s.place
  return { s.push t with place := c, keyAllowed := false }

private def block (literal : Bool) (s : Scanner) : Option Scanner := do
  let s ← s.dropCandidate
  let (c, text) ← readBlock literal s.indents.head? (s.place.skip 1)
  return { s.push (.scalar false (Text.ofChars text)) with place := c, keyAllowed := true }

private def quoted (single : Bool) (s : Scanner) : Option Scanner := do
  let s ← s.saveCandidate
  let (c, text) ← readQuoted single (s.place.rest.length + 1) (s.place.skip 1) []
  return { s.push (.scalar false (Text.ofChars text)) with place := c, keyAllowed := false }

private def plain (s : Scanner) : Option Scanner := do
  let s ← s.saveCandidate
  let margin := (s.indents.head?.map (· + 1)).getD 0
  let (c, text, broken) ← readPlain s.inFlow margin (s.place.rest.length + 1) s.place [] {}
  return { s.push (.scalar true (Text.ofChars text)) with place := c, keyAllowed := broken }

private def documentMark (t : Token) (s : Scanner) : Option Scanner := do
  let s ← (s.unroll none).dropCandidate
  return { (s.push t).move 3 with keyAllowed := false }

private def directive (s : Scanner) : Option Scanner := do
  let s ← (s.unroll none).dropCandidate
  let (t, c) ← Token.readDirective (s.place.skip 1)
  return { s.push t with place := c, keyAllowed := false }

/-- The end of the stream stands on a line of its own. -/
private def finish (s : Scanner) : Option Scanner := do
  let s ← (s.unroll none).dropCandidate
  let place := if s.place.column = 0 then s.place else { s.place with line := s.place.line + 1, column := 0 }
  return { s.push .streamEnd with place, keyAllowed := false }

/-- Characters that begin no plain scalar. -/
private def isIndicator (c : Char) : Bool :=
  "-?:,[]\x7b\x7d#&*!|>%@".toList.contains c || c == singleQuote || c == doubleQuote || c.toNat == 96

/-- Reads the token that begins at the place, which is neither a directive nor a document mark. -/
private def dispatch (ch : Char) (s : Scanner) : Option Scanner :=
  let gap := s.place.gapAt 1
  if ch == '[' then openBracket .flowSequenceStart s
  else if ch == '\x7b' then openBracket .flowMappingStart s
  else if ch == ']' then closeBracket .flowSequenceEnd s
  else if ch == '\x7d' then closeBracket .flowMappingEnd s
  else if ch == ',' then comma s
  else if ch == '-' && gap then dash s
  else if ch == '?' && (s.inFlow || gap) then questionMark s
  else if ch == ':' && (s.inFlow || gap) then colon s
  else if ch == '*' then named .reference s
  else if ch == '&' then named .anchor s
  else if ch == '!' then tagged s
  else if ch == '|' && !s.inFlow then block true s
  else if ch == '>' && !s.inFlow then block false s
  else if ch == singleQuote then quoted true s
  else if ch == doubleQuote then quoted false s
  else if !(isGap ch || isIndicator ch) || (ch == '-' && !(s.place.rest[1]?.any isBlank)) ||
      (!s.inFlow && (ch == '?' || ch == ':') && !gap) then plain s
  else none

/-- Reads a token and the comment after it. A comment after a dash belongs to what follows. -/
private def withComment (ch : Char) (s : Scanner) : Option Scanner := do
  let s ← dispatch ch s
  if s.queue.getLast? = some .blockEntry then return s
  return { s with place := lineComment s.place }

/-- Reads one token, or `none` when none can be read. -/
def fetch (s : Scanner) : Option Scanner := do
  let (place, keyAllowed) := toToken s.inFlow (s.place.rest.length + 1) s.place s.keyAllowed
  let place := place.refill
  let s := unroll (some place.column) { s with place, keyAllowed }
  if place.isCut && (place.rest.drop 3).isEmpty then none
  let s ←
    match place.head? with
    | none => finish s
    | some ch =>
      if place.column == 0 && ch == '%' then directive s
      else if place.atDocumentMark then documentMark (if ch == '-' then .documentStart else .documentEnd) s
      else withComment ch s
  if s.place.isCut && s.place.isDone then none
  return s

/-- Reads tokens until the first one can be taken. -/
def settle : Nat → Scanner → Option Scanner
  | 0, _ => none
  | fuel + 1, s =>
    if s.queue.length ≤ 2 then s.fetch.bind (settle fuel)
    else match s.holder? with
      | none => some s
      | some k =>
        match k.standing s.place with
        | .missing => none
        | .lapsed => some s
        | .holds => s.fetch.bind (settle fuel)

/-- The tokens as they are taken. -/
def run : Nat → Scanner → List Token
  | 0, _ => [.fault]
  | fuel + 1, s =>
    match s.settle (s.place.rest.length + 4) with
    | none => [.fault]
    | some s =>
      match s.queue with
      | [] => [.fault]
      | t :: queue =>
        if t = .streamEnd then [t] else t :: run fuel { s with queue, taken := s.taken + 1 }

end Scanner

/-- The tokens of a stream. A character begins at most a key, a mapping and a value, and what it
begins is ended once. -/
def tokens (s : Stream) : List Token :=
  Scanner.run (5 * s.characters.length + 8) { place := .ofStream s }

end PageBoot.Yaml
