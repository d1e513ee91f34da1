import PageBoot.Yaml.Cursor

/-!
Scalars of a YAML stream: plain, quoted and block scalars. Line breaks inside plain and quoted
scalars are folded: one break is a space, and of several all but the first are kept.
-/

namespace PageBoot.Yaml

/-! ## Gaps between words -/

/-- Blanks and line breaks between two words of a scalar. -/
structure Gap where
  blanks : List Char := []
  isBroken : Bool := false
  /-- The first line break. -/
  first : List Char := []
  /-- The line breaks after it. -/
  more : List Char := []

namespace Gap

/-- What stands for the gap in the scalar. -/
def folded (g : Gap) : List Char :=
  if !g.isBroken then g.blanks
  else if g.first.head? == some '\n' then (if g.more.isEmpty then [' '] else g.more)
  else g.first ++ g.more

/-- Reads blanks and breaks. A tab before the column `margin` of a new line is refused. -/
def read (margin : Nat) : Nat → Cursor → Gap → Option (Cursor × Gap)
  | 0, c, g => some (c, g)
  | fuel + 1, c, g =>
    match c.head? with
    | none => some (c, g)
    | some ch =>
      if isBlank ch then
        if g.isBroken && c.column < margin && ch == '\t' then none
        else read margin fuel (c.skip 1) (if g.isBroken then g else { g with blanks := g.blanks ++ [ch] })
      else if isBreak ch then
        read margin fuel c.skipLine
          (if g.isBroken then { g with more := g.more ++ c.lineBreak }
           else { g with blanks := [], isBroken := true, first := c.lineBreak })
      else some (c, g)

end Gap

/-! ## Plain scalars -/

/-- Characters that end a plain scalar inside brackets. -/
def isFlowIndicator (c : Char) : Bool := [',', '?', '[', ']', '\x7b', '\x7d'].contains c

/-- The characters of a plain scalar up to the next gap or indicator. -/
def plainWord (flow : Bool) : List Char → List Char
  | [] => []
  | c :: r =>
    if isGap c || (c == ':' && (r.head?.map isGap).getD true) || (flow && isFlowIndicator c) then []
    else c :: plainWord flow r

/-- A plain scalar. In block context it ends where a line is indented less than `margin`. Tells
also whether a line break followed it. -/
def readPlain (flow : Bool) (margin : Nat) :
    Nat → Cursor → List Char → Gap → Option (Cursor × List Char × Bool)
  | 0, c, s, g => some (c, s, g.isBroken)
  | fuel + 1, c, s, g =>
    let c := c.refill
    if c.atDocumentMark || c.head? == some '#' then some (c, s, g.isBroken)
    else
      let word := plainWord flow c.rest
      if word.isEmpty then some (c, s, g.isBroken)
      else
        let s := s ++ g.folded ++ word
        let c := c.skip word.length
        if c.isDone || !c.gapAt 0 then some (c, s, false)
        else do
          let (c, g) ← Gap.read margin c.rest.length c {}
          if !flow && c.column < margin then return (c, s, g.isBroken)
          readPlain flow margin fuel c s g

/-! ## Quoted scalars -/

/-- Escapes of a single character. -/
def escapes : List (Char × Nat) :=
  [('0', 0), ('a', 7), ('b', 8), ('t', 9), ('\t', 9), ('n', 10), ('v', 11), ('f', 12), ('r', 13),
   ('e', 27), (' ', 32), (doubleQuote, 34), (singleQuote, 39), (backslash, 92), ('N', 0x85), ('_', 0xA0),
   ('L', 0x2028), ('P', 0x2029)]

def escape? (c : Char) : Option Char := (escapes.lookup c).map Char.ofNat

/-- Number of hexadecimal digits after an escape. -/
def escapeDigits : Char → Nat
  | 'x' => 2
  | 'u' => 4
  | 'U' => 8
  | _ => 0

def hexValue? (c : Char) : Option Nat :=
  if c.toNat < 128 then (Text.hexDigit? (UInt8.ofNat c.toNat)).map (·.toNat) else none

def hexNumber? (cs : List Char) : Option Nat :=
  cs.foldl (fun n c => do return (← n) * 16 + (← hexValue? c)) (some 0)

/-- Reads the characters of a quoted scalar up to a gap or the closing quote. Tells also whether an
escaped line break was met. -/
def quotedWord (single : Bool) : Nat → Cursor → List Char → Option (Cursor × List Char × Bool)
  | 0, c, s => some (c, s, false)
  | fuel + 1, c, s =>
    match c.rest with
    | [] => some (c, s, false)
    | ch :: r =>
      if isGap ch then some (c, s, false)
      else if single then
        if ch ≠ singleQuote then quotedWord single fuel (c.skip 1) (s ++ [ch])
        else if r.head? == some singleQuote then quotedWord single fuel (c.skip 2) (s ++ [ch])
        else some (c, s, false)
      else if ch == doubleQuote then some (c, s, false)
      else if ch ≠ backslash then quotedWord single fuel (c.skip 1) (s ++ [ch])
      else match r with
        | [] => none
        | e :: r =>
          if isBreak e then some ((c.skip 1).skipLine, s, true)
          else match escape? e with
            | some x => quotedWord single fuel (c.skip 2) (s ++ [x])
            | none =>
              let n := escapeDigits e
              if n = 0 ∨ r.length < n then none
              else match hexNumber? (r.take n) with
                | none => none
                | some v =>
                  if v.isValidChar then quotedWord single fuel (c.skip (2 + n)) (s ++ [Char.ofNat v])
                  else none

/-- A quoted scalar after its opening quote. -/
def readQuoted (single : Bool) : Nat → Cursor → List Char → Option (Cursor × List Char)
  | 0, _, _ => none
  | fuel + 1, c, s =>
    let c := c.refill
    if c.atDocumentMark || c.isDone then none
    else do
      let (c, s, escaped) ← quotedWord single c.rest.length c s
      if c.head? == some (if single then singleQuote else doubleQuote) then return (c.skip 1, s)
      let (c, g) ← Gap.read 0 c.rest.length c { isBroken := escaped }
      readQuoted single fuel c (s ++ g.folded)

/-! ## Block scalars -/

/-- What is kept of the line breaks at the end of a block scalar. -/
inductive Chomping where
  | strip
  | clip
  | keep
  deriving DecidableEq, Repr

structure BlockHeader where
  chomping : Chomping := .clip
  increment : Nat := 0

/-- Reads the chomping and indentation marks, in either order. A zero indentation is refused. -/
def BlockHeader.read (c : Cursor) : Option (BlockHeader × Cursor) :=
  let sign? (c : Cursor) : Option Chomping :=
    match c.head? with
    | some '+' => some .keep
    | some '-' => some .strip
    | _ => none
  let digit? (c : Cursor) : Option Nat :=
    match c.head? with
    | some ch => if ch.isDigit then some (ch.toNat - 48) else none
    | none => none
  match sign? c with
  | some chomping =>
    match digit? (c.skip 1) with
    | some 0 => none
    | some increment => some (⟨chomping, increment⟩, c.skip 2)
    | none => some (⟨chomping, 0⟩, c.skip 1)
  | none =>
    match digit? c with
    | some 0 => none
    | some increment =>
      match sign? (c.skip 1) with
      | some chomping => some (⟨chomping, increment⟩, c.skip 2)
      | none => some (⟨.clip, increment⟩, c.skip 1)
    | none => some ({}, c)

/-- Skips indentation and empty lines, and gives the line breaks and the widest indentation. An
indentation of zero is not yet known. -/
def blockBreaks (indent : Nat) : Nat → Cursor → List Char → Nat → Option (Cursor × List Char × Nat)
  | 0, c, breaks, widest => some (c, breaks, widest)
  | fuel + 1, c, breaks, widest =>
    let room := if indent = 0 then c.rest.length else indent - c.column
    let c := c.skip ((c.rest.take room).takeWhile (· == ' ')).length
    let widest := max widest c.column
    if (indent = 0 ∨ c.column < indent) ∧ c.head? = some '\t' then none
    else match c.head? with
      | none => some (c, breaks, widest)
      | some ch =>
        if isBreak ch then blockBreaks indent fuel c.skipLine (breaks ++ c.lineBreak) widest
        else some (c, breaks, widest)

/-- Reads the lines of a block scalar: the text so far, the break after it, the empty lines after
that, and whether the last line began with a blank. -/
def blockLines (literal : Bool) (indent : Nat) :
    Nat → Cursor → List Char → List Char → List Char → Bool → Option (Cursor × List Char × List Char × List Char)
  | 0, c, s, first, more, _ => some (c, s, first, more)
  | fuel + 1, c, s, first, more, indented =>
    if c.column ≠ indent ∨ c.isDone then some (c, s, first, more)
    else
      let blank := (c.head?.map isBlank).getD false
      let joint :=
        if !literal && !indented && !blank && first.head? == some '\n' then
          (if more.isEmpty then [' '] else [])
        else first
      let text := c.rest.takeWhile (!isBreak ·)
      let s := s ++ joint ++ more ++ text
      let c := c.skip text.length
      match blockBreaks indent (c.rest.length + 1) c.skipLine [] 0 with
      | none => none
      | some (c', more, _) => blockLines literal indent fuel c' s c.lineBreak more blank

/-- A block scalar after its indicator. `parent` is the indentation around it, `none` at the top. -/
def readBlock (literal : Bool) (parent : Option Nat) (c : Cursor) : Option (Cursor × List Char) := do
  let (header, c) ← BlockHeader.read c
  let c := c.skipWhile isBlank
  let c := if c.head? == some '#' then c.toLineEnd else c
  if !c.isDone && !(c.head?.map isBreak).getD true then none
  let c := c.skipLine
  let given := if header.increment = 0 then 0 else parent.getD 0 + header.increment
  let (c, breaks, widest) ← blockBreaks given (c.rest.length + 1) c [] 0
  let indent := if given = 0 then max (max widest ((parent.map (· + 1)).getD 0)) 1 else given
  let (c, s, first, more) ← blockLines literal indent (c.rest.length + 1) c [] [] breaks false
  return (c, s ++ (if header.chomping = .strip then [] else first) ++
    (if header.chomping = .keep then more else []))

end PageBoot.Yaml
