import PageBoot.Yaml.Scalar

/-!
Tokens of a YAML stream, and the tokens that are read on their own: directives, tags and names.
-/

namespace PageBoot.Yaml

inductive Token where
  | streamStart
  | streamEnd
  | version (major minor : Nat)
  | tagHandle (handle expansion : Text)
  | documentStart
  | documentEnd
  | blockSequenceStart
  | blockMappingStart
  | blockEnd
  | flowSequenceStart
  | flowSequenceEnd
  | flowMappingStart
  | flowMappingEnd
  | blockEntry
  | flowEntry
  | key
  | value
  | reference (name : Text)
  | anchor (name : Text)
  | tag (handle suffix : Text)
  | scalar (plain : Bool) (text : Text)
  /-- What cannot be read. -/
  | fault
  deriving DecidableEq, Repr

namespace Token

/-- A number of one or two digits. -/
private def number? (c : Cursor) : Option (Nat × Cursor) :=
  let ds := c.rest.takeWhile Char.isDigit
  if ds.isEmpty ∨ ds.length > 2 then none
  else some (ds.foldl (fun n d => n * 10 + (d.toNat - 48)) 0, c.skip ds.length)

/-- A tag handle: `!`, or a word between two of them. -/
private def handle? (c : Cursor) : Option (List Char × Cursor) :=
  if c.head? ≠ some '!' then none
  else
    let word := (c.rest.drop 1).takeWhile isWord
    let c' := c.skip (1 + word.length)
    if c'.head? = some '!' then some ('!' :: word ++ ['!'], c'.skip 1) else some ('!' :: word, c')

/-- Whether a handle is a word between two marks, or the two marks alone. -/
private def isFull (handle : List Char) : Bool := handle.length > 1 && handle.getLast? == some '!'

/-! ## Tags -/

private def isUriChar (c : Char) : Bool :=
  isWord c || (";/?:@&=+$,.!~*()[]%".toList.contains c) || c == singleQuote

private def escapedByte? : List Char → Option (UInt8 × List Char)
  | '%' :: a :: b :: r => do return (UInt8.ofNat ((← hexValue? a) * 16 + (← hexValue? b)), r)
  | _ => none

/-- The escaped bytes of a character after its first. -/
private def escapedTail? : Nat → List Char → Option (Text × List Char)
  | 0, cs => some ([], cs)
  | n + 1, cs => do
    let (b, cs) ← escapedByte? cs
    if b < 0x80 ∨ 0xC0 ≤ b then none
    let (t, cs) ← escapedTail? n cs
    return (b :: t, cs)

/-- A character with every byte escaped. -/
private def escapedChar? (cs : List Char) : Option (Text × List Char) := do
  let (b, cs) ← escapedByte? cs
  let width := Reading.utf8Width b
  if width = 0 then none
  let (t, cs) ← escapedTail? (width - 1) cs
  return (b :: t, cs)

/-- Characters of a tag, with percent escapes resolved. -/
private def uri : Nat → List Char → Text → Option (Text × List Char)
  | 0, cs, t => some (t, cs)
  | fuel + 1, cs, t =>
    match cs with
    | [] => some (t, cs)
    | c :: r =>
      if c == '%' then do
        let (u, r) ← escapedChar? cs
        uri fuel r (t ++ u)
      else if isUriChar c then uri fuel r (t ++ Text.ofChars [c])
      else some (t, cs)

private def readUri (c : Cursor) : Option (Text × Cursor) := do
  let (t, rest) ← uri c.rest.length c.rest []
  return (t, c.skip (c.rest.length - rest.length))

/-- A tag: verbatim, with a handle, or with the primary handle `!`. -/
def readTag (c : Cursor) : Option (Token × Cursor) := do
  let (t, c) ←
    (if c.starts "!<" then do
      let (suffix, c) ← readUri (c.skip 2)
      if suffix.isEmpty ∨ c.head? ≠ some '>' then none
      return (Token.tag [] suffix, c.skip 1)
    else do
      let (handle, c) ← handle? c
      let (more, c) ← readUri c
      if isFull handle then
        if more.isEmpty then none
        return (Token.tag (Text.ofChars handle) more, c)
      else
        let suffix := Text.ofChars (handle.drop 1) ++ more
        return (if suffix.isEmpty then Token.tag [] "!" else Token.tag "!" suffix, c))
  if !c.gapAt 0 then none
  return (t, c)

/-! ## Directives -/

/-- A directive after its percent sign. -/
def readDirective (c : Cursor) : Option (Token × Cursor) := do
  let word := c.rest.takeWhile isWord
  let after := c.skip word.length
  if !after.gapAt 0 then none
  let (t, c) ←
    (if word = "YAML".toList then do
      let (major, c) ← number? (after.skipWhile isBlank)
      if c.head? ≠ some '.' then none
      let (minor, c) ← number? (c.skip 1)
      return (Token.version major minor, c)
    else if word = "TAG".toList then do
      let (handle, c) ← handle? (after.skipWhile isBlank)
      if handle.length > 1 ∧ !isFull handle then none
      if !(c.head?.any isBlank) then none
      let (expansion, c) ← readUri (c.skipWhile isBlank)
      if expansion.isEmpty ∨ !c.gapAt 0 then none
      return (Token.tagHandle (Text.ofChars handle) expansion, c)
    else none)
  let c := c.skipWhile isBlank
  let c := if c.head? == some '#' then c.toLineEnd else c
  if !c.gapAt 0 then none
  return (t, c.skipLine)

/-! ## Names -/

/-- The name of an anchor or of a reference to one, after its mark. -/
def readName (c : Cursor) : Option (Text × Cursor) :=
  let word := c.rest.takeWhile isWord
  let c' := c.skip word.length
  let ends := c'.gapAt 0 || c'.head?.any fun ch => "?:,]\x7d%@".toList.contains ch || ch.toNat == 96
  if word.isEmpty || !ends then none else some (Text.ofChars word, c')

end Token

end PageBoot.Yaml
