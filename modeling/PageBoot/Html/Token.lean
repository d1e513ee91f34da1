import PageBoot.Html.Forest
import PageBoot.Html.Reference

/-!
Tokens of markup. Reading a token never fails: what is not markup is text. A tag that the end of
the input cuts short ends the tokens. After the start of some elements the input up to their end
tag is plain text, in which only titles and text areas have references.
-/

namespace PageBoot.Html

inductive Token where
  | text (t : Text)
  | start (tag : Text) (attrs : List Attribute) (selfClosing : Bool)
  | close (tag : Text)
  | comment (t : Text)
  | doctype (t : Text)
  deriving DecidableEq, Repr

namespace Token

def isBlank (b : UInt8) : Bool := b == 32 || b == 10 || b == 13 || b == 9 || b == 12

def isLetter (b : UInt8) : Bool := (97 ≤ b && b ≤ 122) || (65 ≤ b && b ≤ 90)

def skipBlanks (t : Text) : Text := t.dropWhile isBlank

/-- Line ends of every kind become line feeds. -/
def unifyLines : Text → Text
  | [] => []
  | 13 :: 10 :: t => 10 :: unifyLines t
  | 13 :: t => 10 :: unifyLines t
  | b :: t => b :: unifyLines t

/-- NULs become replacement characters. -/
def replaceNuls (t : Text) : Text := t.flatMap fun b => if b == 0 then Text.ofCode 0xFFFD else [b]

/-! ## Raw text -/

/-- Elements whose contents are plain text. -/
def rawTags : List Text :=
  ["iframe", "noembed", "noframes", "noscript", "plaintext", "script", "style", "textarea", "title",
    "xmp"]

/-- Whether a text starts with the end tag of `tag`. -/
def startsWithClose (tag : Text) : Text → Bool
  | 60 :: 47 :: t =>
    Text.toLowerAscii (t.take tag.length) == tag && tag.length ≤ t.length &&
      match t.drop tag.length with
      | [] => false
      | b :: _ => isBlank b || b == 47 || b == 62
  | _ => false

/-- The text up to the end tag. -/
def rawText (tag : Text) : Text → Text × Text
  | [] => ([], [])
  | b :: t =>
    if startsWithClose tag (b :: t) then ([], b :: t)
    else let (raw, rest) := rawText tag t; (b :: raw, rest)

/-- How a script is being read: outside any comment, inside one, or in a script inside a
comment; in a comment the number of dashes just read, up to two, is kept. -/
inductive ScriptState where
  | plain
  | escaped (dashes : Nat)
  | doubled (dashes : Nat)
  deriving DecidableEq, Repr

/-- Whether a text, after its `<`, starts with the word that opens or closes a script. -/
def startsWithScript (t : Text) : Bool :=
  Text.toLowerAscii (t.take 6) == Text.ofString "script" && 6 < t.length &&
    match t.drop 6 with
    | [] => false
    | b :: _ => isBlank b || b == 47 || b == 62

/-- The text of a script up to its end tag. An end tag inside a script inside a comment does not
count. The first argument counts bytes that are taken without a look. -/
def scriptText : Nat → ScriptState → Text → Text × Text
  | _, _, [] => ([], [])
  | skip + 1, s, b :: t => let (raw, rest) := scriptText skip s t; (b :: raw, rest)
  | 0, s, b :: t =>
    let onward (skip : Nat) (s : ScriptState) : Text × Text :=
      let (raw, rest) := scriptText skip s t
      (b :: raw, rest)
    let close : Text := "script"
    match s with
    | .plain =>
      if startsWithClose close (b :: t) then ([], b :: t)
      else if b == 60 && t.take 3 == Text.ofString "!--" then onward 3 (.escaped 2)
      else onward 0 .plain
    | .escaped n =>
      if startsWithClose close (b :: t) then ([], b :: t)
      else if b == 45 then onward 0 (.escaped (min (n + 1) 2))
      else if b == 62 && n == 2 then onward 0 .plain
      else if b == 60 then
        match t with
        | [] => onward 0 (.escaped 0)
        | c :: _ =>
          if c == 47 then onward 1 (.escaped 0)
          else if isLetter c then
            if startsWithScript t then onward 7 (.doubled 0) else onward 0 (.escaped 0)
          else onward 0 .plain
      else onward 0 (.escaped 0)
    | .doubled n =>
      if startsWithClose close (b :: t) then onward 8 (.escaped 0)
      else if b == 45 then onward 0 (.doubled (min (n + 1) 2))
      else if b == 62 && n == 2 then onward 0 .plain
      else onward 0 (.doubled 0)

/-- The contents of a raw element and what follows them. -/
def rawContents (tag : Text) (t : Text) : Text × Text :=
  if tag == Text.ofString "plaintext" then (t, [])
  else if tag == Text.ofString "script" then scriptText 0 .plain t
  else rawText tag t

/-- Raw contents as they are kept. -/
def finishRaw (tag : Text) (raw : Text) : Text :=
  let t := replaceNuls (unifyLines raw)
  if tag == Text.ofString "textarea" || tag == Text.ofString "title" then Reference.decode false t else t

/-! ## Tags -/

/-- An attribute's key; an equals sign may stand first in it. -/
def readKey : Text → Text × Text
  | [] => ([], [])
  | b :: t =>
    let ends (c : UInt8) : Bool := isBlank c || c == 47 || c == 62
    if ends b then ([], b :: t)
    else
      let more := t.takeWhile fun c => !(ends c || c == 61)
      (b :: more, t.drop more.length)

/-- An attribute's value, from right after its key. `none` when the input ends first. -/
def readValue (t : Text) : Option (Text × Text) :=
  match skipBlanks t with
  | [] => none
  | 47 :: t => some ([], t)
  | 61 :: t =>
    match skipBlanks t with
    | [] => none
    | 62 :: t => some ([], 62 :: t)
    | q :: t =>
      if q == 34 || q == 39 then
        let v := t.takeWhile (· != q)
        match t.drop v.length with
        | [] => none
        | _ :: rest => some (v, rest)
      else
        let v := q :: t.takeWhile fun c => !(isBlank c || c == 62)
        match (q :: t).drop v.length with
        | [] => none
        | rest => some (v, rest)
  | t => some ([], t)

/-- The attributes of a tag up to its `>`. The bound is the number of bytes. `none` when the
input ends first. -/
def readAttributes : Nat → Text → Option (List Attribute × Text)
  | 0, _ => none
  | n + 1, t =>
    match skipBlanks t with
    | [] => none
    | 62 :: t => some ([], t)
    | t =>
      let (key, t) := readKey t
      match readValue t with
      | none => none
      | some (v, t) =>
        (readAttributes n t).map fun (as, rest) =>
          if key.isEmpty then (as, rest)
          else (⟨Text.toLowerAscii key, Reference.decode true (unifyLines v), []⟩ :: as, rest)

def readTagName (t : Text) : Text × Text :=
  let name := t.takeWhile fun c => !(isBlank c || c == 47 || c == 62)
  (Text.toLowerAscii name, t.drop name.length)

/-- Whether the byte before the `>` of a tag is a slash. `t` is the input from the tag's name on
and `rest` what follows the tag. -/
def endsWithSlash (t rest : Text) : Bool :=
  t.length ≥ rest.length + 2 && t[t.length - rest.length - 2]? == some 47

/-! ## Comments and doctypes -/

/-- Data of a comment from right after its `<!--`: bytes read so far are kept in reverse. A
comment also ends at `--!>`, and right at its beginning at `>` or `->`. -/
def readComment : Nat → Bool → Text → Text → Text × Text
  | _, _, acc, [] => ((dropTail acc).reverse, [])
  | dashes, beginning, acc, b :: t =>
    if b == 45 then readComment (dashes + 1) beginning (b :: acc) t
    else if b == 62 && (dashes ≥ 2 || beginning) then ((acc.drop 2).reverse, t)
    else if b == 33 && dashes ≥ 2 then
      match t with
      | 62 :: rest => ((acc.drop 2).reverse, rest)
      | 45 :: rest => readComment 1 false (45 :: b :: acc) rest
      | [] => ((dropTail (b :: acc)).reverse, [])
      | c :: rest => readComment 0 false (c :: b :: acc) rest
    else readComment 0 false (b :: acc) t
where
  dropTail : Text → Text
    | 33 :: 45 :: 45 :: acc => acc
    | 45 :: 45 :: acc => acc
    | 45 :: acc => acc
    | acc => acc

/-- The input up to a `>`, and what follows it. -/
def uptoAngle (t : Text) : Text × Text :=
  let body := t.takeWhile (· != 62)
  (body, t.drop (body.length + 1))

def finishText (t : Text) : Text := Reference.decode false (unifyLines t)

def finishComment (t : Text) : Text := Reference.decode false (replaceNuls (unifyLines t))

/-- A section of character data, from right after its opening. -/
def readSection : Text → Text × Text
  | [] => ([], [])
  | b :: t =>
    if (Text.ofString "]]>").isPrefixOf (b :: t) then ([], t.drop 2)
    else let (s, rest) := readSection t; (b :: s, rest)

/-- Reads what starts with `<!`. -/
def readDeclaration (sections : Bool) (t : Text) : Token × Text :=
  let bogus (t : Text) : Token × Text :=
    let (c, rest) := uptoAngle t
    (.comment (finishComment c), rest)
  if t.length < 2 then (.comment (finishComment t), [])
  else if t.take 2 == Text.ofString "--" then
    let (c, rest) := readComment 0 true [] (t.drop 2)
    (.comment (finishComment c), rest)
  else if Text.toLowerAscii (t.take 7) == Text.ofString "doctype" then
    let (d, rest) := uptoAngle (skipBlanks (t.drop 7))
    (.doctype (finishText d), rest)
  else if (Text.toLowerAscii t).isPrefixOf (Text.ofString "doctype") then (.comment [], [])
  else if sections && (Text.ofString "[CDATA[").isPrefixOf t then
    let (s, rest) := readSection (t.drop 7)
    (.text (Reference.decode false (replaceNuls (unifyLines s))), rest)
  else if sections && t.isPrefixOf (Text.ofString "[CDATA[") then (.comment [], [])
  else bogus t

/-! ## Tokens -/

/-- Whether markup starts here. -/
def startsMarkup : Text → Bool
  | 60 :: b :: _ => isLetter b || b == 47 || b == 33 || b == 63
  | _ => false

/-- The text before the next markup. -/
def leadingText : Text → Text
  | [] => []
  | b :: t => if startsMarkup (b :: t) then [] else b :: leadingText t

/-- Reads a tag or a declaration. -/
def readMarkup (sections : Bool) : Text → Option (Token × Text)
  | 60 :: 47 :: [] => some (.text (Text.ofString "</"), [])
  | 60 :: 47 :: 62 :: t => some (.comment [], t)
  | 60 :: 47 :: b :: t =>
    if isLetter b then
      let (name, rest) := readTagName (b :: t)
      (readAttributes (rest.length + 1) rest).map fun (_, rest) => (.close name, rest)
    else
      let (c, rest) := uptoAngle (b :: t)
      some (.comment (finishComment c), rest)
  | 60 :: 33 :: t => some (readDeclaration sections t)
  | 60 :: 63 :: t =>
    let (c, rest) := uptoAngle (63 :: t)
    some (.comment (finishComment c), rest)
  | 60 :: t =>
    let (name, rest) := readTagName t
    (readAttributes (rest.length + 1) rest).map fun (attrs, rest) =>
      (.start name attrs (endsWithSlash t rest), rest)
  | _ => none

/-- The next token of an input in which `raw` may name the raw element just entered. `none` at
the end of the tokens. `sections` says whether sections of character data are known here. -/
def next? (raw : Option Text) (sections : Bool) (t : Text) : Option (Token × Text) :=
  let ordinary (t : Text) : Option (Token × Text) :=
    match leadingText t with
    | [] => readMarkup sections t
    | lead => some (.text (finishText lead), t.drop lead.length)
  match raw with
  | none => ordinary t
  | some tag =>
    match rawContents tag t with
    | ([], rest) => ordinary rest
    | (body, rest) => some (.text (finishRaw tag body), rest)

/-- The raw element that a token enters. -/
def rawTag? : Token → Option Text
  | .start tag _ _ => if rawTags.contains tag then some tag else none
  | _ => none

end Token

end PageBoot.Html
