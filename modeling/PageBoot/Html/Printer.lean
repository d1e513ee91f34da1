import PageBoot.Html.Vocabulary

/-!
Documents as markup. Printing stops right after the contents of a plaintext element, since such
an element cannot be closed, and at an element without contents that was given some.
-/

namespace PageBoot.Html

/-- How printing ends. -/
inductive Ending where
  | complete
  /-- A plaintext element was written; nothing may follow it. -/
  | plaintext
  /-- An element that cannot have contents has some. -/
  | refused
  deriving DecidableEq, Repr

def escapeByte (b : UInt8) : Text :=
  match b with
  | 38 => "&amp;"
  | 39 => "&#39;"
  | 60 => "&lt;"
  | 62 => "&gt;"
  | 34 => "&#34;"
  | 13 => "&#13;"
  | b => [b]

def escape (t : Text) : Text := t.flatMap escapeByte

/-- Comments escape ampersands, and a `>` only where it would end them: at their start, or after
a dash or an exclamation mark. -/
def escapeComment : Option UInt8 → Text → Text
  | _, [] => []
  | previous, b :: t =>
    let ends := match previous with
      | none => true
      | some p => p == 33 || p == 45
    (if b == 38 || (b == 62 && ends) then escapeByte b else [b]) ++ escapeComment (some b) t

/-- A doctype's identifier in quotes that it does not have itself. -/
def quoteId (t : Text) : Text :=
  let q : UInt8 := if t.contains 34 then 39 else 34
  q :: t ++ [q]

def lastValue (attrs : List Attribute) (key : String) : Text :=
  (((attrs.filter (·.key == Text.ofString key)).getLast?).map (·.value)).getD []

def printDoctype (name : Text) (attrs : List Attribute) : Text :=
  let public_ := lastValue attrs "public"
  let system := lastValue attrs "system"
  let ids : Text :=
    if !public_.isEmpty then
      Text.ofString " PUBLIC " ++ quoteId public_ ++ Text.when (!system.isEmpty) (32 :: quoteId system)
    else Text.when (!system.isEmpty) (Text.ofString " SYSTEM " ++ quoteId system)
  "<!DOCTYPE " ++ escape name ++ ids ++ ">"

def printAttr (a : Attribute) : Text :=
  32 :: Text.when (!a.space.isEmpty) (a.space ++ [58]) ++ a.key ++ [61, 34] ++ escape a.value ++ [34]

/-- A line feed that keeps the first one of the contents from being dropped. -/
def guardLineFeed (tag : Text) : Forest → Text
  | .node _ ⟨.text (10 :: _), _⟩ _ _ => Text.when (among tag (names "pre listing textarea")) [10]
  | _ => []

namespace Forest

/-- The markup of a forest; in literal elements texts are written as they are. -/
def print (literal : Bool) : Forest → Text × Ending
  | .nil => ([], .complete)
  | .node _ l children rest =>
    let (first, ending) : Text × Ending :=
      match l.content with
      | .text t => (if literal then t else escape t, .complete)
      | .comment t => ("<!--" ++ escapeComment none t ++ "-->", .complete)
      | .doctype name => (printDoctype name l.attrs, .complete)
      | .element space tag =>
        let head : Text := 60 :: tag ++ l.attrs.flatMap printAttr
        if among tag voidTags then
          if children.isEmpty then (head ++ "/>", .complete) else (head, .refused)
        else
          let isLiteral := space == .html && among tag literalTags
          let (inner, ending) := print isLiteral children
          let body := head ++ ">" ++ guardLineFeed tag children ++ inner
          match ending with
          | .complete =>
            if isLiteral && tag == Text.ofString "plaintext" then (body, .plaintext)
            else (body ++ "</" ++ tag ++ ">", .complete)
          | e => (body, e)
    match ending with
    | .complete =>
      let (others, ending) := print literal rest
      (first ++ others, ending)
    | e => (first, e)

/-- The markup of a document. -/
def markup (f : Forest) : Text := (f.print false).1

end Forest

end PageBoot.Html
