import PageBoot.Html.Rules.Outer

/-!
Markup as documents. Every text is the markup of some document. A piece of markup is read as the
contents of an element with a given tag.
-/

namespace PageBoot.Html

namespace Builder

/-- Feeds the tokens of an input. The bound is the number of bytes and one for the end. -/
def feedAll : Nat → Option Text → Text → Builder → Builder
  | 0, _, _, b => b
  | n + 1, raw, t, b =>
    let sections := ((b.stack.head?).map (·.space != .html)).getD false
    match Token.next? raw sections t with
    | none => b.feed none
    | some (tok, rest) =>
      let b := { b with readMarkup := false }.feed (some tok)
      feedAll n (if b.readMarkup then none else tok.rawTag?) rest b

/-- Reads an input to its end. -/
def read (b : Builder) (t : Text) : Builder := feedAll (t.length + 2) none t b

end Builder

/-- A forest and the first identity that is not used in it. -/
structure Parsed where
  forest : Forest
  next : NodeId

/-- A forest that was read, with identities from `first` on. -/
def Parsed.ofForest (first : NodeId) (f : Forest) : Parsed :=
  let (forest, next) := f.number first
  { forest, next }

/-- The document of a page's markup, with identities from `first` on. -/
def parseDocument (first : NodeId) (markup : Text) : Parsed :=
  .ofForest first (({ next := 0, framesetOk := true } : Builder).read markup).tree

/-- The contents of an element with the given tag, with identities from `first` on. -/
def parseContents (tag : Text) (first : NodeId) (markup : Text) : Parsed :=
  let root : Open := { id := 0, space := .html, tag := "html" }
  let start : Builder :=
    { tree := .tree root.id root.label, next := 1, stack := [root], context := some tag }
  .ofForest first ((start.resetMode.read markup).tree.children root.id)

end PageBoot.Html
