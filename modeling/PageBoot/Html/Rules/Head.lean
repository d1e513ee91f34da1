import PageBoot.Html.Adoption

/-!
Rules for tokens up to the body of a page. A rule either uses the token up or changes the mode
and has the token looked at again; `none` is the end of the input. Elements that have to be
there are added by looking at their tags first.
-/

namespace PageBoot.Html

inductive Verdict where
  | done
  | again (t : Option Token)
  deriving DecidableEq, Repr

abbrev Step := Verdict × Builder

/-- What a whole token does to a builder; rules use it for tags that are implied. -/
abbrev Process := Token → Builder → Builder

namespace Builder

def done (b : Builder) : Step := (.done, b)

def again (b : Builder) (t : Option Token) : Step := (.again t, b)

/-- An implied start tag. -/
def implied (tag : String) : Token := .start tag [] false

/-- Blanks that a text starts with, and the rest. -/
def splitBlanks (t : Text) : Text × Text :=
  (t.takeWhile Token.isBlank, t.dropWhile Token.isBlank)

def isAllBlank (t : Text) : Bool := t.all Token.isBlank

/-- A second tag of the page's root adds its attributes. -/
def mergeRoot (b : Builder) (attrs : List Attribute) : Step :=
  if b.inTemplateTag then b.done
  else match b.stack.getLast? with
    | some root => (b.copyAttrs root.id attrs).done
    | none => b.done

/-- Closes the innermost template. -/
def closeTemplate (b : Builder) : Builder :=
  let b := b.closeImplied
  let b :=
    match b.stack.findIdx? fun e => e.space == .html && e.tag == Text.ofString "template" with
    | some n => { b with stack := b.stack.drop (n + 1) }
    | none => b
  let b := b.clearFormatting
  { b with templates := b.templates.drop 1 }.resetMode

def openTemplate (b : Builder) (attrs : List Attribute) : Builder :=
  if b.stack.any (·.space != .html) then { b with mode := .ignoring }
  else
    let b := (b.addElement "template" attrs).addMarker
    { b with framesetOk := false, mode := .inTemplate, templates := .inTemplate :: b.templates }

def initial (b : Builder) (tok : Option Token) : Step :=
  let leave (t : Option Token) : Step := { b with loose := true, mode := .beforeHtml }.again t
  match tok with
  | some (.text t) =>
    match (splitBlanks t).2 with
    | [] => b.done
    | rest => leave (some (.text rest))
  | some (.comment c) => (b.addOutside (.comment c)).done
  | some (.doctype d) =>
    let (l, loose) := Doctype.parse d
    { b.addOutside l with loose, mode := .beforeHtml }.done
  | t => leave t

def beforeHtml (process : Process) (b : Builder) (tok : Option Token) : Step :=
  let leave (t : Option Token) : Step := (process (implied "html") b).again t
  match tok with
  | some (.doctype _) => b.done
  | some (.text t) =>
    match (splitBlanks t).2 with
    | [] => b.done
    | rest => leave (some (.text rest))
  | some (.comment c) => (b.addOutside (.comment c)).done
  | some (.start tag attrs s) =>
    if tag == Text.ofString "html" then { b.addElement tag attrs with mode := .beforeHead }.done
    else leave (some (.start tag attrs s))
  | some (.close tag) => if among tag (names "head body html br") then leave tok else b.done
  | none => leave none

def beforeHead (process : Process) (b : Builder) (tok : Option Token) : Step :=
  let leave (t : Option Token) : Step := (process (implied "head") b).again t
  match tok with
  | some (.doctype _) => b.done
  | some (.text t) =>
    match (splitBlanks t).2 with
    | [] => b.done
    | rest => leave (some (.text rest))
  | some (.comment c) => (b.addComment c).done
  | some (.start tag attrs s) =>
    if tag == Text.ofString "head" then
      let b := b.addElement tag attrs
      { b with head := b.stack.head?, mode := .inHead }.done
    else if tag == Text.ofString "html" then b.mergeRoot attrs
    else leave (some (.start tag attrs s))
  | some (.close tag) => if among tag (names "head body html br") then leave tok else b.done
  | none => leave none

def inHead (process : Process) (b : Builder) (tok : Option Token) : Step :=
  let leave (b : Builder) (t : Option Token) : Step := (process (.close "head") b).again t
  match tok with
  | some (.doctype _) => b.done
  | some (.comment c) => (b.addComment c).done
  | some (.text t) =>
    let (lead, rest) := splitBlanks t
    let b := b.addText lead
    if rest.isEmpty then b.done else leave b (some (.text rest))
  | some (.start tag attrs s) =>
    if tag == Text.ofString "html" then b.mergeRoot attrs
    else if among tag headTags then (b.addVoid tag attrs).done
    else if among tag (names "noscript script title noframes style") then (b.addRaw tag attrs).done
    else if tag == Text.ofString "head" then b.done
    else if tag == Text.ofString "template" then (b.openTemplate attrs).done
    else leave b (some (.start tag attrs s))
  | some (.close tag) =>
    if tag == Text.ofString "head" then { b.pop with mode := .afterHead }.done
    else if among tag (names "body html br") then leave b tok
    else if tag == Text.ofString "template" then
      (if b.inTemplateTag then b.closeTemplate else b).done
    else b.done
  | none => leave b none

def afterHead (process : Process) (b : Builder) (tok : Option Token) : Step :=
  let leave (b : Builder) (t : Option Token) : Step :=
    let b := { process (implied "body") b with framesetOk := true }
    match t with
    | none => b.done
    | t => b.again t
  match tok with
  | some (.doctype _) => b.done
  | some (.comment c) => (b.addComment c).done
  | some (.text t) =>
    let (lead, rest) := splitBlanks t
    let b := b.addText lead
    if rest.isEmpty then b.done else leave b (some (.text rest))
  | some (.start tag attrs s) =>
    if tag == Text.ofString "html" then b.mergeRoot attrs
    else if tag == Text.ofString "body" then
      { b.addElement tag attrs with framesetOk := false, mode := .inBody }.done
    else if tag == Text.ofString "frameset" then
      { b.addElement tag attrs with mode := .inFrameset }.done
    else if among tag headTags || among tag headBlockTags then
      match b.head with
      | none => b.inHead process tok
      | some head =>
        let (v, b) := { b with stack := head :: b.stack }.inHead process tok
        (v, b.removeOpen head.id)
    else if tag == Text.ofString "head" then b.done
    else leave b (some (.start tag attrs s))
  | some (.close tag) =>
    if among tag (names "body html br") then leave b tok
    else if tag == Text.ofString "template" then b.inHead process tok
    else b.done
  | none => leave b none

/-- Rules for the contents of a raw element. -/
def rawContents (b : Builder) (tok : Option Token) : Step :=
  match tok with
  | some (.text t) =>
    match b.stack with
    | e :: _ =>
      let atStart := e.tag == Text.ofString "textarea" && (b.tree.children e.id).isEmpty
      (b.addText (if atStart then dropLineEnd t else t)).done
    | [] => (b.addText t).done
  | some (.close _) => { b.pop with mode := b.returnMode }.done
  | none => { b.pop with mode := b.returnMode }.again none
  | t => { b with mode := b.returnMode }.again t
where
  dropLineEnd : Text → Text
    | 10 :: t => t
    | 13 :: 10 :: t => t
    | 13 :: t => t
    | t => t

end Builder

end PageBoot.Html
