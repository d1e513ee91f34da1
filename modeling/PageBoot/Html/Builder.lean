import PageBoot.Html.Vocabulary
import PageBoot.Html.Doctype

/-!
Building a document from tokens: the tree so far, the stack of open elements with the innermost
first, and the list of formatting elements that are reopened in every block until they are
closed. Questions about the stack are scans that classify each open element as what is looked
for, as a boundary, or as neither.
-/

namespace PageBoot.Html

/-- Where in a page the builder is. -/
inductive Mode where
  | initial
  | beforeHtml
  | beforeHead
  | inHead
  | afterHead
  | inBody
  | text
  | inTable
  | inCaption
  | inColumnGroup
  | inTableBody
  | inRow
  | inCell
  | inSelect
  | inSelectInTable
  | inTemplate
  | afterBody
  | inFrameset
  | afterFrameset
  | afterAfterBody
  | afterAfterFrameset
  | ignoring
  deriving DecidableEq, Repr

/-- An element that may still get contents. -/
structure Open where
  id : NodeId
  space : Space
  tag : Text
  attrs : List Attribute := []
  deriving DecidableEq, Repr

namespace Open

def label (e : Open) : Label := ⟨.element e.space e.tag, e.attrs⟩

def isSpecial (e : Open) : Bool := Html.isSpecial e.space e.tag

end Open

/-- An entry of the list of formatting elements. A marker hides what is before it. -/
inductive Active where
  | marker
  | element (e : Open)
  deriving DecidableEq, Repr

def Active.isElement (a : Active) (id : NodeId) : Bool :=
  match a with
  | .element e => e.id == id
  | .marker => false

structure Builder where
  tree : Forest := .nil
  next : NodeId := 0
  stack : List Open := []
  /-- Formatting elements, the latest first. -/
  active : List Active := []
  head : Option Open := none
  form : Option NodeId := none
  framesetOk : Bool := false
  /-- Contents of a table that do not belong there are put before it. -/
  fostering : Bool := false
  loose : Bool := false
  templates : List Mode := []
  mode : Mode := .initial
  returnMode : Mode := .initial
  /-- The tag of the element whose contents are built, for a piece of a document. -/
  context : Option Text := none
  /-- Set when the contents of the raw element just started are to be read as markup. -/
  readMarkup : Bool := false
  deriving Repr

namespace Builder

/-! ## The stack -/

inductive Role where
  | target
  | boundary
  | other
  deriving DecidableEq, Repr

/-- How many elements are inside the innermost target, if no boundary is inside it. -/
def scan (role : Open → Role) : List Open → Option Nat
  | [] => none
  | e :: rest =>
    match role e with
    | .target => some 0
    | .boundary => none
    | .other => (scan role rest).map (· + 1)

inductive Scope where
  | plain
  | listItem
  | button
  | table
  | select
  deriving DecidableEq, Repr

def plainBoundaries : Space → List Text
  | .html => names "applet caption html table td th marquee object template"
  | .math => names "annotation-xml mi mn mo ms mtext"
  | .svg => names "desc foreignObject title"

def tableBoundaries : List Text := names "html table template"

def Scope.isBoundary (s : Scope) (e : Open) : Bool :=
  let page := e.space == .html
  match s with
  | .plain => among e.tag (plainBoundaries e.space)
  | .listItem => (page && among e.tag (names "ol ul")) || among e.tag (plainBoundaries e.space)
  | .button => (page && e.tag == Text.ofString "button") || among e.tag (plainBoundaries e.space)
  | .table => page && among e.tag tableBoundaries
  | .select => page && !among e.tag (names "optgroup option")

def Scope.role (s : Scope) (tags : List Text) (e : Open) : Role :=
  if e.space == .html && among e.tag tags then .target
  else if s.isBoundary e then .boundary
  else .other

/-- Depth of the innermost element with one of the tags that is in scope. -/
def depthInScope (b : Builder) (s : Scope) (tags : List Text) : Option Nat :=
  scan (s.role tags) b.stack

def inScope (b : Builder) (s : Scope) (tags : List Text) : Bool := (b.depthInScope s tags).isSome

/-- Closes elements up to and including the innermost one with one of the tags. -/
def popUntil (b : Builder) (s : Scope) (tags : List Text) : Option Builder :=
  (b.depthInScope s tags).map fun n => { b with stack := b.stack.drop (n + 1) }

def popIfInScope (b : Builder) (s : Scope) (tags : List Text) : Builder := (b.popUntil s tags).getD b

def pop (b : Builder) : Builder := { b with stack := b.stack.drop 1 }

def closeParagraph (b : Builder) : Builder := b.popIfInScope .button [Text.ofString "p"]

/-- Closes elements inside the innermost one with one of the tags. -/
def clearTo (b : Builder) (tags : List Text) : Builder :=
  match b.stack.findIdx? fun e => among e.tag tags with
  | some n => { b with stack := b.stack.drop n }
  | none => b

/-- Closes elements whose end is implied. -/
def closeImplied (b : Builder) (exceptions : List Text := []) : Builder :=
  { b with stack := b.stack.dropWhile fun e =>
      among e.tag impliedEndTags && !exceptions.contains e.tag }

def currentTag (b : Builder) : Text := ((b.stack.head?).map (·.tag)).getD []

def isOpenTag (b : Builder) (tag : Text) : Bool := b.stack.any fun e => e.space == .html && e.tag == tag

def inTemplateTag (b : Builder) : Bool := b.isOpenTag "template"

def isOpen (b : Builder) (id : NodeId) : Bool := b.stack.any (·.id == id)

/-- Takes an element off the stack wherever it is. -/
def removeOpen (b : Builder) (id : NodeId) : Builder :=
  { b with stack := b.stack.filter (·.id != id) }

/-! ## The tree -/

/-- Adds trees at the end of the innermost open element. -/
def appendHere (b : Builder) (t : Forest) : Builder :=
  match b.stack with
  | [] => { b with tree := b.tree ++ t }
  | e :: _ => { b with tree := b.tree.appendTo e.id t }

/-- Adds a node beside the root. -/
def addOutside (b : Builder) (l : Label) : Builder :=
  { b with tree := b.tree ++ Forest.tree b.next l, next := b.next + 1 }

def isFostering (b : Builder) : Bool := b.fostering && among b.currentTag tableParts

/-- Adds a text to the text node with an identity. -/
def extendText (b : Builder) (id : NodeId) (t : Text) : Builder :=
  { b with tree := b.tree.relabel id fun l => { l with content := .text (l.textOf ++ t) } }

/-- Where a tree goes that may not stay in a table. -/
inductive Foster where
  | template (id : NodeId)
  | root (id : NodeId)
  | before (id : NodeId)

def foster (b : Builder) : Foster :=
  let table := b.stack.findIdx? fun e => e.tag == Text.ofString "table"
  let template := b.stack.findIdx? fun e => e.tag == Text.ofString "template"
  let at_ (n : Nat) : NodeId := ((b.stack[n]?).map (·.id)).getD 0
  match table, template with
  | none, none => .root (((b.stack.getLast?).map (·.id)).getD 0)
  | none, some j => .template (at_ j)
  | some i, none => .before (at_ i)
  | some i, some j => if j < i then .template (at_ j) else .before (at_ i)

def fosterTree (b : Builder) (t : Forest) : Builder :=
  match b.foster with
  | .template id | .root id => { b with tree := b.tree.appendTo id t }
  | .before id => { b with tree := b.tree.insertBefore id t }

/-- Adds trees where the next contents go. -/
def place (b : Builder) (t : Forest) : Builder :=
  if b.isFostering then b.fosterTree t else b.appendHere t

/-- Adds a node that is not opened. -/
def addLeaf (b : Builder) (l : Label) : Builder :=
  { b.place (.tree b.next l) with next := b.next + 1 }

def addComment (b : Builder) (t : Text) : Builder := b.addLeaf (.comment t)

/-- Adds a text, as a part of the text right before it if there is one. -/
def addText (b : Builder) (t : Text) : Builder :=
  if t.isEmpty then b
  else
    let neighbour : Option NodeId :=
      if b.isFostering then
        match b.foster with
        | .template _ => none
        | .root id => ((b.tree.children id).lastText?).map (·.1)
        | .before id => (b.tree.previous? id).filter fun p =>
          match b.tree.label? p with
          | some ⟨.text _, _⟩ => true
          | _ => false
      else match b.stack with
        | [] => (b.tree.lastText?).map (·.1)
        | e :: _ => ((b.tree.children e.id).lastText?).map (·.1)
    match neighbour with
    | some id => b.extendText id t
    | none => b.addLeaf (.text t)

/-- Adds an element and opens it. -/
def addOpen (b : Builder) (space : Space) (tag : Text) (attrs : List Attribute) : Builder :=
  let e : Open := { id := b.next, space, tag, attrs }
  let b := b.place (.tree e.id e.label)
  { b with next := b.next + 1, stack := e :: b.stack }

def addElement (b : Builder) (tag : Text) (attrs : List Attribute) : Builder :=
  b.addOpen .html tag attrs

/-- Adds an element without contents. -/
def addVoid (b : Builder) (tag : Text) (attrs : List Attribute) : Builder :=
  (b.addElement tag attrs).pop

/-- Adds an element whose contents are raw text. -/
def addRaw (b : Builder) (tag : Text) (attrs : List Attribute) : Builder :=
  { b.addElement tag attrs with returnMode := b.mode, mode := .text }

/-- Adds the attributes whose keys an element does not have yet. -/
def copyAttrs (b : Builder) (id : NodeId) (attrs : List Attribute) : Builder :=
  { b with tree := b.tree.relabel id fun l => { l with attrs := attrs.foldl addAttr l.attrs } }
where
  addAttr (old : List Attribute) (a : Attribute) : List Attribute :=
    if old.any (·.key == a.key) then old else old ++ [a]

/-! ## Formatting elements -/

private def sameAttrs (old new : List Attribute) : Bool :=
  old.length == new.length && old.all new.contains

/-- Keeps at most two earlier formatting elements that are alike. -/
def limitAlike (tag : Text) (attrs : List Attribute) : Nat → List Active → List Active
  | _, [] => []
  | _, .marker :: rest => .marker :: rest
  | n, .element e :: rest =>
    if e.space == .html && e.tag == tag && sameAttrs e.attrs attrs then
      if n ≥ 2 then limitAlike tag attrs (n + 1) rest
      else .element e :: limitAlike tag attrs (n + 1) rest
    else .element e :: limitAlike tag attrs n rest

def addFormatting (b : Builder) (tag : Text) (attrs : List Attribute) : Builder :=
  let b := b.addElement tag attrs
  let active := limitAlike tag attrs 0 b.active
  { b with active := (b.stack.take 1).map Active.element ++ active }

def addMarker (b : Builder) : Builder := { b with active := .marker :: b.active }

/-- Forgets formatting elements up to and including the latest marker. -/
def clearFormatting (b : Builder) : Builder :=
  { b with active := (b.active.dropWhile (· != .marker)).drop 1 }

def removeActive (b : Builder) (id : NodeId) : Builder :=
  { b with active := b.active.filter fun a => !a.isElement id }

/-- Opens copies of the formatting elements that are no longer open, the earliest first. -/
def reopenFormatting (b : Builder) : Builder :=
  let isClosed : Active → Bool
    | .marker => false
    | .element e => !b.isOpen e.id
  let closed := b.active.takeWhile isClosed
  closed.reverse.foldl reopen { b with active := b.active.drop closed.length }
where
  reopen (b : Builder) : Active → Builder
    | .marker => b
    | .element e =>
      let b := b.addOpen e.space e.tag e.attrs
      { b with active := (b.stack.take 1).map Active.element ++ b.active }

/-! ## Modes -/

/-- The mode for contents of a select element below the given elements. -/
def selectMode : List Open → Mode
  | [] => .inSelect
  | e :: rest =>
    if e.tag == Text.ofString "template" then .inSelect
    else if e.tag == Text.ofString "table" then .inSelectInTable
    else selectMode rest

/-- The mode for contents of one element, if the element decides it. -/
def modeOf? (b : Builder) (e : Open) (last : Bool) (below : List Open) : Option Mode :=
  let is (ns : String) : Bool := among e.tag (names ns)
  if is "select" then some (if last then .inSelect else selectMode below)
  else if is "td th" then some .inCell
  else if is "tr" then some .inRow
  else if is "tbody thead tfoot" then some .inTableBody
  else if is "caption" then some .inCaption
  else if is "colgroup" then some .inColumnGroup
  else if is "table" then some .inTable
  else if is "template" && e.space == .html then some (b.templates.head?.getD .inBody)
  else if is "head" then some .inHead
  else if is "body" then some .inBody
  else if is "frameset" then some .inFrameset
  else if is "html" then some (if b.head.isNone then .beforeHead else .afterHead)
  else if last then some .inBody
  else none

/-- The mode for the given open elements. -/
def modeFor (b : Builder) : List Open → Mode
  | [] => b.mode
  | e :: rest =>
    let e := if rest.isEmpty then (b.context.map fun tag => { e with tag, space := .html }).getD e else e
    match b.modeOf? e rest.isEmpty rest with
    | some m => m
    | none => modeFor b rest

/-- Chooses the mode anew from the open elements. -/
def resetMode (b : Builder) : Builder := { b with mode := b.modeFor b.stack }

end Builder

end PageBoot.Html
