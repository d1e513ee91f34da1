import PageBoot.Page.Basic

/-!
Writing to a page. Written markup goes right after the running script, behind what was written
since that script started; without a running script it goes to the end of the body. Plugin
elements that are written, or already there when their factory is registered, wait for that
factory to be run.
-/

namespace PageBoot.Page

open Html

def setCurrentScript (p : Page) (id : Option NodeId) : Page := { p with current := id, cursor := none }

def appendToBody (p : Page) (l : Label) : NodeId × Page :=
  let (t, dom) := p.dom.fresh l
  (p.dom.next, { p with dom := dom.appendTo p.body t })

def scriptLabel (src : Text) : Label := .element "script" [("src", src)]

def appendScript (p : Page) (src : Text) : NodeId × Page := p.appendToBody (scriptLabel src)

def appendStylesheet (p : Page) (href : Text) : NodeId × Page :=
  let (t, dom) := p.dom.fresh (.element "link" [("rel", "stylesheet"), ("href", href)])
  (p.dom.next, { p with dom := dom.appendTo p.head t })

/-- Puts a tree with root `id` where written markup goes. -/
def insertWritten (p : Page) (id : NodeId) (t : Forest) : Page :=
  match (p.cursor.or p.current).filter p.dom.hasParent with
  | some after => { p with dom := p.dom.insertAfter after t, cursor := some id }
  | none => { p with dom := p.dom.appendTo p.body t }

/-- Puts each tree of a forest where written markup goes, one after another. -/
def insertAll (p : Page) (f : Forest) : Page :=
  (f.roots.zip f.trees).foldl (fun p (id, t) => p.insertWritten id t) p

def writeScript (p : Page) (src : Text) : NodeId × Page :=
  let id := p.dom.next
  let (t, dom) := p.dom.fresh (scriptLabel src)
  (id, { p with dom }.insertWritten id t)

/-! ## Plugin elements -/

def capabilityOf? (p : Page) (id : NodeId) : Option Thing :=
  (p.capabilities.find? (·.1 == id)).map (·.2)

def dropCapability (p : Page) (id : NodeId) : Page :=
  { p with capabilities := p.capabilities.filter (·.1 != id) }

def setCapability (p : Page) (id : NodeId) (t : Thing) : Page :=
  { p with capabilities := (p.dropCapability id).capabilities ++ [(id, t)] }

/-- The factory that an element waits for. -/
def waitsFor? (p : Page) (id : NodeId) (l : Label) : Option Factory :=
  if (l.isElementNamed "embed" || l.isElementNamed "object") && (p.capabilityOf? id).isNone then
    let type := l.attr "type"
    p.factories.get? (Text.toLower (if type.isEmpty then l.attr "classid" else type))
  else none

/-- Elements that wait for a factory, in document order. -/
def waiting (p : Page) (f : Forest) : List (NodeId × Factory) :=
  f.nodes.filterMap fun (id, l) => (p.waitsFor? id l).map fun factory => (id, factory)

/-- Writes markup and tells which of the new elements wait for which factory. -/
def write (p : Page) (markup : Text) : List (NodeId × Factory) × Page :=
  let new := parseContents "body" p.dom.next markup
  let p := { p with dom := { p.dom with next := new.next } }.insertAll new.forest
  (p.waiting new.forest, p)

/-- Registers a factory and tells which elements of the document wait for one. -/
def registerPlugin (p : Page) (f : Factory) : List (NodeId × Factory) × Page :=
  let p := { p with factories := p.factories.set (Text.toLower f.key) f }
  (p.waiting p.dom.document, p)

/-- Gives a plugin element what its factory made. -/
def bindPlugin (p : Page) (id : NodeId) (t : Thing) : Page :=
  { p.setCapability id t with owned := p.owned ++ [t] }

def bindCapability (p : Page) (id : Text) (t : Thing) : Except Failure Page :=
  match p.dom.byId? id with
  | some n => .ok (p.setCapability n t)
  | none => .error (.notFound .bootstrap "element" id)

def capability? (p : Page) (id : Text) : Option Thing := (p.dom.byId? id).bind p.capabilityOf?

/-! ## Elements -/

/-- Takes an element out of its tree. A written position at the element moves back by one. -/
def remove (p : Page) (id : NodeId) : Page :=
  if p.dom.hasParent id then
    let cursor :=
      if p.cursor = some id then (p.dom.previous? id).filter (some · != p.current) else p.cursor
    { p.dropCapability id with cursor, dom := p.dom.detach id }
  else p

/-- Sources of the scripts that have one. -/
def scripts (p : Page) : List Text :=
  p.dom.document.elements.filterMap fun (_, l) =>
    let src := l.attr "src"
    if l.tag == Text.ofString "script" && !src.isEmpty then some src else none

/-- The first script whose source ends in a text. -/
def findScript? (p : Page) (ending : Text) : Option NodeId :=
  (p.dom.document.elements.find? fun (_, l) =>
    l.tag == Text.ofString "script" && ending.isSuffixOf (l.attr "src")).map (·.1)

def stylesheets (p : Page) : List Text :=
  p.dom.document.elements.filterMap fun (_, l) =>
    if l.tag == Text.ofString "link" && (l.attr "rel").equalFold "stylesheet" then some (l.attr "href")
    else none

end PageBoot.Page
