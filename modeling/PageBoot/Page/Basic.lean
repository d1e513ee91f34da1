import PageBoot.Page.Dom
import PageBoot.Page.EventLoop
import PageBoot.Page.Style
import PageBoot.Url.Basic
import PageBoot.Failure

/-!
Pages: a document with a location, and what scripts on it see and leave behind. Connectors,
plugin factories and handlers are kept as data; whoever runs the page gives them their meaning.
-/

namespace PageBoot

namespace Page

open Html

/-- The place of a connector among those of the surroundings. -/
abbrev ConnectorId := Nat

/-- What a global variable or a plugin element holds. -/
inductive Thing where
  | value (v : Value)
  | connector (id : ConnectorId)

def Thing.connector? : Thing → Option ConnectorId
  | .value _ => none
  | .connector c => some c

/-- How a plugin element comes by what it holds. -/
inductive Making where
  | thing (t : Thing)
  /-- A connector that runs as a wasm guest, from its name and the bytes of its module. -/
  | guest (name bytes : Text)
  | failing

/-- A factory, with the key it was registered under. -/
structure Factory where
  key : Text
  make : Making

/-- Tasks that say their label when they run, and then queue others. -/
inductive Tasks where
  | nil
  | task (delay : Int) (isEmpty : Bool) (label : Text) (after rest : Tasks)
  deriving Inhabited

/-- A queued task. -/
inductive Job where
  | labelled (label : Text) (after : Tasks)
  /-- Shows that the connection to the code server was lost. -/
  | overlay

/-- What is asked of the event loop for tasks, one after another. -/
def Tasks.requests : Tasks → List (Request Job)
  | .nil => []
  | .task delay isEmpty label after rest =>
    { task := if isEmpty then none else some (.labelled label after), delay } :: rest.requests

/-- What happens when the page is left. -/
inductive Farewell where
  | labelled (label : Text)
  /-- Ends a bridged module, by its place among the modules. -/
  | module (index : Nat)

/-- The question asked before the page is left. -/
structure Question where
  message : Text
  isSet : Bool
  deriving DecidableEq, Repr

/-- Installed handlers, newest first. -/
structure Handlers where
  resize : List Text := []
  beforeUnload : List Question := []
  unload : List Farewell := []

structure Overlay where
  summary : Text
  details : Text
  deriving DecidableEq, Repr

/-- The text of an overlay's details without their markup. -/
def Overlay.text (o : Overlay) : Text := (parseContents "div" 0 o.details).forest.textContent

def standardsMode : Text := "CSS1Compat"
def backCompatMode : Text := "BackCompat"

end Page

open Page Html in
structure Page where
  dom : Dom
  head : NodeId
  body : NodeId
  location : Url
  userAgent : Text := []
  compatMode : Text := standardsMode
  /-- The script that runs, after which written markup goes. -/
  current : Option NodeId := none
  /-- The node written last after the running script. -/
  cursor : Option NodeId := none
  loop : EventLoop Job := .empty
  globals : Dict Thing := []
  hidden : List Text := []
  capabilities : List (NodeId × Thing) := []
  /-- What plugin elements were given by factories, oldest first. -/
  owned : List Thing := []
  factories : Dict Factory := []
  glassStyle : Style := []
  handlers : Handlers := {}
  focused : Text := []
  alerts : List Text := []
  frames : List Text := []
  overlays : List Overlay := []

namespace Page

open Html

def emptyMarkup : Text :=
  "<!DOCTYPE html><html><head><title></title></head><body></body></html>"

def defaultLocation : Text := "http://localhost/"

/-- Opens a page from its markup. -/
def open? (markup location userAgent compatMode : Text) : Except Failure Page :=
  let doc := parseDocument 1 markup
  match Url.parse? (if location.isEmpty then defaultLocation else location) with
  | none => .error (.wrap .config .invalidInput (some .foreign) "parse page location")
  | some url =>
    match doc.forest.findTag? "head", doc.forest.findTag? "body" with
    | some head, some body =>
      .ok {
        dom := { document := doc.forest, next := doc.next }
        head, body, location := url, userAgent
        compatMode := if compatMode.isEmpty then standardsMode else compatMode }
    | _, _ => .error (.invalidInput .config "host page has no head or body")

def href (p : Page) : Text := p.location.toText

def search (p : Page) : Text := p.location.search

def markup (p : Page) : Text := p.dom.document.markup

/-! ## Title and metas -/

def titleElement? (p : Page) : Option NodeId := p.dom.findTag? p.head "title"

def title (p : Page) : Text :=
  match p.titleElement? with
  | some t => (p.dom.subtree t).textContent
  | none => []

/-- The title element, with the nodes that it is among. It is made if there is none. -/
def ensureTitle (p : Page) : NodeId × Dom :=
  match p.titleElement? with
  | some t => (t, p.dom)
  | none =>
    let (t, dom) := p.dom.fresh (.element "title" [])
    (p.dom.next, dom.appendTo p.head t)

def setTitle (p : Page) (title : Text) : Page :=
  let (node, dom) := p.ensureTitle
  let (text, dom) := (dom.clear node).fresh (.text title)
  { p with dom := dom.appendTo node text }

/-- Names and contents of the metas that have a name. -/
def metas (p : Page) : List (Text × Text) :=
  p.dom.document.elements.filterMap fun (_, l) =>
    let name := l.attr "name"
    if l.tag == Text.ofString "meta" && !name.isEmpty then some (name, l.attr "content") else none

def elementById? (p : Page) (id : Text) : Option NodeId := p.dom.byId? id

/-! ## Globals and messages -/

def setGlobal (p : Page) (name : Text) (t : Thing) : Page := { p with globals := p.globals.set name t }

def global? (p : Page) (name : Text) : Option Thing := p.globals.get? name

/-- A global that is a text, or nothing. -/
def globalText (p : Page) (name : Text) : Text :=
  match p.global? name with
  | some (.value (.str t)) => t
  | _ => []

def hideGlobal (p : Page) (name : Text) : Page := { p with hidden := name :: p.hidden }

def globalNames (p : Page) : List Text :=
  Text.sort (p.globals.keys.filter fun k => !p.hidden.contains k)

def alert (p : Page) (message : Text) : Page := { p with alerts := p.alerts ++ [message] }

/-! ## Handlers -/

def initHandlers (p : Page) (resize : Option Text) (beforeUnload : Option Question)
    (unload : Option Farewell) : Page :=
  { p with handlers := {
      resize := resize.toList ++ p.handlers.resize
      beforeUnload := beforeUnload.toList ++ p.handlers.beforeUnload
      unload := unload.toList ++ p.handlers.unload } }

def onUnload (p : Page) (f : Farewell) : Page := p.initHandlers none none (some f)

/-- The newest message that was set. -/
def Handlers.question (h : Handlers) : Question :=
  (h.beforeUnload.find? (·.isSet)).getD ⟨[], false⟩

/-! ## Styles -/

def mergeStyle (p : Page) (id : NodeId) (s : Style) : Page :=
  let old := Style.parse (p.dom.attr id "style")
  { p with dom := p.dom.setAttr id "style" (Style.print (old.override s)) }

/-- The style of the element with an id; `body` and `html` name those elements. -/
def style? (p : Page) (id : Text) : Option Style :=
  let node :=
    if id == Text.ofString "body" then some p.body
    else if id == Text.ofString "html" then p.dom.document.findTag? "html"
    else p.dom.byId? id
  node.map fun n => Style.parse (p.dom.attr n "style")

end Page

end PageBoot
