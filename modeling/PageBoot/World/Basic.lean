import PageBoot.Bridge.ObjectTable
import PageBoot.Connector.Script
import PageBoot.Metrics
import PageBoot.Page.Write
import PageBoot.Page.Glass
import PageBoot.Session.Basic
import PageBoot.Session.PageState
import PageBoot.Wasm.Plugin

/-!
A page and everything that acts on it: the state that its loaders share, connectors, sessions,
bridged modules and their tables of objects. Notes record what connectors, handlers and other
callbacks did, in order; the journal records what the loader has to say.
-/

namespace PageBoot

open Page (ConnectorId Thing)

/-- Who hears the signals of a connector. -/
structure Listener where
  session : Nat
  /-- Whether the effect of each signal is noted. -/
  announces : Bool := false
  deriving DecidableEq, Repr

inductive Device where
  | script (s : Connector.Script)
  | guest (p : Wasm.Plugin)

namespace Device

/-- What a connector does when it is called: its reply, how often it signals a lost connection
meanwhile, and what it is afterwards. -/
structure Handled where
  reply : Reply Bool
  signals : Nat
  device : Device

/-- What a connector can do. A guest can do everything. -/
def reach : Device → Connector.Reach
  | .script s => s.reach
  | .guest _ => .full

private def ofGuest (call : Wasm.Called Bool) : Handled :=
  { reply := call.reply, signals := call.signals, device := .guest call.plugin }

def onInit : Device → Handled
  | .script s => { reply := s.reply s.init, signals := s.initSignals, device := .script s }
  | .guest p => ofGuest p.runInit

def onConnect (r : Connector.Request) : Device → Handled
  | .script s => { reply := s.reply s.connect, signals := s.connectSignals, device := .script s }
  | .guest p => ofGuest (p.runConnect r.texts)

def onDisconnect : Device → Handled
  | .script s =>
    { reply := s.reply s.disconnect, signals := s.disconnectSignals, device := .script s }
  | .guest p => ofGuest p.runDisconnect

end Device

/-- A connector with the listener it was given last and the table it was given last. -/
structure Wired where
  device : Device
  listener : Option Listener := none
  table : Option Nat := none

def Wired.ofGuest (p : Wasm.Plugin) : Wired := { device := .guest p }

/-- What is done when a connection is lost. -/
inductive Recovery where
  | labelled (label : Text)
  /-- Shows an overlay shortly after. -/
  | overlay
  deriving DecidableEq, Repr

/-- What a watcher does at its first event, after saying so: mark a name, cancel a subscription,
and subscribe. -/
structure Reaction where
  mark : Option Text := none
  cancel : Option Text := none
  subscribe : Option Text := none
  deriving DecidableEq, Repr

/-- An observer of loaded resources. -/
structure Watcher where
  label : Text
  reaction : Option Reaction := none
  deriving DecidableEq, Repr

inductive BridgeOutcome where
  | connected
  | absent
  | refused
  deriving DecidableEq, Repr

def BridgeOutcome.name : BridgeOutcome → Text
  | .connected => "connected"
  | .absent => "absent"
  | .refused => "refused"

/-- A module in dev mode, and its connection if it has one. -/
structure DevModule where
  name : Text
  base : Text
  codeServer : Text
  outcome : BridgeOutcome := .connected
  number : Nat
  session : Nat
  connector : Option ConnectorId := none
  table : Option Nat := none
  adapters : Option Bridge.Adapters := none
  emitter : Metrics.Emitter Text

inductive Note where
  | init (connector href : Text)
  | connect (connector : Text) (request : Connector.Request)
  | disconnect (connector : Text)
  | dispatch (connector : Text) (disp : Int) (this : Value) (args : List Value)
  | bind (connector : Text) (size : Nat)
  | close (connector : Text)
  | factory (key : Text)
  | release (name : Text)
  | resize (label : Text)
  | beforeUnload (message : Text)
  | unload (label : Text)
  | task (label : Text) (now : Int)
  | loaded (watcher : Text) (kind : ResourceKind) (name : Text)
  | marked (first : Bool)
  | recovery (label : Text) (status : Status) (ran : Bool)
  | signal (ran : Bool)
  | patched (name : Text)
  | propertyError (handler name : Text) (allowed : List Text) (value : Text)
  | loadError (handler module : Text)
  | metric (sink : Text) (event : Metrics.Event)

structure World where
  page : Page
  state : PageState Identity.Rounds Watcher
  connectors : List Wired := []
  sessions : List (Session ConnectorId Recovery) := []
  modules : List DevModule := []
  tables : List Bridge.ObjectTable := []
  /-- Subscriptions by the label of their watcher. -/
  subscriptions : Dict (ResourceKind × Nat) := []
  /-- Subscriptions that had their first event. -/
  fired : List (ResourceKind × Nat) := []
  notes : List Note := []
  journal : List Journal.Entry := []

namespace World

/-- A page at work, with the given draws for session identities. -/
def start (page : Page) (draws : List Int) (connectors : List Connector.Script) : World where
  page
  state := { source := Identity.Rounds.source, draws := { values := draws } }
  connectors := connectors.map fun s => { device := .script s }

def note (w : World) (n : Note) : World := { w with notes := w.notes ++ [n] }

def log (w : World) (e : Journal.Entry) : World := { w with journal := w.journal ++ [e] }

def logAll (w : World) (es : List Journal.Entry) : World := { w with journal := w.journal ++ es }

def say (w : World) (logger : String) (level : Level) (message : Text)
    (details : List (Text × Journal.Detail)) : World :=
  w.log { logger, level, message, details }

def onPage (w : World) (f : Page → Page) : World := { w with page := f w.page }

def setSession (w : World) (i : Nat) (s : Session ConnectorId Recovery) : World :=
  { w with sessions := w.sessions.set i s }

def device? (w : World) (c : ConnectorId) : Option Device := (w.connectors[c]?).map (·.device)

def updateConnector (w : World) (c : ConnectorId) (f : Wired → Wired) : World :=
  { w with connectors := w.connectors.modify c f }

/-- Tells all sinks of an emitter about a moment. -/
def emit (w : World) (e : Metrics.Emitter Text) (m : Metrics.Moment) : World :=
  e.sinks.foldl (fun w sink => w.note (.metric sink (e.stamp m 0))) w

/-- The session identity of the page, drawn now if it is needed for the first time. -/
def identity (w : World) : Text × World :=
  let state := w.state.drawIdentity
  let w' := { w with state }
  (state.identity, if w.state.hasIdentity then w' else w'.log PageState.identityEntry)

/-- Opens a session for a module and gives its place. -/
def newSession (w : World) (module : Text) : Nat × World :=
  let (id, w) := w.identity
  (w.sessions.length, { w with sessions := w.sessions ++ [{ id, module }] })

end World

end PageBoot
