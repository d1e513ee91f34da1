import PageBoot.World.Basic

/-!
Calls between connectors and sessions. While a connector is called it may signal a lost
connection; its listener's session then disconnects, and the session's recovery action runs.
-/

namespace PageBoot.World

open Page (ConnectorId Thing)

/-! ## Sessions -/

def overlayDelay : Int := 1000000

/-- Runs the recovery action of a session that was just disconnected. The action of a labelled
one reports the loss once more. -/
def recover (w : World) (i : Nat) : Recovery → World
  | .overlay => w.onPage fun p => { p with loop := p.loop.setTimeout .overlay overlayDelay }
  | .labelled label =>
    match w.sessions[i]? with
    | none => w
    | some s =>
      let (loss, s') := s.disconnected
      let ran := match loss with
        | .lost (some _) => true
        | _ => false
      (w.setSession i s').note (.recovery label s.status ran)

/-- Reports a lost connection to a session; the flag says whether a recovery action was run. -/
def disconnected (w : World) (i : Nat) : Bool × World :=
  match w.sessions[i]? with
  | none => (false, w)
  | some s =>
    match s.disconnected with
    | (.ignored, s') => (false, w.setSession i s')
    | (.lost action, s') =>
      let w := (w.setSession i s').log s.disconnectedEntry
      match action with
      | none => (false, w)
      | some a => (true, w.recover i a)

def transition (w : World) (i : Nat) (target : Status) : Option Failure × World :=
  match w.sessions[i]? with
  | none => (none, w)
  | some s =>
    match s.transition target with
    | .error f => (some f, w)
    | .ok s' => (none, (w.setSession i s').log (s.transitionEntry target))

/-- Takes the step to the status with a number. -/
def transitionTo (w : World) (i n : Nat) : Option Failure × World :=
  match w.sessions[i]? with
  | none => (none, w)
  | some s =>
    match s.transitionTo n with
    | .error f => (some f, w)
    | .ok s' => (none, (w.setSession i s').log (s.transitionEntry s'.status))

/-- Connects a probing session; a loss that was reported before takes effect now. -/
def attach (w : World) (i : Nat) (connector : Text) (handle : Option ConnectorId) :
    Option Failure × World :=
  match w.sessions[i]? with
  | none => (none, w)
  | some s =>
    match s.attach connector handle with
    | .error f => (some f, w)
    | .ok (pending, s') =>
      let w := (w.setSession i s').log (s.transitionEntry .connected)
      (none, if pending then (w.disconnected i).2 else w)

def onDisconnected (w : World) (i : Nat) (action : Option Recovery) : World :=
  match w.sessions[i]? with
  | none => w
  | some s => w.setSession i (s.onDisconnected action)

/-! ## Connectors -/

/-- A connector signals a lost connection once. -/
def signal (w : World) (c : ConnectorId) : World :=
  match w.connectors[c]? with
  | none => w
  | some wired =>
    match wired.listener with
    | some l =>
      let (ran, w) := w.disconnected l.session
      if l.announces then w.note (.signal ran) else w
    | none =>
      match wired.device with
      | .script _ => w
      | .guest p => w.say "wasmplugin" .warn "disconnect signal before init" [("name", .text p.name)]

def signals (w : World) (c : ConnectorId) : Nat → World
  | 0 => w
  | n + 1 => (w.signal c).signals c n

/-- Takes over what a guest did in a call, and passes its signals on. -/
def finishCall {α : Type} (w : World) (c : ConnectorId) (call : Wasm.Called α) : Reply α × World :=
  let w := w.updateConnector c fun wired => { wired with device := .guest call.plugin }
  (call.reply, w.signals c call.signals)

def listen (w : World) (c : ConnectorId) (l : Listener) : World :=
  w.updateConnector c fun wired => { wired with listener := some l }

/-- A script says that it is called. -/
def announced (w : World) (d : Device) (saying : Text → Note) : World :=
  match d with
  | .script s => w.note (saying s.name)
  | .guest _ => w

/-- Calls a connector and passes on the signals it sends meanwhile. A connector that is not there
gives the answer `missing`. -/
def callDevice (w : World) (c : ConnectorId) (missing : Bool) (saying : Text → Note)
    (handle : Device → Device.Handled) : Reply Bool × World :=
  match w.device? c with
  | none => (.answer missing, w)
  | some d =>
    let h := handle d
    let w := (w.announced d saying).updateConnector c fun wired => { wired with device := h.device }
    (h.reply, w.signals c h.signals)

/-- Asks a connector whether it can be used here. -/
def callInit (w : World) (c : ConnectorId) (l : Listener) : Reply Bool × World :=
  (w.listen c l).callDevice c false (.init · w.page.href) Device.onInit

def callConnect (w : World) (c : ConnectorId) (r : Connector.Request) : Reply Bool × World :=
  w.callDevice c false (.connect · r) (Device.onConnect r)

def callDisconnect (w : World) (c : ConnectorId) : Reply Bool × World :=
  w.callDevice c true .disconnect Device.onDisconnect

/-- Ends a session and hands it back as it was, with its connection if it had one. -/
def endSession (w : World) (i : Nat) : Option (Session ConnectorId Recovery × ConnectorId) × World :=
  match w.sessions[i]? with
  | none => (none, w)
  | some s =>
    let (handle, s') := s.close
    (handle.map (s, ·), w.setSession i s')

/-- Closes the connection of a session; a connector that fails at that is only mentioned. -/
def hangUp (w : World) (s : Session ConnectorId Recovery) (c : ConnectorId) : World :=
  match w.callDisconnect c with
  | (.answer _, w) => w
  | (.failure f, w) => w.log (s.disconnectFailedEntry f)
  | (.crash t, w) => w.log (s.disconnectCrashedEntry t)

def closeSession (w : World) (i : Nat) : World :=
  match w.endSession i with
  | (none, w) => w
  | (some (s, c), w) => w.hangUp s c

/-! ## Tables of objects -/

def tableSize (w : World) (t : Nat) : Nat := ((w.tables[t]?).map (·.size)).getD 0

def newTable (w : World) : Nat × World :=
  (w.tables.length, { w with tables := w.tables ++ [.empty] })

/-- Closes a table; objects that want to hear of it are told. -/
def closeTable (w : World) (t : Nat) : World :=
  match w.tables[t]? with
  | none => w
  | some table =>
    let (live, table) := table.close
    { w with
      tables := w.tables.set t table
      notes := w.notes ++ (live.filterMap Bridge.releaseName?).map Note.release }

/-- Gives a connector the table of a module, if it wants one. -/
def bindTable (w : World) (c : ConnectorId) (t : Nat) : World :=
  match w.device? c with
  | some (.script s) => if s.reach = .full then w.note (.bind s.name (w.tableSize t)) else w
  | some (.guest _) => w.updateConnector c fun wired => { wired with table := some t }
  | none => w

/-- Whether a connector takes dispatched calls. -/
def takesCalls (w : World) (c : ConnectorId) : Bool :=
  match w.device? c with
  | some (.script s) => s.reach != .handshake
  | some (.guest _) => true
  | none => false

/-- Calls a connector by dispatch id. -/
def callDispatch (w : World) (c : ConnectorId) (disp : Int) (this : Value) (args : List Value) :
    Reply Bridge.Result × World :=
  match w.connectors[c]? with
  | none => (.answer ⟨false, .null⟩, w)
  | some wired =>
    match wired.device with
    | .script s => (.answer (Connector.Script.dispatch disp this args), w.note (.dispatch s.name disp this args))
    | .guest p =>
      let (call, table) := p.runDispatch (wired.table.bind fun t => w.tables[t]?) disp this args
      let w := match wired.table, table with
        | some t, some table => { w with tables := w.tables.set t table }
        | _, _ => w
      w.finishCall c call

def isClosable (w : World) (c : ConnectorId) : Bool := (w.device? c).any (·.reach = .full)

/-- Closes a connector that can be closed. -/
def closeConnector (w : World) (c : ConnectorId) : World :=
  match w.device? c with
  | some (.script s) => w.note (.close s.name)
  | some (.guest p) => w.updateConnector c fun wired => { wired with device := .guest p.close }
  | none => w

/-! ## Plugin elements -/

/-- Runs a factory and gives what it returned. -/
def produce (w : World) (f : Page.Factory) : Option Thing × World :=
  let w := w.note (.factory f.key)
  match f.make with
  | .failing => (none, w)
  | .thing (.value .null) => (none, w)
  | .thing t => (some t, w)
  | .guest name bytes =>
    match Wasm.Plugin.load name bytes with
    | .error _ => (none, w)
    | .ok (p, signals) =>
      let c := w.connectors.length
      let w := { w with connectors := w.connectors ++ [Wired.ofGuest p] }
      let w := w.signals c signals
      (some (.connector c), w.say "wasmplugin" .debug "connector module loaded" [("name", .text name)])

/-- Runs a factory for an element that waits for it. -/
def runFactory (w : World) (id : Html.NodeId) (f : Page.Factory) : World :=
  match w.produce f with
  | (none, w) => w
  | (some t, w) => w.onPage (·.bindPlugin id t)

def runFactories (w : World) (waiting : List (Html.NodeId × Page.Factory)) : World :=
  waiting.foldl (fun w (id, f) => w.runFactory id f) w

/-- Writes markup to the page and fills the plugin elements in it. -/
def write (w : World) (markup : Text) : World :=
  let (waiting, page) := w.page.write markup
  { w with page }.runFactories waiting

def registerPlugin (w : World) (f : Page.Factory) : World :=
  let (waiting, page) := w.page.registerPlugin f
  { w with page }.runFactories waiting

/-- Writes the elements that connectors live in, unless a connector is built in. -/
def installPlugins (w : World) : World :=
  if (w.page.global? Connector.Finder.nativeGlobal).isSome then w
  else (w.write Connector.embedMarkup).write Connector.objectMarkup

end PageBoot.World
