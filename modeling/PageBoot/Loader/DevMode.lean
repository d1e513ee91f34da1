import PageBoot.World.Discovery

/-!
Bridging a module to its code server. Without any connector the page shows where to get one; a
refusal goes to the module's own handler, or is shown to the user.
-/

namespace PageBoot.Loader

open Connector

def missingPluginUrl : Text := "http://gwt.google.com/missing-plugin/"

def troubleshootingUrl : Text :=
  "http://code.google.com/p/google-web-toolkit/wiki/TroubleshootingOOPHM"

structure BridgeOptions where
  finders : List Finder := []
  /-- Labels of the sinks that startup events go to. -/
  sinks : List Text := []
  missingPluginUrl : Text := []
  troubleshootingUrl : Text := []
  protocolVersion : Text := []
  deriving DecidableEq, Repr

namespace BridgeOptions

/-- Options with their defaults filled in. -/
def complete (o : BridgeOptions) : BridgeOptions where
  finders := if o.finders.isEmpty then Finder.standard else o.finders
  sinks := o.sinks
  missingPluginUrl := if o.missingPluginUrl.isEmpty then Loader.missingPluginUrl else o.missingPluginUrl
  troubleshootingUrl :=
    if o.troubleshootingUrl.isEmpty then Loader.troubleshootingUrl else o.troubleshootingUrl
  protocolVersion := if o.protocolVersion.isEmpty then Connector.protocolVersion else o.protocolVersion

end BridgeOptions

/-- What came of bridging: the place of the module, if there is one, and the failure. -/
structure Bridged where
  module : Option Nat := none
  failure : Option Failure := none

end PageBoot.Loader

namespace PageBoot.World

open Loader Connector

def addModule (w : World) (m : DevModule) : Nat × World :=
  (w.modules.length, { w with modules := w.modules ++ [m] })

/-- What a refusal leads to. -/
def reportRefusal (w : World) (loadError : Option Text) (o : BridgeOptions) (m : DevModule) : World :=
  match loadError with
  | some handler => w.note (.loadError handler m.name)
  | none => w.onPage fun p =>
    (p.alert ("Plugin failed to connect to hosted mode server at " ++ m.codeServer)).loadFrame
      o.troubleshootingUrl

/-- Connects a module through a connector that was found. -/
def connectModule (w : World) (m : DevModule) (c : Page.ConnectorId) : Nat × World :=
  let (t, w) := w.newTable
  let w := w.bindTable c t
  let m := { m with
    connector := some c, table := some t, adapters := if w.takesCalls c then some {} else none }
  let (i, w) := w.addModule m
  (i, w.onPage (·.onUnload (.module i)))

/-- Opens the session of a module that is to be bridged. Losing its connection leads to an
overlay. -/
def openModule (w : World) (o : BridgeOptions) (name base : Text) : DevModule × World :=
  let emitter : Metrics.Emitter Text :=
    { sinks := o.sinks, module := name, session := w.page.globalText Metrics.sessionGlobal }
  let w := w.emit emitter Metrics.evalStart
  let (session, w) := w.newSession name
  let (number, state) := w.state.nextModule
  let w := { w with state }
  ({ name, base, codeServer := Url.codeServer w.page.search, number, session, emitter },
    w.onDisconnected session (some .overlay))

def identityOf (w : World) (session : Nat) : Text := ((w.sessions[session]?).map (·.id)).getD []

/-- What a module asks connectors for. -/
def requestOf (w : World) (o : BridgeOptions) (m : DevModule) : Request where
  url := w.page.href
  session := w.identityOf m.session
  codeServer := m.codeServer
  module := m.name
  version := o.protocolVersion

/-- Looks for a connector for a module. -/
def discoverFor (w : World) (o : BridgeOptions) (m : DevModule) :
    Except Failure Page.ConnectorId × World :=
  w.discover o.finders { session := m.session } m.session (w.requestOf o m)

/-- Takes in what came of looking for a connector. -/
def settleModule (w : World) (o : BridgeOptions) (loadError : Option Text) (m : DevModule)
    (found : Except Failure Page.ConnectorId) : Bridged × World :=
  let id := w.identityOf m.session
  let say (w : World) (level : Level) (message : Text) (more : List (Text × Journal.Detail)) : World :=
    w.say "devmode" level message (("module", .text m.name) :: ("session", .text id) :: more)
  let server : Text × Journal.Detail := ("code_server", .text m.codeServer)
  match found with
  | .ok c =>
    let (i, w) := w.connectModule m c
    ({ module := some i }, say w .info "module bridged to code server" [server])
  | .error f =>
    if f.isConnectionRefused then
      let m := { m with outcome := .refused }
      let w := say w .warn "code server refused connection" [server]
      let (i, w) := (w.reportRefusal loadError o m).addModule m
      ({ module := some i, failure := some f }, w)
    else if f.isPluginAbsent then
      let m := { m with outcome := .absent }
      let w := (say w .info "no bridge plugin found" []).onPage (·.loadFrame o.missingPluginUrl)
      let (i, w) := w.addModule m
      ({ module := some i, failure := some f }, w)
    else ({ failure := some f }, w)

/-- Bridges a module to the code server that the page's query names. -/
def onLoad (w : World) (options : BridgeOptions) (loadError : Option Text) (name base : Text) :
    Bridged × World :=
  if name.isEmpty then ({ failure := some (.invalidInput .bootstrap "module name is required") }, w)
  else
    let o := options.complete
    let (m, w) := w.openModule o name base
    let (found, w) := w.discoverFor o m
    (w.emit m.emitter Metrics.evalEnd).settleModule o loadError m found

/-- Tells the sinks of a module that a class of it starts to load. -/
def moduleLoadStart (w : World) (i : Nat) (className : Text) : World :=
  match w.modules[i]? with
  | some m => w.emit m.emitter (.moduleLoadStart className)
  | none => w

/-- Calls the code server through a module's adapters. A tear-off keeps the number of arguments
of its first request. -/
def call (w : World) (i : Nat) (disp arity : Int) (tearOff : Bool) (this : Value)
    (args : List Value) : Option (Reply Value) × World :=
  match w.modules[i]? with
  | none => (none, w)
  | some m =>
    match m.adapters, m.connector with
    | some adapters, some c =>
      let (arity, adapters) := adapters.adapter disp arity tearOff
      let w := { w with modules := w.modules.set i { m with adapters := some adapters } }
      if (args.length : Int) ≠ arity then
        (some (.failure (Bridge.arityFailure disp arity args.length)), w)
      else
        match w.callDispatch c disp this args with
        | (.answer r, w) => (some (.ofExcept (Bridge.outcomeOf disp r)), w)
        | (.failure f, w) => (some (.failure f), w)
        | (.crash t, w) => (some (.crash t), w)
    | _, _ => (none, w)

end PageBoot.World
