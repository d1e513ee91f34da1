import PageBoot.Disk
import PageBoot.Loader.Bootstrap
import PageBoot.Wasm.Guest

/-!
Pages from files and the modules started on them. The loader script of the module is the one that
runs, as if the browser had just come to it.
-/

namespace PageBoot.Command

open Loader

/-- The page that a module is started on. -/
structure HostPage where
  /-- The file with its markup; without a name it is an empty document. -/
  file : Text := []
  location : Text
  userAgent : Text := []
  isBackCompat : Bool := false
  deriving DecidableEq, Repr

namespace HostPage

def unreadable : Failure := .wrap .config .invalidInput (some .foreign) "parse host page"

def markup (h : HostPage) (d : Disk) : Except Failure Text :=
  if h.file.isEmpty then .ok Page.emptyMarkup
  else match d.read? h.file with
    | some t => .ok t
    | none => .error (if d.isDirectory h.file then unreadable else .missingFile h.file)

/-- Makes the module's loader script the running one, at the end of the page if it has none. -/
def atLoader (module : Text) (p : Page) : Page :=
  let name := module ++ loaderSuffix
  let (script, p) := match p.findScript? name with
    | some n => (n, p)
    | none => p.appendScript (module ++ "/" ++ name)
  p.setCurrentScript (some script)

/-- Opens the page for a module. -/
def page (h : HostPage) (d : Disk) (module : Text) : Except Failure Page := do
  let markup ← h.markup d
  let p ← Page.open? markup h.location h.userAgent (Text.when h.isBackCompat Page.backCompatMode)
  return atLoader module p

end HostPage

/-- A module on its page, and how it was started. -/
structure Started where
  world : World
  booted : Booted

namespace Started

/-- Starts a module on a page that nothing has happened on yet. -/
def start (p : Page) (draws : List Int) (plugins : List Page.Factory) (o : BootOptions) :
    Except Failure Started :=
  let w := plugins.foldl World.registerPlugin (World.start p draws [])
  match w.bootstrap o with
  | (.ok booted, world) => .ok { world, booted }
  | (.error f, _) => .error f

def line (s : Started) : Text := s.world.outcomeLine s.booted

def module? (s : Started) : Option DevModule := s.booted.dev.bind fun i => s.world.modules[i]?

def isConnected (s : Started) : Bool := s.module?.any fun m => m.outcome == .connected

/-- Leaves the page. -/
def unload (s : Started) : Started := { s with world := s.world.fireUnload }

/-- The code server drops the connection. -/
def dropLink (s : Started) : Started :=
  match s.module? with
  | some m => { s with world := (s.world.disconnected m.session).2.drain.2 }
  | none => s

end Started

/-- A module to be started in dev mode. -/
structure DevSetup where
  host : HostPage
  module : Text
  /-- The file of the connector plugin; without a name it is one that accepts every connection. -/
  plugin : Text := []
  /-- The code server that is asked for unless the location names one. -/
  codeServer : Text := []
  bridge : BridgeOptions := {}
  sinks : List Text := []
  deriving DecidableEq, Repr

namespace DevSetup

/-- The connector plugin. -/
def making (s : DevSetup) (d : Disk) : Except Failure Page.Making :=
  if s.plugin.isEmpty then .ok (.guest "loopback" (Wasm.Guest.bytes Wasm.Guest.loopback))
  else match d.read? s.plugin with
    | some bytes => .ok (.guest (Disk.baseName s.plugin) bytes)
    | none => .error (.saying "read plugin" (.missingFile s.plugin))

/-- The location of the page, with the code server in its query. -/
def location (s : DevSetup) : Except Failure Text :=
  match Url.withCodeServer? s.host.location s.codeServer with
  | some t => .ok t
  | none => .error (.saying "parse location" (.external ("not a location: " ++ s.host.location)))

/-- Starts the module. -/
def start (s : DevSetup) (d : Disk) (draws : List Int) : Except Failure Started := do
  let make ← s.making d
  let location ← s.location
  let p ← { s.host with location }.page d s.module
  Started.start p draws [⟨Connector.pluginType, make⟩]
    { module := some { name := s.module }, mode := 2, sinks := s.sinks, bridge := s.bridge }

end DevSetup

end PageBoot.Command
