import PageBoot.Loader.DevMode
import PageBoot.Loader.Selection

/-!
Starting a module on a page, in dev mode or as compiled. The first start on a page applies
workarounds for browsers, and the first in dev mode writes the elements for connectors.
-/

namespace PageBoot.Loader

/-- The way a module is started. -/
inductive BootMode where
  | auto
  | compiled
  | dev
  deriving DecidableEq, Repr

namespace BootMode

def name : BootMode → Text
  | .auto => "auto"
  | .compiled => "compiled"
  | .dev => "dev"

/-- The mode with a number. -/
def ofNat? (n : Nat) : Option BootMode := [auto, compiled, dev][n]?

def nameOf (n : Nat) : Text := ((ofNat? n).map name).getD "unknown"

def hybridKey : Text := "gwt.hybrid"

/-- The mode that a page's query asks for. -/
def detect (p : Page) : BootMode :=
  if Url.hasQueryKey p.search Url.codeServerKey && !p.search.includes hybridKey then .dev else .compiled

end BootMode

/-- A change of the page for some browsers. One without a test or without a change is never
applied. -/
structure Workaround where
  name : Text
  applies : Option (Page → Bool)
  apply : Option (World → World)

namespace Workaround

def objectIdGlobal : Text := "__gwt_ObjectId"

private def glass (width height : Text) (w : World) : World :=
  w.onPage fun p => (p.setGlassStyle "width" width).setGlassStyle "height" height

/-- The workarounds that are known. -/
def standard : List Workaround :=
  [{ name := "chrome-object-id"
     applies := some fun p => p.userAgent.toLower.includes "chrome"
     apply := some fun w => w.onPage (·.hideGlobal objectIdGlobal) },
   { name := "msie-backcompat-glass"
     applies := some fun p => p.userAgent.includes "MSIE" && p.compatMode == Page.backCompatMode
     apply := some (glass "125%" "100%") },
   { name := "msie6-glass"
     applies := some fun p => p.userAgent.includes "MSIE 6" && p.compatMode != Page.backCompatMode
     apply := some (glass "125%" "expression(document.documentElement.clientHeight)") }]

/-- Applies those that are called for, in order, and gives their names. -/
def applyAll : List Workaround → World → List Text × World
  | [], w => ([], w)
  | q :: qs, w =>
    match q.applies, q.apply with
    | some applies, some apply =>
      if applies w.page then
        let (names, w) := applyAll qs (apply w)
        (q.name :: names, w)
      else applyAll qs w
    | _, _ => applyAll qs w

end Workaround

structure BootOptions where
  module : Option (ModuleDef ValueRule) := none
  base : Text := []
  /-- The number of the mode. -/
  mode : Nat := 0
  handlers : HandlerTable := {}
  loadError : Option Text := none
  propertyError : Option Text := none
  silent : Bool := false
  workarounds : Option (List Workaround) := none
  sinks : List Text := []
  bridge : BridgeOptions := {}
  /-- Whether the caller has a page, and its state, to start the module on. -/
  hasPage : Bool := true
  hasState : Bool := true

def BootOptions.selection (o : BootOptions) : SelectionOptions :=
  { handlers := o.handlers, propertyError := o.propertyError, silent := o.silent, sinks := o.sinks }

structure Booted where
  mode : BootMode
  workarounds : List Text := []
  selection : Option Selected := none
  /-- The place of the bridged module. -/
  dev : Option Nat := none
  /-- A handshake that did not come about, which the page already shows. -/
  handled : Option Failure := none

def workaroundsClaim : Text := "bootstrap.quirks"
def pluginsClaim : Text := "bootstrap.plugins"

end PageBoot.Loader

namespace PageBoot.World

open Loader

def claim (w : World) (key : Text) : Bool × World :=
  let (free, state) := w.state.claim key
  (free, { w with state })

/-- Finds the handler of failed loads and the script base. -/
def lookAround (w : World) (name : Text) (o : BootOptions) : Option Text × Text × World :=
  let (loadError, w) : Option Text × World :=
    match o.loadError with
    | some h => (some h, w)
    | none =>
      let (settings, w) := w.readMetas o.handlers
      (settings.loadError, w)
  let (base, w) := if o.base.isEmpty then w.scriptBase name else (o.base, w)
  (loadError, base, w)

/-- Writes the elements for connectors if this is the first start in dev mode. -/
def plugIn (w : World) : World :=
  let (first, w) := w.claim pluginsClaim
  if first then w.installPlugins else w

/-- Starts a module in dev mode, on the page as `plugIn` prepares it for connectors. -/
def bootDevOn (plugIn : World → World) (w : World) (name : Text) (o : BootOptions) (r : Booted) :
    Except Failure Booted × World :=
  let (loadError, base, w) := w.lookAround name o
  let (bridged, w) := (plugIn w).onLoad { o.bridge with sinks := o.sinks ++ o.bridge.sinks }
    loadError name base
  match bridged.failure with
  | none => (.ok { r with dev := bridged.module }, w)
  | some f =>
    if f.isConnectionRefused || f.isPluginAbsent then
      (.ok { r with dev := bridged.module, handled := some f }, w)
    else (.error f, w)

/-- Starts a module in dev mode. -/
def bootDev (w : World) (name : Text) (o : BootOptions) (r : Booted) : Except Failure Booted × World :=
  w.bootDevOn plugIn name o r

def unknownMode (n : Nat) : Failure :=
  .report .bootstrap .invalidInput "mode" "unknown bootstrap mode" (.str (BootMode.nameOf n)) none

/-- The way a module is started: the one asked for, or the one that the page's query asks for. -/
def settleMode (w : World) (n : Nat) : Option BootMode :=
  match BootMode.ofNat? n with
  | some .auto => some (BootMode.detect w.page)
  | mode => mode

/-- Something to be said about starting a module. -/
def sayStart (w : World) (module : Text) (mode : Option BootMode) (level : Level) (message : Text)
    (more : List (Text × Journal.Detail)) : World :=
  w.say "bootstrap" level message
    (("module", .text module) :: ("mode", .text ((mode.map BootMode.name).getD "unknown")) :: more)

/-- Applies workarounds if this is the first start on the page, and gives the names of those that
were called for. -/
def workAround (w : World) (module : Text) (mode : Option BootMode)
    (workarounds : Option (List Workaround)) : List Text × World :=
  let (first, w) := w.claim workaroundsClaim
  let (applied, w) : List Text × World :=
    if first then Workaround.applyAll (workarounds.getD Workaround.standard) w else ([], w)
  (applied, if applied.isEmpty then w
    else w.sayStart module mode .debug "quirks applied" [("quirks", .texts applied)])

/-- Starts a module on the page, where `make` gives a provider its meaning, as `workAround` prepares the
page and `bootDev` starts modules in dev mode. -/
def bootstrapOn {π : Type}
    (workAround : World → Text → Option BootMode → Option (List Workaround) → List Text × World)
    (bootDev : World → Text → BootOptions → Booted → Except Failure Booted × World)
    (make : ModuleDef π → MetaSettings → π → Option (Binding.Provider World)) (w : World)
    (module : Option (ModuleDef π)) (o : BootOptions) : Except Failure Booted × World :=
  if !o.hasPage then (.error (.invalidInput .bootstrap "host page is required"), w)
  else if !o.hasState then (.error (.invalidInput .bootstrap "page state is required"), w)
  else match module.filter fun m => !m.name.isEmpty with
  | none => (.error (.invalidInput .bootstrap "module name is required"), w)
  | some m =>
    let mode := w.settleMode o.mode
    let (applied, w) := workAround w m.name mode o.workarounds
    match mode with
    | some .dev =>
      match bootDev w m.name o { mode := .dev, workarounds := applied } with
      | (.error f, w) => (.error f, w)
      | (.ok r, w) =>
        (.ok r, match r.handled with
          | some f =>
            w.sayStart m.name mode .info "dev-mode handshake did not complete"
              [("error", .text f.message)]
          | none => w)
    | some .compiled =>
      match w.selectBy (make m) m o.selection with
      | (.error f, w) => (.error f, w)
      | (.ok s, w) => (.ok { mode := .compiled, workarounds := applied, selection := some s }, w)
    | _ => (.error (unknownMode o.mode), w)

/-- Starts a module on the page. `make` gives a provider its meaning. -/
def bootstrapBy {π : Type}
    (make : ModuleDef π → MetaSettings → π → Option (Binding.Provider World)) (w : World)
    (module : Option (ModuleDef π)) (o : BootOptions) : Except Failure Booted × World :=
  bootstrapOn workAround bootDev make w module o

/-- Starts a module with described providers. -/
def bootstrap (w : World) (o : BootOptions) : Except Failure Booted × World :=
  w.bootstrapBy provider o.module o

/-- Whether a start did not get as far as a running module. -/
def isAborted (w : World) (r : Booted) : Bool :=
  match r.selection with
  | some s => s.aborted
  | none =>
    match r.dev.bind fun i => w.modules[i]? with
    | some m => m.outcome != .connected
    | none => true

def notStarted : Text := "not started"

/-- One line on what came of a start in dev mode. -/
def outcomeLine (w : World) (r : Booted) : Text :=
  match r.dev.bind fun i => w.modules[i]? with
  | none => notStarted
  | some m =>
    let id := ((w.sessions[m.session]?).map (·.id)).getD []
    m.name ++ ": " ++ m.outcome.name ++ " (code server " ++ m.codeServer ++ ", session " ++ id ++ ")"

end PageBoot.World
