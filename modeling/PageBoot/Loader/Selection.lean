import PageBoot.Loader.Module
import PageBoot.Text.EditDistance
import PageBoot.World.Events

/-!
Choosing the compiled variant of a module and putting it on the page, together with the
resources it needs that are not loaded yet. An illegal property value is reported and ends the
choice without touching the page.
-/

namespace PageBoot.Loader

/-! ## Illegal values -/

/-- The legal value nearest to a value, the first of equally near ones, if it is near enough to
be what was meant. -/
def suggest? (value : Text) (allowed : List Text) : Option Text :=
  let nearest := allowed.foldl (fun best a =>
    let d := Text.distance value a
    match best with
    | none => some (a, d)
    | some (_, least) => if d < least then some (a, d) else best) none
  (nearest.filter fun (_, d) => d ≤ max (value.length / 2) 1).map (·.1)

/-- What the user is told about an illegal value. -/
def bannerText (name : Text) (allowed : List Text) (value : Text) : Text :=
  "While attempting to load the application, property " ++ Text.quote name ++
    " had the unexpected value " ++ Text.quote value ++ "; expected one of [" ++
    Text.join ", " allowed ++ "]." ++
    (match suggest? value allowed with
      | some s => " Did you mean " ++ Text.quote s ++ "?"
      | none => [])

/-- Who hears of an illegal value. -/
inductive PropertyListener where
  | labelled (handler : Text)
  | user
  | nobody
  deriving DecidableEq, Repr

structure SelectionOptions where
  handlers : HandlerTable := {}
  propertyError : Option Text := none
  silent : Bool := false
  sinks : List Text := []
  deriving DecidableEq, Repr

/-- The handler that the page names comes first, then the caller's own, then the user. -/
def SelectionOptions.listener (o : SelectionOptions) (s : MetaSettings) : PropertyListener :=
  match s.propertyError, o.propertyError with
  | some h, _ => .labelled h
  | none, some h => .labelled h
  | none, none => if o.silent then .nobody else .user

structure Selected where
  base : Text
  strong : Text := []
  scriptUrl : Text := []
  scripts : List Text := []
  styles : List Text := []
  aborted : Bool := false
  settings : MetaSettings

def markerId (module : Text) : Text := "__gwt_marker_" ++ module

def cacheSuffix : Text := ".cache.js"

def loaderSuffix : Text := ".nocache.js"

end PageBoot.Loader

namespace PageBoot.World

open Loader

/-- The directory of the script that runs, found from a marker that is written after it for a
moment. -/
def scriptBase (w : World) (module : Text) : Text × World :=
  let id := markerId module
  let w := w.write ("<script id=\"" ++ id ++ "\"></script>")
  match w.page.elementById? id with
  | none => ([], w)
  | some marker =>
    let source := ((w.page.dom.previous? marker).map fun p => w.page.dom.attr p "src").getD []
    (source.uptoLast 47, w.onPage (·.remove marker))

/-- Reads the settings of the page's metas and tells the user about bad ones. -/
def readMetas (w : World) (table : HandlerTable) : MetaSettings × World :=
  let settings := MetaSettings.ofMetas table w.page.metas
  (settings, settings.alerts.foldl (fun w a => w.onPage (·.alert a)) w)

/-- Reports an illegal value. -/
def reportIllegal (listener : PropertyListener) (name : Text) (allowed : List Text) (value : Text)
    (w : World) : World :=
  let w := w.say "permutation" .debug "illegal property value"
    [("property", .text name), ("value", .text value), ("allowed", .texts allowed)]
  match listener with
  | .labelled h => w.note (.propertyError h name allowed value)
  | .user => w.onPage (·.alert (bannerText name allowed value))
  | .nobody => w

/-- Loads the resources that were not loaded before and gives their addresses. -/
def loadNew (kind : ResourceKind) (base : Text) (add : Page → Text → Page) :
    List Text → World → List Text × World
  | [], w => ([], w)
  | name :: rest, w =>
    match w.mark kind name with
    | (false, w) => loadNew kind base add rest w
    | (true, w) =>
      let url := Url.resolve base name
      let (urls, w) := loadNew kind base add rest (w.onPage fun p => add p url)
      (url :: urls, w)

/-- The emitter of a module's startup events. -/
def selectionEmitter (w : World) (module : Text) (o : SelectionOptions) : Metrics.Emitter Text :=
  { sinks := o.sinks, module, session := w.page.globalText Metrics.sessionGlobal }

/-- Something to be said about choosing a module's variant. -/
def saySelection (w : World) (module : Text) (level : Level) (message : Text)
    (more : List (Text × Journal.Detail)) : World :=
  w.say "selection" level message (("module", .text module) :: more)

/-- Finds the script base and reads the page's settings. -/
def prepare (w : World) (module : Text) (table : HandlerTable) : Text × MetaSettings × World :=
  let (base, w) := w.scriptBase module
  let (settings, w) := w.readMetas table
  (base, settings, settings.warnings.foldl (fun w f =>
    w.saySelection module .warn "ignoring meta entry" [("error", .text f.message)]) w)

/-- The provider that a rule of a module stands for. -/
def provider (m : ModuleDef ValueRule) (settings : MetaSettings) (rule : ValueRule) :
    Option (Binding.Provider World) :=
  some fun w => (rule.value { page := w.page, settings, isLegal := m.isLegal }, w)

/-- Puts the variant that was chosen on the page, and what it needs beside it. -/
def inject {π : Type} (w : World) (m : ModuleDef π) (emitter : Metrics.Emitter Text) (base : Text)
    (settings : MetaSettings) (resolved : Binding.Resolved) : Selected × World :=
  let strong := resolved.strong
  let w := w.say "permutation" .debug "permutation selected"
    [("values", .texts resolved.values), ("strong_name", .text strong)]
  let (styles, w) := loadNew .style base (fun p url => (p.appendStylesheet url).2) m.styles w
  let (scripts, w) := loadNew .script base (fun p url => (p.writeScript url).2) m.scripts w
  let scriptUrl := base ++ strong ++ cacheSuffix
  let w := w.onPage fun p => (p.writeScript scriptUrl).2
  let w := w.emit emitter Metrics.bootstrapEnd
  ({ base, strong, scriptUrl, scripts, styles, settings },
    w.saySelection m.name .debug "permutation selected"
      [("strong_name", .text strong), ("base", .text base)])

/-- Chooses a module's variant and puts it on the page. `make` gives a provider its meaning. -/
def selectBy {π : Type} (make : MetaSettings → π → Option (Binding.Provider World)) (w : World)
    (m : ModuleDef π) (o : SelectionOptions) : Except Failure Selected × World :=
  if m.name.isEmpty then (.error (.invalidInput .bootstrap "module name is required"), w)
  else
    let emitter := w.selectionEmitter m.name o
    let (base, settings, w) := (w.emit emitter Metrics.bootstrapStart).prepare m.name o.handlers
    let (engine, entries) := m.build (make settings)
    let w := w.logAll entries
    match engine with
    | .error f => (.error f, w)
    | .ok engine =>
      let engine := { engine with onError := some (reportIllegal (o.listener settings)) }
      match engine.resolve (w.emit emitter Metrics.selecting) with
      | (.error f, w) =>
        if f.isPropertyResolution then
          (.ok { base, settings, aborted := true },
            w.saySelection m.name .info "permutation selection aborted" [("error", .text f.message)])
        else (.error f, w)
      | (.ok resolved, w) =>
        let (selected, w) := w.inject m emitter base settings resolved
        (.ok selected, w)

/-- Chooses the variant of a module with described providers. -/
def select (w : World) (m : ModuleDef ValueRule) (o : SelectionOptions) :
    Except Failure Selected × World := w.selectBy (provider m) m o

end PageBoot.World
