import PageBoot.Journal
import PageBoot.Text.Json

/-!
Startup events. An emitter stamps events for one module with the time of a clock and hands
them to its sinks; without a sink nothing is emitted and the clock is not read.
-/

namespace PageBoot.Metrics

/-- The page global that holds the metrics session id. -/
def sessionGlobal : Text := "__gwtStatsSessionId"

structure Event where
  module : Text
  session : Text
  subSystem : Text := "startup"
  group : Text
  type : Text
  className : Text := []
  millis : Int := 0
  deriving DecidableEq, Repr

/-- Something to emit, before it is stamped. -/
inductive Moment where
  | startup (type : Text)
  | bootstrap (type : Text)
  | moduleLoadStart (className : Text)
  deriving DecidableEq, Repr

def evalStart : Moment := .startup "moduleEvalStart"
def evalEnd : Moment := .startup "moduleEvalEnd"
def bootstrapStart : Moment := .bootstrap "bootstrap"
def selecting : Moment := .bootstrap "selectingPermutation"
def bootstrapEnd : Moment := .bootstrap "end"

/-- Sinks are known by a key; no key at all is a sink that drops everything. -/
structure Emitter (κ : Type) where
  sinks : List κ
  module : Text
  session : Text

namespace Emitter

variable {κ : Type}

def enabled (e : Emitter κ) : Bool := !e.sinks.isEmpty

def stamp (e : Emitter κ) (m : Moment) (millis : Int) : Event :=
  let base : Event := { module := e.module, session := e.session, group := [], type := [], millis }
  match m with
  | .startup t => { base with group := "moduleStartup", type := t }
  | .bootstrap t => { base with group := "bootstrap", type := t }
  | .moduleLoadStart c =>
    { base with group := "moduleStartup", type := "onModuleLoadStart", className := c }

/-- Stamps each moment with the next reading of the clock and gives it to every sink. -/
def emitAll (e : Emitter κ) (clock : Nat → Int) (ms : List Moment) : List (κ × Event) :=
  if e.enabled then
    ms.zipIdx.flatMap fun (m, i) => e.sinks.map fun k => (k, e.stamp m (clock i))
  else []

end Emitter

/-- Milliseconds of a time given in seconds and nanoseconds, in 64 bits. -/
def unixMillis (seconds nanos : Int) : Int :=
  Int.bmod (seconds * 1000 + Int.fdiv nanos 1000000) UInt64.size

namespace Event

private def field (name : String) (v : Text) : Text :=
  Text.jsonString name ++ ":" ++ v

/-- The event as a JSON object; an empty session or class is left out. -/
def json (e : Event) : Text :=
  let optional (name : String) (t : Text) := if t.isEmpty then [] else [field name (Text.jsonString t)]
  let fields :=
    [field "moduleName" (Text.jsonString e.module)] ++ optional "sessionId" e.session ++
    [field "subSystem" (Text.jsonString e.subSystem), field "evtGroup" (Text.jsonString e.group),
      field "type" (Text.jsonString e.type)] ++ optional "className" e.className ++
    [field "millis" (Text.ofInt e.millis)]
  "\x7b" ++ Text.join "," fields ++ "\x7d"

def entry (e : Event) : Journal.Entry :=
  { logger := "metrics", level := .debug, message := "startup event",
    details := [("module", .text e.module), ("session", .text e.session),
      ("sub_system", .text e.subSystem), ("evt_group", .text e.group), ("type", .text e.type),
      ("class_name", .text e.className), ("millis", .number e.millis)] }

end Event

end PageBoot.Metrics
