import PageBoot.Command.Completion
import PageBoot.Command.Host
import PageBoot.Config.Basic
import PageBoot.Loader.Manifest
import PageBoot.Terminal.Grid
import PageBoot.Terminal.View

/-!
Running a command line: from the arguments, the files and the environment to what is printed and
the failure, if there is one.
-/

namespace PageBoot.Command

open Loader Terminal

/-- What a run finds around it. -/
structure Machine where
  disk : Disk
  environment : Dict Text := []
  /-- Random integers for session identities. -/
  draws : List Int := []
  /-- Columns of the terminal. -/
  width : Int := View.defaultWidth

/-- What a run leaves behind. -/
structure Outcome where
  output : Text := []
  failure : Option Failure := none
  /-- What was said in a crash. -/
  crash : Option Text := none
  journal : List Journal.Entry := []

namespace Outcome

def print (t : Text) : Outcome := { output := t }

def fail (f : Failure) : Outcome := { failure := some f }

/-- The result of work that fails before anything is printed. -/
def ofReply : Reply Outcome → Outcome
  | .answer o => o
  | .failure f => fail f
  | .crash t => { crash := some t }

/-- Without the entries that are less urgent than `least`. -/
def audible (o : Outcome) (least : Level) : Outcome :=
  { o with journal := o.journal.filter (·.level.reaches least) }

end Outcome

/-- A command with its flags read and its configuration loaded. -/
structure Call where
  machine : Machine
  name : Name
  arguments : Arguments
  config : Config

namespace Call

def value (c : Call) (flag : Text) : Text := c.arguments.value (flagsOf c.name) flag

def isOn (c : Call) (flag : Text) : Bool := c.arguments.isOn flag

def host (c : Call) : HostPage where
  file := c.value "page"
  location := c.value "location"
  userAgent := c.value "ua"
  isBackCompat := c.isOn "quirks-mode"

def metricsLogger : Text := "metrics"

def sinks (c : Call) : List Text := if c.isOn "metrics" then [metricsLogger] else []

/-- The level from which entries of the journal are said. -/
def level (c : Call) : Level := if c.isOn "verbose" then .debug else Level.ofSetting c.config.level

/-- The journal of a world, followed by the startup events that go there too. -/
def journal (w : World) : List Journal.Entry :=
  w.journal ++ w.notes.filterMap fun
    | .metric _ e => some { e.entry with logger := metricsLogger }
    | _ => none

/-- The file of the manifest. -/
def manifest (c : Call) : Text :=
  let flag := c.value "manifest"
  if flag.isEmpty then c.config.manifest else flag

def module (c : Call) : Reply (ModuleDef ValueRule) := do
  let m ← Manifest.read c.machine.disk c.manifest
  Reply.ofExcept m.build

def view (c : Call) : View := .ofWidth c.machine.width

/-- Selects a permutation for a page. -/
def resolve (c : Call) : Reply Outcome := do
  let m ← c.module
  let p ← Reply.ofExcept (c.host.page c.machine.disk m.name)
  let s ← Reply.ofExcept <| Started.start p c.machine.draws []
    { module := some m, mode := 1, silent := c.isOn "silent", sinks := c.sinks }
  let strong : Text := ((s.booted.selection.map (·.strong))).getD []
  let line : Text := if s.world.isAborted s.booted then "selection aborted" else strong
  let shown := if c.isOn "html" then s.world.page.markup else c.view.page s.world.page
  return { output := line ++ "\n" ++ shown, journal := journal s.world }

def grid (m : ModuleDef ValueRule) : Grid where
  head := m.properties.map (·.name) ++ [Text.ofString "strong name"]
  rows := m.permutations.map fun v => v.values ++ [v.strong]

/-- Lists the permutations of a module that nothing is wrong with. -/
def permutations (c : Call) : Reply Outcome := do
  let m ← c.module
  match m.fault? with
  | some f => .failure f
  | none =>
    return .print (m.name ++ ": " ++ Text.ofNat m.permutations.length ++ " permutations\n" ++
      Block.text (grid m).render ++ "\n")

def count (c : Call) : Nat := (c.arguments.number (flagsOf c.name) "count").toNat

/-- Session identities, one on a line, from a seed or from the machine's own integers. -/
def sessionId (c : Call) : Outcome :=
  let seed := c.arguments.number (flagsOf c.name) "seed"
  let ids :=
    if seed = 0 then Identity.several Identity.Rounds.source c.count { values := c.machine.draws }
    else Identity.several Identity.Seeded.source c.count (.ofSeed seed)
  .print (ids.flatMap fun id => id ++ [10])

def devSetup (c : Call) : DevSetup where
  host := c.host
  module := c.value "module"
  plugin := c.value "plugin"
  codeServer := c.config.codeServer
  bridge := c.config.bridge
  sinks := c.sinks

def noTerminal : Failure := .external "the interactive dev host needs a terminal"

/-- Starts a module in dev mode once. The interactive host needs a terminal of its own, which a run
does not have. -/
def devmode (c : Call) : Except Failure Outcome :=
  if c.isOn "interactive" then .error noTerminal
  else if c.isOn "watch" && c.host.file.isEmpty then .error (.plain "--watch needs --page")
  else do
    let s ← c.devSetup.start c.machine.disk c.machine.draws
    return { output := s.line ++ "\n" ++ c.view.page s.world.page, journal := journal s.world }

/-- What is printed about a topic. -/
def topic (words : List Text) : Text :=
  match chooseAmong false words with
  | .found n _ => Command.help n
  | .unknown _ =>
    "Unknown help topic [" ++ Text.join " " (words.map Text.rawQuote) ++ "]\n" ++ usage .program

/-- The words that may stand last on a command line, which the operands are. -/
def completion (c : Call) (described : Bool) : Text :=
  let words := c.arguments.operands
  let isDescribed := described && Completion.isDescribed c.machine.environment
  (complete words.dropLast (words.getLast?.getD [])).text isDescribed

def run (c : Call) : Outcome :=
  let o : Outcome := match c.name with
    | .program | .completion => .print (Command.help c.name)
    | .resolve => Outcome.ofReply c.resolve
    | .permutations => Outcome.ofReply c.permutations
    | .sessionId => c.sessionId
    | .devmode => Outcome.ofReply (.ofExcept c.devmode)
    | .help => .print (topic c.arguments.operands)
    | .script s => .print (s.script (!c.isOn "no-descriptions"))
    | .complete described => .print (c.completion described)
  o.audible c.level

end Call

/-! ## Command lines -/

/-- What the command line says about the configuration. -/
def bindings (n : Name) (a : Arguments) : List Config.Binding :=
  match named? (ownFlags n) "code-server" with
  | some f =>
    [.flag {
      key := "bridge.code_server"
      value := a.value (flagsOf n) f.name
      isChanged := (a.values.get? f.name).isSome }]
  | none => []

def config (m : Machine) (a : Arguments) (more : List Config.Binding) : Reply Config :=
  Config.load m.disk m.environment (a.value globalFlags "config") more

def unknownCommand (name parent : Text) : Failure :=
  .external ("unknown command " ++ name.quote ++ " for " ++ parent.quote)

/-- The arguments of a command. What is to be completed is taken as it stands. -/
def Name.read (n : Name) (args : List Text) : Except Failure Arguments :=
  match n with
  | .complete _ => .ok { operands := args }
  | _ => Arguments.parse (flagsOf n) args

/-- What is wrong with the operands of a command. -/
def Name.misgiven? (n : Name) (operands : List Text) : Option Failure :=
  match n, operands with
  | .sessionId, extra :: _ | .script _, extra :: _ => some (unknownCommand extra n.path)
  | .complete _, [] => some (.external "there is no word to complete")
  | _, _ => none

/-- Reads the arguments of a command and makes it ready to run, unless only help is wanted. -/
def prepare (m : Machine) (n : Name) (args : List Text) : Reply (Option Call) := do
  let a ← Reply.ofExcept (n.read args)
  if a.isOn "help" || !n.isRunnable then return none
  if let some f := n.misgiven? a.operands then Reply.failure f
  let c ← config m a (bindings n a)
  return some { machine := m, name := n, arguments := a, config := c }

def runCommand (m : Machine) (n : Name) (args : List Text) : Outcome :=
  .ofReply ((prepare m n args).map fun
    | none => .print (help n)
    | some c => c.run)

/-- Runs a command line. -/
def run (m : Machine) (args : List Text) : Outcome :=
  match choose args with
  | .found n rest => runCommand m n rest
  | .unknown name => .fail (unknownCommand name program)

/-! ## What a command line needs -/

/-- The files that configuration is looked for in. -/
def configFiles (m : Machine) (a : Arguments) : List Text :=
  let path := Config.named (a.value globalFlags "config") m.environment
  if path.isEmpty then Config.candidates m.disk else [path]

/-- The files that a command line makes a run ask for, as far as the files that are known tell. -/
def filesWanted (m : Machine) (args : List Text) : List Text :=
  match choose args with
  | .found n rest =>
    let named := match prepare m n rest with
      | .answer (some c) => [c.manifest, c.host.file, c.value "plugin"].filter (!·.isEmpty)
      | _ => []
    match n.read rest with
    | .ok a => configFiles m a ++ named
    | .error _ => []
  | .unknown _ => []

/-- A command line that is to be run for as long as someone attends to it. -/
inductive Attended where
  | interactive (setup : DevSetup)
  | watched (page : Text)

def attended? (m : Machine) (args : List Text) : Option Attended :=
  match choose args with
  | .found .devmode rest =>
    match prepare m .devmode rest with
    | .answer (some c) =>
      if c.isOn "interactive" then some (.interactive c.devSetup)
      else if c.isOn "watch" && !c.host.file.isEmpty then some (.watched c.host.file)
      else none
    | _ => none
  | _ => none

/-- How many session identities a command line may need. -/
def identities (args : List Text) : Nat :=
  match choose args with
  | .found .sessionId rest =>
    match Arguments.parse (flagsOf .sessionId) rest with
    | .ok a => (a.number (flagsOf .sessionId) "count").toNat
    | .error _ => 0
  | _ => 1

end PageBoot.Command
