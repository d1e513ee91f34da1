import PageBoot.Command.Host
import PageBoot.Terminal.View

/-!
A host that keeps one module in dev mode on the screen. It starts the module, shows the page, and
can start again, drop the connection or leave the page when a key is pressed.
-/

namespace PageBoot.Command

open Terminal

structure DevHost where
  module : Text
  view : View := .ofWidth View.defaultWidth
  /-- Whether a start is under way. -/
  isProbing : Bool := true
  failure : Option Failure := none
  run : Option Started := none
  /-- The picture of the spinner that is shown. -/
  frame : Nat := 0

namespace DevHost

inductive Event where
  | opened
  /-- A start has ended, one way or the other. -/
  | booted (result : Except Failure Started)
  | key (name : Text)
  | resized (width : Int)
  | tick

/-- What the host asks of its surroundings. -/
inductive Request where
  | boot
  | tick
  | quit
  deriving DecidableEq, Repr

structure Response where
  host : DevHost
  requests : List Request := []
  /-- The run that was given up, after its page was left. -/
  ended : Option Started := none

def isConnected (h : DevHost) : Bool := h.run.any (·.isConnected)

/-- Gives up the run, if there is one. -/
def shutdown (h : DevHost) : Response :=
  { host := { h with run := none }, ended := h.run.map (·.unload) }

def frames : List Text := ["⣾ ", "⣽ ", "⣻ ", "⢿ ", "⡿ ", "⣟ ", "⣯ ", "⣷ "]

def press (h : DevHost) (key : Text) : Response :=
  if key = Text.ofString "q" ∨ key = Text.ofString "ctrl+c" then
    { h.shutdown with requests := [.quit] }
  else if key = Text.ofString "r" then
    if h.isProbing then { host := h }
    else
      let r := h.shutdown
      { r with
        host := { r.host with failure := none, isProbing := true }
        requests := [.tick, .boot] }
  else if key = Text.ofString "d" then
    if h.isConnected then { host := { h with run := h.run.map (·.dropLink) } } else { host := h }
  else if key = Text.ofString "u" then { host := { h with run := h.run.map (·.unload) } }
  else { host := h }

/-- What the host does about an event. -/
def step (h : DevHost) : Event → Response
  | .opened => { host := h, requests := [.tick, .boot] }
  | .booted (.ok run) => { host := { h with isProbing := false, failure := none, run := some run } }
  | .booted (.error f) => { host := { h with isProbing := false, failure := some f, run := none } }
  | .key k => h.press k
  | .resized n => { host := { h with view := .ofWidth n } }
  | .tick =>
    if h.isProbing then
      { host := { h with frame := (h.frame + 1) % frames.length }, requests := [.tick] }
    else { host := h }

/-- What is on the screen. With neither a run nor a failure there is nothing to show once the start
is over. Failures are worded by `word`. -/
def screen? (h : DevHost) (word : Failure → Text) : Option Text :=
  let heading : Text := View.title "Dev Host" ++ " " ++ h.module ++ "\n\n"
  if h.isProbing then
    some (heading ++ (frames[h.frame]?).getD [] ++ " Connecting to code server...\n")
  else match h.failure, h.run with
    | some f, _ =>
      some (heading ++ View.plain ("Error: " ++ word f) ++ "\n\n" ++ View.help ["r reboot", "q quit"])
    | none, some run =>
      some (heading ++ View.plain run.line ++ "\n\n" ++ h.view.page run.world.page ++ "\n" ++
        View.help ["r reboot", "d drop link", "u unload", "q quit"])
    | none, none => none

end DevHost

end PageBoot.Command
