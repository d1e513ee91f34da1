import PageBoot.Command.DevHost
import PageBoot.Command.Run

/-!
The program: gathers what a run asks for, runs the command line, and prints. The interactive host
takes one key a line.
-/

open PageBoot PageBoot.Command

namespace PageBoot.Main

def path (t : Text) : String := t.toString?.getD ""

def write (out : IO.FS.Stream) (t : Text) : IO Unit := do
  out.write ⟨t.toArray⟩
  out.flush

/-- Reads the files that are there. -/
def readFiles (d : Disk) (paths : List Text) : IO Disk :=
  paths.foldlM (fun d p => do
    try
      let bytes ← IO.FS.readBinFile (path p)
      return d.put p bytes.toList
    catch _ => return d) d

def environment : IO (Dict Text) :=
  (Completion.variableName :: Config.variablesRead).filterMapM fun v => do
    return (← IO.getEnv (path v)).map fun value => (v, Text.ofString value)

/-- Random integers for `n` identities. Bytes that would favour some characters are left out. -/
def draws (n : Nat) : IO (List Int) := do
  let span := Identity.greatest - Identity.least + 1
  let bytes ← IO.getRandomBytes (USize.ofNat (4 * n * Identity.length))
  return (bytes.toList.filter fun b => b.toNat < 256 / span * span).map fun b => (b.toNat % span : Nat)

/-- What the command line finds around it. Files are read twice, since one may name another. -/
def machine (args : List Text) : IO Machine := do
  let home := Text.ofString ((← IO.getEnv "HOME").getD "/")
  let cwd := Text.ofString (← IO.currentDir).toString
  let m : Machine := {
    disk := { cwd, home }
    environment := ← environment
    draws := ← draws (identities args) }
  let m := { m with disk := ← readFiles m.disk (filesWanted m args) }
  return { m with disk := ← readFiles m.disk (filesWanted m args) }

def report (o : Outcome) : IO UInt32 := do
  let err ← IO.getStderr
  o.journal.forM fun e => write err (e.line ++ [10])
  write (← IO.getStdout) o.output
  match o.crash, o.failure with
  | some t, _ =>
    write err (t ++ "\n")
    return 2
  | none, some f =>
    write err ("Error: " ++ f.message ++ "\n")
    return 1
  | none, none => return 0

def show_ (h : DevHost) : IO Unit := do
  match h.screen? Failure.message with
  | some t => write (← IO.getStdout) (t ++ "\n")
  | none => return

/-- Starts the module when the host asks for it. -/
def serve (setup : DevSetup) (args : List Text) (r : DevHost.Response) : IO DevHost := do
  show_ r.host
  if r.requests.contains .boot then
    let m ← machine args
    let h := (r.host.step (.booted (setup.start m.disk m.draws))).host
    show_ h
    return h
  return r.host

/-- Takes keys until one of them ends the host. -/
partial def converse (setup : DevSetup) (args : List Text) (h : DevHost) : IO UInt32 := do
  let line ← (← IO.getStdin).getLine
  let key := if line.isEmpty then "q" else line.trimAscii.toString
  let r := h.step (.key (Text.ofString key))
  if r.requests.contains .quit then return 0
  converse setup args (← serve setup args r)

/-- Runs the command line, and again each time the page's file has changed. -/
partial def watch (args : List Text) (page : Text) (last : Option Text) : IO UInt32 := do
  let m ← machine args
  let contents := m.disk.read? page
  if contents != last then
    let _ ← report (run m args)
  IO.sleep 200
  watch args page contents

end PageBoot.Main

open PageBoot.Main in
def main (args : List String) : IO UInt32 := do
  let args := args.map Text.ofString
  let m ← machine args
  match attended? m args with
  | some (.interactive setup) =>
    let h : DevHost := { module := setup.module }
    converse setup args (← serve setup args (h.step .opened))
  | some (.watched page) => watch args page none
  | none => report (run m args)
