import PageBoot.Command.Flag
import PageBoot.Text.Quoted

/-!
The program's commands, their flags and the help on them.
-/

namespace PageBoot.Command

/-- Shells that the program writes completion scripts for. -/
inductive Shell where
  | bash
  | fish
  | powershell
  | zsh
  deriving DecidableEq, Repr

namespace Shell

def all : List Shell := [.bash, .fish, .powershell, .zsh]

def text : Shell → Text
  | .bash => "bash"
  | .fish => "fish"
  | .powershell => "powershell"
  | .zsh => "zsh"

end Shell

inductive Name where
  /-- The program itself. -/
  | program
  | resolve
  | permutations
  | sessionId
  | devmode
  | help
  | completion
  | script (s : Shell)
  /-- What a completion script asks the program with, for words with or without descriptions. -/
  | complete (described : Bool)
  deriving DecidableEq, Repr

def program : Text := "bootloader"

namespace Name

def text : Name → Text
  | .program => Command.program
  | .resolve => "resolve"
  | .permutations => "permutations"
  | .sessionId => "session-id"
  | .devmode => "devmode"
  | .help => "help"
  | .completion => "completion"
  | .script s => s.text
  | .complete _ => "__complete"

/-- The word that calls a command. -/
def callWord : Name → Text
  | .complete false => "__completeNoDesc"
  | n => n.text

/-- The commands below a command, in order of their names. -/
def children : Name → List Name
  | .program => [.completion, .devmode, .help, .permutations, .resolve, .sessionId]
  | .completion => Shell.all.map .script
  | _ => []

/-- The commands of the program that are not listed. -/
def hidden : List Name := [.complete true, .complete false]

/-- The words that call a command, the program first. -/
def path : Name → Text
  | .program => Command.program
  | .script s => Command.program ++ " completion " ++ s.text
  | n => Command.program ++ " " ++ n.text

/-- Whether a command does something of its own. -/
def isRunnable (n : Name) : Bool := n != .program && n != .completion

/-- How a command is written. -/
def form : Name → Text
  | .help => Name.path .help ++ " [command] [flags]"
  | .script .bash => Name.path (.script .bash)
  | n => n.path ++ " [flags]"

def summary : Name → Text
  | .program => "Select and load module permutations into host pages"
  | .resolve => "Resolve the permutation for a host page in compiled mode"
  | .permutations => "List the permutation table of a manifest"
  | .sessionId => "Print fresh bridge session identities"
  | .devmode => "Bridge a module to a code server through a wasm connector plugin"
  | .help => "Help about any command"
  | .completion => "Generate the autocompletion script for the specified shell"
  | .script s => "Generate the autocompletion script for " ++ s.text
  | .complete _ => "Request shell completion choices for the specified command-line"

private def session (s : Shell) (load : Text) : Text :=
  "To load completions in your current shell session:\n\n\t" ++ load ++
    (if s = .powershell then Text.ofString "\n\nTo load completions for every new session, add the output of the above command\nto your powershell profile."
     else "\n\nTo load completions for every new session, execute once:\n\n")

private def newShell : Text := "\n\nYou will need to start a new shell for this setup to take effect."

private def scriptDescription (s : Shell) : Text :=
  let call := Name.path (.script s)
  match s with
  | .bash =>
    "Generate the autocompletion script for the bash shell.\n\nThis script depends on the 'bash-completion' package.\nIf it is not installed already, you can install it via your OS's package manager.\n\n" ++
      session s ("source <(" ++ call ++ ")") ++
      "#### Linux:\n\n\t" ++ call ++ " > /etc/bash_completion.d/" ++ Command.program ++
      "\n\n#### macOS:\n\n\t" ++ call ++ " > $(brew --" ++ "prefix)/etc/bash_completion.d/" ++
      Command.program ++ newShell
  | .zsh =>
    "Generate the autocompletion script for the zsh shell.\n\nIf shell completion is not already enabled in your environment you will need\nto enable it.  You can execute the following once:\n\n\techo \"autoload -U compinit; compinit\" >> ~/.zshrc\n\n" ++
      session s ("source <(" ++ call ++ ")") ++
      "#### Linux:\n\n\t" ++ call ++ " > \"$\x7bfpath[1]\x7d/_" ++ Command.program ++
      "\"\n\n#### macOS:\n\n\t" ++ call ++ " > $(brew --" ++ "prefix)/share/zsh/site-functions/_" ++
      Command.program ++ newShell
  | .fish =>
    "Generate the autocompletion script for the fish shell.\n\n" ++ session s (call ++ " | source") ++
      "\t" ++ call ++ " > ~/.config/fish/completions/" ++ Command.program ++ ".fish" ++ newShell
  | .powershell =>
    "Generate the autocompletion script for powershell.\n\n" ++
      session s (call ++ " | Out-String | Invoke-Expression")

def description : Name → Text
  | .program =>
    "bootloader boots modules into HTML host pages.\n\nIn compiled mode it resolves the module's deferred-binding properties against\nthe page and injects the matching permutation script. In development mode it\nconnects the module to a code server through a bridge plugin."
  | .resolve =>
    "Evaluates the manifest's properties against the page location, user agent\nand gwt:property metas, then injects the selected permutation script.\n\nExample:\n  bootloader resolve --manifest manifest.yaml --location 'http://localhost/app.html?locale=fr'"
  | .devmode =>
    "Boots the module in development mode. The connector plugin is a wasm module\nbound to the page's plugin embed element; without --plugin a built-in loopback\nconnector that accepts every connection is used.\n\nExample:\n  bootloader devmode --module app --plugin connector.wasm -i"
  | .help =>
    "Help provides help for any command in the application.\nSimply type " ++ Command.program ++
      " help [path to command] for full details."
  | .completion =>
    "Generate the autocompletion script for " ++ Command.program ++
      " for the specified shell.\nSee each sub-command's help for details on how to use the generated script."
  | .script s => scriptDescription s
  | n => n.summary

end Name

/-! ## Flags -/

/-- Flags of every command. -/
def globalFlags : List FlagDef :=
  [{ name := "config", usage := "config file (default ./bootloader.yaml)" },
   { name := "metrics", kind := .switch, usage := "log startup metrics events" },
   { name := "verbose", letter := some 118, kind := .switch, usage := "debug logging" }]

def hostFlags : List FlagDef :=
  [{ name := "page", usage := "host HTML page (default: empty document)" },
   { name := "location", usage := "page URL", initial := "http://localhost:8888/index.html" },
   { name := "ua", usage := "navigator user agent" },
   { name := "quirks-mode", kind := .switch, usage := "render the page in BackCompat mode" }]

def manifestFlag : FlagDef :=
  { name := "manifest", letter := some 109, usage := "permutation manifest (default from config)" }

def ownFlags : Name → List FlagDef
  | .resolve =>
    hostFlags ++
    [manifestFlag,
     { name := "html", kind := .switch, usage := "print the rewritten page instead of a summary" },
     { name := "silent", kind := .switch, usage := "do not alert on illegal property values" }]
  | .permutations => [manifestFlag]
  | .sessionId =>
    [{ name := "count", letter := some 110, kind := .number, usage := "number of identities", initial := "1" },
     { name := "seed", kind := .number, usage := "deterministic seed (testing only)", initial := "0" }]
  | .devmode =>
    hostFlags ++
    [{ name := "module", usage := "module name", initial := "app" },
     { name := "plugin", usage := "connector plugin wasm file (default: loopback)" },
     { name := "code-server", usage := "code server address added to the page query when missing" },
     { name := "interactive", letter := some 105, kind := .switch, usage := "interactive dev host" },
     { name := "watch", kind := .switch, usage := "reboot the page whenever the page file changes" }]
  | .script _ => [{ name := "no-descriptions", kind := .switch, usage := "disable completion descriptions" }]
  | _ => []

def helpFlag (name : Text) : FlagDef :=
  { name := "help", letter := some 104, kind := .switch, usage := "help for " ++ name }

/-- All flags that a command knows. -/
def flagsOf (n : Name) : List FlagDef := ownFlags n ++ helpFlag n.text :: globalFlags

/-- The flags that a command has from the program. -/
def inheritedFlags (n : Name) : List FlagDef := if n = .program then [] else globalFlags

/-- The flags that are a command's own. -/
def localFlags (n : Name) : List FlagDef :=
  if n = .program then flagsOf n else helpFlag n.text :: ownFlags n

def byName (flags : List FlagDef) : List FlagDef := flags.mergeSort fun a b => Text.le a.name b.name

/-! ## Help -/

/-- A flag with its letter and the kind of its value. -/
def FlagDef.heading (f : FlagDef) : Text :=
  (match f.letter with
    | some c => "  -" ++ [c] ++ ", --"
    | none => Text.ofString "      --") ++ f.name ++
  (match f.kind with
    | .text => Text.ofString " string"
    | .number => " int"
    | .switch => [])

/-- What a flag is for, and its value when it is not given. -/
def FlagDef.explanation (f : FlagDef) : Text :=
  f.usage ++
    (match f.kind with
      | .text => Text.when (!f.initial.isEmpty) (" (default " ++ Text.quote f.initial ++ ")")
      | .number => Text.when (f.initial != Text.ofString "0") (" (default " ++ f.initial ++ ")")
      | .switch => [])

private def padded (n : Nat) (t : Text) : Text := t ++ List.replicate (n - t.length) 32

/-- A line on each flag, in order of their names. -/
def flagLines (flags : List FlagDef) : List Text :=
  let longest := (flags.map fun f => f.heading.length).foldl max 0
  (byName flags).map fun f => padded longest f.heading ++ "   " ++ f.explanation

private def unlines (ls : List Text) : Text := ls.flatMap fun l => l ++ [10]

/-- Lines below a heading, or nothing. -/
private def section_ (heading : Text) (ls : List Text) : List Text :=
  if ls.isEmpty then [] else [] :: heading :: ls

/-- The commands below a command with their summaries. -/
def commandLines (n : Name) : List Text :=
  let longest := (n.children.map fun c => c.text.length).foldl max 11
  n.children.map fun c => "  " ++ padded longest c.text ++ " " ++ c.summary

/-- How a command is written, the commands below it, and its flags. -/
def usage (n : Name) : Text :=
  let hasChildren := !n.children.isEmpty
  let forms : List Text :=
    (if n.isRunnable then [n.form] else []) ++ (if hasChildren then [n.path ++ " [command]"] else [])
  let hint : Text := "Use \"" ++ n.path ++ " [command] --help\" for more information about a command."
  unlines (Text.ofString "Usage:" :: forms.map (Text.ofString "  " ++ ·) ++
    section_ "Available Commands:" (commandLines n) ++
    section_ "Flags:" (flagLines (localFlags n)) ++
    section_ "Global Flags:" (flagLines (inheritedFlags n)) ++
    (if hasChildren then [[], hint] else []))

def help (n : Name) : Text := n.description ++ "\n\n" ++ usage n

/-! ## Choosing a command -/

inductive Choice where
  | found (n : Name) (args : List Text)
  | unknown (name : Text)

/-- Follows the operands from a command downwards. Commands that are not listed are found only if
`hidden` says so. The bound is the depth of the commands. -/
def locate (hidden : Bool) : Nat → Name → List Text → Name × List Text
  | 0, n, args => (n, args)
  | depth + 1, n, args =>
    match operands globalFlags args with
    | [] => (n, args)
    | first :: _ =>
      let below := (if hidden && n == .program then Name.hidden else []) ++ n.children
      match below.find? (·.callWord == first) with
      | some c => locate hidden depth c (without globalFlags first args)
      | none => (n, args)

/-- The command that operands name, with the arguments that are left for it. The program itself
takes none. -/
def chooseAmong (hidden : Bool) (args : List Text) : Choice :=
  match locate hidden 2 .program args with
  | (.program, rest) =>
    match operands globalFlags rest with
    | [] => .found .program rest
    | first :: _ => .unknown first
  | (n, rest) => .found n rest

/-- The command of a command line. -/
def choose : List Text → Choice := chooseAmong true

end PageBoot.Command
