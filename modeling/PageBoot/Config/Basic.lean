import PageBoot.Config.Layers
import PageBoot.Disk
import PageBoot.Journal
import PageBoot.Loader.DevMode
import PageBoot.Reply
import PageBoot.Yaml.Decode

/-!
The loader's configuration. It is read from a file that was named, by an argument or in the
environment, or else from one in the working directory or in the user's configuration. A named
file has to be there.
-/

namespace PageBoot

structure Config where
  codeServer : Text := []
  protocolVersion : Text := []
  missingPluginUrl : Text := []
  troubleshootingUrl : Text := []
  level : Text := []
  manifest : Text := []
  deriving DecidableEq, Repr

namespace Config

open Yaml (Datum)

/-- The beginning of the names of environment variables. -/
def stem : Text := "BOOTLOADER"

/-- The environment variable that names a configuration file. -/
def fileVariable : Text := "BOOTLOADER_CONFIG"

/-- The settings that are known, with the values they have when nothing else is said. -/
def initial : Dict Text :=
  [("bridge.code_server", Url.defaultCodeServer), ("bridge.protocol_version", Connector.protocolVersion),
   ("bridge.missing_plugin_url", Loader.missingPluginUrl),
   ("bridge.troubleshooting_url", Loader.troubleshootingUrl), ("log.level", "info"),
   ("manifest", "manifest.yaml")]

def defaults : Datum :=
  initial.foldl (fun d (k, v) => put d (Layers.path k) (Layers.text v)) (.table [] [])

/-- The environment variables that make a difference: those of settings and of groups of settings,
and the one that names a file. -/
def variablesRead : List Text :=
  fileVariable ::
    (initial.keys.flatMap fun k => [k, (Layers.path k).headD []]).eraseDups.map (Layers.variableName stem)

/-! ## Decoding -/

/-- A setting as text: numbers in decimal, truth values as digits. Moments, lists and tables are no
texts. -/
def text? : Option Datum → Option Text
  | none => some []
  | some (.scalar t m) =>
    match m with
    | .null => some []
    | .text => some t
    | .int n => some (Text.ofInt n)
    | .float x => some x.toTextPositional
    | .bool b => some (if b then "1" else "0")
    | .moment => none
  | some _ => none

/-- A group of settings; one that is missing is empty. -/
def group? : Option Datum → Option Datum
  | none => some (.table [] [])
  | some d => if isTable d then some d else none

def ofSettings? (d : Datum) : Option Config := do
  let bridge ← group? (lookup? d "bridge")
  let log ← group? (lookup? d "log")
  return {
    codeServer := ← text? (lookup? bridge "code_server")
    protocolVersion := ← text? (lookup? bridge "protocol_version")
    missingPluginUrl := ← text? (lookup? bridge "missing_plugin_url")
    troubleshootingUrl := ← text? (lookup? bridge "troubleshooting_url")
    level := ← text? (lookup? log "level")
    manifest := ← text? (lookup? d "manifest") }

/-! ## Files -/

/-- Kinds of files that are looked for; all are read as YAML. -/
def extensions : List Text :=
  [".json", ".toml", ".yaml", ".yml", ".properties", ".props", ".prop", ".hcl", ".tfvars", ".dotenv",
   ".env", ".ini", ""]

/-- The files that are read when none was named, in order. -/
def candidates (d : Disk) : List Text :=
  ([d.cwd, Disk.resolve d.home ".config/bootloader"] : List Text).flatMap fun dir =>
    extensions.map fun e => Disk.resolve dir ("bootloader" ++ e)

/-- The data of a configuration file, which has to be a table. -/
def fileData (contents : Text) : Yaml.Decoded :=
  match Yaml.decodeText (fun (_ : Unit) => []) .table contents with
  | .absent => .value (.table [] [])
  | .value d => .value (if isTable d then lowered d else .table [] [])
  | other => other

def readFailure (path : Text) : Failure :=
  .report .config .configParse path "read config file" .null (some .foreign)

def decodeFailure (path : Text) : Failure :=
  .report .config .configParse path "decode config" .null
    (some (.remark "decoding failed due to the following error(s):\n\n" [] .foreign))

/-- Something that is set before the file is read. -/
inductive Binding where
  | override (key value : Text)
  | flag (f : Flag)
  | failing (f : Failure)

def bindFailure (f : Failure) : Failure := .wrap .config .invalidInput (some f) "bind config overrides"

def bind (l : Layers) : Binding → Except Failure Layers
  | .override k v => .ok (l.override k v)
  | .flag f => .ok { l with flags := l.flags ++ [f] }
  | .failing f => .error (bindFailure f)

/-- The named file, if there is one. -/
def named (path : Text) (environment : Dict Text) : Text :=
  if path.isEmpty then (environment.get? fileVariable).getD [] else path

/-- The file that is used, and its data. -/
def file (d : Disk) (path : Text) : Reply (Text × Datum) :=
  let used := if path.isEmpty then (candidates d).find? fun c => (d.read? c).isSome else some path
  match used with
  | none => .answer ([], .table [] [])
  | some u =>
    match (d.read? u).map fileData with
    | some (.value data) => .answer (u, data)
    | some .crashed => .crash Yaml.unhashable
    | _ => .failure (readFailure path)

/-- Reads the configuration. -/
def load (d : Disk) (environment : Dict Text) (path : Text) (bindings : List Binding) :
    Reply Config := do
  let layers ← Reply.ofExcept (bindings.foldlM bind { environment, defaults })
  let (used, data) ← file d (named path environment)
  match ofSettings? ({ layers with file := data }.settings stem) with
  | some c => return c
  | none => .failure (decodeFailure used)

/-- The bridge options that the configuration asks for. -/
def bridge (c : Config) : Loader.BridgeOptions where
  protocolVersion := c.protocolVersion
  missingPluginUrl := c.missingPluginUrl
  troubleshootingUrl := c.troubleshootingUrl

end Config

end PageBoot
