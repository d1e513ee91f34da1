import PageBoot.Text.Case
import PageBoot.Text.Json

/-!
Entries of the loader's journal: who speaks, how urgent it is, what is said, and named details.
-/

namespace PageBoot

inductive Level where
  | debug
  | info
  | warn
  | error
  | dpanic
  | panic
  | fatal
  deriving DecidableEq, Repr

namespace Level

def name : Level → Text
  | .debug => "debug"
  | .info => "info"
  | .warn => "warn"
  | .error => "error"
  | .dpanic => "dpanic"
  | .panic => "panic"
  | .fatal => "fatal"

/-- All levels, the least urgent first. -/
def all : List Level := [.debug, .info, .warn, .error, .dpanic, .panic, .fatal]

/-- The level with the given name. -/
def ofName? (t : Text) : Option Level := all.find? fun l => l.name == t

/-- Whether something of this level is said when `least` is asked for. -/
def reaches (l least : Level) : Bool := all.idxOf least ≤ all.idxOf l

/-- The level that a setting asks for: its name in any letter case, where `warning` is another name of
`warn`, and `info` when it names none. -/
def ofSetting (t : Text) : Level :=
  if t.toLower == Text.ofString "warning" then .warn else (ofName? t.toLower).getD .info

end Level

namespace Journal

inductive Detail where
  | text (t : Text)
  | texts (ts : List Text)
  | number (n : Int)
  deriving DecidableEq, Repr

structure Entry where
  logger : Text
  level : Level
  message : Text
  details : List (Text × Detail) := []
  deriving DecidableEq, Repr

def Detail.json : Detail → Text
  | .text t => t.jsonString
  | .texts ts => "[" ++ Text.join "," (ts.map Text.jsonString) ++ "]"
  | .number n => Text.ofInt n

/-- An entry as one line of JSON. -/
def Entry.line (e : Entry) : Text :=
  let fields : List (Text × Detail) :=
    ("level", .text e.level.name) :: ("logger", .text e.logger) :: ("msg", .text e.message) :: e.details
  [123] ++ Text.join "," (fields.map fun (k, d) => k.jsonString ++ ":" ++ d.json) ++ [125]

end Journal

end PageBoot
