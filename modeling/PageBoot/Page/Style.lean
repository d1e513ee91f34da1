import PageBoot.Dict
import PageBoot.Text.Case

/-!
Inline styles: declarations separated by semicolons, each a property name and a value around the
first colon. Written styles have their declarations in the order of the names.
-/

namespace PageBoot.Page

abbrev Style := Dict Text

namespace Style

/-- A declaration; one without a colon or without a name counts for nothing. -/
def declaration? (t : Text) : Option (Text × Text) :=
  match t.cut 58 with
  | (_, none) => none
  | (name, some value) =>
    let name := Text.trim name
    if name.isEmpty then none else some (name, Text.trim value)

/-- Reads a style; of several declarations for one name the last counts. -/
def parse (t : Text) : Style :=
  Dict.override [] ((t.splitOn 59).filterMap declaration?)

/-- Writes a style. -/
def print (s : Style) : Text :=
  (Dict.sorted s).flatMap fun (name, value) => name ++ [58] ++ value ++ [59]

end Style

end PageBoot.Page
