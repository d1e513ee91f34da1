import PageBoot.Url.Escape
import PageBoot.Dict

/-!
Query strings. A query is read leniently: a piece with a semicolon or a malformed escape is
skipped. The address of a code server is read on its own, from the text after its key up to
the next ampersand.
-/

namespace PageBoot.Url

/-- Values of each key, in the order they appear. -/
abbrev Query := Dict (List Text)

namespace Query

def field? (piece : Text) : Option (Text × Text) :=
  if piece.contains 59 || piece.isEmpty then none
  else
    let (k, v) := Text.cut 61 piece
    match unescape? .query k, unescape? .query (v.getD []) with
    | some k, some v => some (k, v)
    | _, _ => none

/-- Keys and values in the order they appear. -/
def fields (raw : Text) : List (Text × Text) := (Text.splitOn 38 raw).filterMap field?

/-- Adds a value of a key. -/
def add (q : Query) (field : Text × Text) : Query :=
  q.set field.1 ((q.get? field.1).getD [] ++ [field.2])

def parse (raw : Text) : Query := (fields raw).foldl add []

def first? (q : Query) (key : Text) : Option Text := (q.get? key).map fun vs => vs.head?.getD []

/-- The query as text, keys in byte order. -/
def encode (q : Query) : Text :=
  Text.join "&" (q.sorted.flatMap fun (k, vs) =>
    vs.map fun v => escape .query k ++ "=" ++ escape .query v)

end Query

/-! ## The code server of a page -/

def codeServerKey : Text := "gwt.codesvr"

def defaultCodeServer : Text := "localhost:9997"

/-- Whether `key=` appears anywhere in a query string. -/
def hasQueryKey (search key : Text) : Bool := search.includes (key ++ "=")

/-- The code server named in a query string: what stands between the first key and the next
ampersand, with its escapes undone. -/
def codeServer (search : Text) : Text :=
  let key := codeServerKey ++ "="
  match Text.find? key search with
  | none => defaultCodeServer
  | some i =>
    let value := (Text.cut 38 (search.drop (i + key.length))).1
    (unescape? .segment value).getD defaultCodeServer

end PageBoot.Url
