import PageBoot.Dict
import PageBoot.Text.Case
import PageBoot.Yaml.Datum

/-!
Settings that are found in layers. A key is a path of names. What was set outright wins over
flags, those over the environment, that over the file, and defaults come last. In each layer a
plain value hides everything below it in the layers after it. Keys are the same in either letter
case, and a null is no value.
-/

namespace PageBoot.Config

open Yaml (Datum)

/-! ## Tables -/

/-- The value of a key; of two the last counts. -/
def lookup? (d : Datum) (key : Text) : Option Datum :=
  match d with
  | .table keys values => (((keys.zip values).reverse.find? (·.1 == key)).map (·.2)).filter (!·.isNull)
  | _ => none

def isTable : Datum → Bool
  | .table .. => true
  | _ => false

/-- The value at the end of a path. -/
def search? (d : Datum) : List Text → Option Datum
  | [] => some d
  | k :: path => (lookup? d k).bind fun next => if path.isEmpty || isTable next then search? next path else none

/-- Ways to cut a path in two, with the longest first part first. -/
def cuts (path : List Text) : List (List Text × List Text) :=
  ((List.range path.length).reverse.map fun i => (path.take (i + 1), path.drop (i + 1)))

/-- The value at the end of a path, where a table's key may stand for several names at once. The
bound is the length of the path. -/
def searchJoined? : Nat → Datum → List Text → Option Datum
  | _, d, [] => some d
  | 0, _, _ :: _ => none
  | fuel + 1, d, path =>
    (cuts path).findSome? fun (name, rest) =>
      (lookup? d (Text.join "." name)).bind fun next =>
        if rest.isEmpty || isTable next then searchJoined? fuel next rest else none

/-- Whether a proper beginning of the path has a plain value. -/
def hides (d : Datum) (path : List Text) : Bool :=
  (List.range (path.length - 1)).any fun i =>
    match search? d (path.take (i + 1)) with
    | some v => !isTable v
    | none => false

mutual

/-- The same data with keys in lower case. -/
def lowered : Datum → Datum
  | .table keys values => .table (keys.map Text.toLower) (loweredAll values)
  | .list items => .list (loweredAll items)
  | d => d

def loweredAll : List Datum → List Datum
  | [] => []
  | d :: ds => lowered d :: loweredAll ds

end

/-- Sets a value at the end of a path, with tables on the way. -/
def put (d : Datum) : List Text → Datum → Datum
  | [], v => v
  | k :: path, v =>
    let next := put ((lookup? d k).getD (.table [] [])) path v
    match d with
    | .table keys values =>
      let kept := (keys.zip values).filter (·.1 != k)
      .table (kept.map (·.1) ++ [k]) (kept.map (·.2) ++ [next])
    | _ => .table [k] [next]

mutual

/-- The keys of plain values, added to those of earlier layers. What an earlier layer hides is left
out. -/
def plainKeys (path : List Text) (seen : List Text) : Datum → List Text
  | .table keys values =>
    if !path.isEmpty && seen.contains (Text.join "." path) then seen else plainKeysAll path seen keys values
  | _ => seen ++ [Text.toLower (Text.join "." path)]

def plainKeysAll (path : List Text) (seen : List Text) : List Text → List Datum → List Text
  | k :: ks, d :: ds => plainKeysAll path (plainKeys (path ++ [k]) seen d) ks ds
  | _, _ => seen

end

/-! ## Layers -/

structure Flag where
  key : Text
  value : Text
  isChanged : Bool

structure Layers where
  overrides : Datum := .table [] []
  flags : List Flag := []
  /-- Environment variables. -/
  environment : Dict Text := []
  file : Datum := .table [] []
  defaults : Datum := .table [] []

namespace Layers

def dot : UInt8 := 46

def path (key : Text) : List Text := Text.splitOn dot key

private def upperByte (b : UInt8) : UInt8 := if 97 ≤ b ∧ b ≤ 122 then b - 32 else b

/-- The environment variable of a key. The keys that matter are ASCII. -/
def variableName (stem key : Text) : Text :=
  ((stem ++ "_" ++ key).map upperByte).map fun b => if b = dot then 95 else b

/-- The value of a key's environment variable; an empty one does not count. -/
def inherited? (l : Layers) (stem key : Text) : Option Text :=
  (l.environment.get? (variableName stem key)).filter (!·.isEmpty)

def text (t : Text) : Datum := .scalar t .text

/-- Whether a proper beginning of the path has an environment variable. -/
def environmentHides (l : Layers) (stem : Text) (p : List Text) : Bool :=
  (List.range (p.length - 1)).any fun i => (l.inherited? stem (Text.join "." (p.take (i + 1)))).isSome

/-- The value of a key. -/
def find? (l : Layers) (stem key : Text) : Option Datum :=
  let p := path key
  let flag := l.flags.find? (·.key == key)
  match search? l.overrides p with
  | some v => some v
  | none =>
    if hides l.overrides p then none
    else match flag.filter (·.isChanged) with
    | some f => some (text f.value)
    | none =>
      match l.inherited? stem key with
      | some v => some (text v)
      | none =>
        if l.environmentHides stem p then none
        else match searchJoined? p.length l.file p with
        | some v => some v
        | none =>
          if hides l.file p then none
          else match search? l.defaults p with
          | some v => some v
          | none => if hides l.defaults p then none else flag.map fun f => text f.value

/-- Every key that has a plain value in some layer. -/
def keys (l : Layers) : List Text :=
  let seen := plainKeys [] [] l.overrides
  let seen := seen ++ (l.flags.map (·.key)).filter fun k =>
    let p := path k
    !(List.range (p.length - 1)).any fun i => seen.contains (Text.join "." (p.take (i + 1)))
  let seen := plainKeys [] seen l.file
  (plainKeys [] seen l.defaults).eraseDups

/-- All settings as one table. -/
def settings (l : Layers) (stem : Text) : Datum :=
  l.keys.foldl (fun d k =>
    match l.find? stem k with
    | some v => put d (path k) v
    | none => d) (.table [] [])

/-- Sets a key outright. -/
def override (l : Layers) (key value : Text) : Layers :=
  { l with overrides := put l.overrides (path (Text.toLower key)) (text value) }

end Layers

end PageBoot.Config
