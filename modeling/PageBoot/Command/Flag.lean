import PageBoot.Dict
import PageBoot.Failure
import PageBoot.Number.Integer

/-!
Flags on a command line. A flag is written `--name value`, `--name=value` or by its letter, and
letters of switches may be run together. Flags and operands may be mixed; `--` ends the flags.
-/

namespace PageBoot.Command

/-- What the value of a flag is. -/
inductive FlagKind where
  | text
  | number
  /-- A switch stands alone, but may be given a truth value. -/
  | switch
  deriving DecidableEq, Repr

structure FlagDef where
  name : Text
  letter : Option UInt8 := none
  kind : FlagKind := .text
  usage : Text
  /-- The value when the flag is not given. -/
  initial : Text := []

/-- The flags that were given, and the operands. -/
structure Arguments where
  values : Dict Text := []
  operands : List Text := []

def truths : List Text := ["1", "t", "T", "TRUE", "true", "True"]
def falsehoods : List Text := ["0", "f", "F", "FALSE", "false", "False"]

namespace FlagDef

/-- Whether a text is a value for the flag. -/
def accepts (f : FlagDef) (value : Text) : Bool :=
  match f.kind with
  | .text => true
  | .number => (Integer.signed? value).isSome
  | .switch => truths.contains value || falsehoods.contains value

def isSwitch (f : FlagDef) : Bool := f.kind == .switch

end FlagDef

def named? (flags : List FlagDef) (name : Text) : Option FlagDef := flags.find? (·.name == name)

def lettered? (flags : List FlagDef) (letter : UInt8) : Option FlagDef :=
  flags.find? (·.letter == some letter)

namespace Arguments

def switchedOn : Text := "true"

/-- Notes a flag's value, if it is one. -/
def give (a : Arguments) (f : FlagDef) (value : Text) : Option Arguments :=
  if f.accepts value then some { a with values := a.values.set f.name value } else none

/-- Reads a flag by its name, after the two dashes. -/
def long (flags : List FlagDef) (a : Arguments) (body : Text) (rest : List Text) :
    Option (Arguments × List Text) :=
  if body.head? = some 45 ∨ body.head? = some 61 then none
  else
    let (name, value) := Text.cut 61 body
    match named? flags name, value, rest with
    | none, _, _ => none
    | some f, some v, rest => (a.give f v).map (·, rest)
    | some f, none, rest =>
      if f.isSwitch then (a.give f switchedOn).map (·, rest)
      else match rest with
        | [] => none
        | v :: rest => (a.give f v).map (·, rest)

/-- Flags of a test runner begin so; they are passed over. -/
def foreignStem : Text := "test."

/-- Reads flags by their letters, after the dash. -/
def short (flags : List FlagDef) : Text → Arguments → List Text → Option (Arguments × List Text)
  | [], a, rest => some (a, rest)
  | c :: more, a, rest =>
    if foreignStem.isPrefixOf (c :: more) then some (a, rest)
    else match lettered? flags c with
    | none => none
    | some f =>
      if more.length > 1 ∧ more.head? = some 61 then (a.give f (more.drop 1)).map (·, rest)
      else if f.isSwitch then (a.give f switchedOn).bind fun a => short flags more a rest
      else if !more.isEmpty then (a.give f more).map (·, rest)
      else match rest with
        | [] => none
        | v :: rest => (a.give f v).map (·, rest)

/-- Reads a command line from left to right. The bound is its length. -/
def read (flags : List FlagDef) : Nat → Arguments → List Text → Option Arguments
  | 0, a, rest => some { a with operands := a.operands ++ rest }
  | _ + 1, a, [] => some a
  | fuel + 1, a, arg :: rest =>
    match arg with
    | [45, 45] => some { a with operands := a.operands ++ rest }
    | 45 :: 45 :: body => (long flags a body rest).bind fun (a, rest) => read flags fuel a rest
    | 45 :: c :: more => (short flags (c :: more) a rest).bind fun (a, rest) => read flags fuel a rest
    | _ => read flags fuel { a with operands := a.operands ++ [arg] } rest

def unreadable : Failure := .external "a flag is not known or has no fitting value"

/-- The arguments of a command line, refused when a flag is not known or has no fitting value. -/
def parse (flags : List FlagDef) (args : List Text) : Except Failure Arguments :=
  match read flags args.length {} args with
  | some a => .ok a
  | none => .error unreadable

/-- The value of a flag. -/
def value (a : Arguments) (flags : List FlagDef) (name : Text) : Text :=
  (a.values.get? name).getD (((named? flags name).map (·.initial)).getD [])

def isOn (a : Arguments) (name : Text) : Bool := truths.contains ((a.values.get? name).getD [])

def number (a : Arguments) (flags : List FlagDef) (name : Text) : Int :=
  (Integer.signed? (a.value flags name)).getD 0

end Arguments

/-! ## Which operand comes first -/

/-- Whether an argument is a flag whose value is the next argument, as far as the given flags
tell. -/
def takesNext (flags : List FlagDef) (arg : Text) : Bool :=
  match arg with
  | 45 :: 45 :: name => !arg.contains 61 && !((named? flags name).any (·.isSwitch))
  | [45, c] => c != 61 && !((lettered? flags c).any (·.isSwitch))
  | _ => false

def isFlag (arg : Text) : Bool := arg.head? == some 45

/-- The operands among arguments whose flags are only partly known. A flag that may need a value
ends the search when at most one argument follows it. -/
def operands (flags : List FlagDef) : List Text → List Text
  | [] => []
  | arg :: rest =>
    if arg = Text.ofString "--" then []
    else if takesNext flags arg then
      match rest with
      | _ :: next :: more => operands flags (next :: more)
      | _ => []
    else if !arg.isEmpty && !isFlag arg then arg :: operands flags rest
    else operands flags rest

/-- The arguments without the first operand that is `x`. -/
def without (flags : List FlagDef) (x : Text) : List Text → List Text
  | [] => []
  | arg :: rest =>
    if arg = Text.ofString "--" then arg :: rest
    else if takesNext flags arg then
      match rest with
      | [] => [arg]
      | value :: more => arg :: value :: without flags x more
    else if arg = x then rest
    else arg :: without flags x rest

end PageBoot.Command
