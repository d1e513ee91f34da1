import PageBoot.Command.Catalogue

/-!
Completion of command lines: the words that may stand where the last word of a command line is being
typed, and the scripts by which shells ask for them.
-/

namespace PageBoot.Command

/-- A word with what it is for. -/
structure Offer where
  word : Text
  about : Text

/-- What may be put for the last word. -/
structure Offers where
  words : List Offer := []
  /-- Whether names of files fit too. -/
  takesFiles : Bool := true

namespace Offers

/-- One word on a line, then the number that tells the shell about files. -/
def text (o : Offers) (described : Bool) : Text :=
  (o.words.flatMap fun w => w.word ++ Text.when described ("\t" ++ w.about) ++ [10]) ++
    (if o.takesFiles then Text.ofString ":0\n" else ":4\n")

end Offers

/-! ## The last word -/

/-- The place where a word is being typed. -/
structure Gap where
  /-- The arguments before the word, but for a flag that waits for its value. -/
  before : List Text
  word : Text
  /-- The flag that the word is a value of. -/
  flag : Option FlagDef := none
  /-- Whether the word would be the value of a flag that is not known. -/
  isAstray : Bool := false

namespace Gap

/-- The flag that an argument ends with: the whole name after two dashes, the last letter after
one. -/
def flagName : Text → Text
  | 45 :: 45 :: name => name
  | arg => arg.drop (arg.length - 1)

def known? (flags : List FlagDef) : Text → Option FlagDef
  | [letter] => lettered? flags letter
  | name => named? flags name

/-- Whether an argument is a flag without its value. -/
def isBareFlag (arg : Text) : Bool :=
  isFlag arg && arg != Text.ofString "-" && arg != Text.ofString "--" && !arg.contains 61

/-- Looks for the flag that the word belongs to, in the word itself and then in the argument
before it. -/
def ofWord (flags : List FlagDef) (args : List Text) (word : Text) : Gap :=
  let (head, value) := if isFlag word then Text.cut 61 word else ([], some word)
  match value, flagName head, args.getLast? with
  | none, _, _ => { before := args, word }
  | some value, [], some last =>
    if isBareFlag last then
      match known? flags (flagName last) with
      | none => { before := args, word, isAstray := true }
      | some f =>
        if f.isSwitch && !isFlag word then { before := args, word := value }
        else { before := args.dropLast, word := value, flag := some f }
    else { before := args, word := value }
  | some value, [], none => { before := args, word := value }
  | some value, name, _ =>
    match known? flags name with
    | none => { before := args, word, isAstray := true }
    | some f => { before := args, word := value, flag := some f }

/-- Whether the name of a flag is being typed. -/
def isName (g : Gap) : Bool := g.flag.isNone && isFlag g.word && !g.word.contains 61

end Gap

/-! ## What fits -/

/-- The ways to write a flag that begin with the word. -/
def FlagDef.offers (f : FlagDef) (word : Text) : List Offer :=
  let long : Text := "--" ++ f.name
  let short : List Text := f.letter.toList.map fun c => Text.ofString "-" ++ [c]
  ((long :: short).filter word.isPrefixOf).map fun w => ⟨w, f.usage⟩

namespace Name

/-- The flags that are not given yet, those of the program first. -/
def flagOffers (n : Name) (given : Arguments) (word : Text) : Offers :=
  let flags := byName (inheritedFlags n) ++ byName (localFlags n)
  { words := (flags.filter fun f => !given.values.contains f.name).flatMap (·.offers word)
    takesFiles := false }

/-- The commands below a command that begin with the word. -/
def childOffers (n : Name) (word : Text) : List Offer :=
  (n.children.filter fun c => word.isPrefixOf c.text).map fun c => ⟨c.text, c.summary⟩

/-- What fits as an operand after others. `isValue` says that the word is written like the value of
a flag, which no command is. -/
def operandOffers (n : Name) (operands : List Text) (isValue : Bool) (word : Text) : Offers :=
  let isFirst := operands.isEmpty && !isValue
  let below := if isFirst then n.childOffers word else []
  match n with
  | .help =>
    match chooseAmong true operands with
    | .found topic _ => { words := topic.childOffers word, takesFiles := false }
    | .unknown _ => { takesFiles := false }
  | .completion | .script _ => { words := below, takesFiles := false }
  | _ => { words := below, takesFiles := !(isFirst && !n.children.isEmpty) }

/-- Whether operands alone may follow the arguments: then two dashes are an operand as well. -/
def isEnded (n : Name) (args : List Text) : Bool :=
  match Arguments.parse (flagsOf n) args, Arguments.parse (flagsOf n) (args ++ [Text.ofString "--"]) with
  | .ok a, .ok b => a.operands.length < b.operands.length
  | _, _ => false

/-- What fits after the arguments of a command. -/
def offers (n : Name) (args : List Text) (word : Text) : Offers :=
  let g := Gap.ofWord (flagsOf n) args word
  let isEnded := n.isEnded g.before
  match Arguments.parse (flagsOf n) g.before with
  | .error _ => {}
  | .ok a =>
    if g.isAstray && !isEnded then {}
    else if a.values.contains "help" then { takesFiles := false }
    else if isEnded then n.operandOffers a.operands g.flag.isSome g.word
    else if g.flag.isSome then {}
    else if g.isName then n.flagOffers a g.word
    else n.operandOffers a.operands false g.word

/-- What fits after the arguments of a command that reads no flags. -/
def rawOffers (n : Name) (word : Text) : Offers :=
  if isFlag word && !word.contains 61 then n.flagOffers {} word else {}

end Name

/-- What fits after the arguments of the program. -/
def complete (args : List Text) (word : Text) : Offers :=
  match chooseAmong true args with
  | .found (.complete described) _ => Name.rawOffers (.complete described) word
  | .found n rest => n.offers rest word
  | .unknown _ => {}

namespace Completion

/-- The variable that says whether words are described. -/
def variableName : Text := "BOOTLOADER_COMPLETION_DESCRIPTIONS"

/-- Whether the environment leaves words described. -/
def isDescribed (environment : Dict Text) : Bool :=
  !((environment.get? variableName).any falsehoods.contains)

end Completion

/-! ## Scripts -/

namespace Shell

/-- A script that has a shell complete the program's command lines. -/
def script (s : Shell) (described : Bool) : Text :=
  let ask := Name.callWord (.complete described)
  match s with
  | .bash =>
    "__bootloader_offers()\n\x7b\n    local IFS=$'\\n'\n    COMPREPLY=($(" ++ program ++ " " ++ ask ++
      " \"$\x7bCOMP_WORDS[@]:1:COMP_CWORD\x7d\" 2>/dev/null | sed -e '$d' -e 's/\\t.*//'))\n\x7d\ncomplete -o default -F __bootloader_offers " ++
      program ++ "\n"
  | .zsh =>
    "#compdef " ++ program ++ "\n_" ++ program ++ "()\n\x7b\n    local -a offers\n    offers=(\"$\x7b(@f)$(" ++ program ++ " " ++ ask ++
      " \"$\x7bwords[@]:1:CURRENT-1\x7d\" 2>/dev/null | sed -e '$d' -e 's/\\t/:/')\x7d\")\n    _describe offers offers\n\x7d\ncompdef _" ++
      program ++ " " ++ program ++ "\n"
  | .fish =>
    "function __bootloader_offers\n    set -l words (commandline -opc) (commandline -ct)\n    " ++ program ++ " " ++ ask ++
      " $words[2..-1] 2>/dev/null | sed -e '$d'\nend\ncomplete -c " ++ program ++ " -f -a '(__bootloader_offers)'\n"
  | .powershell =>
    "Register-ArgumentCompleter -Native -CommandName " ++ program ++
      " -ScriptBlock \x7b\n    param($word, $line)\n    $words = @($line.CommandElements | Select-Object -Skip 1)\n    if ($word -eq '') \x7b $words += '\"\"' \x7d\n    & " ++
      program ++ " " ++ ask ++ " @words 2>$null | Select-Object -SkipLast 1 | ForEach-Object \x7b ($_ -split \"\\t\")[0] \x7d\n\x7d\n"

end Shell

end PageBoot.Command
