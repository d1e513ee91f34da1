import PageBoot.Value
import PageBoot.Value.Style

/-!
Message templates. A percent sign and a letter stand for the next argument: `%v` plainly, `%s`
as text, `%d` as a number, `%q` quoted, and other letters for other forms. Between the two there
may be marks, a width, a precision, and the number of an argument in brackets. A letter that does not
suit its argument, a missing argument and arguments left over are all shown in the message instead
of being refused.
-/

namespace PageBoot.Template

/-- The name of a value's type as it is shown when a letter does not suit it. -/
def typeName : Value → Text
  | .null => "<nil>"
  | .int _ => "int"
  | .str _ => "string"
  | .bool _ => "bool"
  | .float _ => "float64"
  | .list _ => "[]interface \x7b\x7d"
  | .texts _ => "[]string"
  | .box _ => "box"
  | .object _ => "object"
  | .releasable _ => "object"
  | .failure _ => "error"

/-! ## Arguments -/

mutual

/-- An argument written plainly. -/
def plain (s : Style) : Value → Text
  | .null => s.pad "<nil>"
  | .int n => s.integer 10 false false n
  | .str t => if s.literal then s.quoted t else s.text t
  | .bool b => s.pad (if b then "true" else "false")
  | .float x => s.float 'g' false x
  | .list vs =>
    if s.literal then "[]interface \x7b\x7d\x7b" ++ Text.join ", " (plainAll s vs) ++ "\x7d"
    else "[" ++ Text.join " " (plainAll s vs) ++ "]"
  | .box v => "\x7b" ++ plainInside s v ++ "\x7d"
  | .texts ts => "[" ++ Text.join " " (ts.map s.text) ++ "]"
  | .object n => s.text ("obj:" ++ n)
  | .releasable n => s.text ("rel:" ++ n)
  | .failure f => s.text f.message

def plainInside (s : Style) : Value → Text
  | .null => if s.literal then "interface \x7b\x7d(nil)" else "<nil>"
  | v => plain s v

def plainAll (s : Style) : List Value → List Text
  | [] => []
  | v :: vs => plainInside s v :: plainAll s vs

end

/-- An argument shown with its type. -/
def labelled (s : Style) : Value → Text
  | .null => "<nil>"
  | v => typeName v ++ "=" ++ plain s v

/-- What is shown when a letter does not suit an argument. -/
def unsuited (s : Style) (letter : Char) (v : Value) : Text :=
  "%!" ++ Text.ofChars [letter] ++ "(" ++ labelled s v ++ ")"

def integer? (s : Style) (letter : Char) (n : Int) : Option Text :=
  match letter with
  | 'd' => some (s.integer 10 false false n)
  | 'b' => some (s.integer 2 false false n)
  | 'o' => some (s.integer 8 false false n)
  | 'O' => some (s.integer 8 false true n)
  | 'x' => some (s.integer 16 false false n)
  | 'X' => some (s.integer 16 true false n)
  | 'c' => some (s.character n)
  | 'q' => some (s.quotedCharacter n)
  | 'U' => some (s.codePoint n)
  | _ => none

def text? (s : Style) (letter : Char) (t : Text) : Option Text :=
  match letter with
  | 's' => some (s.text t)
  | 'q' => some (s.quoted t)
  | 'x' => some (s.bytes false t)
  | 'X' => some (s.bytes true t)
  | _ => none

def float? (s : Style) (letter : Char) (x : Binary64) : Option Text :=
  match letter with
  | 'b' | 'e' | 'f' | 'g' | 'x' => some (s.float letter false x)
  | 'E' => some (s.float 'e' true x)
  | 'F' => some (s.float 'f' false x)
  | 'G' => some (s.float 'g' true x)
  | 'X' => some (s.float 'x' true x)
  | _ => none

/-- A value that is not made of others, by a letter. -/
def single? (s : Style) (letter : Char) : Value → Option Text
  | .int n => integer? s letter n
  | .str t => text? s letter t
  | .bool b => if letter = 't' then some (s.pad (if b then "true" else "false")) else none
  | .float x => float? s letter x
  | .object n => text? s letter ("obj:" ++ n)
  | .releasable n => text? s letter ("rel:" ++ n)
  | .failure f => text? s letter f.message
  | _ => none

mutual

/-- An argument by a letter other than that of the plain form. In a list or a box the letter holds
for what is inside. -/
def lettered (s : Style) (letter : Char) : Value → Text
  | .list vs => "[" ++ Text.join " " (letteredAll s letter vs) ++ "]"
  | .box v => "\x7b" ++ letteredInside s letter v ++ "\x7d"
  | .texts ts => "[" ++ Text.join " " (ts.map fun t =>
      (text? s letter t).getD (unsuited s letter (.str t))) ++ "]"
  | v => (single? s letter v).getD (unsuited s letter v)

def letteredInside (s : Style) (letter : Char) : Value → Text
  | .null => "<nil>"
  | v => lettered s letter v

def letteredAll (s : Style) (letter : Char) : List Value → List Text
  | [] => []
  | v :: vs => letteredInside s letter v :: letteredAll s letter vs

end

/-- An argument by a letter. -/
def argument (s : Style) (letter : Char) (v : Value) : Text :=
  let plainly := { s with plus := false, sharp := false, literal := s.sharp }
  match letter with
  | 'v' => plain plainly v
  | 'w' => unsuited plainly letter v
  | 'T' => s.text (typeName v)
  | 'p' => unsuited s letter v
  | _ => lettered s letter v

/-! ## Directives -/

/-- How far a template has been read. -/
structure Progress where
  rest : Text
  /-- The number of the argument that is used next. -/
  next : Nat := 0
  /-- An argument was asked for by its number. -/
  isReordered : Bool := false
  /-- The directive asks for an argument that there is, in a way that is understood. -/
  isSound : Bool := true
  /-- What is shown before the argument. -/
  remarks : Text := []

def readMarks : Text → Style → Style × Text
  | [], s => (s, [])
  | b :: t, s =>
    match b with
    | 35 => readMarks t { s with sharp := true }
    | 48 => readMarks t { s with zero := true }
    | 43 => readMarks t { s with plus := true }
    | 45 => readMarks t { s with minus := true }
    | 32 => readMarks t { s with space := true }
    | _ => (s, b :: t)

/-- Widths, precisions and argument numbers stop being read past this. -/
def largest : Nat := 1000000

private def isDigit (b : UInt8) : Bool := 48 ≤ b && b ≤ 57

private def value? (ds : Text) : Option Nat :=
  ds.foldlM (fun n d => if n > largest then none else some (n * 10 + (d.toNat - 48))) 0

/-- A number; one that is too large takes the whole template with it. -/
def readNumber (t : Text) : Option Nat × Text :=
  let ds := t.takeWhile isDigit
  match value? ds with
  | none => (none, [])
  | some n => if ds.isEmpty then (none, t) else (some n, t.drop ds.length)

/-- The number of an argument in brackets. Tells also whether there was one. -/
def readIndex (count : Nat) (p : Progress) : Progress × Bool :=
  match p.rest with
  | 91 :: t =>
    let p := { p with isReordered := true }
    let bad (n : Nat) : Progress × Bool := ({ p with rest := p.rest.drop n, isSound := false }, false)
    match Text.cut 93 t with
    | (_, none) => bad 1
    | (inside, some rest) =>
      if inside.isEmpty ∧ rest.isEmpty then bad 1
      else if inside.isEmpty ∨ !inside.all isDigit then bad (inside.length + 2)
      else match value? inside with
        | none => bad (inside.length + 2)
        | some n =>
          if 1 ≤ n ∧ n ≤ count then ({ p with rest, next := n - 1 }, true)
          else ({ p with rest, isSound := false }, true)
  | _ => (p, false)

/-- A number that an argument gives. -/
def numberFrom (args : List Value) (p : Progress) : Option Int × Progress :=
  match args[p.next]? with
  | none => (none, p)
  | some v =>
    let n := match v with
      | .int n => if n.natAbs ≤ largest then some n else none
      | _ => none
    (n, { p with next := p.next + 1 })

def readWidth (args : List Value) (s : Style) (p : Progress) (indexed : Bool) : Style × Progress × Bool :=
  match p.rest with
  | 42 :: rest =>
    match numberFrom args { p with rest } with
    | (none, p) => (s, { p with remarks := p.remarks ++ "%!(BADWIDTH)" }, false)
    | (some n, p) => ({ s with width := some n.natAbs, minus := s.minus || n < 0 }, p, false)
  | _ =>
    let (width, rest) := readNumber p.rest
    ({ s with width }, { p with rest, isSound := p.isSound && !(indexed && width.isSome) }, indexed)

def readPrecision (args : List Value) (s : Style) (p : Progress) (indexed : Bool) : Style × Progress × Bool :=
  match p.rest with
  | 46 :: rest =>
    let (p, indexed) := readIndex args.length { p with rest, isSound := p.isSound && !indexed }
    match p.rest with
    | 42 :: rest =>
      let bad (p : Progress) := (s, { p with remarks := p.remarks ++ "%!(BADPREC)" }, false)
      match numberFrom args { p with rest } with
      | (none, p) => bad p
      | (some n, p) => if n < 0 then bad p else ({ s with precision := some n.toNat }, p, false)
    | _ =>
      let (n, rest) := readNumber p.rest
      ({ s with precision := some (n.getD 0) }, { p with rest }, indexed)
  | _ => (s, p, indexed)

/-- Everything between the percent sign and the letter. -/
def readDirective (args : List Value) (p : Progress) : Style × Progress :=
  let (s, rest) := readMarks p.rest {}
  let (p, indexed) := readIndex args.length { p with rest }
  let (s, p, indexed) := readWidth args s p indexed
  let (s, p, indexed) := readPrecision args s p indexed
  (s, if indexed then p else (readIndex args.length p).1)

/-- The letter of a directive; a stray byte is shown as a replacement character. -/
def letter? (t : Text) : Option (Char × Text) :=
  match t.scalars with
  | [] => none
  | c :: _ => some (Char.ofNat c.code, t.drop c.bytes.length)

/-! ## Templates -/

/-- Arguments that were not asked for. -/
def leftOver (args : List Value) (p : Progress) : Text :=
  let extra := args.drop p.next
  if p.isReordered || extra.isEmpty then []
  else "%!(EXTRA " ++ Text.join ", " (extra.map (labelled {})) ++ ")"

/-- Fills the rest of a template. The bound is its length. -/
def fillFrom (args : List Value) : Nat → Progress → Text
  | 0, p => leftOver args p
  | fuel + 1, p =>
    let before := p.rest.takeWhile (· != 37)
    match p.rest.drop before.length with
    | [] => before ++ leftOver args p
    | _ :: rest =>
      let (s, p) := readDirective args { p with rest, isSound := true, remarks := [] }
      match letter? p.rest with
      | none => before ++ p.remarks ++ "%!(NOVERB)" ++ leftOver args p
      | some (letter, rest) =>
        let p := { p with rest }
        let refused (why : String) : Text := "%!" ++ Text.ofChars [letter] ++ why
        let (shown, next) : Text × Nat :=
          if letter = '%' then ("%", p.next)
          else if !p.isSound then (refused "(BADINDEX)", p.next)
          else match args[p.next]? with
            | none => (refused "(MISSING)", p.next)
            | some v => (argument s letter v, p.next + 1)
        before ++ p.remarks ++ shown ++ fillFrom args fuel { p with next }

/-- Fills a template with arguments. -/
def fill (template : Text) (args : List Value) : Text :=
  fillFrom args (template.length + 1) { rest := template }

end PageBoot.Template
