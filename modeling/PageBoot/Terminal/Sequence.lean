import PageBoot.Terminal.Cluster
import PageBoot.Terminal.Pen

/-!
Escape sequences in a text. They take no room on a terminal. A text is read in two ways: cut into
items, where a malformed sequence ends before what does not belong to it, and byte by byte to
measure it, where a terminal's own rules tell what is shown.
-/

namespace PageBoot.Terminal

open Text (Scalar)

private def escapeByte : UInt8 := 0x1B

private def isBetween (lo hi b : UInt8) : Bool := lo ≤ b && b ≤ hi

/-- Single bytes that begin a sequence: device control, start of string, control sequence, system
command, privacy message, application command. -/
private def isIntroducer (b : UInt8) : Bool := [0x90, 0x98, 0x9B, 0x9D, 0x9E, 0x9F].contains b

private def isPlain : Scalar → Bool
  | .char c => c.toNat != 0x1B
  | .stray b => !isIntroducer b

/-- The beginning of a text that holds no sequence. -/
def plainRun (t : Text) : Text := Text.ofScalars (t.scalars.takeWhile isPlain)

/-! ## Items -/

/-- What a sequence changes. -/
inductive Effect where
  | nothing
  | style (ps : List Param)
  | link (params url : Text)
  deriving DecidableEq, Repr

/-- A sequence: its bytes and what it changes. -/
structure Sequence where
  length : Nat
  effect : Effect := .nothing
  deriving DecidableEq, Repr

namespace Sequence

/-- A number that was left out. -/
private def missing : UInt64 := 0x7FFFFFFF

/-- Numbers are kept in 64 bits, and the upper 33 of them say that a colon follows. -/
private def ofWord (w : UInt64) : Param :=
  let low := w &&& 0x7FFFFFFF
  ⟨if low == missing then 0 else low.toNat, w >>> 31 != 0⟩

private def words (w : UInt64) : Text → List UInt64
  | [] => [w]
  | b :: t =>
    if b = 58 then (w ||| 0xFFFFFFFF80000000) :: words missing t
    else if b = 59 then w :: words missing t
    else words ((if w == missing then 0 else w) * 10 + (b - 48).toUInt64) t

/-- The numbers between semicolons and colons; at most 31 count. -/
def params (t : Text) : List Param :=
  let ws := words missing t
  if ws = [missing] then [] else (ws.take 31).map ofWord

/-- What a system command changes: number eight sets a link. -/
def ofCommand (data : Text) : Effect :=
  match Text.splitOn 59 data with
  | [command, params, url] =>
    let digits : Text := command.takeWhile (isBetween 48 57)
    if !digits.isEmpty && (digits.dropWhile (· == 48)) == Text.ofString "8" then .link params url else .nothing
  | _ => .nothing

/-- The data of a string and all its bytes. It ends with its terminator, before a byte that cancels
it, or with the text. A bell ends only a system command. -/
private def stringFrom (isCommand : Bool) : Text → Nat × Nat
  | [] => (0, 0)
  | b :: t =>
    if b = 7 ∧ isCommand then (0, 1)
    else if b = 0x18 ∨ b = 0x1A then (0, 0)
    else if b = 0x9C then (0, 1)
    else if b = escapeByte then (if t.head? == some 92 then (0, 2) else (0, 0))
    else
      let (data, all) := stringFrom isCommand t
      (data + 1, all + 1)

private def ofString (isCommand : Bool) (start : Nat) (t : Text) : Sequence :=
  let (data, all) := stringFrom isCommand t
  ⟨start + all, if isCommand then ofCommand (t.take data) else .nothing⟩

/-- A control sequence after its introducer: marks, numbers, intermediate bytes and a final one. A
device control goes on with a string. -/
private def ofControl (isControl isDevice : Bool) (start : Nat) (t : Text) : Sequence :=
  let marks := t.takeWhile (isBetween 60 63)
  let afterMarks := t.drop marks.length
  let numbers := afterMarks.takeWhile (isBetween 48 59)
  let afterNumbers := afterMarks.drop numbers.length
  let between := afterNumbers.takeWhile (isBetween 32 47)
  let length := start + marks.length + numbers.length + between.length
  match afterNumbers.drop between.length with
  | [] => ⟨length, .nothing⟩
  | b :: rest =>
    if !isBetween 64 126 b then ⟨length, .nothing⟩
    else if isDevice then ofString false (length + 1) rest
    else if isControl && b == 109 && marks.isEmpty && between.isEmpty then ⟨length + 1, .style (params numbers)⟩
    else ⟨length + 1, .nothing⟩

/-- The sequence that a text begins with. -/
def first? : Text → Option Sequence
  | [] => none
  | b :: t =>
    if b = 0x9B ∨ b = 0x90 then some (ofControl (b == 0x9B) (b == 0x90) 1 t)
    else if isIntroducer b then some (ofString (b == 0x9D) 1 t)
    else if b ≠ escapeByte then none
    else
      let between := t.takeWhile (isBetween 32 47)
      let isDirect := between.isEmpty
      let length := 1 + between.length
      match t.drop between.length with
      | [] => some ⟨length, .nothing⟩
      | c :: rest =>
        if c = 91 ∨ c = 80 then
          some (ofControl (isDirect && c == 91) (isDirect && c == 80) (length + 1) rest)
        else if [93, 88, 94, 95].contains c then some (ofString (isDirect && c == 93) (length + 1) rest)
        else if isBetween 48 126 c then some ⟨length + 1, .nothing⟩
        else some ⟨length, .nothing⟩

end Sequence

/-- Something that stands in a text: a piece that is shown, or a sequence. -/
inductive Item where
  | shown (p : Piece)
  | sequence (text : Text) (effect : Effect)
  deriving DecidableEq, Repr

private def itemsFrom : Nat → Text → List Item
  | 0, _ => []
  | fuel + 1, t =>
    match Sequence.first? t with
    | some s => .sequence (t.take s.length) s.effect :: itemsFrom fuel (t.drop s.length)
    | none =>
      let run := plainRun t
      if run.isEmpty then []
      else (pieces run).map .shown ++ itemsFrom fuel (t.drop run.length)

/-- The items of a text, one after another. -/
def items (t : Text) : List Item := itemsFrom t.length t

/-! ## Measuring -/

/-- What a terminal is reading. -/
inductive Mode where
  | ground
  | escape
  | escapeRest
  | control
  | controlRest
  | device
  | deviceNumbers
  | deviceRest
  | deviceString
  | command
  | string
  deriving DecidableEq, Repr

namespace Mode

private def isQuiet (b : UInt8) : Bool := b < 32 && b != 0x18 && b != 0x1A && b != escapeByte

/-- The mode after a byte that means the same nearly everywhere. -/
private def anywhere (b : UInt8) : Mode :=
  if b = escapeByte then .escape
  else if b = 0x9B then .control
  else if b = 0x90 then .device
  else if b = 0x9D then .command
  else if b = 0x98 ∨ b = 0x9E ∨ b = 0x9F then .string
  else .ground

/-- The mode after a byte. -/
def next (m : Mode) (b : UInt8) : Mode :=
  let ends : Bool := b = 0x9C ∨ b = 0x18 ∨ b = 0x1A
  match m with
  | .ground => anywhere b
  | .escape =>
    if isQuiet b || b == 127 then m
    else if isBetween 32 47 b then .escapeRest
    else if b = 91 then .control
    else if b = 80 then .device
    else if b = 93 then .command
    else if b = 88 ∨ b = 94 ∨ b = 95 then .string
    else anywhere b
  | .escapeRest => if isQuiet b || b == 127 || isBetween 32 47 b then m else anywhere b
  | .control =>
    if isQuiet b || b == 127 || isBetween 48 63 b then m
    else if isBetween 32 47 b then .controlRest
    else anywhere b
  | .controlRest => if isQuiet b || b == 127 || isBetween 32 47 b then m else anywhere b
  | .device =>
    if isBetween 8 13 b || b == escapeByte || isBetween 64 126 b then .deviceString
    else if isQuiet b || b == 127 then m
    else if isBetween 32 47 b then .deviceRest
    else if isBetween 48 63 b then .deviceNumbers
    else anywhere b
  | .deviceNumbers =>
    if isQuiet b || b == 127 || isBetween 48 63 b then m
    else if isBetween 32 47 b then .deviceRest
    else if isBetween 64 126 b then .deviceString
    else anywhere b
  | .deviceRest =>
    if isQuiet b || b == 127 || isBetween 32 47 b then m
    else if isBetween 48 126 b then .deviceString
    else anywhere b
  | .deviceString => if ends then .ground else if b = escapeByte then .escape else m
  | .command => if ends || b == 7 then .ground else if b = escapeByte then .escape else m
  | .string => if ends then .ground else if b = escapeByte then .escape else if b < 128 then m else anywhere b

/-- Whether a byte begins a character that is shown, which ends most sequences. -/
def isLetter (m : Mode) (b : UInt8) : Bool := isBetween 0xC2 0xF4 b && m != .command && m != .deviceString

/-- Whether a terminal carries out a byte at once. -/
def executes (m : Mode) (b : UInt8) : Bool :=
  let isString := m == .command || m == .string || m == .deviceString
  let isDevice := m == .device || m == .deviceNumbers || m == .deviceRest
  if b = 0x18 ∨ b = 0x1A ∨ b = 0x9C then !isString
  else if isQuiet b then !isString && !isDevice
  else if b = 127 then m == .ground
  else isBetween 0x80 0x9A b && b != 0x90 && b != 0x98 && m != .command && m != .deviceString

end Mode

/-- What a terminal meets while it reads a text. -/
inductive Event where
  | shown (p : Piece)
  | executed (b : UInt8)
  /-- A byte of a sequence. -/
  | silent
  deriving DecidableEq, Repr

/-- Bytes that a terminal passes over when they stand alone. -/
private def isIgnored (b : UInt8) : Bool := b == 0xC0 || b == 0xC1 || b ≥ 0xF5

/-- What is shown for a piece. -/
private def eventOf (p : Piece) : Event :=
  match p.text with
  | [b] =>
    if Mode.ground.executes b then .executed b
    else if isIgnored b || isBetween 0xA0 0xBF b then .silent
    else .shown p
  | _ => .shown p

private def eventsFrom : Nat → Mode → Text → List Event
  | 0, _, _ => []
  | _, _, [] => []
  | fuel + 1, m, b :: t =>
    let run := if m == .ground || m.isLetter b then plainRun (b :: t) else []
    if run.isEmpty then
      (if m.executes b then Event.executed b else .silent) :: eventsFrom fuel (m.next b) t
    else (pieces run).map eventOf ++ eventsFrom fuel .ground ((b :: t).drop run.length)

def events (t : Text) : List Event := eventsFrom t.length .ground t

/-- Cells that a line takes. -/
def width (t : Text) : Nat :=
  (events t).foldl (fun n e => match e with
    | .shown p => n + p.cells
    | _ => n) 0

end PageBoot.Terminal
