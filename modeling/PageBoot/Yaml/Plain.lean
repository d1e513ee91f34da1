import PageBoot.Number.Binary64
import PageBoot.Number.Integer
import PageBoot.Yaml.Cursor

/-!
What a plain scalar means: nothing, a truth value, a number, a moment in time or just its text.
-/

namespace PageBoot.Yaml

inductive Meaning where
  | null
  | bool (b : Bool)
  | int (n : Int)
  | float (x : Binary64)
  | text
  | moment
  deriving DecidableEq, Repr

namespace Meaning

/-! ## Decimal fractions -/

private def isDigit (b : UInt8) : Bool := 48 ≤ b && b ≤ 57

/-- A decimal fraction that does not overflow. -/
def float? (t : Text) : Option Binary64 :=
  if t.all fun b => isDigit b || b == 43 || b == 45 || b == 46 || b == 69 || b == 101 then
    (Binary64.parse? t).filter (!·.isInfinite)
  else none

private def unspaced (t : Text) : Text := t.filter (· != 95)

/-- A decimal fraction with underscores between its digits. -/
def spacedFloat? (t : Text) : Option Binary64 :=
  if Integer.isSpaced isDigit false t then float? (unspaced t) else none

/-! ## Moments -/

/-- One or two digits. -/
private def short? (t : Text) : Option (Nat × Text) :=
  let ds : Text := (t.take 2).takeWhile isDigit
  (Integer.natural? 10 ds).map fun n => (n, t.drop ds.length)

private def byte? (b : UInt8) : Text → Option Text
  | c :: t => if c = b then some t else none
  | [] => none

def daysIn (year month : Nat) : Nat :=
  if month = 2 then (if year % 4 = 0 ∧ (year % 100 ≠ 0 ∨ year % 400 = 0) then 29 else 28)
  else if [4, 6, 9, 11].contains month then 30
  else 31

/-- A date, and what follows it. -/
private def date? (t : Text) : Option Text := do
  let digits : Text := t.takeWhile isDigit
  let year ← Integer.natural? 10 digits
  if digits.length ≠ 4 then none
  let t ← byte? 45 (t.drop 4)
  let (month, t) ← short? t
  let t ← byte? 45 t
  let (day, t) ← short? t
  if 1 ≤ month ∧ month ≤ 12 ∧ 1 ≤ day ∧ day ≤ daysIn year month then some t else none

/-- A time of day with an optional fraction of a second, and what follows it. -/
private def time? (t : Text) : Option Text := do
  let (hour, t) ← short? t
  let t ← byte? 58 t
  let (minute, t) ← short? t
  let t ← byte? 58 t
  let (second, t) ← short? t
  if hour ≥ 24 ∨ minute ≥ 60 ∨ second ≥ 60 then none
  match t with
  | p :: d :: _ => if (p = 46 ∨ p = 44) ∧ isDigit d then some ((t.drop 1).dropWhile isDigit) else some t
  | _ => some t

/-- A time zone: `Z`, or a signed number of at most 24 hours and at most 60 minutes. -/
private def isZone : Text → Bool
  | [90] => true
  | [sign, a, b, 58, c, d] =>
    (sign == 43 || sign == 45) && (Integer.natural? 10 [a, b]).any (· ≤ 24) &&
      (Integer.natural? 10 [c, d]).any (· ≤ 60)
  | _ => false

/-- A date alone, a date and a time with a zone after `T`, or a date and a time after spaces. -/
def isMoment (t : Text) : Bool :=
  match date? t with
  | none => false
  | some [] => true
  | some (m :: rest) =>
    if m = 84 ∨ m = 116 then (time? rest).any isZone
    else m = 32 && (time? (rest.dropWhile (· == 32))).any List.isEmpty

/-! ## Scalars -/

/-- Scalars with a meaning of their own. -/
def words : List (String × Meaning) :=
  [("", .null), ("~", .null), ("null", .null), ("Null", .null), ("NULL", .null),
   ("true", .bool true), ("True", .bool true), ("TRUE", .bool true),
   ("false", .bool false), ("False", .bool false), ("FALSE", .bool false),
   (".nan", .float .nan), (".NaN", .float .nan), (".NAN", .float .nan),
   (".inf", .float (.infinity false)), (".Inf", .float (.infinity false)),
   (".INF", .float (.infinity false)), ("+.inf", .float (.infinity false)),
   ("+.Inf", .float (.infinity false)), ("+.INF", .float (.infinity false)),
   ("-.inf", .float (.infinity true)), ("-.Inf", .float (.infinity true)),
   ("-.INF", .float (.infinity true))]

/-- An integer with its sign after the mark of its base. -/
def lateSigned? : Text → Option Int
  | 48 :: 98 :: t => Integer.wordIn? 2 t
  | 48 :: 111 :: t => Integer.wordIn? 8 t
  | _ => none

/-- The number that a text writes; underscores do not count. -/
def number? (t : Text) : Option Meaning :=
  let plain := unspaced t
  ((Integer.word? plain).map .int).orElse fun _ =>
    ((float? plain).map .float).orElse fun _ =>
      (lateSigned? plain).map .int

/-- The meaning of a text; `moments` tells whether it may be a moment. -/
def ofText (moments : Bool) (t : Text) : Meaning :=
  match words.find? fun (w, _) => Text.ofString w == t with
  | some (_, m) => m
  | none =>
    match t with
    | [] => .null
    | b :: _ =>
      if b == 46 then ((spacedFloat? t).map .float).getD .text
      else if isDigit b || b == 43 || b == 45 then
        if moments && isMoment t then .moment else (number? t).getD .text
      else .text

end Meaning

end PageBoot.Yaml
