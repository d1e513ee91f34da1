import PageBoot.Number.Integer

/-!
Internet addresses in the longer form: eight groups of hexadecimal digits. Two colons stand for one
or more groups of zeros, the last two groups may be written as four decimal numbers, and a zone
may follow a percent sign.
-/

namespace PageBoot.Url

/-- Four decimal numbers below 256, without leading zeros, between points. -/
def isDotted (t : Text) : Bool :=
  let fields := Text.splitOn 46 t
  fields.length == 4 && fields.all fun f =>
    (f == [48] || f.head? != some 48) && (Integer.natural? 10 f).any (· < 256)

/-- One to four hexadecimal digits. -/
def isGroup (t : Text) : Bool :=
  1 ≤ t.length && t.length ≤ 4 && t.all fun b => (Text.hexDigit? b).isSome

/-- How many groups a part of an address writes; only its last one may be dotted, and only if
`isLast` says that the address ends with it. -/
def groups? (isLast : Bool) : List Text → Option Nat
  | [] => some 0
  | [g] => if isGroup g then some 1 else if isLast && isDotted g then some 2 else none
  | g :: gs => if isGroup g then (groups? isLast gs).map (· + 1) else none

/-- The groups between colons; no text has no groups. -/
def groupsIn? (isLast : Bool) (t : Text) : Option Nat :=
  groups? isLast (if t.isEmpty then [] else Text.splitOn 58 t)

/-- Whether a text without a zone is an address. -/
def isUnzonedAddress (t : Text) : Bool :=
  match Text.find? "::" t with
  | none => groupsIn? true t == some 8
  | some i =>
    match groupsIn? false (t.take i), groupsIn? true (t.drop (i + 2)) with
    | some m, some n => m + n < 8
    | _, _ => false

def isAddress (t : Text) : Bool :=
  match Text.cut 37 t with
  | (_, some []) => false
  | (address, _) => isUnzonedAddress address

end PageBoot.Url
