import PageBoot.Yaml.Node
import PageBoot.Yaml.Plain

/-!
The data that a YAML document holds, and what its scalars and keys stand for.
-/

namespace PageBoot.Yaml

inductive Datum where
  | scalar (text : Text) (meaning : Meaning)
  | list (items : List Datum)
  /-- Keys and their values, in the same order. -/
  | table (keys : List Text) (values : List Datum)
  deriving Inhabited

namespace Datum

def null : Datum := .scalar [] .null

def isNull : Datum → Bool
  | .scalar _ .null => true
  | _ => false

/-- The text of a scalar that is not null. -/
def text? : Datum → Option Text
  | .scalar _ .null => none
  | .scalar t _ => some t
  | _ => none

end Datum

/-! ## Scalars -/

/-- The short form of a tag. -/
def shortTag (tag : Text) : Text :=
  if Reader.longTag.isPrefixOf tag then "!!" ++ tag.drop Reader.longTag.length else tag

/-- Whether a tag leaves it to the node what it is. -/
def isOpenTag (tag : Text) : Bool := tag.isEmpty || tag == Text.ofString "!"

private def base64Value? (b : UInt8) : Option Nat :=
  if 65 ≤ b ∧ b ≤ 90 then some (b.toNat - 65)
  else if 97 ≤ b ∧ b ≤ 122 then some (b.toNat - 71)
  else if 48 ≤ b ∧ b ≤ 57 then some (b.toNat + 4)
  else if b = 43 then some 62
  else if b = 47 then some 63
  else none

/-- Reads groups of four letters of base 64; the last may be padded. -/
def ofBase64? : Text → Option Text
  | [] => some []
  | [a, b, 61, 61] => do
    let n := (← base64Value? a) * 64 + (← base64Value? b)
    return [UInt8.ofNat (n / 16)]
  | [a, b, c, 61] => do
    let n := ((← base64Value? a) * 64 + (← base64Value? b)) * 64 + (← base64Value? c)
    return [UInt8.ofNat (n / 1024), UInt8.ofNat (n / 4 % 256)]
  | a :: b :: c :: d :: t => do
    let n := (((← base64Value? a) * 64 + (← base64Value? b)) * 64 + (← base64Value? c)) * 64 +
      (← base64Value? d)
    let rest ← ofBase64? t
    return UInt8.ofNat (n / 65536) :: UInt8.ofNat (n / 256 % 256) :: UInt8.ofNat (n % 256) :: rest
  | _ => none

/-- The data of a scalar: its tag decides, and a plain scalar without one speaks for itself. A text
that is not of its tag's kind is refused. -/
def scalarDatum? (tag : Text) (plain : Bool) (t : Text) : Option Datum :=
  let short := shortTag tag
  let m := Meaning.ofText (short == Text.ofString "!!timestamp") t
  if isOpenTag tag then some (.scalar t (if plain then Meaning.ofText true t else .text))
  else if short == Text.ofString "!!null" then (if m = .null then some .null else none)
  else if short == Text.ofString "!!bool" then
    match m with
    | .bool _ => some (.scalar t m)
    | _ => none
  else if short == Text.ofString "!!int" then
    match m with
    | .int _ => some (.scalar t m)
    | _ => none
  else if short == Text.ofString "!!float" then
    match m with
    | .float _ => some (.scalar t m)
    | .int n => if n < Integer.signedLimit then some (.scalar t (.float (.ofDecimal (n < 0) n.natAbs 0))) else none
    | _ => none
  else if short == Text.ofString "!!timestamp" then (if m = .moment then some (.scalar t m) else none)
  else if short == Text.ofString "!!binary" then
    (ofBase64? (t.filter fun b => b != 10 && b != 13)).map fun b => .scalar b .text
  else some (.scalar t .text)

/-! ## Nodes -/

namespace Node

/-- Whether the tag of a collection, or a scalar itself, says that there is nothing. -/
def isNull : Node → Bool
  | .scalar tag plain t =>
    if isOpenTag tag then plain && Meaning.ofText true t = .null
    else shortTag tag == Text.ofString "!!null"
  | .sequence tag _ => shortTag tag == Text.ofString "!!null"
  | .mapping tag _ => shortTag tag == Text.ofString "!!null"
  | .reference _ target => target.isNull
  | .loop _ => false

/-- Whether a node is the key of mappings to be merged. -/
def isMergeKey : Node → Bool
  | .scalar tag plain t =>
    t == Text.ofString "<<" && ((plain && isOpenTag tag) || shortTag tag == Text.ofString "!!merge")
  | _ => false

private def isTextTag (tag : Text) : Bool :=
  shortTag tag == Text.ofString "!!str" || shortTag tag == Text.ofString "!!merge"

/-- Whether a key is a text by its tag, or of its own. The key of a merge counts as one. -/
def isTextKey : Node → Bool
  | .scalar tag plain t =>
    if isOpenTag tag then !plain || Meaning.ofText true t = .text else isTextTag tag
  | .sequence tag _ => isTextTag tag
  | .mapping tag _ => isTextTag tag
  | .reference _ target => target.isTextKey
  | .loop _ => false

/-- Two keys that are written alike. -/
def isWrittenLike : Node → Node → Bool
  | .scalar _ _ s, .scalar _ _ t => s == t
  | .reference s _, .reference t _ => s == t
  | .reference s _, .loop t => s == t
  | .loop s, .reference t _ => s == t
  | .loop s, .loop t => s == t
  | .sequence .., .sequence .. => true
  | .mapping .., .mapping .. => true
  | _, _ => false

/-- A mapping, or a reference to one. -/
def isMapping : Node → Bool
  | .mapping .. => true
  | .reference _ (.mapping ..) => true
  | _ => false

/-- The keys of a mapping's content. -/
def keys : List Node → List Node
  | k :: _ :: rest => k :: keys rest
  | _ => []

/-- Whether no key is written twice. -/
def areDistinct : List Node → Bool
  | [] => true
  | k :: ks => !ks.any k.isWrittenLike && areDistinct ks

end Node

end PageBoot.Yaml
