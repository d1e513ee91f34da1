import PageBoot.Yaml.Datum

/-!
Decoding a document into data of an expected shape. A place that does not fit is a flaw: decoding
goes on without it, and the document is refused in the end. A fault refuses the document at once:
a scalar that is not of its tag's kind, a node that stands in itself, something that cannot be
merged, or too much that comes from references. Comparing a list or a table with the keys of a
mapping that others are merged into is a crash.

A mapping's own entries come first. Of a mapping that is merged only the keys are added that are
not known yet, and the values of the others are not looked at. The same holds for the value of a
null key in a record or in a table of texts.
-/

namespace PageBoot.Yaml

/-- What a place of a document is to hold. Kinds of records are named by `ρ`. -/
inductive Shape (ρ : Type) where
  | anything
  | text
  /-- Keys are texts, values are anything. -/
  | table
  | list (item : Shape ρ)
  | record (r : ρ)
  /-- A record or nothing. -/
  | optional (r : ρ)

/-- The fields of each kind of record. -/
abbrev Schema (ρ : Type) := ρ → List (Text × Shape ρ)

/-- What makes two keys the same: the meaning, and the text where that is the meaning. -/
abbrev Key := Meaning × Text

def Datum.key? : Datum → Option Key
  | .scalar t m => some (m, if m = .text ∨ m = .moment then t else [])
  | _ => none

inductive Halt where
  | fault
  | crash
  deriving DecidableEq, Repr

structure Progress where
  /-- Nodes visited, and how many of them through a reference. -/
  visits : Nat := 0
  referred : Nat := 0
  /-- References that are being followed. -/
  depth : Nat := 0
  isFlawed : Bool := false
  /-- The keys of the mapping that others are being merged into. -/
  known : Option (List Key) := none

namespace Progress

/-- Whether too many visits go through references: more than 99 of 100 in a small document, and
down to one of ten in a large one. -/
def isExcessive (p : Progress) : Bool :=
  p.referred > 100 && p.visits > 1000 &&
    (if p.visits ≤ 400000 then p.referred * 100 > p.visits * 99
     else if p.visits ≥ 4000000 then p.referred * 10 > p.visits
     else p.referred * 360000000 > p.visits * (356400000 - 89 * (p.visits - 400000)))

end Progress

abbrev Decoding := StateT Progress (Except Halt)

namespace Decoding

def fault {α : Type} : Decoding α := throw .fault

def crash {α : Type} : Decoding α := throw .crash

def flaw {α : Type} : Decoding (Option α) := do
  modify fun p => { p with isFlawed := true }
  return none

/-- Counts a node. -/
def visit : Decoding Unit := do
  modify fun p => { p with visits := p.visits + 1, referred := p.referred + min p.depth 1 }
  if (← get).isExcessive then fault

/-- Follows a reference. -/
def following {α : Type} (work : Decoding α) : Decoding α := do
  modify fun p => { p with depth := p.depth + 1 }
  let a ← work
  modify fun p => { p with depth := p.depth - 1 }
  return a

def setKnown (known : Option (List Key)) : Decoding Unit := modify fun p => { p with known }

/-- Adds a key to those that are known. -/
def learn : Datum → Decoding Unit
  | d => match d.key? with
    | none => crash
    | some k => modify fun p => { p with known := some (k :: p.known.getD []) }

end Decoding

open Decoding

/-- What the entries of a mapping are put into. -/
inductive Holder (ρ : Type) where
  /-- A table whose keys may be anything but lists and tables. -/
  | anyKeys
  | textKeys
  | record (fields : List (Text × Shape ρ))

/-- The data of a mapping while it is put together. -/
structure Draft where
  keys : List Text := []
  values : List Datum := []
  /-- The keys that are not to be added any more, in a mapping that is merged. -/
  known : Option (List Key) := none

namespace Draft

def add (d : Draft) (key : Text) (value : Datum) : Draft :=
  { d with keys := d.keys ++ [key], values := d.values ++ [value] }

def knows (d : Draft) (key : Key) : Bool := (d.known.getD []).contains key

def learn (d : Draft) (key : Key) : Draft := { d with known := d.known.map (key :: ·) }

def datum (d : Draft) : Datum := .table d.keys d.values

end Draft

/-- The holder for a mapping, by the shape that is expected. A record that may be missing has to be
a mapping that is not tagged as null. -/
def Shape.holder? {ρ : Type} (schema : Schema ρ) (n : Node) (content : List Node) :
    Shape ρ → Option (Holder ρ)
  | .anything => some (if (Node.keys content).all Node.isTextKey then .textKeys else .anyKeys)
  | .table => some .textKeys
  | .record r => some (.record (schema r))
  | .optional r => if n.isNull then none else some (.record (schema r))
  | _ => none

/-- The data of a scalar where a shape is expected. -/
def Shape.ofScalar {ρ : Type} (shape : Shape ρ) (d : Datum) : Decoding (Option Datum) :=
  match shape with
  | .anything => return some d
  | .text => return d.text?.map fun t => .scalar t .text
  | .record _ => if d.isNull then return none else flaw
  | _ => if d.isNull then return some d else flaw

/-- Puts a mapping together: its own entries, then those of the mappings that are merged into it.
The first mapping that merges others tells all its keys. -/
def assembled (own : Draft → Decoding Draft) (tell : Decoding Unit) (merge : Option (Draft → Decoding Draft))
    (d : Draft) : Decoding Draft := do
  let outer := (← get).known
  setKnown none
  let d ← own { d with known := outer }
  setKnown d.known
  match merge with
  | none => return d
  | some merge =>
    if outer.isNone then
      setKnown (some [])
      tell
    let d ← merge d
    if outer.isNone then setKnown none
    return d

section

variable {ρ : Type} (schema : Schema ρ)

mutual

/-- The data of a node, or `none` when there is nothing to be put in its place. -/
def decode (shape : Shape ρ) : Node → Decoding (Option Datum)
  | .scalar tag plain t => do
    visit
    match scalarDatum? tag plain t with
    | none => fault
    | some d => shape.ofScalar d
  | .loop _ => do
    visit
    fault
  | .reference _ target => do
    visit
    following (decode shape target)
  | .sequence _ items => do
    visit
    match shape with
    | .anything => return some (.list (← decodeAll .anything items))
    | .list item => return some (.list (← decodeAll item items))
    | _ => flaw
  | .mapping tag content => do
    visit
    if !Node.areDistinct (Node.keys content) then flaw
    else match shape.holder? schema (.mapping tag content) content with
      | none => flaw
      | some h =>
        let merge := if (Node.keys content).any Node.isMergeKey then some (mergeEntries h content) else none
        let d ← assembled (addEntries h content) (tellKeys content) merge {}
        return some d.datum

/-- The data of list items, without those that there is nothing for. -/
def decodeAll (shape : Shape ρ) : List Node → Decoding (List Datum)
  | [] => return []
  | n :: ns => do
    let d ← decode shape n
    let ds ← decodeAll shape ns
    return d.toList ++ ds

/-- Adds the entries of a mapping one after another. -/
def addEntries (h : Holder ρ) : List Node → Draft → Decoding Draft
  | k :: v :: rest, d => do
    if k.isMergeKey then addEntries h rest d
    else
      let key ← decode (match h with | .anyKeys => .anything | _ => .text) k
      match key with
      | none => addEntries h rest d
      | some key =>
        match key.key? with
        | none => if d.known.isSome then crash else fault
        | some id =>
          if d.knows id then addEntries h rest d
          else
            let d := d.learn id
            let name := key.text?.getD []
            match h with
            | .record fields =>
              match fields.lookup name with
              | none =>
                let _ ← (flaw : Decoding (Option Unit))
                addEntries h rest d
              | some shape =>
                if d.keys.contains name then
                  let _ ← (flaw : Decoding (Option Unit))
                  addEntries h rest d
                else
                  let value ← decode shape v
                  addEntries h rest (d.add name (value.getD .null))
            | _ =>
              let value ← decode .anything v
              addEntries h rest (match value with
                | some value => d.add name value
                | none => d)
  | _, d => return d

/-- Tells the keys of a mapping. -/
def tellKeys : List Node → Decoding Unit
  | k :: _ :: rest => do
    match ← decode .anything k with
    | none => tellKeys rest
    | some key =>
      learn key
      tellKeys rest
  | _ => return

/-- Merges what a mapping's content says. -/
def mergeEntries (h : Holder ρ) : List Node → Draft → Decoding Draft
  | k :: v :: rest, d => do
    if k.isMergeKey then
      let d ← mergeNode h v d
      mergeEntries h rest d
    else mergeEntries h rest d
  | _, d => return d

/-- Merges a mapping, a reference to one, or a list of them. -/
def mergeNode (h : Holder ρ) : Node → Draft → Decoding Draft
  | .mapping _ content, d => do
    visit
    if !Node.areDistinct (Node.keys content) then
      let _ ← (flaw : Decoding (Option Unit))
      return d
    else
      let merge := if (Node.keys content).any Node.isMergeKey then some (mergeEntries h content) else none
      assembled (addEntries h content) (tellKeys content) merge d
  | .reference _ target, d => do
    if (Node.reference [] target).isMapping then
      visit
      following (mergeNode h target d)
    else fault
  | .sequence _ items, d => mergeItems h items d
  | _, _ => fault

def mergeItems (h : Holder ρ) : List Node → Draft → Decoding Draft
  | [], d => return d
  | n :: ns, d => do
    if n.isMapping then
      let d ← mergeNode h n d
      mergeItems h ns d
    else fault

end

end

/-- What is said when a list or a table is compared with keys. -/
def unhashable : Text := "hash of unhashable type"

/-- What comes of a text. -/
inductive Decoded where
  /-- There is no document. -/
  | absent
  | value (d : Datum)
  | refused
  | crashed

/-- The data of the first document of a text. -/
def decodeText {ρ : Type} (schema : Schema ρ) (shape : Shape ρ) (t : Text) : Decoded :=
  match document? t with
  | none => .refused
  | some none => .absent
  | some (some n) =>
    let work : Decoding (Option Datum) := do
      visit
      decode schema shape n
    match work.run {} with
    | .error .fault => .refused
    | .error .crash => .crashed
    | .ok (d, p) => if p.isFlawed then .refused else .value (d.getD .null)

end PageBoot.Yaml
