import PageBoot.Yaml.Scanner

/-!
Nodes of a YAML document, read from its tokens. Only the first document of a stream is read.
-/

namespace PageBoot.Yaml

inductive Node where
  | scalar (tag : Text) (plain : Bool) (text : Text)
  | sequence (tag : Text) (items : List Node)
  /-- A mapping lists its keys and values in turn. -/
  | mapping (tag : Text) (content : List Node)
  /-- A reference to an anchored node. -/
  | reference (name : Text) (target : Node)
  /-- A reference to a node that it stands in. -/
  | loop (name : Text)
  deriving Inhabited

namespace Node

/-- What stands where a node was left out. -/
def empty : Node := .scalar [] true []

end Node

/-- An anchor; its node is not there until it is complete. -/
structure Anchor where
  number : Nat
  name : Text
  node : Option Node

structure Reader where
  tokens : List Token
  handles : List (Text × Text) := []
  /-- The anchors met so far, the last one first. -/
  anchors : List Anchor := []

namespace Reader

def longTag : Text := "tag:yaml.org,2002:"

def standardHandles : List (Text × Text) := [("!", "!"), ("!!", longTag)]

/-- The next token. Past the end the stream ends again and again. -/
def peek (r : Reader) : Option Token :=
  match r.tokens with
  | [] => some .streamEnd
  | .fault :: _ => none
  | t :: _ => some t

def drop (r : Reader) : Reader := { r with tokens := r.tokens.drop 1 }

/-- Notes an anchor whose node begins here. -/
def openAnchor (r : Reader) (name : Option Text) : Reader × Option Nat :=
  match name with
  | none => (r, none)
  | some name =>
    let number := r.anchors.length
    ({ r with anchors := ⟨number, name, none⟩ :: r.anchors }, some number)

def closeAnchor (r : Reader) (number : Option Nat) (node : Node) : Reader :=
  match number with
  | none => r
  | some n =>
    { r with anchors := r.anchors.map fun a => if a.number = n then { a with node := some node } else a }

/-- A reference to the node of the anchor that was last given the name. -/
def refer? (r : Reader) (name : Text) : Option Node :=
  (r.anchors.find? (·.name == name)).map fun a =>
    match a.node with
    | some n => .reference name n
    | none => .loop name

structure Properties where
  anchor : Option Text := none
  tag : Text := []

private def readAnchor (r : Reader) (p : Properties) : Option (Reader × Properties × Bool) := do
  match ← r.peek with
  | .anchor name => return (r.drop, { p with anchor := some name }, true)
  | _ => return (r, p, false)

private def readTag (r : Reader) (p : Properties) : Option (Reader × Properties × Bool) := do
  match ← r.peek with
  | .tag [] suffix => return (r.drop, { p with tag := suffix }, true)
  | .tag handle suffix =>
    let expansion ← r.handles.lookup handle
    return (r.drop, { p with tag := expansion ++ suffix }, true)
  | _ => return (r, p, false)

/-- An anchor and a tag before a node, in either order. -/
def properties (r : Reader) : Option (Reader × Properties) := do
  let (r, p, found) ← readAnchor r {}
  let (r, p, _) ← readTag r p
  if found then return (r, p)
  let (r, p, _) ← readAnchor r p
  return (r, p)

def isIn (t : Token) (ts : List Token) : Bool := ts.contains t

mutual

/-- Reads a node. Block collections are read in block context only, and a sequence without
indentation of its own only where a mapping's key or value stands. -/
def node (isBlock indentless : Bool) : Nat → Reader → Option (Node × Reader)
  | 0, _ => none
  | fuel + 1, r => do
    match ← r.peek with
    | .reference name =>
      let n ← r.refer? name
      return (n, r.drop)
    | _ =>
      let (r, p) ← r.properties
      let (r, number) := r.openAnchor p.anchor
      let (n, r) ←
        match ← r.peek with
        | .blockEntry => if indentless then indentlessItems p.tag fuel r [] else emptyNode p r
        | .scalar plain text => some (.scalar p.tag plain text, r.drop)
        | .flowSequenceStart => flowItems p.tag true fuel r.drop []
        | .flowMappingStart => flowPairs p.tag true fuel r.drop []
        | .blockSequenceStart => if isBlock then blockItems p.tag fuel r.drop [] else emptyNode p r
        | .blockMappingStart => if isBlock then blockPairs p.tag fuel r.drop [] else emptyNode p r
        | _ => emptyNode p r
      return (n, r.closeAnchor number n)

/-- A node with properties may be left empty. -/
def emptyNode (p : Properties) (r : Reader) : Option (Node × Reader) :=
  if p.anchor.isNone && p.tag.isEmpty then none else some (.scalar p.tag true [], r)

/-- Reads a node unless one of the given tokens shows that it was left out. -/
def nodeUnless (absent : List Token) (isBlock indentless : Bool) :
    Nat → Reader → Option (Node × Reader)
  | 0, _ => none
  | fuel + 1, r => do
    if isIn (← r.peek) absent then return (.empty, r)
    node isBlock indentless fuel r

def blockItems (tag : Text) : Nat → Reader → List Node → Option (Node × Reader)
  | 0, _, _ => none
  | fuel + 1, r, items => do
    match ← r.peek with
    | .blockEntry =>
      let (n, r) ← nodeUnless [.blockEntry, .blockEnd] true false fuel r.drop
      blockItems tag fuel r (n :: items)
    | .blockEnd => return (.sequence tag items.reverse, r.drop)
    | _ => none

def indentlessItems (tag : Text) : Nat → Reader → List Node → Option (Node × Reader)
  | 0, _, _ => none
  | fuel + 1, r, items => do
    match ← r.peek with
    | .blockEntry =>
      let (n, r) ← nodeUnless [.blockEntry, .key, .value, .blockEnd] true false fuel r.drop
      indentlessItems tag fuel r (n :: items)
    | _ => return (.sequence tag items.reverse, r)

def blockPairs (tag : Text) : Nat → Reader → List Node → Option (Node × Reader)
  | 0, _, _ => none
  | fuel + 1, r, content => do
    match ← r.peek with
    | .key =>
      let absent := [.key, .value, .blockEnd]
      let (k, r) ← nodeUnless absent true true fuel r.drop
      let (v, r) ←
        match ← r.peek with
        | .value => nodeUnless absent true true fuel r.drop
        | _ => some (.empty, r)
      blockPairs tag fuel r (v :: k :: content)
    | .blockEnd => return (.mapping tag content.reverse, r.drop)
    | _ => none

def flowItems (tag : Text) (first : Bool) : Nat → Reader → List Node → Option (Node × Reader)
  | 0, _, _ => none
  | fuel + 1, r, items => do
    let t ← r.peek
    if t = .flowSequenceEnd then return (.sequence tag items.reverse, r.drop)
    let r ← if first then some r else if t = .flowEntry then some r.drop else none
    match ← r.peek with
    | .flowSequenceEnd => return (.sequence tag items.reverse, r.drop)
    | .key =>
      let r := r.drop
      let (k, r) ←
        if isIn (← r.peek) [.value, .flowEntry, .flowSequenceEnd] then some (.empty, r.drop)
        else node false false fuel r
      let (v, r) ←
        match ← r.peek with
        | .value => nodeUnless [.flowEntry, .flowSequenceEnd] false false fuel r.drop
        | _ => some (.empty, r)
      flowItems tag false fuel r (.mapping [] [k, v] :: items)
    | _ =>
      let (n, r) ← node false false fuel r
      flowItems tag false fuel r (n :: items)

def flowPairs (tag : Text) (first : Bool) : Nat → Reader → List Node → Option (Node × Reader)
  | 0, _, _ => none
  | fuel + 1, r, content => do
    let t ← r.peek
    if t = .flowMappingEnd then return (.mapping tag content.reverse, r.drop)
    let r ← if first then some r else if t = .flowEntry then some r.drop else none
    match ← r.peek with
    | .flowMappingEnd => return (.mapping tag content.reverse, r.drop)
    | .key =>
      let (k, r) ← nodeUnless [.value, .flowEntry, .flowMappingEnd] false false fuel r.drop
      let (v, r) ←
        match ← r.peek with
        | .value => nodeUnless [.flowEntry, .flowMappingEnd] false false fuel r.drop
        | _ => some (.empty, r)
      flowPairs tag false fuel r (v :: k :: content)
    | _ =>
      let (k, r) ← node false false fuel r
      flowPairs tag false fuel r (.empty :: k :: content)

end

/-- Reads the directives before a document. -/
def directives : Nat → Bool → Reader → Option Reader
  | 0, _, _ => none
  | fuel + 1, versioned, r => do
    match ← r.peek with
    | .version major minor => if versioned ∨ major ≠ 1 ∨ minor ≠ 1 then none else directives fuel true r.drop
    | .tagHandle handle expansion =>
      if (r.handles.lookup handle).isSome then none
      else directives fuel versioned { r.drop with handles := (handle, expansion) :: r.handles }
    | _ => return r

/-- Steps needed for a list of tokens. -/
def budget (ts : List Token) : Nat := 4 * ts.length + 8

/-- The content of the first document, `some none` when the stream holds none. -/
def document (r : Reader) : Option (Option Node) := do
  let fuel := budget r.tokens
  let _ ← r.peek
  let r := r.drop
  let first ← r.peek
  if first = .streamEnd then return none
  let r ← directives fuel false r
  let explicit := (← r.peek) = .documentStart
  let hasDirectives := match first with
    | .version .. => true
    | .tagHandle .. => true
    | _ => false
  if hasDirectives && !explicit then none
  let r := { r with handles := r.handles ++ standardHandles }
  let r := if explicit then r.drop else r
  let (n, r) ←
    if explicit then
      match ← r.peek with
      | .version .. => some (Node.empty, r)
      | .tagHandle .. => some (Node.empty, r)
      | .documentStart => some (Node.empty, r)
      | .documentEnd => some (Node.empty, r)
      | .streamEnd => some (Node.empty, r)
      | _ => node true false fuel r
    else node true false fuel r
  let _ ← r.peek
  return some n

end Reader

/-- The first document of a text: `none` when it cannot be read, `some none` when there is none. -/
def document? (t : Text) : Option (Option Node) := Reader.document { tokens := tokens (.ofText t) }

end PageBoot.Yaml
