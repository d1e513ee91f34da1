import PageBoot.Text.Case

/-!
Documents as ordered forests. A forest is its first tree, the trees below that tree's root, and
the trees beside it; every node has an identity that never changes. `nodes` is the view of a
forest as the list of its nodes in document order.
-/

namespace PageBoot.Html

structure Attribute where
  key : Text
  value : Text
  /-- The namespace of the key, for keys such as `xlink:href`. -/
  space : Text := []
  deriving DecidableEq, Repr

/-- The vocabulary that an element belongs to. -/
inductive Space where
  | html
  | svg
  | math
  deriving DecidableEq, Repr

inductive Content where
  | element (space : Space) (tag : Text)
  | text (t : Text)
  | comment (t : Text)
  | doctype (name : Text)
  deriving DecidableEq, Repr

/-- What a node is. Attributes of a doctype are its public and system identifiers; those of
texts and comments are never written. -/
structure Label where
  content : Content
  attrs : List Attribute := []
  deriving DecidableEq, Repr

abbrev NodeId := Nat

namespace Label

def text (t : Text) : Label := ⟨.text t, []⟩

def comment (t : Text) : Label := ⟨.comment t, []⟩

/-- An element of the page vocabulary. -/
def element (tag : Text) (attrs : List (Text × Text)) : Label :=
  ⟨.element .html tag, attrs.map fun (k, v) => ⟨k, v, []⟩⟩

/-- The tag of an element; other nodes have none. -/
def tag (l : Label) : Text :=
  match l.content with
  | .element _ t => t
  | _ => []

def isElement (l : Label) : Bool :=
  match l.content with
  | .element .. => true
  | _ => false

def isElementNamed (l : Label) (tag : Text) : Bool := l.isElement && l.tag == tag

def textOf (l : Label) : Text :=
  match l.content with
  | .text t => t
  | _ => []

/-- Value of the first attribute whose key is the given one up to case, or nothing. -/
def attr (l : Label) (key : Text) : Text :=
  ((l.attrs.find? fun a => a.key.equalFold key).map (·.value)).getD []

/-- Sets the first attribute whose key is the given one up to case, or adds one. -/
def setAttr (l : Label) (key value : Text) : Label :=
  { l with attrs := go l.attrs }
where
  go : List Attribute → List Attribute
    | [] => [⟨key, value, []⟩]
    | a :: as => if a.key.equalFold key then { a with value } :: as else a :: go as

end Label

inductive Forest where
  | nil
  | node (id : NodeId) (label : Label) (children rest : Forest)
  deriving DecidableEq, Repr

namespace Forest

/-- A tree as a forest of its own. -/
def tree (id : NodeId) (l : Label) (children : Forest := .nil) : Forest := .node id l children .nil

def append : Forest → Forest → Forest
  | .nil, g => g
  | .node i l c r, g => .node i l c (r.append g)

instance : Append Forest := ⟨append⟩

/-- Identities and labels in document order. -/
def nodes : Forest → List (NodeId × Label)
  | .nil => []
  | .node i l c r => (i, l) :: (c.nodes ++ r.nodes)

/-- The forest with identities from `first` on, in document order, and the first that is not used. -/
def number (first : NodeId) : Forest → Forest × NodeId
  | .nil => (.nil, first)
  | .node _ l c r =>
    let (c, next) := number (first + 1) c
    let (r, next) := number next r
    (.node first l c r, next)

/-- Identities of the roots. -/
def roots : Forest → List NodeId
  | .nil => []
  | .node i _ _ r => i :: r.roots

/-- Each tree as a forest of its own. -/
def trees : Forest → List Forest
  | .nil => []
  | .node i l c r => tree i l c :: r.trees

def isEmpty : Forest → Bool
  | .nil => true
  | .node .. => false

/-- The tree below a node, with the node as its root. -/
def find? (id : NodeId) : Forest → Option Forest
  | .nil => none
  | .node i l c r => if i = id then some (tree i l c) else (find? id c).or (find? id r)

def label? (f : Forest) (id : NodeId) : Option Label :=
  match f.find? id with
  | some (.node _ l _ _) => some l
  | _ => none

def children (f : Forest) (id : NodeId) : Forest :=
  match f.find? id with
  | some (.node _ _ c _) => c
  | _ => .nil

def contains (f : Forest) (id : NodeId) : Bool := (f.find? id).isSome

/-- Changes the label of a node. -/
def relabel (id : NodeId) (g : Label → Label) : Forest → Forest
  | .nil => .nil
  | .node i l c r =>
    if i = id then .node i (g l) c r else .node i l (relabel id g c) (relabel id g r)

/-- Puts other trees below a node. -/
def replaceChildren (id : NodeId) (g : Forest → Forest) : Forest → Forest
  | .nil => .nil
  | .node i l c r =>
    if i = id then .node i l (g c) r
    else .node i l (replaceChildren id g c) (replaceChildren id g r)

/-- Adds trees after the last child of a node. -/
def appendTo (f : Forest) (id : NodeId) (t : Forest) : Forest := f.replaceChildren id (· ++ t)

/-- Adds trees before the first child of a node. -/
def prependTo (f : Forest) (id : NodeId) (t : Forest) : Forest := f.replaceChildren id (t ++ ·)

/-- Adds trees right before a node. -/
def insertBefore : Forest → NodeId → Forest → Forest
  | .nil, _, _ => .nil
  | .node i l c r, id, t =>
    if i = id then t ++ .node i l c r
    else .node i l (c.insertBefore id t) (r.insertBefore id t)

/-- Adds trees right after a node. -/
def insertAfter : Forest → NodeId → Forest → Forest
  | .nil, _, _ => .nil
  | .node i l c r, id, t =>
    if i = id then .node i l c (t ++ r)
    else .node i l (c.insertAfter id t) (r.insertAfter id t)

/-- Takes out the tree below a node. -/
def remove (id : NodeId) : Forest → Forest
  | .nil => .nil
  | .node i l c r => if i = id then r else .node i l (remove id c) (remove id r)

/-- The node above a node; roots have none. -/
def parent? (id : NodeId) : Forest → Option NodeId
  | .nil => none
  | .node i _ c r =>
    if c.roots.contains id then some i else (parent? id c).or (parent? id r)

/-- The node right before `id` among the given siblings. -/
def precedingIn (id : NodeId) : List NodeId → Option NodeId
  | a :: b :: rest => if b = id then some a else precedingIn id (b :: rest)
  | _ => none

/-- The sibling right before a node. -/
def previous? (id : NodeId) (f : Forest) : Option NodeId :=
  (precedingIn id f.roots).or (below f)
where
  below : Forest → Option NodeId
    | .nil => none
    | .node _ _ c r => ((precedingIn id c.roots).or (below c)).or (below r)

/-- The last root, if it is a text. -/
def lastText? : Forest → Option (NodeId × Text)
  | .nil => none
  | .node i l _ .nil =>
    match l.content with
    | .text t => some (i, t)
    | _ => none
  | .node _ _ _ r => r.lastText?

/-- All text of a forest. -/
def textContent (f : Forest) : Text := f.nodes.flatMap fun (_, l) => l.textOf

/-- The first element with a tag. -/
def findTag? (f : Forest) (tag : Text) : Option NodeId :=
  (f.nodes.find? fun (_, l) => l.isElementNamed tag).map (·.1)

/-- Elements in document order. -/
def elements (f : Forest) : List (NodeId × Label) := f.nodes.filter fun (_, l) => l.isElement

end Forest

end PageBoot.Html
