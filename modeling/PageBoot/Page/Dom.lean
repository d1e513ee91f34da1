import PageBoot.Html.Parse
import PageBoot.Html.Printer

/-!
The nodes of a page: its document, and trees that were taken out of it but may still be held. A
tree that is taken out keeps its nodes and their identities, and can still be changed.
-/

namespace PageBoot.Page

open Html

structure Dom where
  document : Forest
  /-- Trees outside the document, each with a single root. -/
  detached : List Forest := []
  /-- The next free identity. -/
  next : NodeId
  deriving Repr

namespace Dom

def forests (d : Dom) : List Forest := d.document :: d.detached

/-- Changes all trees. -/
def map (d : Dom) (f : Forest → Forest) : Dom :=
  { d with document := f d.document, detached := d.detached.map f }

def label? (d : Dom) (id : NodeId) : Option Label := d.forests.findSome? (·.label? id)

def relabel (d : Dom) (id : NodeId) (f : Label → Label) : Dom := d.map (·.relabel id f)

def attr (d : Dom) (id : NodeId) (key : Text) : Text := ((d.label? id).map (·.attr key)).getD []

def setAttr (d : Dom) (id : NodeId) (key value : Text) : Dom := d.relabel id (·.setAttr key value)

/-- The tree below a node. -/
def subtree (d : Dom) (id : NodeId) : Forest := (d.forests.findSome? (·.find? id)).getD .nil

def children (d : Dom) (id : NodeId) : Forest := (d.subtree id).children id

def isAttached (d : Dom) (id : NodeId) : Bool := d.document.contains id

/-- Whether a node is below another one or the document. -/
def hasParent (d : Dom) (id : NodeId) : Bool :=
  d.isAttached id || d.detached.any fun f => (f.parent? id).isSome

def previous? (d : Dom) (id : NodeId) : Option NodeId := d.forests.findSome? (·.previous? id)

/-- Takes a tree out of the document, or out of the tree it is in. -/
def detach (d : Dom) (id : NodeId) : Dom :=
  if d.hasParent id then
    let t := d.subtree id
    let d := d.map (·.remove id)
    { d with detached := d.detached ++ [t] }
  else d

/-- Takes out all children of a node. -/
def clear (d : Dom) (id : NodeId) : Dom := (d.children id).roots.foldl detach d

def appendTo (d : Dom) (id : NodeId) (t : Forest) : Dom := d.map (·.appendTo id t)

def prependTo (d : Dom) (id : NodeId) (t : Forest) : Dom := d.map (·.prependTo id t)

def insertAfter (d : Dom) (id : NodeId) (t : Forest) : Dom := d.map (·.insertAfter id t)

/-- A new node, not in any tree yet. -/
def fresh (d : Dom) (l : Label) (children : Forest := .nil) : Forest × Dom :=
  (.tree d.next l children, { d with next := d.next + 1 })

/-- The first element of the document with an id. -/
def byId? (d : Dom) (id : Text) : Option NodeId :=
  (d.document.elements.find? fun (_, l) => l.attr "id" == id).map (·.1)

/-- The first element with a tag at or below a node. -/
def findTag? (d : Dom) (root : NodeId) (tag : Text) : Option NodeId := (d.subtree root).findTag? tag

end Dom

end PageBoot.Page
