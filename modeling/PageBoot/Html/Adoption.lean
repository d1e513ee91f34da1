import PageBoot.Html.Builder

/-!
Closing formatting elements that overlap with blocks. The block inside such an element is moved
out of it, and its contents go into a copy of the element, so that every text keeps its look.
-/

namespace PageBoot.Html.Builder

/-- An end tag without rules of its own closes the innermost element with its name, unless a
special element is inside it. -/
def closeOther (b : Builder) (tag : Text) : Builder :=
  match scan (fun e => if e.tag == tag then .target else if e.isSpecial then .boundary else .other)
      b.stack with
  | some n => { b with stack := b.stack.drop (n + 1) }
  | none => b

/-- The latest formatting element with a tag, after the latest marker. -/
def latestActive? (tag : Text) : List Active → Option Open
  | [] => none
  | .marker :: _ => none
  | .element e :: rest => if e.tag == tag then some e else latestActive? tag rest

private def indexOf (active : List Active) (id : NodeId) : Option Nat :=
  active.findIdx? (·.isElement id)

/-- The part of the work that goes on while elements between the block and the formatting
element are looked at: the tree being moved, the elements that stay open (outermost last), and
the place where the copy of the formatting element will go, counted from the latest entry. -/
structure Moving where
  builder : Builder
  moved : Forest
  kept : List Open := []
  bookmark : Nat
  first : Bool := true

/-- Looks at one element between the block and the formatting element, the `j`-th from the block.
Formatting elements are copied around the moved tree, the first three only; others are taken off
the stack. The bookmark is a position in the list of formatting elements from its beginning. -/
def moveOver (m : Moving) (j : Nat) (e : Open) : Moving :=
  let earliest := m.builder.active.reverse
  match indexOf earliest e.id with
  | none => m
  | some n =>
    if j > 3 then
      { m with
        builder := m.builder.removeActive e.id
        kept := m.kept ++ [e]
        bookmark := if n ≤ m.bookmark then m.bookmark - 1 else m.bookmark }
    else
      let copy : Open := { e with id := m.builder.next }
      { builder := { m.builder with
          next := m.builder.next + 1
          active := m.builder.active.map fun a => if a.isElement e.id then .element copy else a }
        moved := .tree copy.id copy.label m.moved
        kept := m.kept ++ [copy]
        bookmark := if m.first then n + 1 else m.bookmark
        first := false }

private def insertAt {α : Type} (n : Nat) (x : α) (xs : List α) : List α := xs.take n ++ x :: xs.drop n

/-- Moves the block out of the formatting element `fe`. `inside` are the open elements inside the
block, `between` those between block and formatting element from the block outward, and `outside`
those around the formatting element. -/
def adopt (b : Builder) (fe block : Open) (inside between outside : List Open) : Builder :=
  let blockTree := (b.tree.find? block.id).getD .nil
  let start : Moving :=
    { builder := { b with tree := b.tree.remove block.id }
      moved := blockTree
      bookmark := (indexOf b.active.reverse fe.id).getD 0 }
  let m := between.zipIdx.foldl (fun m (e, i) => moveOver m (i + 1) e) start
  let b := m.builder
  let b :=
    match outside with
    | [] => { b with tree := b.tree ++ m.moved }
    | ancestor :: _ =>
      if among ancestor.tag tableParts then
        let stacked := { b with stack := inside ++ block :: m.kept ++ fe :: outside }
        { stacked.fosterTree m.moved with stack := b.stack }
      else { b with tree := b.tree.appendTo ancestor.id m.moved }
  let copy : Open := { fe with id := b.next }
  let tree := b.tree.replaceChildren block.id fun c => .tree copy.id copy.label c
  let earliest := b.active.reverse
  let bookmark :=
    match indexOf earliest fe.id with
    | some n => if n < m.bookmark then m.bookmark - 1 else m.bookmark
    | none => m.bookmark
  let others := earliest.filter fun a => !a.isElement fe.id
  { b with
    tree
    next := b.next + 1
    active := (insertAt bookmark (.element copy) others).reverse
    stack := inside ++ copy :: block :: m.kept ++ outside }

/-- Closes a formatting element, again while there are blocks to move out of it. -/
def closeFormattingLoop (tag : Text) : Nat → Builder → Builder
  | 0, b => b
  | n + 1, b =>
    match latestActive? tag b.active with
    | none => b.closeOther tag
    | some fe =>
      match b.stack.findIdx? (·.id == fe.id) with
      | none => b.removeActive fe.id
      | some depth =>
        if !b.inScope .plain [tag] then b
        else
          let inner := b.stack.take depth
          let outside := b.stack.drop (depth + 1)
          match (inner.reverse.findIdx? (·.isSpecial)).map fun i => inner.length - 1 - i with
          | none => { b with stack := outside }.removeActive fe.id
          | some i =>
            match inner.drop i with
            | block :: between =>
              closeFormattingLoop tag n (b.adopt fe block (inner.take i) between outside)
            | [] => b

/-- The end tag of a formatting element. -/
def closeFormatting (b : Builder) (tag : Text) : Builder :=
  match b.stack with
  | e :: rest =>
    if e.tag == tag && !(b.active.any (·.isElement e.id)) then { b with stack := rest }
    else closeFormattingLoop tag 8 b
  | [] => closeFormattingLoop tag 8 b

end PageBoot.Html.Builder
