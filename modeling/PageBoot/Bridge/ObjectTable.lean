import PageBoot.Failure

/-!
The table that gives page objects ids on the way across the bridge. Ids start at one; a freed
id is used again, the one freed last first. A comparable value that is already in the table
keeps its id, which an index of the live values tells. `live?` is the view of the table as a
map from ids to values.
-/

namespace PageBoot.Bridge

/-- Ids by value. -/
abbrev Index := List (Value × Nat)

namespace Index

/-- The id under a value equal to `v`; a value that differs from itself is never found. -/
def get? (ix : Index) (v : Value) : Option Nat := (ix.find? (·.1.same v)).map (·.2)

def erase (ix : Index) (v : Value) : Index := ix.filter (!·.1.same v)

def set (ix : Index) (v : Value) (id : Nat) : Index := (v, id) :: ix.erase v

end Index

/-- A live value, and whether it is in the index. -/
structure Entry where
  value : Value
  keyed : Bool

structure ObjectTable where
  /-- The entry under id `i + 1` stands at place `i`; a dead id has none. -/
  entries : List (Option Entry) := []
  /-- Dead ids, the one freed last first. -/
  freed : List Nat := []
  ids : Index := []
  closed : Bool := false

namespace ObjectTable

def empty : ObjectTable := {}

def slot? (t : ObjectTable) (id : Int) : Option Entry :=
  if id < 1 then none else (t.entries[id.toNat - 1]?).join

/-- The value with the given id. -/
def live? (t : ObjectTable) (id : Int) : Option Value := (t.slot? id).map (·.value)

/-- Number of live ids. -/
def size (t : ObjectTable) : Nat := t.entries.length - t.freed.length

/-- The id a value already has. Only comparable values are looked for. -/
def idOf? (t : ObjectTable) (v : Value) : Option Nat :=
  if v.comparable then t.ids.get? v else none

/-- Gives a value an id of its own. -/
def allocate (t : ObjectTable) (v : Value) : Nat × ObjectTable :=
  let entry : Entry := { value := v, keyed := v.comparable }
  let ids (id : Nat) : Index := if entry.keyed then t.ids.set v id else t.ids
  match t.freed with
  | id :: freed =>
    (id, { t with entries := t.entries.set (id - 1) (some entry), freed, ids := ids id })
  | [] =>
    let id := t.entries.length + 1
    (id, { t with entries := t.entries ++ [some entry], ids := ids id })

/-- The id of a value, a new one when it has none. -/
def put (t : ObjectTable) (v : Value) : Except Failure (Nat × ObjectTable) :=
  match v with
  | .null => .error (.invalidInput .invoke "cannot reference a nil object")
  | v =>
    if t.closed then .error (.invalidState .invoke "closed" "put")
    else match t.idOf? v with
      | some id => .ok (id, t)
      | none => .ok (t.allocate v)

/-- Drops an id and hands back its value. -/
def free (t : ObjectTable) (id : Int) : Option Value × ObjectTable :=
  match t.slot? id with
  | none => (none, t)
  | some e =>
    (some e.value, { t with
      entries := t.entries.set (id.toNat - 1) none
      freed := id.toNat :: t.freed
      ids := if e.keyed then t.ids.erase e.value else t.ids })

/-- Drops every id for good and hands back the values that were live, in the order of their
ids. -/
def close (t : ObjectTable) : List Value × ObjectTable :=
  if t.closed then ([], t) else (t.entries.filterMap (·.map (·.value)), { closed := true })

end ObjectTable

/-- The name under which a value hears that it was released. -/
def releaseName? : Value → Option Text
  | .releasable n => some n
  | _ => none

end PageBoot.Bridge
