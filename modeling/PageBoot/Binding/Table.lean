import PageBoot.Failure

/-!
The answers tree: it maps a tuple of property values, one per level, to a strong name. A level
is a chain of branches, one for each value seen there; strong names stand below the last level.
`rows` is the flat view of the tree, with the branches of every level in byte order.
-/

namespace PageBoot.Binding

inductive Answers where
  /-- No further branch at this level. -/
  | stop
  | leaf (strong : Text)
  | branch (key : Text) (below next : Answers)
  deriving DecidableEq, Repr

namespace Answers

/-- What stands below `k` at this level. -/
def child? (k : Text) : Answers → Option Answers
  | .branch key below next => if key = k then some below else child? k next
  | _ => none

/-- Changes what stands below `k`, adding a branch for it when there is none. -/
def place (k : Text) (f : Answers → Answers) : Answers → Answers
  | .branch key below next =>
    if key = k then .branch key (f below) next else .branch key below (place k f next)
  | _ => .branch k (f .stop) .stop

def insert (strong : Text) : List Text → Answers → Answers
  | [], _ => .leaf strong
  | k :: ks, t => place k (insert strong ks) t

/-- The node that a path leads to. -/
def node? : List Text → Answers → Option Answers
  | [], t => some t
  | k :: ks, t => (child? k t).bind (node? ks)

def strong? : Answers → Option Text
  | .leaf s => some s
  | _ => none

def get? (ks : List Text) (t : Answers) : Option Text := (node? ks t).bind strong?

/-- A tuple with its strong name. -/
abbrev Row := List Text × Text

/-- Puts a value in front of every tuple. -/
def under (k : Text) (rows : List Row) : List Row := rows.map fun r => (k :: r.1, r.2)

/-- The rows of a node, given those below each of its branches. -/
def collect : Answers → List (Text × List Row) → List Row
  | .leaf s, _ => [([], s)]
  | _, arms => (arms.mergeSort fun a b => Text.le a.1 b.1).flatMap fun a => under a.1 a.2

/-- The branches of a node with the rows below them. -/
def arms : Answers → List (Text × List Row)
  | .branch k below next => (k, collect below (arms below)) :: arms next
  | _ => []

/-- Every tuple with its strong name. -/
def rows (t : Answers) : List Row := collect t (arms t)

end Answers

structure Table where
  depth : Int
  size : Nat := 0
  root : Answers := .stop
  deriving DecidableEq, Repr

namespace Table

def empty (depth : Int) : Table := { depth }

/-- Sets the strong name of a tuple; the last one set wins. -/
def add (t : Table) (values : List Text) (strong : Text) : Except Failure Table :=
  if values.length ≠ t.depth then
    .error (.report .register .invalidInput []
      ("permutation key has " ++ Text.ofNat values.length ++ " values, table depth is " ++
        Text.ofInt t.depth)
      (.texts values) none)
  else if strong.isEmpty then .error (.invalidInput .register "strong name cannot be empty")
  else if t.depth = 0 then .error (.invalidInput .register "table has no properties")
  else
    let size := if (t.root.node? values).isSome then t.size else t.size + 1
    .ok { t with size, root := t.root.insert strong values }

def lookup (t : Table) (values : List Text) : Option Text :=
  if values.length = t.depth then t.root.get? values else none

/-- Every tuple with its strong name, in lexical order of the tuples. -/
def walk (t : Table) : List Answers.Row := t.root.rows

end Table

end PageBoot.Binding
