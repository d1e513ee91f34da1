import PageBoot.Text.Basic

/-!
The resources of one kind that were loaded on a page. The first mark of a name is told to
everyone who was subscribed at that moment, in the order of subscription.
-/

namespace PageBoot

inductive ResourceKind where
  | script
  | style
  deriving DecidableEq, Repr

def ResourceKind.name : ResourceKind → Text
  | .script => "script"
  | .style => "style"

/-- A registry with observers of type `ω`. -/
structure Registry (ω : Type) where
  kind : ResourceKind
  /-- Marked names in the order of their first mark. -/
  names : List Text := []
  /-- Subscriptions, oldest first. -/
  observers : List (Nat × ω) := []
  subscribed : Nat := 0

namespace Registry

variable {ω : Type}

def isLoaded (r : Registry ω) (name : Text) : Bool := r.names.contains name

def size (r : Registry ω) : Nat := r.names.length

/-- Marks a name. On its first mark the observers that are to be told are handed back. -/
def mark (r : Registry ω) (name : Text) : Option (List (Nat × ω)) × Registry ω :=
  if r.isLoaded name then (none, r) else (some r.observers, { r with names := r.names ++ [name] })

/-- Adds a subscription and gives its number. -/
def subscribe (r : Registry ω) (o : ω) : Nat × Registry ω :=
  let n := r.subscribed + 1
  (n, { r with observers := r.observers ++ [(n, o)], subscribed := n })

def cancel (r : Registry ω) (n : Nat) : Registry ω :=
  { r with observers := r.observers.filter (·.1 != n) }

end Registry

end PageBoot
