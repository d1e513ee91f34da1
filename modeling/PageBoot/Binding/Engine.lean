import PageBoot.Binding.Space
import PageBoot.Binding.Table

/-!
Resolution of the current surroundings to a strong name. Properties are evaluated in a fixed
order; the first illegal value is reported to the handler, when there is one, and ends the
resolution.
-/

namespace PageBoot.Binding

/-- Called with the property, its legal values in sorted order and the illegal value. -/
abbrev Handler (σ : Type) := Text → List Text → Text → σ → σ

structure Engine (σ : Type) where
  space : Space σ
  table : Table
  order : List Text
  onError : Option (Handler σ) := none

/-- A resolved tuple and the strong name it stands for. -/
structure Resolved where
  values : List Text
  strong : Text
  deriving DecidableEq, Repr

namespace Engine

variable {σ : Type}

/-- The first fault of a resolution order: an entry that repeats, or one that is not
registered. -/
def orderFault? (space : Space σ) : List Text → List Text → Option Failure
  | _, [] => none
  | seen, n :: ns =>
    if seen.contains n then some (.duplicate .register "resolution order entry" n)
    else if (space.property? n).isNone then some (.notFound .register "property" n)
    else orderFault? space (n :: seen) ns

def make (space : Option (Space σ)) (table : Option Table) (order : List Text) :
    Except Failure (Engine σ) :=
  match space, table with
  | some space, some table =>
    if order.length ≠ table.depth then
      .error (.report .register .invalidInput []
        ("resolution order names " ++ Text.ofNat order.length ++ " properties, table depth is " ++
          Text.ofInt table.depth)
        (.texts order) none)
    else match orderFault? space [] order with
      | some f => .error f
      | none => .ok { space, table, order }
  | _, _ => .error (.invalidInput .register "space and table are required")

/-- Evaluates one property. -/
def compute (e : Engine σ) (name : Text) (s : σ) : Except Failure Text × σ :=
  match e.space.property? name with
  | none => (.error (.notFound .resolve "property" name), s)
  | some p =>
    let (v, s) := p.provider s
    if p.allows v then (.ok v, s)
    else
      let allowed := p.sortedValues
      let s := match e.onError with
        | some h => h name allowed v s
        | none => s
      (.error (.property name v allowed), s)

/-- Evaluates properties one after another up to the first failure. -/
def computeAll (e : Engine σ) : List Text → σ → Except Failure (List Text) × σ
  | [], s => (.ok [], s)
  | n :: ns, s =>
    match e.compute n s with
    | (.error f, s) => (.error f, s)
    | (.ok v, s) =>
      match e.computeAll ns s with
      | (.error f, s) => (.error f, s)
      | (.ok vs, s) => (.ok (v :: vs), s)

def resolve (e : Engine σ) (s : σ) : Except Failure Resolved × σ :=
  match e.computeAll e.order s with
  | (.error f, s) => (.error f, s)
  | (.ok values, s) =>
    match e.table.lookup values with
    | some strong => (.ok { values, strong }, s)
    | none => (.error (.incompleteTable values), s)

end Engine

end PageBoot.Binding
