import PageBoot.Binding.Engine
import PageBoot.Journal
import PageBoot.Loader.Meta
import PageBoot.Page.Basic

/-!
Modules as they are described to the loader: deferred-binding properties with the way their
value is found, the compiled variant for each combination of values, and resources that are
needed beside it.
-/

namespace PageBoot.Loader

open Binding

structure UserAgentRule where
  includes : Text
  value : Text
  deriving DecidableEq, Repr

/-- How the value of a property is found. -/
inductive ValueRule where
  | constant (value : Text)
  /-- The first value of a key in the page's query, or a default. -/
  | query (key default_ : Text)
  /-- The value of the first rule whose text the user agent has in it, up to case, or a default. -/
  | userAgent (rules : List UserAgentRule) (default_ : Text)
  /-- The value that a meta gives if it is a legal one, or what another rule says. -/
  | metaOr (key : Text) (fallback : ValueRule)
  deriving Repr, Inhabited

/-- What rules may look at. -/
structure Surroundings where
  page : Page
  settings : MetaSettings
  /-- Whether a value is legal for a property. -/
  isLegal : Text → Text → Bool

def ValueRule.value (e : Surroundings) : ValueRule → Text
  | .constant v => v
  | .query key d => ((Url.Query.parse e.page.location.query).first? key).getD d
  | .userAgent rules d =>
    let agent := e.page.userAgent.toLower
    ((rules.find? fun r => agent.includes r.includes.toLower).map (·.value)).getD d
  | .metaOr key fallback =>
    match e.settings.property? key with
    | some v => if e.isLegal key v then v else fallback.value e
    | none => fallback.value e

/-- A property whose provider is described by a `π`. -/
structure PropertyDef (π : Type) where
  name : Text
  values : List Text
  provider : Option π

structure Variant where
  values : List Text
  strong : Text
  deriving DecidableEq, Repr

structure ModuleDef (π : Type) where
  name : Text
  properties : List (PropertyDef π) := []
  permutations : List Variant := []
  scripts : List Text := []
  styles : List Text := []

namespace ModuleDef

variable {π σ : Type}

/-- Whether a value is among those declared for a property. -/
def isLegal (m : ModuleDef π) (name value : Text) : Bool :=
  match m.properties.find? (·.name == name) with
  | some p => p.values.contains value
  | none => false

def registeredEntry (name : Text) (values : List Text) : Journal.Entry :=
  { logger := "permutation", level := .debug, message := "property registered"
    details := [("property", .text name), ("values", .texts (Text.dedup values))] }

/-- Registers properties one after another; what was registered is told also if a later one
fails. -/
def register (make : π → Option (Binding.Provider σ)) :
    List (PropertyDef π) → Space σ → Except Failure (Space σ) × List Journal.Entry
  | [], space => (.ok space, [])
  | p :: ps, space =>
    match p.provider with
    | none => (.error (.invalidInputFor .register p.name "property has no provider"), [])
    | some spec =>
      match space.register p.name p.values (make spec) with
      | .error f => (.error f, [])
      | .ok space =>
        let (r, entries) := register make ps space
        (r, registeredEntry p.name p.values :: entries)

def addAll : List Variant → Table → Except Failure Table
  | [], t => .ok t
  | v :: vs, t => (t.add v.values v.strong).bind fun t => addAll vs t

/-- The engine that resolves the module's properties. `make` gives a provider its meaning. -/
def build (m : ModuleDef π) (make : π → Option (Binding.Provider σ)) :
    Except Failure (Engine σ) × List Journal.Entry :=
  match register make m.properties .empty with
  | (.error f, entries) => (.error f, entries)
  | (.ok space, entries) =>
    let order := m.properties.map (·.name)
    ((addAll m.permutations (.empty order.length)).bind fun table =>
      Engine.make (some space) (some table) order, entries)

end ModuleDef

end PageBoot.Loader
