import PageBoot.Failure

/-!
Deferred-binding properties. A space holds the properties of one module in registration order;
a name is taken once and for all by its first registration. A provider computes a property's
value from a surrounding state and may change that state, so its answer may differ at every
call.
-/

namespace PageBoot.Binding

abbrev Provider (σ : Type) := σ → Text × σ

structure Property (σ : Type) where
  name : Text
  /-- Legal values in declaration order, each once. -/
  values : List Text
  provider : Provider σ

namespace Property

variable {σ : Type}

def sortedValues (p : Property σ) : List Text := Text.sort p.values

def allows (p : Property σ) (v : Text) : Bool := p.values.contains v

end Property

structure Space (σ : Type) where
  properties : List (Property σ) := []

namespace Space

variable {σ : Type}

def empty : Space σ := {}

def property? (s : Space σ) (name : Text) : Option (Property σ) :=
  s.properties.find? (·.name == name)

/-- Names in registration order. -/
def names (s : Space σ) : List Text := s.properties.map (·.name)

def size (s : Space σ) : Nat := s.properties.length

def isKnownValue (s : Space σ) (name value : Text) : Bool :=
  match s.property? name with
  | some p => p.allows value
  | none => false

/-- Adds a property. Repeated values are folded; without a name, a value or a provider, and
under a name already taken, nothing is added. -/
def register (s : Space σ) (name : Text) (allowed : List Text) (provider : Option (Provider σ)) :
    Except Failure (Space σ) :=
  if name.isEmpty then .error (.invalidInput .register "property name cannot be empty")
  else if allowed.isEmpty then
    .error (.invalidInputFor .register name "allowed values cannot be empty")
  else match provider with
    | none => .error (.invalidInputFor .register name "provider cannot be nil")
    | some provider =>
      if (s.property? name).isSome then .error (.duplicate .register "property" name)
      else .ok ⟨s.properties ++ [⟨name, Text.dedup allowed, provider⟩]⟩

end Space

end PageBoot.Binding
