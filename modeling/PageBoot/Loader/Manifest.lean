import PageBoot.Disk
import PageBoot.Loader.Module
import PageBoot.Reply
import PageBoot.Yaml.Decode

/-!
Manifests: module definitions written as YAML. Every field may be left out or be null, a field
that is not known is refused, and so is one of the wrong shape. Null entries of a list do not
count.
-/

namespace PageBoot.Loader

open Yaml (Datum)

/-- How a property's value is found, as a manifest says it. -/
inductive ProviderSpec where
  | mk (kind key value default_ : Text) (rules : List UserAgentRule) (fallback : Option ProviderSpec)
  deriving Inhabited

namespace ProviderSpec

def kind : ProviderSpec → Text
  | .mk k .. => k

def key : ProviderSpec → Text
  | .mk _ k .. => k

def value : ProviderSpec → Text
  | .mk _ _ v .. => v

def default_ : ProviderSpec → Text
  | .mk _ _ _ d .. => d

def rules : ProviderSpec → List UserAgentRule
  | .mk _ _ _ _ r _ => r

def fallback : ProviderSpec → Option ProviderSpec
  | .mk _ _ _ _ _ f => f

def blank : ProviderSpec := .mk [] [] [] [] [] none

end ProviderSpec

structure PropertySpec where
  name : Text := []
  values : List Text := []
  provider : ProviderSpec := .blank

structure Manifest where
  module : Text := []
  properties : List PropertySpec := []
  permutations : List Variant := []
  scripts : List Text := []
  styles : List Text := []

/-! ## Decoding -/

namespace Manifest

/-- The groups of fields that a manifest is written in. -/
inductive Part where
  | manifest
  | property
  | provider
  | rule
  | variant
  deriving DecidableEq, Repr

/-- What each group holds. -/
def schema : Yaml.Schema Part
  | .manifest =>
    [("module", .text), ("properties", .list (.record .property)),
     ("permutations", .list (.record .variant)), ("scripts", .list .text), ("styles", .list .text)]
  | .property => [("name", .text), ("values", .list .text), ("provider", .record .provider)]
  | .provider =>
    [("kind", .text), ("key", .text), ("value", .text), ("default", .text),
     ("rules", .list (.record .rule)), ("fallback", .optional .provider)]
  | .rule => [("contains", .text), ("value", .text)]
  | .variant => [("values", .list .text), ("strong_name", .text)]

def text (d : Datum) : Text := d.text?.getD []

def items : Datum → List Datum
  | .list ds => ds
  | _ => []

/-- A field of a group, null when it was left out. -/
def field (d : Datum) (name : Text) : Datum :=
  match d with
  | .table keys values => ((keys.zip values).lookup name).getD .null
  | _ => .null

def texts (d : Datum) : List Text := (items d).map text

def rule (d : Datum) : UserAgentRule := ⟨text (field d "contains"), text (field d "value")⟩

mutual

def provider : Datum → ProviderSpec
  | .table keys values =>
    let d := Datum.table keys values
    .mk (text (field d "kind")) (text (field d "key")) (text (field d "value"))
      (text (field d "default")) ((items (field d "rules")).map rule) (fallback? keys values)
  | _ => .blank

/-- The provider in the field `fallback`. -/
def fallback? : List Text → List Datum → Option ProviderSpec
  | k :: ks, d :: ds =>
    if k = Text.ofString "fallback" then (if d.isNull then none else some (provider d)) else fallback? ks ds
  | _, _ => none

end

def property (d : Datum) : PropertySpec where
  name := text (field d "name")
  values := texts (field d "values")
  provider := provider (field d "provider")

def variant (d : Datum) : Variant := ⟨texts (field d "values"), text (field d "strong_name")⟩

def ofDatum (d : Datum) : Manifest where
  module := text (field d "module")
  properties := (items (field d "properties")).map property
  permutations := (items (field d "permutations")).map variant
  scripts := texts (field d "scripts")
  styles := texts (field d "styles")

def decodeFailure : Failure :=
  .report .config .configParse "manifest" "decode manifest" .null (some .foreign)

/-- Reads a manifest. A text without a document is refused too. -/
def parse (t : Text) : Reply Manifest :=
  match Yaml.decodeText schema (.record .manifest) t with
  | .value d => .answer (ofDatum d)
  | .crashed => .crash Yaml.unhashable
  | _ => .failure decodeFailure

def readFailure (path : Text) : Failure :=
  .wrap .config .notFound (some (.missingFile path)) "read manifest"

/-- Reads a manifest from a file. -/
def read (d : Disk) (path : Text) : Reply Manifest :=
  match d.read? path with
  | some t => parse t
  | none => .failure (readFailure path)

/-! ## Meaning -/

def unknownProvider (property kind : Text) : Failure :=
  .report .config .invalidValue property ("unknown provider kind " ++ Text.quote kind) (.str kind) none

end Manifest

/-- The rule that a provider stands for. Without a key of its own it asks for the property by name,
and without a fallback it falls back to its default. -/
def ProviderSpec.rule (property : Text) : ProviderSpec → Except Failure ValueRule
  | .mk kind key value default_ rules fallback =>
    let key := if key.isEmpty then property else key
    if kind = Text.ofString "constant" then .ok (.constant value)
    else if kind = Text.ofString "query" then .ok (.query key default_)
    else if kind = Text.ofString "user_agent" then .ok (.userAgent rules default_)
    else if kind = Text.ofString "meta" then
      match fallback with
      | none => .ok (.metaOr key (.constant default_))
      | some f => (f.rule property).map (.metaOr key)
    else .error (Manifest.unknownProvider property kind)

namespace Manifest

def propertyDefs (ps : List PropertySpec) : Except Failure (List (PropertyDef ValueRule)) :=
  ps.mapM fun p => do
    let rule ← p.provider.rule p.name
    return { name := p.name, values := p.values, provider := some rule }

/-- The module that a manifest describes. -/
def build (m : Manifest) : Except Failure (ModuleDef ValueRule) :=
  if m.module.isEmpty then .error (.invalidInput .config "manifest has no module name")
  else do
    let properties ← propertyDefs m.properties
    return {
      name := m.module
      properties
      permutations := m.permutations
      scripts := m.scripts
      styles := m.styles }

/-- The module of a written manifest. -/
def load (t : Text) : Reply (ModuleDef ValueRule) := (parse t).bind fun m => .ofExcept m.build

end Manifest

/-- What is wrong with a module's properties and variants, whatever its values come to. -/
def ModuleDef.fault? {π : Type} (m : ModuleDef π) : Option Failure :=
  let make : π → Option (Binding.Provider Unit) := fun _ => some fun s => ([], s)
  match (m.build make).1 with
  | .ok _ => none
  | .error f => some f

end PageBoot.Loader
