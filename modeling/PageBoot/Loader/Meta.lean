import PageBoot.Dict
import PageBoot.Failure
import PageBoot.Text.Case

/-!
Settings that a page gives in its metas: values of properties, and the names of handlers for
illegal property values and for modules that fail to load. A name that no handler has is
reported to the user and otherwise ignored.
-/

namespace PageBoot.Loader

/-- Names of the handlers that a page offers. -/
structure HandlerTable where
  property : List Text := []
  load : List Text := []
  deriving DecidableEq, Repr

structure MetaSettings where
  properties : Dict Text := []
  /-- The handler of illegal property values. -/
  propertyError : Option Text := none
  /-- The handler of modules that fail to load. -/
  loadError : Option Text := none
  warnings : List Failure := []
  /-- What the user is told. -/
  alerts : List Text := []

namespace MetaSettings

def propertyName : Text := "gwt:property"
def propertyErrorName : Text := "gwt:onPropertyErrorFn"
def loadErrorName : Text := "gwt:onLoadErrorFn"

def property? (s : MetaSettings) (name : Text) : Option Text := s.properties.get? name

def badHandler (s : MetaSettings) (name content : Text) : MetaSettings :=
  { s with
    alerts := s.alerts ++ ["Bad handler " ++ Text.quote content ++ " for " ++ Text.quote name]
    warnings := s.warnings ++
      [.configParse name content (some (.notFound .config "handler" content.trim))] }

/-- Takes one meta into account; one without contents says nothing. -/
def add (table : HandlerTable) (s : MetaSettings) (entry : Text × Text) : MetaSettings :=
  let (name, content) := entry
  if content.isEmpty then s
  else if name == propertyName then
    let (key, value) := content.cut 61
    { s with properties := s.properties.set key (value.getD []) }
  else if name == propertyErrorName then
    if table.property.contains content.trim then { s with propertyError := some content.trim }
    else s.badHandler name content
  else if name == loadErrorName then
    if table.load.contains content.trim then { s with loadError := some content.trim }
    else s.badHandler name content
  else s

/-- The settings of a page's metas, in document order. -/
def ofMetas (table : HandlerTable) (metas : List (Text × Text)) : MetaSettings :=
  metas.foldl (add table) {}

end MetaSettings

end PageBoot.Loader
