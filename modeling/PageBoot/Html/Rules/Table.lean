import PageBoot.Html.Rules.Body

/-!
Rules for tables and for lists of choices.
-/

namespace PageBoot.Html.Builder

private def oneOf (tag : Text) (s : String) : Bool := among tag (names s)

def tableContext : List Text := tableBoundaries
def bodyContext : List Text := names "html tbody tfoot thead template"
def rowContext : List Text := names "html tr template"
def sectionTags : List Text := names "tbody thead tfoot"
def cellTags : List Text := names "td th"

/-- Contents that do not belong in a table follow the rules of the body and go before it. -/
def fosterBody (process : Process) (b : Builder) (tok : Option Token) : Step :=
  let (v, b) := { b with fostering := true }.inBody process tok
  (v, { b with fostering := false })

/-- A list of choices inside a table. -/
def openTableSelect (b : Builder) (attrs : List Attribute) : Builder :=
  { b.reopenFormatting.addElement "select" attrs with
    framesetOk := false, mode := .inSelectInTable }

def tableStart (process : Process) (b : Builder) (tag : Text) (attrs : List Attribute)
    (selfClosing : Bool) : Step :=
  let tok : Option Token := some (.start tag attrs selfClosing)
  let other (b : Builder) : Step := b.fosterBody process tok
  if oneOf tag "caption" then
    { ((b.clearTo tableContext).addMarker.addElement tag attrs) with mode := .inCaption }.done
  else if oneOf tag "colgroup" then
    { ((b.clearTo tableContext).addElement tag attrs) with mode := .inColumnGroup }.done
  else if oneOf tag "col" then (process (implied "colgroup") b).again tok
  else if among tag sectionTags then
    { ((b.clearTo tableContext).addElement tag attrs) with mode := .inTableBody }.done
  else if oneOf tag "td th tr" then (process (implied "tbody") b).again tok
  else if oneOf tag "table" then
    match b.popUntil .table [tag] with
    | some b => b.resetMode.again tok
    | none => b.done
  else if oneOf tag "style script template" then b.inHead process tok
  else if oneOf tag "input" && isHidden attrs then (b.addVoid tag attrs).done
  else if oneOf tag "form" then
    if b.inTemplateTag || b.form.isSome then b.done
    else
      let b := b.addElement tag attrs
      other { b.pop with form := (b.stack.head?).map (·.id) }
  else if oneOf tag "select" then
    let b := b.reopenFormatting
    let b := { b with fostering := among b.currentTag tableParts }
    { b.addElement tag attrs with
      fostering := false, framesetOk := false, mode := .inSelectInTable }.done
  else other b

def tableEnd (process : Process) (b : Builder) (tag : Text) : Step :=
  if oneOf tag "table" then
    match b.popUntil .table [tag] with
    | some b => b.resetMode.done
    | none => b.done
  else if oneOf tag "body caption col colgroup html tbody td tfoot th thead tr" then b.done
  else if oneOf tag "template" then b.inHead process (some (.close tag))
  else b.fosterBody process (some (.close tag))

def inTable (process : Process) (b : Builder) (tok : Option Token) : Step :=
  match tok with
  | some (.text t) =>
    let t := t.filter (· != 0)
    if among b.currentTag tableParts && isAllBlank t then (b.addText t).done
    else b.fosterBody process (some (.text t))
  | some (.start tag attrs s) => b.tableStart process tag attrs s
  | some (.close tag) => b.tableEnd process tag
  | some (.comment c) => (b.addComment c).done
  | some (.doctype _) => b.done
  | none => b.inBody process none

/-- Ends a caption. -/
def closeCaption? (b : Builder) : Option Builder :=
  (b.popUntil .table (names "caption")).map fun b => { b.clearFormatting with mode := .inTable }

def inCaption (process : Process) (b : Builder) (tok : Option Token) : Step :=
  let other : Step := b.inBody process tok
  match tok with
  | some (.start tag attrs _) =>
    if oneOf tag "caption col colgroup tbody td tfoot thead tr" then
      match b.closeCaption? with
      | some b => b.again tok
      | none => b.done
    else if oneOf tag "select" then (b.openTableSelect attrs).done
    else other
  | some (.close tag) =>
    if oneOf tag "caption" then (b.closeCaption?.getD b).done
    else if oneOf tag "table" then
      match b.closeCaption? with
      | some b => b.again tok
      | none => b.done
    else if oneOf tag "body col colgroup html tbody td tfoot th thead tr" then b.done
    else other
  | _ => other

def inColumnGroup (process : Process) (b : Builder) (tok : Option Token) : Step :=
  let leave (b : Builder) (t : Option Token) : Step :=
    if oneOf b.currentTag "colgroup" then { b.pop with mode := .inTable }.again t else b.done
  match tok with
  | some (.text t) =>
    let (lead, rest) := splitBlanks t
    let b := b.addText lead
    if rest.isEmpty then b.done else leave b (some (.text rest))
  | some (.comment c) => (b.addComment c).done
  | some (.doctype _) => b.done
  | some (.start tag attrs _) =>
    if oneOf tag "html" then b.mergeRoot attrs
    else if oneOf tag "col" then (b.addVoid tag attrs).done
    else if oneOf tag "template" then b.inHead process tok
    else leave b tok
  | some (.close tag) =>
    if oneOf tag "colgroup" then
      (if oneOf b.currentTag "colgroup" then { b.pop with mode := .inTable } else b).done
    else if oneOf tag "col" then b.done
    else if oneOf tag "template" then b.inHead process tok
    else leave b tok
  | none => b.inBody process none

def inTableBody (process : Process) (b : Builder) (tok : Option Token) : Step :=
  let leave : Step :=
    match b.popUntil .table sectionTags with
    | some b => { b with mode := .inTable }.again tok
    | none => b.done
  match tok with
  | some (.start tag attrs _) =>
    if oneOf tag "tr" then
      { ((b.clearTo bodyContext).addElement tag attrs) with mode := .inRow }.done
    else if among tag cellTags then (process (implied "tr") b).again tok
    else if oneOf tag "caption col colgroup tbody tfoot thead" then leave
    else b.inTable process tok
  | some (.close tag) =>
    if among tag sectionTags then
      (if b.inScope .table [tag] then { (b.clearTo bodyContext).pop with mode := .inTable } else b).done
    else if oneOf tag "table" then leave
    else if oneOf tag "body caption col colgroup html td th tr" then b.done
    else b.inTable process tok
  | some (.comment c) => (b.addComment c).done
  | tok => b.inTable process tok

def inRow (process : Process) (b : Builder) (tok : Option Token) : Step :=
  let leave : Step :=
    match b.popUntil .table (names "tr") with
    | some b => { b with mode := .inTableBody }.again tok
    | none => b.done
  match tok with
  | some (.start tag attrs _) =>
    if among tag cellTags then
      { ((b.clearTo rowContext).addElement tag attrs).addMarker with mode := .inCell }.done
    else if oneOf tag "caption col colgroup tbody tfoot thead tr" then leave
    else b.inTable process tok
  | some (.close tag) =>
    if oneOf tag "tr" then
      (if b.inScope .table [tag] then { (b.clearTo rowContext).pop with mode := .inTableBody } else b).done
    else if oneOf tag "table" then leave
    else if among tag sectionTags then
      if b.inScope .table [tag] then (process (.close "tr") b).again tok else b.done
    else if oneOf tag "body caption col colgroup html td th" then b.done
    else b.inTable process tok
  | tok => b.inTable process tok

def inCell (process : Process) (b : Builder) (tok : Option Token) : Step :=
  let other : Step := b.inBody process tok
  match tok with
  | some (.start tag attrs _) =>
    if oneOf tag "caption col colgroup tbody td tfoot th thead tr" then
      match b.popUntil .table cellTags with
      | some b => { b.clearFormatting with mode := .inRow }.again tok
      | none => b.done
    else if oneOf tag "select" then (b.openTableSelect attrs).done
    else other
  | some (.close tag) =>
    if among tag cellTags then
      (((b.popUntil .table [tag]).map fun b => { b.clearFormatting with mode := .inRow }).getD b).done
    else if oneOf tag "body caption col colgroup html" then b.done
    else if among tag tableParts then
      if !b.inScope .table [tag] then b.done
      else
        let b := ((b.popUntil .table cellTags).map (·.clearFormatting)).getD b
        { b with mode := .inRow }.again tok
    else other
  | _ => other

/-! ## Choices -/

def closeSelect (b : Builder) : Builder :=
  ((b.popUntil .select (names "select")).map (·.resetMode)).getD b

def selectStart (process : Process) (b : Builder) (tag : Text) (attrs : List Attribute)
    (selfClosing : Bool) : Step :=
  let tok : Option Token := some (.start tag attrs selfClosing)
  let popTag (b : Builder) (name : String) : Builder := if oneOf b.currentTag name then b.pop else b
  if oneOf tag "html" then b.mergeRoot attrs
  else if oneOf tag "option" then ((popTag b "option").addElement tag attrs).done
  else if oneOf tag "optgroup" then
    ((popTag (popTag b "option") "optgroup").addElement tag attrs).done
  else if oneOf tag "select" then b.closeSelect.done
  else if oneOf tag "input keygen textarea" then
    if b.inScope .select (names "select") then (process (.close "select") b).again tok
    else { b with readMarkup := true }.done
  else if oneOf tag "script template" then b.inHead process tok
  else { b with readMarkup := true }.done

def inSelect (process : Process) (b : Builder) (tok : Option Token) : Step :=
  match tok with
  | some (.text t) => (b.addText (t.filter (· != 0))).done
  | some (.start tag attrs s) => b.selectStart process tag attrs s
  | some (.close tag) =>
    if oneOf tag "option" then (if oneOf b.currentTag "option" then b.pop else b).done
    else if oneOf tag "optgroup" then
      let inner := if oneOf b.currentTag "option" then b.pop else b
      (if oneOf inner.currentTag "optgroup" then inner.pop else b).done
    else if oneOf tag "select" then b.closeSelect.done
    else if oneOf tag "template" then b.inHead process tok
    else b.done
  | some (.comment c) => (b.addComment c).done
  | some (.doctype _) => b.done
  | none => b.inBody process none

def inSelectInTable (process : Process) (b : Builder) (tok : Option Token) : Step :=
  let leave : Step :=
    let b :=
      match b.stack.findIdx? fun e => oneOf e.tag "select" with
      | some n => { b with stack := b.stack.drop (n + 1) }
      | none => b
    b.resetMode.again tok
  let outer (tag : Text) : Bool := oneOf tag "caption table tbody tfoot thead tr td th"
  match tok with
  | some (.start tag _ _) => if outer tag then leave else b.inSelect process tok
  | some (.close tag) =>
    if outer tag then if b.inScope .table [tag] then leave else b.done
    else b.inSelect process tok
  | tok => b.inSelect process tok

/-! ## Templates -/

def inTemplate (process : Process) (b : Builder) (tok : Option Token) : Step :=
  let become (m : Mode) : Step :=
    { b with templates := m :: b.templates.drop 1, mode := m }.again tok
  match tok with
  | some (.text _) | some (.comment _) | some (.doctype _) => b.inBody process tok
  | some (.start tag _ _) =>
    if among tag headTags || among tag headBlockTags then b.inHead process tok
    else if oneOf tag "caption colgroup tbody tfoot thead" then become .inTable
    else if oneOf tag "col" then become .inColumnGroup
    else if oneOf tag "tr" then become .inTableBody
    else if among tag cellTags then become .inRow
    else become .inBody
  | some (.close tag) => if oneOf tag "template" then b.inHead process tok else b.done
  | none => if b.inTemplateTag then b.closeTemplate.again none else b.done

end PageBoot.Html.Builder
