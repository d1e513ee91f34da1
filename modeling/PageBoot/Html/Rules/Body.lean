import PageBoot.Html.Rules.Head

/-!
Rules for the body of a page, where most contents are.
-/

namespace PageBoot.Html.Builder

private def is (tag : Text) (s : String) : Bool := among tag (names s)

def bodyText (b : Builder) (t : Text) : Builder :=
  let t :=
    match b.stack with
    | e :: _ =>
      if is e.tag "pre listing" && (b.tree.children e.id).isEmpty then rawContents.dropLineEnd t else t
    | [] => t
  let t := t.filter (· != 0)
  if t.isEmpty then b
  else
    let b := b.reopenFormatting.addText t
    { b with framesetOk := b.framesetOk && isAllBlank t }

/-- Closes the list item that a new one ends: the innermost of the given elements, if only
paragraphs, divisions, addresses and elements that are not special are inside it. -/
def closeItem (b : Builder) (tags : List Text) : Builder :=
  let role (e : Open) : Role :=
    if among e.tag tags then .target
    else if is e.tag "address div p" || !e.isSpecial then .other
    else .boundary
  match scan role b.stack with
  | some n => { b with stack := b.stack.drop (n + 1) }
  | none => b

def isHidden (attrs : List Attribute) : Bool :=
  attrs.any fun a => a.key == Text.ofString "type" && a.value.equalFold "hidden"

/-- A frameset may replace a body that has no contents yet. -/
def bodyFrameset (b : Builder) (attrs : List Attribute) : Builder :=
  match b.stack.reverse with
  | root :: body :: _ =>
    if b.framesetOk && is body.tag "body" then
      let b := { b with tree := b.tree.remove body.id, stack := [root] }
      { b.addElement "frameset" attrs with mode := .inFrameset }
    else b
  | _ => b

def mergeBody (b : Builder) (attrs : List Attribute) : Builder :=
  match b.stack.reverse with
  | _ :: body :: _ =>
    if is body.tag "body" then { b.copyAttrs body.id attrs with framesetOk := false } else b
  | _ => b

/-- A link inside a link closes the outer one. -/
def closeOpenLink (b : Builder) : Builder :=
  match latestActive? (Text.ofString "a") b.active with
  | none => b
  | some e => ((b.closeFormatting "a").removeOpen e.id).removeActive e.id

def openForeign (b : Builder) (space : Space) (tag : Text) (attrs : List Attribute)
    (selfClosing : Bool) : Builder :=
  let b := b.addOpen space tag (foreignAttrs space attrs)
  if selfClosing then b.pop else b

def bodyStart (process : Process) (b : Builder) (tag : Text) (attrs : List Attribute)
    (selfClosing : Bool) : Step :=
  let noFrames (b : Builder) : Builder := { b with framesetOk := false }
  if is tag "html" then b.mergeRoot attrs
  else if among tag headTags || among tag headBlockTags then
    b.inHead process (some (.start tag attrs selfClosing))
  else if is tag "body" then (if b.inTemplateTag then b else b.mergeBody attrs).done
  else if is tag "frameset" then (b.bodyFrameset attrs).done
  else if is tag "p" || among tag blockTags then (b.closeParagraph.addElement tag attrs).done
  else if among tag headingTags then
    let b := b.closeParagraph
    let b := if among b.currentTag headingTags then b.pop else b
    (b.addElement tag attrs).done
  else if is tag "pre listing" then (noFrames (b.closeParagraph.addElement tag attrs)).done
  else if is tag "form" then
    if b.form.isSome && !b.inTemplateTag then b.done
    else
      let b := b.closeParagraph.addElement tag attrs
      (if b.inTemplateTag then b else { b with form := (b.stack.head?).map (·.id) }).done
  else if is tag "li" then
    (((noFrames b).closeItem (names "li")).closeParagraph.addElement tag attrs).done
  else if is tag "dd dt" then
    (((noFrames b).closeItem (names "dd dt")).closeParagraph.addElement tag attrs).done
  else if is tag "plaintext" then (b.closeParagraph.addElement tag attrs).done
  else if is tag "button" then
    (noFrames ((b.popIfInScope .plain [tag]).reopenFormatting.addElement tag attrs)).done
  else if is tag "a" then (b.closeOpenLink.reopenFormatting.addFormatting tag attrs).done
  else if among tag formattingTags then (b.reopenFormatting.addFormatting tag attrs).done
  else if is tag "nobr" then
    let b := b.reopenFormatting
    let b := if b.inScope .plain [tag] then (b.closeFormatting tag).reopenFormatting else b
    (b.addFormatting tag attrs).done
  else if is tag "applet marquee object" then
    (noFrames (b.reopenFormatting.addElement tag attrs).addMarker).done
  else if is tag "table" then
    let b := if b.loose then b else b.closeParagraph
    { noFrames (b.addElement tag attrs) with mode := .inTable }.done
  else if is tag "area br embed img input keygen wbr" then
    let b := b.reopenFormatting.addVoid tag attrs
    (if is tag "input" && isHidden attrs then b else noFrames b).done
  else if is tag "param source track" then (b.addVoid tag attrs).done
  else if is tag "hr" then (noFrames (b.closeParagraph.addVoid tag attrs)).done
  else if is tag "image" then b.again (some (.start "img" attrs selfClosing))
  else if is tag "textarea" then (noFrames (b.addRaw tag attrs)).done
  else if is tag "xmp" then (noFrames (b.closeParagraph.reopenFormatting.addRaw tag attrs)).done
  else if is tag "iframe" then (noFrames (b.addRaw tag attrs)).done
  else if is tag "noembed noscript" then (b.addRaw tag attrs).done
  else if is tag "select" then
    { noFrames (b.reopenFormatting.addElement tag attrs) with mode := .inSelect }.done
  else if is tag "optgroup option" then
    let b := if is b.currentTag "option" then b.pop else b
    (b.reopenFormatting.addElement tag attrs).done
  else if is tag "rb rtc" then
    let b := if b.inScope .plain (names "ruby") then b.closeImplied else b
    (b.addElement tag attrs).done
  else if is tag "rp rt" then
    let b := if b.inScope .plain (names "ruby") then b.closeImplied (names "rtc") else b
    (b.addElement tag attrs).done
  else if is tag "math" then (b.reopenFormatting.openForeign .math tag attrs selfClosing).done
  else if is tag "svg" then (b.reopenFormatting.openForeign .svg tag attrs selfClosing).done
  else if is tag "caption col colgroup frame head tbody td tfoot th thead tr" then b.done
  else (b.reopenFormatting.addElement tag attrs).done

def closeForm (b : Builder) : Builder :=
  let depth := b.depthInScope .plain (names "form")
  if b.inTemplateTag then
    match depth with
    | none => b
    | some n =>
      let b' := b.closeImplied
      if n < b.stack.length - b'.stack.length then b' else b'.popIfInScope .plain (names "form")
  else
    let form := b.form
    let b := { b with form := none }
    match form, depth with
    | some id, some n =>
      if (b.stack[n]?).map (·.id) == some id then b.closeImplied.removeOpen id else b
    | _, _ => b

def bodyEnd (process : Process) (b : Builder) (tag : Text) : Step :=
  if is tag "body" then
    (if b.inScope .plain [tag] then { b with mode := .afterBody } else b).done
  else if is tag "html" then
    if b.inScope .plain (names "body") then (process (.close "body") b).again (some (.close tag))
    else b.done
  else if is tag "button listing pre" || among tag blockTags then (b.popIfInScope .plain [tag]).done
  else if is tag "form" then b.closeForm.done
  else if is tag "p" then
    let b := if b.inScope .button [tag] then b else process (implied "p") b
    b.closeParagraph.done
  else if is tag "li" then (b.popIfInScope .listItem [tag]).done
  else if is tag "dd dt" then (b.popIfInScope .plain [tag]).done
  else if among tag headingTags then (b.popIfInScope .plain headingTags).done
  else if is tag "a nobr" || among tag formattingTags then (b.closeFormatting tag).done
  else if is tag "applet marquee object" then
    (((b.popUntil .plain [tag]).map (·.clearFormatting)).getD b).done
  else if is tag "br" then b.again (some (implied "br"))
  else if is tag "template" then b.inHead process (some (.close tag))
  else (b.closeOther tag).done

def inBody (process : Process) (b : Builder) (tok : Option Token) : Step :=
  match tok with
  | some (.text t) => (b.bodyText t).done
  | some (.start tag attrs s) => b.bodyStart process tag attrs s
  | some (.close tag) => b.bodyEnd process tag
  | some (.comment c) => (b.addComment c).done
  | some (.doctype _) => b.done
  | none => if b.templates.isEmpty then b.done else { b with mode := .inTemplate }.again none

end PageBoot.Html.Builder
