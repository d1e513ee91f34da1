import PageBoot.Html.Rules.Table

/-!
Rules for what follows the body, for pages of frames, and for drawings and formulas.
-/

namespace PageBoot.Html.Builder

def afterBody (process : Process) (b : Builder) (tok : Option Token) : Step :=
  let leave : Step := { b with mode := .inBody }.again tok
  match tok with
  | none => b.done
  | some (.text t) => if isAllBlank t then b.inBody process tok else leave
  | some (.start tag _ _) => if tag == Text.ofString "html" then b.inBody process tok else leave
  | some (.close tag) =>
    if tag == Text.ofString "html" then
      (if b.context.isSome then b else { b with mode := .afterAfterBody }).done
    else leave
  | some (.comment c) =>
    match b.stack.getLast? with
    | some root =>
      { b with tree := b.tree.appendTo root.id (.tree b.next (.comment c)), next := b.next + 1 }.done
    | none => b.done
  | some (.doctype _) => leave

def afterAfterBody (process : Process) (b : Builder) (tok : Option Token) : Step :=
  let leave : Step := { b with mode := .inBody }.again tok
  match tok with
  | none => b.done
  | some (.text t) => if isAllBlank t then b.inBody process tok else leave
  | some (.start tag _ _) => if tag == Text.ofString "html" then b.inBody process tok else leave
  | some (.close _) => leave
  | some (.comment c) => (b.addOutside (.comment c)).done
  | some (.doctype _) => b.inBody process tok

def inFrameset (process : Process) (b : Builder) (tok : Option Token) : Step :=
  match tok with
  | some (.comment c) => (b.addComment c).done
  | some (.text t) => (b.addText (t.filter Token.isBlank)).done
  | some (.start tag attrs _) =>
    if tag == Text.ofString "html" then b.mergeRoot attrs
    else if tag == Text.ofString "frameset" then (b.addElement tag attrs).done
    else if tag == Text.ofString "frame" then (b.addVoid tag attrs).done
    else if tag == Text.ofString "noframes" then b.inHead process tok
    else b.done
  | some (.close tag) =>
    if tag == Text.ofString "frameset" && b.currentTag != Text.ofString "html" then
      let b := b.pop
      (if b.currentTag == Text.ofString "frameset" then b else { b with mode := .afterFrameset }).done
    else b.done
  | _ => b.done

def afterFrameset (process : Process) (b : Builder) (tok : Option Token) : Step :=
  match tok with
  | some (.comment c) => (b.addComment c).done
  | some (.text t) => (b.addText (t.filter Token.isBlank)).done
  | some (.start tag attrs _) =>
    if tag == Text.ofString "html" then b.mergeRoot attrs
    else if tag == Text.ofString "noframes" then b.inHead process tok
    else b.done
  | some (.close tag) =>
    (if tag == Text.ofString "html" then { b with mode := .afterAfterFrameset } else b).done
  | _ => b.done

def afterAfterFrameset (process : Process) (b : Builder) (tok : Option Token) : Step :=
  match tok with
  | some (.comment c) => (b.addOutside (.comment c)).done
  | some (.text t) =>
    match t.filter Token.isBlank with
    | [] => b.done
    | blanks => b.inBody process (some (.text blanks))
  | some (.start tag attrs _) =>
    if tag == Text.ofString "html" then b.mergeRoot attrs
    else if tag == Text.ofString "noframes" then b.inHead process tok
    else b.done
  | _ => b.done

/-- The rules of a mode. -/
def rule (process : Process) (b : Builder) (tok : Option Token) : Step :=
  match b.mode with
  | .initial => b.initial tok
  | .beforeHtml => b.beforeHtml process tok
  | .beforeHead => b.beforeHead process tok
  | .inHead => b.inHead process tok
  | .afterHead => b.afterHead process tok
  | .inBody => b.inBody process tok
  | .text => b.rawContents tok
  | .inTable => b.inTable process tok
  | .inCaption => b.inCaption process tok
  | .inColumnGroup => b.inColumnGroup process tok
  | .inTableBody => b.inTableBody process tok
  | .inRow => b.inRow process tok
  | .inCell => b.inCell process tok
  | .inSelect => b.inSelect process tok
  | .inSelectInTable => b.inSelectInTable process tok
  | .inTemplate => b.inTemplate process tok
  | .afterBody => b.afterBody process tok
  | .inFrameset => b.inFrameset process tok
  | .afterFrameset => b.afterFrameset process tok
  | .afterAfterBody => b.afterAfterBody process tok
  | .afterAfterFrameset => b.afterAfterFrameset process tok
  | .ignoring => b.done

/-! ## Drawings and formulas -/

/-- Elements of drawings and formulas that contain ordinary markup. -/
def isHtmlPoint (e : Open) : Bool :=
  match e.space with
  | .math =>
    e.tag == Text.ofString "annotation-xml" && e.attrs.any fun a =>
      a.key == Text.ofString "encoding" &&
        among a.value.toLower (names "text/html application/xhtml+xml")
  | .svg => among e.tag svgSpecialTags
  | .html => false

def isMathTextPoint (e : Open) : Bool := e.space == .math && among e.tag mathTextTags

/-- Whether a token inside element `e` follows the rules of drawings and formulas. -/
def isForeign (e : Open) (tok : Option Token) : Bool :=
  e.space != .html &&
    match tok with
    | none => false
    | some (.text _) => !isMathTextPoint e && !isHtmlPoint e
    | some (.start tag _ _) =>
      !(isMathTextPoint e && !among tag (names "mglyph malignmark")) &&
      !(e.space == .math && e.tag == Text.ofString "annotation-xml" && tag == Text.ofString "svg") &&
      !isHtmlPoint e
    | some _ => true

/-- Closes drawings and formulas up to an element that contains ordinary markup. -/
def breakOut (b : Builder) : Builder :=
  match b.stack.findIdx? fun e => e.space == .html || isHtmlPoint e || isMathTextPoint e with
  | some n => { b with stack := b.stack.drop n }
  | none => b

def isBreakout (tag : Text) (attrs : List Attribute) : Bool :=
  among tag breakoutTags ||
    (tag == Text.ofString "font" && attrs.any fun a => among a.key (names "color face size"))

def foreignClose (process : Process) (b : Builder) (tag : Text) : Step :=
  let role (e : Open) : Role :=
    if e.space == .html then .boundary else if e.tag.equalFold tag then .target else .other
  match scan role b.stack with
  | some n => { b with stack := b.stack.drop (n + 1) }.done
  | none => if b.stack.any (·.space == .html) then b.rule process (some (.close tag)) else b.done

def foreign (process : Process) (b : Builder) (e : Open) (tok : Option Token) : Step :=
  match tok with
  | some (.text t) =>
    let b := { b with framesetOk := b.framesetOk && t.all fun c => Token.isBlank c || c == 0 }
    (b.addText (Token.replaceNuls t)).done
  | some (.comment c) => (b.addComment c).done
  | some (.start tag attrs selfClosing) =>
    if b.context.isNone && isBreakout tag attrs then b.breakOut.again tok
    else
      let tag := if e.space == .svg then respell svgTags tag else tag
      { b.openForeign e.space tag attrs selfClosing with readMarkup := true }.done
  | some (.close tag) => b.foreignClose process tag
  | _ => b.done

/-- One look at a token. -/
def step (process : Process) (b : Builder) (tok : Option Token) : Step :=
  match b.stack with
  | [] => b.rule process tok
  | [root] =>
    if b.context.isNone && isForeign root tok then b.foreign process root tok else b.rule process tok
  | e :: _ => if isForeign e tok then b.foreign process e tok else b.rule process tok

/-- Looks at a token until it is used up. The bound is on the number of looks, those at implied
tags included on the way down. -/
def process : Nat → Option Token → Builder → Builder
  | 0, _, b => b
  | n + 1, tok, b =>
    match b.step (fun t b => process n (some t) b) tok with
    | (.done, b) => b
    | (.again tok, b) => process n tok b

/-- How often a token may be looked at: each look closes an element or moves on in a fixed order
of modes. -/
def looks (b : Builder) : Nat := 64 + 4 * (b.stack.length + b.templates.length)

def feed (b : Builder) (tok : Option Token) : Builder := process b.looks tok b

end PageBoot.Html.Builder
