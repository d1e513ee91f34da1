import PageBoot.Page.Basic

/-!
Frames and overlays that cover a page.
-/

namespace PageBoot.Page

open Html

def glassId : Text := "__gwt_glass"

def frameStyle : Style :=
  [("position", "absolute"), ("border-width", "0"), ("left", "0"), ("top", "0"), ("width", "100%"),
    ("height", "100%"), ("background-color", "#ffffff"), ("z-index", "1")]

/-- The look of the glass unless the page changes it. -/
def plainGlassStyle : Style :=
  [("position", "absolute"), ("z-index", "2147483646"), ("left", "0px"), ("top", "0px"),
    ("right", "0px"), ("bottom", "0px"), ("filter", "alpha(opacity=75)"), ("opacity", "0.75"),
    ("background-color", "#000000")]

def messageStyle : Text :=
  "position:absolute;z-index:2147483647;left:50px;top:50px;width:600px;color:#FFFFFF;font-family:verdana;"

/-- Covers the page with a frame. -/
def loadFrame (p : Page) (url : Text) : Page :=
  let (frame, dom) := p.dom.fresh (.element "iframe"
    [("scrolling", "no"), ("frameborder", "0"), ("src", url), ("style", frameStyle.print)])
  let p := { p with dom }.mergeStyle p.body [("margin", "0"), ("height", "100%"), ("overflow", "hidden")]
  { p with dom := p.dom.prependTo p.body frame, frames := p.frames ++ [url] }

def setGlassStyle (p : Page) (name value : Text) : Page :=
  { p with glassStyle := p.glassStyle.set name value }

/-- The elements of an overlay, around the contents of its details. -/
def glassTree (p : Page) (summary : Text) (details : Forest) : Forest × Dom :=
  let style := Style.print (plainGlassStyle.override p.glassStyle)
  let (text, dom) := p.dom.fresh (.text summary)
  let (glass, dom) := dom.fresh (.element "div" [("id", glassId), ("style", style)])
  let (title, dom) := dom.fresh (.element "div" [("style", "font-size:30px;font-weight:bold;")]) text
  let (para, dom) := dom.fresh (.element "p" [("style", "font-size:15px;")]) details
  let (message, dom) := dom.fresh (.element "div" [("style", messageStyle)]) (title ++ para)
  dom.fresh (.element "div" []) (glass ++ message)

/-- The elements of an overlay whose details are markup. -/
def overlayTree (p : Page) (summary details : Text) : Forest × Dom :=
  let new := parseContents "p" p.dom.next details
  { p with dom := { p.dom with next := new.next } }.glassTree summary new.forest

/-- Keeps the page from scrolling. -/
def stopScrolling (p : Page) : Page :=
  let noScroll : Style := [("overflow", "hidden")]
  if p.compatMode == backCompatMode then p.mergeStyle p.body noScroll
  else match p.dom.document.findTag? "html" with
    | some root => p.mergeStyle root noScroll
    | none => p

/-- Covers the page with an overlay. -/
def overlaid (p : Page) (summary details : Text) : Page :=
  let (tree, dom) := p.overlayTree summary details
  let p := { p with dom := dom.appendTo p.body tree }.stopScrolling
  { p with focused := glassId, overlays := p.overlays ++ [Overlay.mk summary details] }

/-- Covers the page with an overlay and says so in its title. -/
def showGlass (p : Page) (summary details : Text) : Page :=
  let p := p.overlaid summary details
  p.setTitle (summary ++ " [" ++ p.title ++ "]")

end PageBoot.Page
