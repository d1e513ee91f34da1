import PageBoot.Page.Glass
import PageBoot.Page.Write
import PageBoot.Terminal.Block

/-!
What a page shows, drawn for a terminal: its title and address, alerts, and then the overlay or
frame that covers it or else the resources that were loaded into it.
-/

namespace PageBoot.Terminal

/-- A width to draw at. -/
structure View where
  width : Nat
  deriving DecidableEq, Repr

namespace View

def defaultWidth : Nat := 80

/-- Widths below twenty are not drawn at. -/
def ofWidth (n : Int) : View := ⟨if n < 20 then defaultWidth else n.toNat⟩

def titleBox : Box := { horizontal := 1 }
def alertBox : Box := { horizontal := 1, border := some .single }
def frameBox : Box := { vertical := 1, horizontal := 2, border := some .double }
def glassBox : Box := { vertical := 1, horizontal := 2 }

/-- A line or more of running text. -/
def plain (t : Text) : Text := Block.text (Box.render {} t)

def title (t : Text) : Text := Block.text (titleBox.render t)

/-- A message that covers the page. -/
def overlay (v : View) (o : Page.Overlay) : Block :=
  let inner : Box := { width := v.width - glassBox.frame }
  let body := stacked [Box.render {} o.summary, [[]], inner.render o.text]
  { glassBox with width := v.width }.render (Block.text body)

/-- A frame that covers the page. -/
def frame (v : View) (url : Text) : Block :=
  { frameBox with width := v.width - frameBox.frame }.render ("frame: " ++ url)

def alert (v : View) (message : Text) : Block :=
  { alertBox with width := v.width - alertBox.frame }.render ("alert: " ++ message)

/-- A line on the keys that can be pressed. -/
def help (keys : List Text) : Text := plain (Text.join " • " keys)

/-- A heading with the number of items, and the items below it. -/
def listed (heading : Text) (items : List Text) : Block :=
  if items.isEmpty then []
  else
    plain (heading ++ " (" ++ Text.ofNat items.length ++ ")") ::
      items.map fun i => blanks 2 ++ plain i

/-- All that a page shows. -/
def page (v : View) (p : Page) : Text :=
  let heading : Text := title p.title ++ " " ++ p.href
  let body : Block :=
    match p.overlays.getLast?, p.frames.getLast? with
    | some o, _ => v.overlay o
    | none, some f => v.frame f
    | none, none => listed "Scripts" p.scripts ++ listed "Stylesheets" p.stylesheets
  Block.text ([heading, []] ++ p.alerts.flatMap v.alert ++ body ++ [[]])

end View

end PageBoot.Terminal
