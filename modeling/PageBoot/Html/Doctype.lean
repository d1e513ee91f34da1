import PageBoot.Html.Token

/-!
Doctypes: a name, and optionally a public and a system identifier. Old identifiers and malformed
doctypes make the layout of a page loose.
-/

namespace PageBoot.Html.Doctype

/-- Beginnings of public identifiers of loose pages, one to a line. -/
def loosePublicIds : List Text := Text.lines <| Text.ofString <|
  "+//silmaril//dtd html pro v0r11 19970101//
-//advasoft ltd//dtd html 3.0 aswedit + extensions//
-//as//dtd html 3.0 aswedit + extensions//
-//ietf//dtd html 2.0 level 1//
-//ietf//dtd html 2.0 level 2//
-//ietf//dtd html 2.0 strict level 1//
-//ietf//dtd html 2.0 strict level 2//
-//ietf//dtd html 2.0 strict//
-//ietf//dtd html 2.0//
-//ietf//dtd html 2.1e//
-//ietf//dtd html 3.0//
-//ietf//dtd html 3.2 final//
-//ietf//dtd html 3.2//
-//ietf//dtd html 3//
-//ietf//dtd html level 0//
-//ietf//dtd html level 1//
-//ietf//dtd html level 2//
-//ietf//dtd html level 3//
-//ietf//dtd html strict level 0//
-//ietf//dtd html strict level 1//
-//ietf//dtd html strict level 2//
-//ietf//dtd html strict level 3//
-//ietf//dtd html strict//
-//ietf//dtd html//
-//metrius//dtd metrius presentational//
-//microsoft//dtd internet explorer 2.0 html strict//
-//microsoft//dtd internet explorer 2.0 html//
-//microsoft//dtd internet explorer 2.0 tables//
-//microsoft//dtd internet explorer 3.0 html strict//
-//microsoft//dtd internet explorer 3.0 html//
-//microsoft//dtd internet explorer 3.0 tables//
-//netscape comm. corp.//dtd html//
-//netscape comm. corp.//dtd strict html//
-//o'reilly and associates//dtd html 2.0//
-//o'reilly and associates//dtd html extended 1.0//
-//o'reilly and associates//dtd html extended relaxed 1.0//
-//softquad software//dtd hotmetal pro 6.0::19990601::extensions to html 4.0//
-//softquad//dtd hotmetal pro 4.0::19971010::extensions to html 4.0//
-//spyglass//dtd html 2.0 extended//
-//sq//dtd html 2.0 hotmetal + extensions//
-//sun microsystems corp.//dtd hotjava html//
-//sun microsystems corp.//dtd hotjava strict html//
-//w3c//dtd html 3 1995-03-24//
-//w3c//dtd html 3.2 draft//
-//w3c//dtd html 3.2 final//
-//w3c//dtd html 3.2//
-//w3c//dtd html 3.2s draft//
-//w3c//dtd html 4.0 frameset//
-//w3c//dtd html 4.0 transitional//
-//w3c//dtd html experimental 19960712//
-//w3c//dtd html experimental 970421//
-//w3c//dtd w3 html//
-//w3o//dtd w3 html 3.0//
-//webtechs//dtd mozilla html 2.0//
-//webtechs//dtd mozilla html//"

/-- Public identifiers of loose pages. -/
def looseWholeIds : List Text :=
  ["-//w3o//dtd w3 html strict 3.0//en//", "-/w3d/dtd html 4.0 transitional/en", "html"]

/-- Beginnings of public identifiers that make a page loose if there is no system identifier. -/
def looseAloneIds : List Text :=
  ["-//w3c//dtd html 4.01 frameset//", "-//w3c//dtd html 4.01 transitional//"]

def looseSystemId : Text := "http://www.ibm.com/data/dtd/v11/ibmxhtml1-transitional.dtd"

/-- A quoted identifier and what follows it; an identifier that is not closed takes the rest. -/
def readQuoted? (t : Text) : Option (Text × Text) :=
  match Token.skipBlanks t with
  | [] => none
  | q :: t =>
    if q == 34 || q == 39 then
      let id := t.takeWhile (· != q)
      some (id, t.drop (id.length + 1))
    else none

private def publicKey : Text := "public"
private def systemKey : Text := "system"

/-- Identifiers after a keyword, what follows them, and whether one was missing. -/
def readIds (key t : Text) : List Attribute × Text × Bool :=
  let system (t : Text) : List Attribute × Text × Bool :=
    match readQuoted? t with
    | none => ([], t, true)
    | some (id, rest) => ([⟨systemKey, id, []⟩], rest, false)
  if key == systemKey then system t
  else if key == publicKey then
    match readQuoted? t with
    | none => ([], t, true)
    | some (id, rest) =>
      let (attrs, rest, missing) := system rest
      (⟨publicKey, id, []⟩ :: attrs, rest, missing)
  else ([], t, true)

def isLoosePublic (id : Text) (alone : Bool) : Bool :=
  looseWholeIds.contains id || loosePublicIds.any (·.isPrefixOf id) ||
    (alone && looseAloneIds.any (·.isPrefixOf id))

/-- The node of a doctype, and whether it makes the page loose. -/
def parse (t : Text) : Label × Bool :=
  let name := t.takeWhile fun b => !Token.isBlank b
  let rest := Token.skipBlanks (t.drop name.length)
  let content := Content.doctype (Text.toLower name)
  let badName := name != Text.ofString "html"
  if rest.length < 6 then (⟨content, []⟩, badName || !rest.isEmpty)
  else
    let (attrs, after, missing) := readIds (Text.toLower (rest.take 6)) (rest.drop 6)
    let loosePublic :=
      match attrs with
      | a :: others => a.key == publicKey && isLoosePublic a.value.toLower others.isEmpty
      | [] => false
    let looseSystem :=
      match attrs.getLast? with
      | some a => a.key == systemKey && a.value.equalFold looseSystemId
      | none => false
    (⟨content, attrs⟩, badName || missing || !after.isEmpty || loosePublic || looseSystem)

end PageBoot.Html.Doctype
