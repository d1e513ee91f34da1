import PageBoot.Url.Address
import PageBoot.Url.Query
import PageBoot.Text.Case

/-!
URLs: reading, writing, and adding a code server to the query. A path or fragment that was
written with unusual escapes is remembered as it was, so that it is written back unchanged.
-/

namespace PageBoot

structure UserInfo where
  name : Text
  password : Option Text := none
  deriving DecidableEq, Repr

structure Url where
  scheme : Text := []
  opaquePart : Text := []
  user : Option UserInfo := none
  host : Text := []
  path : Text := []
  /-- The path as written, when its usual escaped form is another. -/
  rawPath : Text := []
  omitHost : Bool := false
  forceQuery : Bool := false
  query : Text := []
  fragment : Text := []
  rawFragment : Text := []
  deriving DecidableEq, Repr, Inhabited

namespace Url

/-! ## Reading -/

def isLetter (b : UInt8) : Bool := (97 ≤ b && b ≤ 122) || (65 ≤ b && b ≤ 90)

/-- Splits off a scheme. `none` is a colon with nothing before it. -/
def splitScheme? (t : Text) : Option (Text × Text) :=
  let head := t.takeWhile fun b => isAlnum b || b == 43 || b == 45 || b == 46
  match t.drop head.length with
  | 58 :: rest =>
    match head with
    | [] => none
    | b :: _ => if isLetter b then some (head, rest) else some ([], t)
  | _ => some ([], t)

def validPort : Text → Bool
  | [] => true
  | b :: ds => b == 58 && ds.all fun d => 48 ≤ d && d ≤ 57

/-- Position of the last occurrence of a byte. -/
def lastIndex? (b : UInt8) (t : Text) : Option Nat :=
  if t.contains b then some ((Text.uptoLast b t).length - 1) else none

/-- The text between the brackets of a host. A zone starts at the first escaped percent sign. -/
def unescapeLiteral? (t : Text) : Option Text :=
  let head := t.take ((Text.find? "%25" t).getD t.length)
  return (← unescape? .host head) ++ (← unescape? .zone (t.drop head.length))

/-- A host is an address in brackets, or a name; a port may follow. -/
def parseHost? (host : Text) : Option Text :=
  if host.contains 91 then
    match host, lastIndex? 93 host with
    | 91 :: rest, some i => do
      let port := host.drop (i + 1)
      let address ← unescapeLiteral? (rest.take (i - 1))
      if validPort port && isAddress address then return "[" ++ address ++ "]" ++ port else none
    | _, _ => none
  else
    match lastIndex? 58 host with
    | some i => if validPort (host.drop i) then unescape? .host host else none
    | none => unescape? .host host

def validUser (t : Text) : Bool :=
  t.all fun b => isAlnum b || (Text.ofString "-._:~!$&'()*+,;=%@").contains b

def parseAuthority? (t : Text) : Option (Option UserInfo × Text) :=
  match lastIndex? 64 t with
  | none => (parseHost? t).map fun h => (none, h)
  | some i => do
    let host ← parseHost? (t.drop (i + 1))
    let info := t.take i
    if !validUser info then none
    else match Text.cut 58 info with
      | (n, none) => do
        let n ← unescape? .user n
        return (some { name := n }, host)
      | (n, some p) => do
        let n ← unescape? .user n
        let p ← unescape? .user p
        return (some { name := n, password := some p }, host)

def withPath? (u : Url) (p : Text) : Option Url :=
  (unescape? .path p).map fun path =>
    { u with path, rawPath := if escape .path path == p then [] else p }

def hasControl (t : Text) : Bool := t.any fun b => b < 32 || b == 127

def splitQuery (rest : Text) : Text × Bool × Text :=
  match Text.cut 63 rest with
  | (before, some []) => (before, true, [])
  | (before, some q) => (before, false, q)
  | (before, none) => (before, false, [])

/-- Reads everything but a fragment. -/
def parseBody? (t : Text) : Option Url :=
  if hasControl t then none
  else if t == Text.ofString "*" then some { path := "*" }
  else do
    let (scheme, rest) ← splitScheme? t
    let (rest, forceQuery, query) := splitQuery rest
    let u : Url := { scheme := scheme.toLowerAscii, forceQuery, query }
    if rest.head? != some 47 then
      if !u.scheme.isEmpty then return { u with opaquePart := rest }
      else if (Text.cut 47 rest).1.contains 58 then none
      else u.withPath? rest
    else if (!u.scheme.isEmpty || !(Text.ofString "///").isPrefixOf rest) &&
        (Text.ofString "//").isPrefixOf rest then
      let authority := (rest.drop 2).takeWhile (· != 47)
      let (user, host) ← parseAuthority? authority
      withPath? { u with user, host } ((rest.drop 2).drop authority.length)
    else withPath? { u with omitHost := !u.scheme.isEmpty } rest

def parse? (t : Text) : Option Url := do
  let (body, frag) := Text.cut 35 t
  let u ← parseBody? body
  match frag with
  | none | some [] => return u
  | some f =>
    let fragment ← unescape? .fragment f
    return { u with fragment, rawFragment := if escape .fragment fragment == f then [] else f }

/-! ## Writing -/

/-- Whether a written form holds only bytes that may stand in the part unescaped. -/
def validEncoded (part : Part) (t : Text) : Bool :=
  t.all fun b => (Text.ofString "!$&'()*+,;=:@[]%").contains b || !mustEscape part b

def escapedPath (u : Url) : Text :=
  if !u.rawPath.isEmpty && validEncoded .path u.rawPath && unescape? .path u.rawPath == some u.path then
    u.rawPath
  else if u.path == Text.ofString "*" then "*"
  else escape .path u.path

def escapedFragment (u : Url) : Text :=
  if !u.rawFragment.isEmpty && validEncoded .fragment u.rawFragment &&
      unescape? .fragment u.rawFragment == some u.fragment then
    u.rawFragment
  else escape .fragment u.fragment

def UserInfo.toText (i : UserInfo) : Text :=
  if i.name.isEmpty && i.password.isNone then []
  else escape .user i.name ++ (match i.password with
    | some p => ":" ++ escape .user p
    | none => [])

/-- Whether nothing is written for the authority: a URL without one that has no scheme either, or
whose path directly follows its scheme. -/
def lacksAuthority (u : Url) : Bool :=
  (u.scheme.isEmpty || u.omitHost) && u.host.isEmpty && u.user.isNone

def authorityText (u : Url) : Text :=
  if lacksAuthority u then []
  else
    Text.when (!u.host.isEmpty || !u.path.isEmpty || u.user.isSome) "//" ++
      (match u.user with
        | some i => UserInfo.toText i ++ "@"
        | none => []) ++ escape .host u.host

def hierarchicalText (u : Url) : Text :=
  let authority := authorityText u
  let escaped := u.escapedPath
  let path := if u.omitHost && lacksAuthority u && (Text.ofString "//").isPrefixOf escaped
    then "%2F" ++ escaped.drop 1
    else escaped
  authority ++
    Text.when (!path.isEmpty && path.head? != some 47 && !u.host.isEmpty) "/" ++
    Text.when (u.scheme.isEmpty && authority.isEmpty && (Text.cut 47 path).1.contains 58) "./" ++
    path

def toText (u : Url) : Text :=
  Text.when (!u.scheme.isEmpty) (u.scheme ++ ":") ++
    (if u.opaquePart.isEmpty then hierarchicalText u else u.opaquePart) ++
    Text.when (u.forceQuery || !u.query.isEmpty) ("?" ++ u.query) ++
    Text.when (!u.fragment.isEmpty) ("#" ++ u.escapedFragment)

/-- The query string with its leading question mark, or nothing. -/
def search (u : Url) : Text := Text.when (!u.query.isEmpty) ("?" ++ u.query)

/-- Adds a code server to the query of a location that names none. `none` is a location that
cannot be read. -/
def withCodeServer? (location addr : Text) : Option Text := do
  let u ← parse? location
  if addr.isEmpty || hasQueryKey ("?" ++ u.query) codeServerKey then return location
  else
    let query := Query.encode ((Query.parse u.query).set codeServerKey [addr])
    return toText { u with query }

/-- A reference as it is injected into a page: absolute ones stand, relative ones follow the
base. -/
def resolve (base ref : Text) : Text :=
  if ref.head? == some 47 then ref
  else match parse? ref with
    | some u => if u.scheme.isEmpty then base ++ ref else ref
    | none => base ++ ref

end Url

end PageBoot
