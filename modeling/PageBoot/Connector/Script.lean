import PageBoot.Bridge.Adapters
import PageBoot.Reply

/-!
Connectors that act by a script: what they answer to each call of the handshake, and how often
they signal a lost connection before they answer.
-/

namespace PageBoot.Connector

/-- What a connector is asked to connect with. -/
structure Request where
  url : Text := []
  session : Text := []
  codeServer : Text := []
  module : Text := []
  version : Text := []
  deriving DecidableEq, Repr

/-- The texts of a request in the order in which guests take them. -/
def Request.texts (r : Request) : List Text := [r.url, r.session, r.codeServer, r.module, r.version]

inductive Answer where
  | yes
  | no
  | failing
  | crashing
  deriving DecidableEq, Repr

/-- What a scripted connector can do beyond the handshake. -/
inductive Reach where
  | handshake
  /-- Also takes dispatched calls. -/
  | dispatch
  /-- Also is told of the table of objects, and wants to be closed. -/
  | full
  deriving DecidableEq, Repr

structure Script where
  name : Text
  reach : Reach := .handshake
  init : Answer := .yes
  connect : Answer := .yes
  disconnect : Answer := .yes
  initSignals : Nat := 0
  connectSignals : Nat := 0
  disconnectSignals : Nat := 0
  deriving DecidableEq, Repr

namespace Script

/-- How a call ends that is answered in the given way. -/
def reply (s : Script) : Answer → Reply Bool
  | .yes => .answer true
  | .no => .answer false
  | .failing => .failure (.plain (s.name ++ " failed"))
  | .crashing => .crash (s.name ++ " panicked")

/-- The result of a dispatched call: a negative id is thrown back, zero gives the receiver, and
any other id gives itself plus the number of arguments. -/
def dispatch (disp : Int) (this : Value) (args : List Value) : Bridge.Result :=
  if disp < 0 then ⟨true, .int disp⟩
  else if disp = 0 then ⟨false, this⟩
  else ⟨false, .int (disp + args.length)⟩

end Script

/-- The way a connector was found. -/
structure Kind where
  number : Nat
  deriving DecidableEq, Repr

namespace Kind

def native : Kind := ⟨0⟩
def object : Kind := ⟨1⟩
def embed : Kind := ⟨2⟩

def name (k : Kind) : Text :=
  match k.number with
  | 0 => "native"
  | 1 => "object"
  | 2 => "embed"
  | n => "kind(" ++ Text.ofNat n ++ ")"

end Kind

/-- Where to look for a connector. -/
inductive Finder where
  | global (name : Text)
  | element (kind : Kind) (id : Text)
  deriving DecidableEq, Repr

namespace Finder

def kind : Finder → Kind
  | .global _ => .native
  | .element k _ => k

def nativeGlobal : Text := "__gwt_HostedModePlugin"
def objectId : Text := "pluginObject"
def embedId : Text := "pluginEmbed"

def standard : List Finder := [.global nativeGlobal, .element .object objectId, .element .embed embedId]

end Finder

/-! ## Probing -/

/-- What comes of one candidate. -/
inductive Attempt (κ : Type) where
  | absent
  | refused
  | connected (c : κ)

/-- What comes of all candidates. -/
inductive Decision (ι κ : Type) where
  | absent
  | refused (finder : ι)
  | connected (finder : ι) (c : κ)

/-- Tries candidates in order up to the first that answers. -/
def probe {ι κ σ : Type} (attempt : ι → σ → Attempt κ × σ) : List ι → σ → Decision ι κ × σ
  | [], s => (.absent, s)
  | f :: fs, s =>
    match attempt f s with
    | (.absent, s) => probe attempt fs s
    | (.refused, s) => (.refused f, s)
    | (.connected c, s) => (.connected f c, s)

/-! ## Plugin elements -/

/-- The type of an element that a connector plugin fills. -/
def pluginType : Text := "application/x-gwt-hosted-mode"

def embedMarkup : Text :=
  "<embed id=\"pluginEmbed\" type=\"" ++ pluginType ++ "\" width=\"10\" height=\"10\">"

def objectMarkup : Text :=
  "<object id=\"pluginObject\" classid=\"CLSID:1D6156B6-002B-49E7-B5CA-C138FB843B4E\" width=\"10\" height=\"10\"></object>"

def protocolVersion : Text := "2.1"

/-- The request with the session's identity and the protocol version where it names none. -/
def Request.filled (r : Request) (identity : Text) : Request := { r with
  version := if r.version.isEmpty then protocolVersion else r.version
  session := if r.session.isEmpty then identity else r.session }

end PageBoot.Connector
