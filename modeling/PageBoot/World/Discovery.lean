import PageBoot.World.Events

/-!
Looking for a connector that takes a session to its code server. A candidate that declines,
fails or crashes counts as absent; the first that answers decides.
-/

namespace PageBoot.World

open Page (ConnectorId Thing)
open Connector

/-- The connector that a finder leads to. -/
def find? (w : World) (f : Finder) : Option ConnectorId :=
  let thing := match f with
    | .global name => w.page.global? name
    | .element _ id => w.page.capability? id
  match thing with
  | some (.connector c) => some c
  | _ => none

def crashed (w : World) (f : Finder) (text : Text) : World :=
  w.say "connector" .debug "connector attempt panicked"
    [("connector", .text f.kind.name), ("panic", .text text)]

/-- Tries one candidate. -/
def attempt (w : World) (f : Finder) (l : Listener) (r : Request) : Attempt ConnectorId × World :=
  match w.find? f with
  | none => (.absent, w)
  | some c =>
    match w.callInit c l with
    | (.crash t, w) => (.absent, w.crashed f t)
    | (.failure _, w) | (.answer false, w) => (.absent, w)
    | (.answer true, w) =>
      match w.callConnect c r with
      | (.crash t, w) => (.absent, w.crashed f t)
      | (.failure _, w) => (.absent, w)
      | (.answer false, w) => (.refused, w)
      | (.answer true, w) => (.connected c, w)

/-- Says something about a candidate for the session with the given identity. -/
def remark (w : World) (r : Request) (identity : Text) (f : Finder) (level : Level)
    (message : Text) : World :=
  w.say "connector" level message
    [("module", .text r.module), ("session", .text identity),
      ("code_server", .text r.codeServer), ("connector", .text f.kind.name)]

/-- Tries the candidate of a finder, and says so if there is none. -/
def tryFinder (l : Listener) (r : Request) (identity : Text) (f : Finder) (w : World) :
    Attempt ConnectorId × World :=
  match w.attempt f l r with
  | (.absent, w) => (.absent, w.remark r identity f .debug "connector absent")
  | other => other

/-- Looks for a connector and connects the session through it. -/
def discover (w : World) (finders : List Finder) (l : Listener) (i : Nat) (r : Request) :
    Except Failure ConnectorId × World :=
  match w.transition i .probing with
  | (some f, w) => (.error f, w)
  | (none, w) =>
    let identity := ((w.sessions[i]?).map (·.id)).getD []
    let r := r.filled identity
    match probe (tryFinder l r identity) finders w with
    | (.absent, w) => (.error (.pluginAbsent r.module), (w.transition i .failed).2)
    | (.refused f, w) =>
      let w := w.remark r identity f .warn "connector refused connection"
      (.error (.refused r.codeServer r.module f.kind.name none), (w.transition i .failed).2)
    | (.connected f c, w) =>
      match w.attach i f.kind.name (some c) with
      | (some e, w) => (.error e, w)
      | (none, w) => (.ok c, w.remark r identity f .info "connected to code server")

end PageBoot.World
