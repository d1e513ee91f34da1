import PageBoot.Failure
import PageBoot.Journal

/-!
Dev-mode sessions. A session moves from idle through probing to connected or failed, and from
connected to disconnected, and nowhere else. What is to be done after a step, such as running the
recovery action or closing the connection, is handed back to the caller, so that the caller may
use the session again while doing it.
-/

namespace PageBoot

inductive Status where
  | idle
  | probing
  | connected
  | failed
  | disconnected
  deriving DecidableEq, Repr

namespace Status

def name : Status → Text
  | .idle => "idle"
  | .probing => "probing"
  | .connected => "connected"
  | .failed => "failed"
  | .disconnected => "disconnected"

def all : List Status := [.idle, .probing, .connected, .failed, .disconnected]

/-- The status with a number. -/
def ofNat? (n : Nat) : Option Status := all[n]?

/-- Name of the status with a number, also of a number without a status. -/
def nameOf (n : Nat) : Text :=
  match ofNat? n with
  | some s => s.name
  | none => "status(" ++ Text.ofNat n ++ ")"

/-- Steps that a session may take. -/
def allows : Status → Status → Bool
  | .idle, .probing => true
  | .probing, .connected => true
  | .probing, .failed => true
  | .connected, .disconnected => true
  | _, _ => false

end Status

/-- A session with a handle of type `η` on its connection and a recovery action of type `ρ`. -/
structure Session (η ρ : Type) where
  id : Text
  module : Text
  status : Status := .idle
  connector : Text := []
  handle : Option η := none
  recovery : Option ρ := none
  /-- A lost connection was reported while the session was still probing. -/
  pending : Bool := false

namespace Session

variable {η ρ : Type}

private def entry (level : Level) (message : Text) (details : List (Text × Journal.Detail)) :
    Journal.Entry :=
  { logger := "session", level, message, details }

def transitionEntry (s : Session η ρ) (target : Status) : Journal.Entry :=
  entry .debug "session transition"
    [("session", .text s.id), ("module", .text s.module), ("from", .text s.status.name),
      ("to", .text target.name)]

def disconnectedEntry (s : Session η ρ) : Journal.Entry :=
  entry .info "code server disconnected"
    [("session", .text s.id), ("module", .text s.module),
      ("error", .text (Failure.unexpectedDisconnect s.id).message)]

def disconnectFailedEntry (s : Session η ρ) (f : Failure) : Journal.Entry :=
  entry .warn "plugin disconnect failed" [("session", .text s.id), ("error", .text f.message)]

def disconnectCrashedEntry (s : Session η ρ) (crash : Text) : Journal.Entry :=
  entry .warn "plugin disconnect panicked" [("session", .text s.id), ("panic", .text crash)]

/-- Takes a step if it is allowed. -/
def transition (s : Session η ρ) (target : Status) : Except Failure (Session η ρ) :=
  if s.status.allows target then .ok { s with status := target }
  else .error (.invalidState .session s.status.name target.name)

/-- Takes the step to the status with a number; no step leads to a number without a status. -/
def transitionTo (s : Session η ρ) (n : Nat) : Except Failure (Session η ρ) :=
  match Status.ofNat? n with
  | some target => s.transition target
  | none => .error (.invalidState .session s.status.name (Status.nameOf n))

/-- Connects a probing session. The flag says whether the connection was already reported lost. -/
def attach (s : Session η ρ) (connector : Text) (handle : Option η) :
    Except Failure (Bool × Session η ρ) :=
  (s.transition .connected).map fun t =>
    (s.pending, { t with handle, connector, pending := false })

def onDisconnected (s : Session η ρ) (action : Option ρ) : Session η ρ := { s with recovery := action }

/-- What a report of a lost connection leads to. -/
inductive Loss (ρ : Type) where
  /-- The session was not connected. -/
  | ignored
  /-- The session is now disconnected, and the action is to be run if there is one. -/
  | lost (action : Option ρ)

/-- Reports a lost connection. -/
def disconnected (s : Session η ρ) : Loss ρ × Session η ρ :=
  match s.status with
  | .connected => (.lost s.recovery, { s with recovery := none, status := .disconnected, handle := none })
  | .probing => (.ignored, { s with pending := true })
  | _ => (.ignored, { s with recovery := none })

/-- Ends a session and hands back the connection that is to be closed. -/
def close (s : Session η ρ) : Option η × Session η ρ :=
  (s.handle, { s with
    handle := none
    recovery := none
    status := if s.status = .connected then .disconnected else s.status })

end Session

end PageBoot
