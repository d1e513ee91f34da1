import PageBoot.Proofs.World.Duties
import PageBoot.Proofs.World.Listeners
import PageBoot.Proofs.World.Overlays

/-!
The later life of a session whose search is over. While it is connected, the first signal has one
overlay queued for it (`Fate.signal`); once the connection is lost or closed, and if there never was
one, nothing is queued any more (`Fate.over`). `Fate.sequels` puts this together: whatever happens
after a load, its session has one overlay more or none.
-/

namespace PageBoot.World

open Page

/-! ## What happens after a load -/

/-- What may happen once a load is over, as far as its session is concerned. -/
inductive Sequel where
  /-- A connector signals through the host that the load gave it. -/
  | signal
  | queue (ts : Tasks)
  | turn
  | drain
  | close

def sequel (i : Nat) (w : World) : Sequel → World
  | .signal => (w.disconnected i).2
  | .queue ts => w.setTimeouts ts
  | .turn => w.runOnce.2
  | .drain => w.drain.2
  | .close => w.closeSession i

def sequels (i : Nat) (w : World) (xs : List Sequel) : World := xs.foldl (sequel i) w

@[simp] theorem sequels_nil (i : Nat) (w : World) : w.sequels i [] = w := rfl

@[simp] theorem sequels_cons (i : Nat) (w : World) (x : Sequel) (xs : List Sequel) :
    w.sequels i (x :: xs) = (w.sequel i x).sequels i xs := rfl

/-- Whether a signal comes before the session is closed. -/
def Sequel.heard : List Sequel → Bool
  | [] => false
  | .signal :: _ => true
  | .close :: _ => false
  | _ :: xs => heard xs

/-! ## States of a session -/

/-- Whatever the connector `c` signals, session `i` hears. -/
def HeardBy (w : World) (c : ConnectorId) (i : Nat) : Prop :=
  ∀ x, w.wiring? c = some x → ∃ l, x.listener = some l ∧ l.session = i

/-- Session `i` is connected through `c`, and is to have an overlay shown. -/
def Linked (w : World) (i : Nat) (c : ConnectorId) : Prop :=
  ∃ s, w.sessions[i]? = some s ∧ s.status = .connected ∧ s.recovery = some .overlay ∧
    s.handle = some c

/-- Session `i` is connected, and hears what its connector signals. -/
def Live (w : World) (i : Nat) : Prop := ∃ c, w.Linked i c ∧ w.HeardBy c i

/-- The connection of session `i` is over, or never came about. -/
def Over (w : World) (i : Nat) : Prop :=
  ∃ s, w.sessions[i]? = some s ∧ (s.status = .failed ∨ s.status = .disconnected) ∧ s.handle = none

variable {w u : World} {i n : Nat} {shown : List Overlay}

theorem HeardBy.of_wiring {c : ConnectorId} (h : w.HeardBy c i) (hwiring : u.wiring? c = w.wiring? c) :
    u.HeardBy c i := fun x hx => h x (hwiring.symm.trans hx)

theorem Linked.of_eq {c : ConnectorId} (h : w.Linked i c) (hsessions : u.sessions = w.sessions) :
    u.Linked i c := by
  obtain ⟨s, hs, hrest⟩ := h
  exact ⟨s, hsessions ▸ hs, hrest⟩

theorem Live.of_eq (h : w.Live i) (hsessions : u.sessions = w.sessions)
    (hconnectors : u.connectors = w.connectors) : u.Live i := by
  obtain ⟨c, hlinked, hheard⟩ := h
  exact ⟨c, hlinked.of_eq hsessions, hheard.of_wiring (by rw [wiring?, hconnectors, wiring?])⟩

theorem Over.of_eq (h : w.Over i) (hsessions : u.sessions = w.sessions) : u.Over i := by
  obtain ⟨s, hs, hrest⟩ := h
  exact ⟨s, hsessions ▸ hs, hrest⟩

theorem Overlaid.of_page (h : w.Overlaid shown n) (hpage : u.page = w.page) : u.Overlaid shown n := by
  unfold Overlaid
  rw [hpage]
  exact h

/-! ## Signals -/

/-- Signals mean nothing when the connection is over. -/
theorem Over.disconnected (h : w.Over i) :
    (w.disconnected i).2.Over i ∧ (w.disconnected i).2.page = w.page := by
  obtain ⟨s, hs, hstatus, hhandle⟩ := h
  have hignored : w.disconnected i = (false, w.setSession i { s with recovery := none }) := by
    rcases hstatus with hstatus | hstatus <;> simp [World.disconnected, hs, Session.disconnected, hstatus]
  rw [hignored]
  exact ⟨⟨_, getElem?_setSession hs, hstatus, hhandle⟩, rfl⟩

/-- The first signal ends the connection and queues the overlay. -/
theorem Live.disconnected (h : w.Live i) : (w.disconnected i).2.Over i ∧
    (w.disconnected i).2.page = { w.page with loop := w.page.loop.setTimeout .overlay overlayDelay } := by
  obtain ⟨c, ⟨s, hs, hstatus, hrecovery, -⟩, -⟩ := h
  obtain ⟨hsession, hrecovered⟩ := disconnected_of_connected hs hstatus
  rw [hrecovery] at hrecovered
  exact ⟨⟨_, hsession, .inr rfl, rfl⟩, hrecovered.1⟩

/-- A connector that reports to the session signals to it, or there is no such connector. -/
theorem HeardBy.signal {c : ConnectorId} (h : w.HeardBy c i) :
    (w.signal c).sessions = (w.disconnected i).2.sessions ∧
        (w.signal c).page = (w.disconnected i).2.page ∨ w.signal c = w := by
  cases hx : w.wiring? c with
  | none =>
    have hnone : w.connectors[c]? = none := Option.map_eq_none_iff.mp hx
    exact .inr (by simp only [World.signal, hnone])
  | some x =>
    obtain ⟨l, hl, rfl⟩ := h x hx
    exact .inl (signal_of_listener hx hl)

theorem Over.signals {c : ConnectorId} (h : w.Over i) (hc : w.HeardBy c i) (n : Nat) :
    (w.signals c n).Over i ∧ (w.signals c n).page = w.page := by
  induction n generalizing w with
  | zero => exact ⟨h, rfl⟩
  | succ n ih =>
    have hone : (w.signal c).Over i ∧ (w.signal c).page = w.page := by
      obtain ⟨hsessions, hpage⟩ | hsame := hc.signal
      · obtain ⟨hover, hstill⟩ := h.disconnected
        exact ⟨hover.of_eq hsessions, hpage.trans hstill⟩
      · rw [hsame]
        exact ⟨h, rfl⟩
    obtain ⟨hrest, hstill⟩ := ih hone.1 (hc.of_wiring (signal_wiring? w c))
    exact ⟨hrest, hstill.trans hone.2⟩

/-! ## Closing -/

/-- A call to a connector comes down to its signals. -/
theorem callDisconnect_signals (w : World) (c : ConnectorId) :
    ∃ (u : World) (n : Nat), (w.callDisconnect c).2 = u.signals c n ∧ u.sessions = w.sessions ∧
      u.page = w.page ∧ u.wiring? c = w.wiring? c := by
  unfold callDisconnect callDevice
  cases hd : w.device? c with
  | none => exact ⟨w, 0, rfl, rfl, rfl, rfl⟩
  | some d =>
    obtain ⟨x, hx, rfl⟩ := device?_eq hd
    have hannounced : (w.announced x.device .disconnect).connectors = w.connectors ∧
        (w.announced x.device .disconnect).sessions = w.sessions ∧
        (w.announced x.device .disconnect).page = w.page := by
      cases x.device <;> exact ⟨rfl, rfl, rfl⟩
    have hdevice : x.device.onDisconnect.device.isGuest = x.device.isGuest ∧
        x.device.onDisconnect.device.reach = x.device.reach := by
      cases x.device <;> exact ⟨rfl, rfl⟩
    refine ⟨_, _, rfl, hannounced.2.1, hannounced.2.2, ?_⟩
    simp [wiring?, updateConnector, hannounced.1, hx, Wired.wiring, hdevice]

/-- Hanging up after the end of a session, the connector may signal as it likes. -/
theorem Over.hangUp {c : ConnectorId} (h : w.Over i) (hc : w.HeardBy c i)
    (s : Session ConnectorId Recovery) :
    (w.hangUp s c).Over i ∧ (w.hangUp s c).page = w.page := by
  have hcall : (w.callDisconnect c).2.Over i ∧ (w.callDisconnect c).2.page = w.page := by
    obtain ⟨u, n, heq, hsessions, hpage, hwiring⟩ := w.callDisconnect_signals c
    rw [heq, ← hpage]
    exact (h.of_eq hsessions).signals (hc.of_wiring hwiring) n
  unfold World.hangUp
  split <;> next heq => rw [heq] at hcall; exact hcall

theorem Over.closeSession (h : w.Over i) :
    (w.closeSession i).Over i ∧ (w.closeSession i).page = w.page := by
  obtain ⟨s, hs, hstatus, hhandle⟩ := h
  have hclose : w.closeSession i = w.setSession i s.close.2 := by
    simp [World.closeSession, endSession, hs, Session.close, hhandle]
  have hstill : s.status ≠ .connected := by
    rcases hstatus with hstatus | hstatus <;> rw [hstatus] <;> decide
  rw [hclose]
  exact ⟨⟨_, getElem?_setSession hs, by simpa [Session.close, hstill] using hstatus, rfl⟩, rfl⟩

/-- Closing ends a connection without an overlay, whatever the connector signals then. -/
theorem Live.closeSession (h : w.Live i) :
    (w.closeSession i).Over i ∧ (w.closeSession i).page = w.page := by
  obtain ⟨c, ⟨s, hs, hstatus, -, hhandle⟩, hheard⟩ := h
  have hclose : w.closeSession i = (w.setSession i s.close.2).hangUp s c := by
    simp [World.closeSession, endSession, hs, Session.close, hhandle]
  have hover : (w.setSession i s.close.2).Over i :=
    ⟨_, getElem?_setSession hs, .inr (by simp [Session.close, hstatus]), rfl⟩
  rw [hclose]
  exact hover.hangUp (hheard.of_wiring rfl) s

/-! ## Turns -/

/-- A turn of the loop covers the page for an overlay that waited, if it was its turn. -/
theorem runOnce_eq (w : World) :
    ∃ l k notes, w.runOnce.2 = ({ w with page := cover^[k] w.page, notes } : World).withLoop l ∧
      k + l.overlays = w.page.loop.overlays := by
  obtain ⟨k, notes, hworld, hcount⟩ := runOnce_covers w.page.loop w
  refine ⟨_, k, notes, ?_, hcount⟩
  rw [← hworld]
  rfl

/-- An event that is neither a signal nor the end of the session. -/
theorem sequel_still {x : Sequel} (hsignal : x ≠ .signal) (hclose : x ≠ .close) (i : Nat) (w : World) :
    (w.sequel i x).sessions = w.sessions ∧ (w.sequel i x).connectors = w.connectors ∧
      ∀ shown n, w.Overlaid shown n → (w.sequel i x).Overlaid shown n := by
  cases x with
  | signal => exact absurd rfl hsignal
  | close => exact absurd rfl hclose
  | queue ts =>
    refine ⟨rfl, rfl, fun shown n h => ?_⟩
    exact h.covers (k := 0) (l := w.page.loop.requestAll ts.requests) w.notes
      (by rw [EventLoop.overlays_requestAll, Nat.zero_add])
  | turn =>
    obtain ⟨l, k, notes, hrun, hcount⟩ := w.runOnce_eq
    simp only [sequel, hrun]
    exact ⟨rfl, rfl, fun shown n h => h.covers notes hcount⟩
  | drain =>
    obtain ⟨loop, notes, hdrain, hnone⟩ := drain_covers w
    simp only [sequel, hdrain]
    exact ⟨rfl, rfl, fun shown n h => h.covers notes (by omega)⟩

/-! ## Histories -/

/-- Overlays were shown after `shown`, and others wait, `n` in all; session `i` is live or over. -/
structure Fate (shown : List Overlay) (i n : Nat) (live : Bool) (w : World) : Prop where
  overlaid : w.Overlaid shown n
  session : if live then w.Live i else w.Over i

/-- When the connection is over, no overlay is added any more. -/
theorem Fate.over (h : Fate shown i n false w) (x : Sequel) : Fate shown i n false (w.sequel i x) := by
  have hover : w.Over i := h.session
  have hsame {u : World} (hu : u.Over i ∧ u.page = w.page) : Fate shown i n false u :=
    ⟨h.overlaid.of_page hu.2, hu.1⟩
  by_cases hsignal : x = .signal
  · subst hsignal
    exact hsame hover.disconnected
  by_cases hclose : x = .close
  · subst hclose
    exact hsame hover.closeSession
  · obtain ⟨hsessions, -, hstill⟩ := sequel_still hsignal hclose i w
    exact ⟨hstill _ _ h.overlaid, hover.of_eq hsessions⟩

theorem Fate.signal (h : Fate shown i n true w) : Fate shown i (n + 1) false (w.sequel i .signal) := by
  have hlive : w.Live i := h.session
  obtain ⟨hover, hpage⟩ := hlive.disconnected
  obtain ⟨k, hoverlays, hcount⟩ := h.overlaid
  refine ⟨⟨k, ?_, ?_⟩, hover⟩
  · simpa only [sequel, hpage] using hoverlays
  · have hwaiting := EventLoop.overlays_setTimeout w.page.loop .overlay overlayDelay
    simp only [sequel, hpage, hwaiting, Job.isOverlay, if_true]
    omega

theorem Fate.close (h : Fate shown i n true w) : Fate shown i n false (w.sequel i .close) := by
  have hlive : w.Live i := h.session
  obtain ⟨hover, hpage⟩ := hlive.closeSession
  exact ⟨h.overlaid.of_page hpage, hover⟩

theorem Fate.still (h : Fate shown i n true w) {x : Sequel} (hsignal : x ≠ .signal)
    (hclose : x ≠ .close) : Fate shown i n true (w.sequel i x) := by
  obtain ⟨hsessions, hconnectors, hstill⟩ := sequel_still hsignal hclose i w
  have hlive : w.Live i := h.session
  exact ⟨hstill _ _ h.overlaid, hlive.of_eq hsessions hconnectors⟩

/-- **Whatever happens after a load, its session has one overlay at most.** It has one exactly if it
was live and a signal came before it was closed. -/
theorem Fate.sequels {live : Bool} (h : Fate shown i n live w) (xs : List Sequel) :
    (w.sequels i xs).Overlaid shown (n + if live && Sequel.heard xs then 1 else 0) := by
  induction xs generalizing w n live with
  | nil => simpa [Sequel.heard] using h.overlaid
  | cons x xs ih =>
    cases live with
    | false => simpa using ih (h.over x)
    | true =>
      cases x with
      | signal => simpa [Sequel.heard] using ih h.signal
      | close => simpa [Sequel.heard] using ih h.close
      | queue ts => simpa [Sequel.heard] using ih (h.still (x := .queue ts) nofun nofun)
      | turn => simpa [Sequel.heard] using ih (h.still (x := .turn) nofun nofun)
      | drain => simpa [Sequel.heard] using ih (h.still (x := .drain) nofun nofun)

/-- Nothing that happens after a load has a connector report to another session. -/
theorem HeardBy.sequels {c : ConnectorId} (h : w.HeardBy c i) (j : Nat) (xs : List Sequel) :
    (w.sequels j xs).HeardBy c i := by
  induction xs generalizing w with
  | nil => exact h
  | cons x xs ih =>
    refine ih ?_
    by_cases hsignal : x = .signal
    · subst hsignal
      exact h.of_wiring ((disconnected_kept w j).wiring c)
    by_cases hclose : x = .close
    · subst hclose
      exact h.of_wiring ((closeSession_kept w j).wiring c)
    · obtain ⟨-, hconnectors, -⟩ := sequel_still hsignal hclose j w
      exact h.of_wiring (by rw [wiring?, hconnectors, wiring?])

/-- A signal itself shows nothing. -/
theorem overlays_disconnected (w : World) (i : Nat) :
    (w.disconnected i).2.page.overlays = w.page.overlays := by
  rw [disconnected_eq]

end PageBoot.World
