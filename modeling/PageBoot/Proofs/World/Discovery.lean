import PageBoot.World.Discovery

/-!
What signals do to a session that is looking for a connector. While it probes, a session only
remembers that it heard one, whoever sent it; `Heard` follows that memory through a call, a
candidate and the whole search. `discover_accepted` says how a search ends in which a candidate
accepts: connected if nobody signalled, and otherwise disconnected again, with the recovery action
run, also if the signal came from a candidate that was turned down before. `overheard` is a page on
which this happens.
-/

namespace PageBoot

/-- The session has heard a signal if `b` holds. -/
def Session.hear {η ρ : Type} (b : Bool) (s : Session η ρ) : Session η ρ :=
  { s with pending := s.pending || b }

namespace World

open Page (ConnectorId)
open Connector

/-- What recovery actions had to say. -/
def recoveries (w : World) : List Note :=
  w.notes.filter fun
    | .recovery .. => true
    | _ => false

/-! ## Hearing -/

/-- From `w` to `u` session `i` may have heard a signal, namely if `b` holds. No other session
changed, nor did the page, and no recovery action was run. -/
structure Heard (i : Nat) (b : Bool) (w u : World) : Prop where
  page : u.page = w.page
  session : u.sessions[i]? = (w.sessions[i]?).map (Session.hear b)
  others : ∀ j, j ≠ i → u.sessions[j]? = w.sessions[j]?
  recoveries : u.recoveries = w.recoveries

theorem Heard.of_eq {i : Nat} {w u : World} (hpage : u.page = w.page)
    (hsessions : u.sessions = w.sessions) (hrecoveries : u.recoveries = w.recoveries) :
    Heard i false w u where
  page := hpage
  session := by
    rw [hsessions]
    cases w.sessions[i]? <;> simp [Session.hear]
  others j _ := by rw [hsessions]
  recoveries := hrecoveries

theorem Heard.trans {i : Nat} {a b : Bool} {w u v : World} (h : Heard i a w u)
    (h' : Heard i b u v) : Heard i (a || b) w v where
  page := h'.page.trans h.page
  session := by
    rw [h'.session, h.session]
    cases w.sessions[i]? <;> simp [Session.hear, Bool.or_assoc]
  others j hj := (h'.others j hj).trans (h.others j hj)
  recoveries := h'.recoveries.trans h.recoveries

theorem Heard.of_right {i : Nat} {b : Bool} {w u v : World} (h : Heard i false w u)
    (h' : Heard i b u v) : Heard i b w v := by
  simpa using h.trans h'

theorem Heard.of_left {i : Nat} {b : Bool} {w u v : World} (h : Heard i b w u)
    (h' : Heard i false u v) : Heard i b w v := by
  simpa using h.trans h'

/-- Session `i` is looking for a connector. -/
def Probing (w : World) (i : Nat) : Prop := ∃ s, w.sessions[i]? = some s ∧ s.status = .probing

theorem Probing.heard {i : Nat} {b : Bool} {w u : World} (hp : w.Probing i) (h : Heard i b w u) :
    u.Probing i := by
  obtain ⟨s, hs, hstatus⟩ := hp
  exact ⟨s.hear b, by rw [h.session, hs]; rfl, hstatus⟩

/-! ## Signals -/

/-- Connector `c` reports to session `i`. -/
def ReportsTo (w : World) (c : ConnectorId) (i : Nat) : Prop :=
  ∃ wired l, w.connectors[c]? = some wired ∧ wired.listener = some l ∧ l.session = i

theorem disconnected_of_probing {w : World} {i : Nat} {s : Session ConnectorId Recovery}
    (hs : w.sessions[i]? = some s) (hp : s.status = .probing) :
    w.disconnected i = (false, w.setSession i (s.hear true)) := by
  have hd : s.disconnected = (.ignored, s.hear true) := by
    simp [Session.disconnected, Session.hear, hp]
  simp [disconnected, hs, hd]

theorem heard_setSession {w : World} {i : Nat} {s : Session ConnectorId Recovery} {b : Bool}
    (hs : w.sessions[i]? = some s) : Heard i b w (w.setSession i (s.hear b)) where
  page := rfl
  session := by
    obtain ⟨hlt, -⟩ := List.getElem?_eq_some_iff.mp hs
    rw [hs]
    simp [setSession, hlt]
  others j hj := by
    have hne : ¬ i = j := fun h => hj h.symm
    simp [setSession, hne]
  recoveries := rfl

theorem heard_signal {w : World} {c : ConnectorId} {i : Nat} (hp : w.Probing i)
    (hc : w.ReportsTo c i) :
    Heard i true w (w.signal c) ∧ (w.signal c).connectors = w.connectors := by
  obtain ⟨s, hs, hstatus⟩ := hp
  obtain ⟨wired, l, hwired, hl, rfl⟩ := hc
  have hset : Heard l.session true w (w.setSession l.session (s.hear true)) := heard_setSession hs
  simp only [signal, hwired, hl, disconnected_of_probing hs hstatus]
  split
  · refine ⟨hset.of_left (.of_eq rfl rfl ?_), rfl⟩
    simp [recoveries, note]
  · exact ⟨hset, rfl⟩

theorem heard_signals {w : World} {c : ConnectorId} {i : Nat} (hp : w.Probing i)
    (hc : w.ReportsTo c i) (n : Nat) :
    Heard i (decide (0 < n)) w (w.signals c n) ∧ (w.signals c n).connectors = w.connectors := by
  induction n generalizing w with
  | zero => exact ⟨.of_eq rfl rfl rfl, rfl⟩
  | succ n ih =>
    obtain ⟨hone, hsame⟩ := heard_signal hp hc
    have hc' : (w.signal c).ReportsTo c i := by
      unfold ReportsTo
      rw [hsame]
      exact hc
    obtain ⟨hrest, hsame'⟩ := ih (hp.heard hone) hc'
    refine ⟨?_, hsame'.trans hsame⟩
    simpa [signals] using hone.trans hrest

/-! ## Calls to a candidate -/

theorem device?_eq {w : World} {c : ConnectorId} {d : Device} (h : w.device? c = some d) :
    ∃ wired, w.connectors[c]? = some wired ∧ wired.device = d :=
  Option.map_eq_some_iff.mp h

/-- A call to a connector that reports to a probing session: the session hears the signals that the
device sends, the reply is the device's, and the device is what it made of itself. -/
theorem callDevice_heard {w : World} {c : ConnectorId} {i : Nat} {d : Device} (hp : w.Probing i)
    (hc : w.ReportsTo c i) (hd : w.device? c = some d) (missing : Bool) (saying : Text → Note)
    (handle : Device → Device.Handled)
    (hsaying : ∀ name, (w.note (saying name)).recoveries = w.recoveries) :
    (w.callDevice c missing saying handle).1 = (handle d).reply ∧
      Heard i (decide (0 < (handle d).signals)) w (w.callDevice c missing saying handle).2 ∧
      (w.callDevice c missing saying handle).2.ReportsTo c i ∧
      (w.callDevice c missing saying handle).2.device? c = some (handle d).device := by
  obtain ⟨wired, l, hwired, hl, rfl⟩ := hc
  have hsame : Heard l.session false w (w.announced d saying) := by
    cases d with
    | script s => exact .of_eq rfl rfl (hsaying s.name)
    | guest p => exact .of_eq rfl rfl rfl
  have hcon : (w.announced d saying).connectors = w.connectors := by
    cases d <;> rfl
  -- the world before the signals are passed on
  let u := (w.announced d saying).updateConnector c
    fun wired => { wired with device := (handle d).device }
  let wired' : Wired := { wired with device := (handle d).device }
  have hu : Heard l.session false w u := hsame.of_left (.of_eq rfl rfl rfl)
  have hwired' : u.connectors[c]? = some wired' := by
    simp [u, wired', updateConnector, hcon, hwired]
  obtain ⟨hheard, hkept⟩ :=
    heard_signals (hp.heard hu) ⟨wired', l, hwired', hl, rfl⟩ (handle d).signals
  have hcall : w.callDevice c missing saying handle =
      ((handle d).reply, u.signals c (handle d).signals) := by
    simp [callDevice, hd, u]
  rw [hcall]
  refine ⟨rfl, hu.of_right hheard, ⟨wired', l, ?_, hl, rfl⟩, ?_⟩
  · rw [hkept]
    exact hwired'
  · simp [device?, hkept, hwired', wired']

theorem listen_heard (w : World) (c : ConnectorId) (l : Listener) (i : Nat) :
    Heard i false w (w.listen c l) := .of_eq rfl rfl rfl

theorem listen_device? (w : World) (c : ConnectorId) (l : Listener) :
    (w.listen c l).device? c = w.device? c := by
  cases h : w.connectors[c]? <;> simp [listen, updateConnector, device?, h]

theorem listen_reportsTo {w : World} {c : ConnectorId} {d : Device} (hd : w.device? c = some d)
    (l : Listener) : (w.listen c l).ReportsTo c l.session := by
  obtain ⟨wired, hwired, -⟩ := device?_eq hd
  exact ⟨{ wired with listener := some l }, l, by simp [listen, updateConnector, hwired], rfl, rfl⟩

theorem callInit_heard {w : World} {c : ConnectorId} {d : Device} {l : Listener}
    (hp : w.Probing l.session) (hd : w.device? c = some d) :
    (w.callInit c l).1 = d.onInit.reply ∧
      Heard l.session (decide (0 < d.onInit.signals)) w (w.callInit c l).2 ∧
      (w.callInit c l).2.ReportsTo c l.session ∧
      (w.callInit c l).2.device? c = some d.onInit.device := by
  have hlisten := listen_heard w c l l.session
  have hd' : (w.listen c l).device? c = some d := (listen_device? w c l).trans hd
  obtain ⟨hreply, hheard, hrest⟩ :=
    callDevice_heard (hp.heard hlisten) (listen_reportsTo hd l) hd' false (.init · w.page.href)
      Device.onInit (fun name => by simp [recoveries, note])
  exact ⟨hreply, hlisten.of_right hheard, hrest⟩

theorem callConnect_heard {w : World} {c : ConnectorId} {i : Nat} {d : Device} (hp : w.Probing i)
    (hc : w.ReportsTo c i) (hd : w.device? c = some d) (r : Request) :
    Heard i (decide (0 < (d.onConnect r).signals)) w (w.callConnect c r).2 :=
  (callDevice_heard hp hc hd false (.connect · r) (Device.onConnect r)
    (fun name => by simp [recoveries, note])).2.1

/-! ## Candidates -/

/-- The device that a finder leads to. -/
def candidate? (w : World) (f : Finder) : Option Device := (w.find? f).bind w.device?

/-- How often a candidate signals while it is tried. -/
def attemptSignals (w : World) (f : Finder) (r : Request) : Nat :=
  match w.candidate? f with
  | none => 0
  | some d =>
    match d.onInit.reply with
    | .answer true => d.onInit.signals + (d.onInit.device.onConnect r).signals
    | _ => d.onInit.signals

theorem crashed_heard (w : World) (f : Finder) (t : Text) (i : Nat) :
    Heard i false w (w.crashed f t) := .of_eq rfl rfl rfl

/-- One candidate: whatever comes of it, the session has heard its signals. -/
theorem attempt_heard {w : World} (f : Finder) {l : Listener} (r : Request)
    (hp : w.Probing l.session) :
    Heard l.session (decide (0 < w.attemptSignals f r)) w (w.attempt f l r).2 := by
  cases hf : w.find? f with
  | none =>
    simp only [attempt, attemptSignals, candidate?, hf]
    exact .of_eq rfl rfl rfl
  | some c =>
    cases hd : w.device? c with
    | none =>
      have hnone : (w.listen c l).device? c = none := (listen_device? w c l).trans hd
      simp only [attempt, attemptSignals, candidate?, hf, callInit, callDevice, hnone,
        Option.bind_some, hd]
      exact listen_heard w c l l.session
    | some d =>
      obtain ⟨hreply, hheard, hreports, hdevice⟩ := callInit_heard hp hd
      cases hinit : w.callInit c l with
      | mk reply u =>
        rw [hinit] at hreply hheard hreports hdevice
        simp only [attempt, attemptSignals, candidate?, hf, hinit, Option.bind_some, hd, ← hreply]
        cases reply with
        | crash t => exact hheard.of_left (crashed_heard u f t _)
        | failure e => exact hheard
        | answer b =>
          cases b with
          | false => exact hheard
          | true =>
            have hconnect := callConnect_heard (hp.heard hheard) hreports hdevice r
            have hboth := hheard.trans hconnect
            have hsum : (decide (0 < d.onInit.signals) ||
                decide (0 < (d.onInit.device.onConnect r).signals)) =
                decide (0 < d.onInit.signals + (d.onInit.device.onConnect r).signals) := by
              rw [← Bool.decide_or]
              congr 1
              simp only [eq_iff_iff]
              omega
            rw [hsum] at hboth
            cases hcon : u.callConnect c r with
            | mk reply v =>
              rw [hcon] at hboth
              simp only [hcon]
              cases reply with
              | crash t => exact hboth.of_left (crashed_heard v f t _)
              | failure e => exact hboth
              | answer b => cases b <;> exact hboth

/-! ## The search -/

/-- A candidate that was tried: how often it signalled meanwhile, and what came of it. -/
structure Trial where
  finder : Finder
  signals : Nat
  outcome : Attempt ConnectorId

/-- The candidates that are tried from `w` on, in order. The first that answers is the last. -/
def trials (l : Listener) (r : Request) (identity : Text) : List Finder → World → List Trial
  | [], _ => []
  | f :: fs, w =>
    let t : Trial := ⟨f, w.attemptSignals f r, (tryFinder l r identity f w).1⟩
    match tryFinder l r identity f w with
    | (.absent, u) => t :: trials l r identity fs u
    | _ => [t]

theorem tryFinder_heard {w : World} {l : Listener} (r : Request) (identity : Text) (f : Finder)
    (hp : w.Probing l.session) :
    Heard l.session (decide (0 < w.attemptSignals f r)) w (tryFinder l r identity f w).2 := by
  have h := attempt_heard f r hp
  cases ha : w.attempt f l r with
  | mk outcome u =>
    rw [ha] at h
    simp only [tryFinder, ha]
    cases outcome with
    | absent => exact h.of_left (.of_eq rfl rfl rfl)
    | refused => exact h
    | connected c => exact h

/-- The whole search: the session has heard a signal exactly if a candidate sent one. -/
theorem probe_heard {l : Listener} (r : Request) (identity : Text) (fs : List Finder) {w : World}
    (hp : w.Probing l.session) :
    Heard l.session ((trials l r identity fs w).any (0 < ·.signals)) w
      (probe (tryFinder l r identity) fs w).2 := by
  induction fs generalizing w with
  | nil => exact .of_eq rfl rfl rfl
  | cons f fs ih =>
    have h := tryFinder_heard r identity f hp
    cases ht : tryFinder l r identity f w with
    | mk outcome u =>
      rw [ht] at h
      simp only [probe, trials, ht]
      cases outcome with
      | absent => exact h.trans (ih (hp.heard h))
      | refused => simpa using h
      | connected c => simpa using h

/-- A candidate that accepts decides the search. -/
theorem probe_of_accepted {l : Listener} {r : Request} {identity : Text} {fs : List Finder}
    {w : World} {t : Trial} {c : ConnectorId} (ht : t ∈ trials l r identity fs w)
    (hc : t.outcome = .connected c) :
    (probe (tryFinder l r identity) fs w).1 = .connected t.finder c := by
  induction fs generalizing w with
  | nil => cases ht
  | cons f fs ih =>
    cases htry : tryFinder l r identity f w with
    | mk outcome u =>
      simp only [trials, htry] at ht
      cases outcome with
      | absent =>
        rcases List.mem_cons.mp ht with rfl | ht
        · cases hc
        · simpa only [probe, htry] using ih ht
      | refused =>
        obtain rfl := List.mem_singleton.mp ht
        cases hc
      | connected c' =>
        obtain rfl := List.mem_singleton.mp ht
        cases hc
        simp only [probe, htry]

/-! ## How a search ends -/

/-- What a recovery action leaves behind that was run between `w` and `u`; nothing if there was
none. -/
def Recovered (w u : World) : Option Recovery → Prop
  | none => u.page = w.page ∧ u.recoveries = w.recoveries
  | some .overlay =>
    u.page = { w.page with loop := w.page.loop.setTimeout .overlay overlayDelay } ∧
      u.recoveries = w.recoveries
  | some (.labelled label) =>
    u.page = w.page ∧ u.recoveries = w.recoveries ++ [.recovery label .disconnected false]

theorem Recovered.of_eq {w w' u u' : World} {a : Option Recovery} (h : Recovered w u a)
    (hpage : w.page = w'.page) (hrecoveries : w.recoveries = w'.recoveries)
    (hpage' : u'.page = u.page) (hrecoveries' : u'.recoveries = u.recoveries) :
    Recovered w' u' a := by
  cases a with
  | none => simpa only [Recovered, hpage, hrecoveries, hpage', hrecoveries'] using h
  | some a =>
    cases a <;> simpa only [Recovered, hpage, hrecoveries, hpage', hrecoveries'] using h

theorem getElem?_setSession {w : World} {i : Nat} {s t : Session ConnectorId Recovery}
    (hs : w.sessions[i]? = some s) : (w.setSession i t).sessions[i]? = some t := by
  obtain ⟨hlt, -⟩ := List.getElem?_eq_some_iff.mp hs
  simp [setSession, hlt]

/-- A signal that reaches a connected session ends the connection and runs the action. -/
theorem disconnected_of_connected {w : World} {i : Nat} {s : Session ConnectorId Recovery}
    (hs : w.sessions[i]? = some s) (hc : s.status = .connected) :
    (w.disconnected i).2.sessions[i]? =
        some { s with recovery := none, status := .disconnected, handle := none } ∧
      Recovered w (w.disconnected i).2 s.recovery := by
  have hset := getElem?_setSession (t :=
    { s with recovery := none, status := .disconnected, handle := none }) hs
  cases hr : s.recovery with
  | none =>
    simp only [disconnected, hs, Session.disconnected, hc, hr]
    exact ⟨hset, rfl, rfl⟩
  | some a =>
    simp only [disconnected, hs, Session.disconnected, hc, hr]
    cases a with
    | overlay => exact ⟨hset, rfl, rfl⟩
    | labelled label =>
      have hlog : ∀ (u : World) (e : Journal.Entry), (u.log e).sessions = u.sessions :=
        fun _ _ => rfl
      simp only [recover, hlog, hset, Session.disconnected]
      refine ⟨getElem?_setSession (by rw [hlog]; exact hset), rfl, ?_⟩
      simp [recoveries, note, log, setSession]

/-- The candidates that are tried for session `i`. -/
def tried (w : World) (finders : List Finder) (l : Listener) (i : Nat) (r : Request) : List Trial :=
  let u := (w.transition i .probing).2
  let identity := ((u.sessions[i]?).map (·.id)).getD []
  trials l (r.filled identity) identity finders u

theorem transition_of_idle {w : World} {i : Nat} {s : Session ConnectorId Recovery}
    (hs : w.sessions[i]? = some s) (hidle : s.status = .idle) :
    w.transition i .probing =
      (none, (w.setSession i { s with status := .probing }).log (s.transitionEntry .probing)) := by
  simp [transition, hs, Session.transition, hidle, Status.allows]

theorem sessions_of_idle {w : World} {i : Nat} {s : Session ConnectorId Recovery}
    (hs : w.sessions[i]? = some s) (hidle : s.status = .idle) :
    (w.transition i .probing).2.sessions[i]? = some { s with status := .probing } := by
  rw [transition_of_idle hs hidle]
  exact getElem?_setSession hs

theorem transition_of_probing {w : World} {i : Nat} {s : Session ConnectorId Recovery}
    (hs : w.sessions[i]? = some s) (hp : s.status = .probing) :
    w.transition i .failed =
      (none, (w.setSession i { s with status := .failed }).log (s.transitionEntry .failed)) := by
  simp [transition, hs, Session.transition, hp, Status.allows]

/-- A probing session takes its connector, and hears at once of a loss it was told of before. -/
theorem attach_of_probing {w : World} {i : Nat} {s : Session ConnectorId Recovery}
    (hs : w.sessions[i]? = some s) (hp : s.status = .probing) (connector : Text)
    (c : ConnectorId) :
    (w.attach i connector (some c)).1 = none ∧
      if s.pending then
        (w.attach i connector (some c)).2.sessions[i]? = some { s with
          status := .disconnected, handle := none, recovery := none, connector, pending := false } ∧
        Recovered w (w.attach i connector (some c)).2 s.recovery
      else
        (w.attach i connector (some c)).2.sessions[i]? = some { s with
          status := .connected, handle := some c, connector, pending := false } ∧
        Recovered w (w.attach i connector (some c)).2 none := by
  let s' : Session ConnectorId Recovery :=
    { s with status := .connected, handle := some c, connector, pending := false }
  let u := (w.setSession i s').log (s.transitionEntry .connected)
  have hu : u.sessions[i]? = some s' := getElem?_setSession hs
  have hattach : w.attach i connector (some c) =
      (none, if s.pending then (u.disconnected i).2 else u) := by
    simp [attach, hs, Session.attach, Session.transition, hp, Status.allows, Except.map, u, s']
  rw [hattach]
  refine ⟨rfl, ?_⟩
  split
  · exact disconnected_of_connected hu rfl
  · exact ⟨hu, rfl, rfl⟩

/-- What a search for session `i` makes of the decision of its candidates, in the world they leave. -/
def concluded (v : World) (i : Nat) (r : Request) (identity : Text) :
    Decision Finder ConnectorId → Except Failure ConnectorId × World
  | .absent => (.error (.pluginAbsent r.module), (v.transition i .failed).2)
  | .refused f =>
    (.error (.refused r.codeServer r.module f.kind.name none),
      ((v.remark (r.filled identity) identity f .warn "connector refused connection").transition
        i .failed).2)
  | .connected f c =>
    (.ok c, (v.attach i f.kind.name (some c)).2.remark (r.filled identity) identity f .info
      "connected to code server")

/-- A search for an idle session ends as its candidates decide, if they leave the session probing. -/
theorem discover_of_idle {w v : World} {i : Nat} {s : Session ConnectorId Recovery}
    {finders : List Finder} {l : Listener} {r : Request} {d : Decision Finder ConnectorId}
    (hs : w.sessions[i]? = some s) (hidle : s.status = .idle)
    (hprobe : probe (tryFinder l (r.filled s.id) s.id) finders (w.transition i .probing).2 = (d, v))
    (hv : v.Probing i) : w.discover finders l i r = v.concluded i r s.id d := by
  have htransition : w.transition i .probing = (none, (w.transition i .probing).2) := by
    simp [transition_of_idle hs hidle]
  have hidentity : (((w.transition i .probing).2.sessions[i]?).map (·.id)).getD [] = s.id := by
    rw [sessions_of_idle hs hidle]
    rfl
  generalize (w.transition i .probing).2 = u at htransition hidentity hprobe
  simp only [discover, htransition, hidentity, hprobe]
  cases d with
  | absent => rfl
  | refused f => rfl
  | connected f c =>
    obtain ⟨t, ht, hprobing⟩ := hv
    obtain ⟨hnone, -⟩ := attach_of_probing ht hprobing f.kind.name c
    cases hattach : v.attach i f.kind.name (some c) with
    | mk failed x =>
      rw [hattach] at hnone
      obtain rfl : failed = none := hnone
      simp only [concluded, hattach]

/-- A search that a candidate accepts comes down to attaching the candidate. The session it is
attached to is probing and has heard the signals of all candidates so far. -/
theorem discover_attaches {w : World} {s : Session ConnectorId Recovery} {finders : List Finder}
    {l : Listener} {r : Request} {t : Trial} {c : ConnectorId}
    (hs : w.sessions[l.session]? = some s) (hidle : s.status = .idle)
    (ht : t ∈ w.tried finders l l.session r) (hc : t.outcome = .connected c) :
    ∃ v, v.sessions[l.session]? = some (Session.hear
        ((w.tried finders l l.session r).any (0 < ·.signals)) { s with status := .probing }) ∧
      Recovered w v none ∧
      ((v.attach l.session t.finder.kind.name (some c)).1 = none →
        w.discover finders l l.session r =
          (.ok c, (v.attach l.session t.finder.kind.name (some c)).2.remark (r.filled s.id) s.id
            t.finder .info "connected to code server")) := by
  let u := (w.transition l.session .probing).2
  have htransition : w.transition l.session .probing = (none, u) := by
    simp [u, transition_of_idle hs hidle]
  have hu : u.sessions[l.session]? = some { s with status := .probing } := sessions_of_idle hs hidle
  have hquiet : Recovered w u none := by
    simp only [u, transition_of_idle hs hidle]
    exact ⟨rfl, rfl⟩
  have hidentity : ((u.sessions[l.session]?).map (·.id)).getD [] = s.id := by simp [hu]
  have htried : w.tried finders l l.session r = trials l (r.filled s.id) s.id finders u := by
    simp only [tried, htransition, hidentity]
  rw [htried] at ht ⊢
  have hheard := probe_heard (r.filled s.id) s.id finders ⟨_, hu, rfl⟩
  have hdecided := probe_of_accepted ht hc
  cases hprobe : probe (tryFinder l (r.filled s.id) s.id) finders u with
  | mk decision v =>
    rw [hprobe] at hheard hdecided
    obtain rfl : decision = .connected t.finder c := hdecided
    have hv : v.sessions[l.session]? = some (Session.hear
        ((trials l (r.filled s.id) s.id finders u).any (0 < ·.signals)) { s with status := .probing }) := by
      rw [hheard.session, hu]
      rfl
    refine ⟨v, hv, hquiet.of_eq rfl rfl hheard.page hheard.recoveries, fun _ => ?_⟩
    exact discover_of_idle hs hidle hprobe ⟨_, hv, rfl⟩

/-- **How a search ends that a candidate accepts.** If no candidate signalled while the session
was probing, the session is connected through the one that accepted. If any did, also one that was
turned down before, the connection is lost at once and the recovery action is run. -/
theorem discover_accepted {w : World} {i : Nat} {s : Session ConnectorId Recovery}
    {finders : List Finder} {l : Listener} {r : Request} {t : Trial} {c : ConnectorId}
    (hs : w.sessions[i]? = some s) (hidle : s.status = .idle) (hl : l.session = i)
    (ht : t ∈ w.tried finders l i r) (hc : t.outcome = .connected c) :
    (w.discover finders l i r).1 = .ok c ∧
      ((s.pending = false ∧ ∀ q ∈ w.tried finders l i r, q.signals = 0) →
        (w.discover finders l i r).2.sessions[i]? = some { s with
          status := .connected, handle := some c, connector := t.finder.kind.name } ∧
        Recovered w (w.discover finders l i r).2 none) ∧
      ((s.pending = true ∨ ∃ q ∈ w.tried finders l i r, 0 < q.signals) →
        (w.discover finders l i r).2.sessions[i]? = some { s with
          status := .disconnected, handle := none, recovery := none,
          connector := t.finder.kind.name, pending := false } ∧
        Recovered w (w.discover finders l i r).2 s.recovery) := by
  subst hl
  obtain ⟨v, hv, hquiet, hdiscover⟩ := discover_attaches hs hidle ht hc
  obtain ⟨hnone, hend⟩ := attach_of_probing hv rfl t.finder.kind.name c
  rw [hdiscover hnone]
  -- what is said about the connection changes neither the page nor what was recovered
  have hrecovered {a : Option Recovery}
      (h : Recovered v (v.attach l.session t.finder.kind.name (some c)).2 a) :
      Recovered w ((v.attach l.session t.finder.kind.name (some c)).2.remark (r.filled s.id) s.id
        t.finder .info "connected to code server") a :=
    h.of_eq hquiet.1 hquiet.2 rfl rfl
  refine ⟨rfl, ?_, ?_⟩
  · rintro ⟨hpending, hnobody⟩
    have hsilent : (w.tried finders l l.session r).any (0 < ·.signals) = false := by
      rw [List.any_eq_false]
      intro q hq
      simp [hnobody q hq]
    simp only [Session.hear, hpending, hsilent] at hend
    refine ⟨?_, hrecovered hend.2⟩
    rw [hpending]
    exact hend.1
  · intro hsomebody
    have hpending : (s.pending || (w.tried finders l l.session r).any (0 < ·.signals)) = true := by
      simpa using hsomebody
    simp only [Session.hear, hpending] at hend
    exact ⟨hend.1, hrecovered hend.2⟩

/-- A page with two connectors under the globals `a` and `b`. The first signals once and declines,
the second accepts. -/
def overheard : World where
  page := {
    dom := { document := .nil, next := 0 }, head := 0, body := 0, location := {}
    globals := [([97], .connector 0), ([98], .connector 1)] }
  state := { source := Identity.Rounds.source, draws := { values := [] } }
  connectors := [
    { device := .script { name := [97], init := .no, initSignals := 1 } },
    { device := .script { name := [98] } }]
  sessions := [{ id := [105], module := [109], recovery := some (.labelled [114]) }]

theorem tried_overheard : overheard.tried [.global [97], .global [98]] ⟨0, false⟩ 0 {} =
    [⟨.global [97], 1, .absent⟩, ⟨.global [98], 0, .connected 1⟩] := rfl

/-- The second connector of `overheard` accepts, and yet the session loses it at once. -/
theorem discover_overheard :
    (overheard.discover [.global [97], .global [98]] ⟨0, false⟩ 0 {}).1 = .ok 1 ∧
      ((overheard.discover [.global [97], .global [98]] ⟨0, false⟩ 0 {}).2.sessions[0]?).map
        (fun s => (s.status, s.handle)) = some (.disconnected, none) ∧
      (overheard.discover [.global [97], .global [98]] ⟨0, false⟩ 0 {}).2.recoveries =
        [.recovery [114] .disconnected false] := by
  have haccepts : (⟨.global [98], 0, .connected 1⟩ : Trial) ∈
      overheard.tried [.global [97], .global [98]] ⟨0, false⟩ 0 {} := by
    simp [tried_overheard]
  obtain ⟨hok, -, hlost⟩ := discover_accepted (w := overheard) rfl rfl rfl haccepts rfl
  obtain ⟨hsession, -, hrecovered⟩ := hlost (.inr ⟨⟨.global [97], 1, .absent⟩, by
    simp [tried_overheard], Nat.one_pos⟩)
  refine ⟨hok, ?_, hrecovered⟩
  rw [hsession]
  rfl

/-- It is not so that only signals of the accepted candidate matter: a candidate that signals and
is turned down costs a later one its connection. -/
theorem signal_of_absent_candidate_matters :
    ¬ ∀ (w : World) (i : Nat) (s : Session ConnectorId Recovery) (finders : List Finder)
      (l : Listener) (r : Request) (t : Trial) (c : ConnectorId),
      w.sessions[i]? = some s → s.status = .idle → s.pending = false → l.session = i →
      t ∈ w.tried finders l i r → t.outcome = .connected c →
      (∀ q ∈ w.tried finders l i r, 0 < q.signals → q.outcome = .absent) →
      ((w.discover finders l i r).2.sessions[i]?).map (fun s => (s.status, s.handle)) =
          some (.connected, some c) ∧
        (w.discover finders l i r).2.recoveries = w.recoveries := by
  intro h
  have habsent : ∀ q ∈ overheard.tried [.global [97], .global [98]] ⟨0, false⟩ 0 {},
      0 < q.signals → q.outcome = .absent := by
    simp [tried_overheard]
  obtain ⟨hconnected, -⟩ := h overheard 0 _ [.global [97], .global [98]] ⟨0, false⟩ {}
    ⟨.global [98], 0, .connected 1⟩ 1 rfl rfl rfl rfl (by simp [tried_overheard]) rfl habsent
  have hlost : ((overheard.discover [.global [97], .global [98]] ⟨0, false⟩ 0 {}).2.sessions[0]?).map
      (fun s => (s.status, s.handle)) = some (.disconnected, none) := rfl
  rw [hlost] at hconnected
  cases hconnected

end World

end PageBoot
