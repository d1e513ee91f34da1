import PageBoot.Proofs.Session.Lifecycle
import PageBoot.Proofs.World.Wiring

/-!
Whom a search for a connector calls. An `Encounter` is a finder with the calls that were made to what
it found; `Calls` says that a world came out of another by certain calls to connectors and no others,
and `Probed` that finders were taken in order up to the first whose candidate answers. `discover_probes`
puts them together for a search that starts with an idle session, and says what becomes of the session.
-/

namespace PageBoot

namespace Session

variable {η ρ : Type}

/-- Some calls to a new session have led to this one. -/
def Lived (s : Session η ρ) : Prop :=
  ∃ (id module : Text) (ms : List (Moment η ρ)),
    Follows { id, module } ms ∧ s = endOf { id, module } ms

theorem Reacts.pending_of_idle {s : Session η ρ} {m : Moment η ρ} (h : s.Reacts m)
    (hs : s.status = .idle → s.pending = false) (hidle : m.after.status = .idle) :
    m.after.pending = false := by
  cases h with
  | moved n target h =>
    obtain rfl : target = .idle := hidle
    cases hstatus : s.status <;> simp [hstatus, Status.allows] at h
  | held h => exact absurd (h.symm.trans hidle) (by decide)
  | closed =>
    apply hs
    by_cases hc : s.status = .connected <;> simp_all
  | attached | lost => cases hidle
  | _ => exact hs hidle

/-- A session that was never used has heard nothing. -/
theorem Lived.pending_of_idle {s : Session η ρ} (h : s.Lived) (hidle : s.status = .idle) :
    s.pending = false := by
  obtain ⟨id, module, ms, hms, rfl⟩ := h
  have hrun : ∀ (ms : List (Moment η ρ)) (s : Session η ρ), s.Follows ms →
      (s.status = .idle → s.pending = false) →
      (s.endOf ms).status = .idle → (s.endOf ms).pending = false := by
    intro ms
    induction ms with
    | nil =>
      intro s _ hs
      exact hs
    | cons m ms ih =>
      intro s h hs
      exact ih m.after h.2 (h.reacts.pending_of_idle hs)
  exact hrun ms { id, module } hms (fun _ => rfl) hidle

end Session

namespace World

open Page (ConnectorId)
open Connector

/-! ## Calls -/

/-- A call that connectors get while a search is on. -/
inductive Handshake where
  | init (c : ConnectorId)
  | connect (c : ConnectorId) (r : Request)

def Handshake.connector : Handshake → ConnectorId
  | .init c => c
  | .connect c _ => c

/-- What a device makes of a call. -/
def Handshake.handle : Handshake → Device → Device.Handled
  | .init _ => Device.onInit
  | .connect _ r => Device.onConnect r

/-- A call that was made, with what came back and how often the connector signalled meanwhile. -/
structure Contact where
  call : Handshake
  reply : Reply Bool
  signals : Nat

def Handshake.contact (k : Handshake) (d : Device) : Contact :=
  ⟨k, (k.handle d).reply, (k.handle d).signals⟩

def shake (w : World) (l : Listener) : Handshake → World
  | .init c => (w.callInit c l).2
  | .connect c r => (w.callConnect c r).2

/-- What scripts had to say when they were called. -/
def handshakes (w : World) : List Note :=
  w.notes.filter fun
    | .init .. | .connect .. => true
    | _ => false

/-- From `w` to `u` connectors were called as listed, each call being handled by what the connector
was at that time, and no other was called. -/
inductive Calls (l : Listener) (w : World) : List Contact → World → Prop
  | start : Calls l w [] w
  | quiet {ks : List Contact} {u v : World} (h : Calls l w ks u)
      (hconnectors : v.connectors = u.connectors) (hnotes : v.handshakes = u.handshakes) :
      Calls l w ks v
  | call {ks : List Contact} {u : World} {d : Device} (h : Calls l w ks u) (k : Handshake)
      (hd : u.device? k.connector = some d) : Calls l w (ks ++ [k.contact d]) (u.shake l k)

theorem Calls.trans {l : Listener} {w u v : World} {ks ks' : List Contact} (h : Calls l w ks u)
    (h' : Calls l u ks' v) : Calls l w (ks ++ ks') v := by
  induction h' with
  | start => simpa using h
  | quiet _ hconnectors hnotes ih => exact ih.quiet hconnectors hnotes
  | call _ k hd ih =>
    rw [← List.append_assoc]
    exact ih.call k hd

/-! ## Encounters -/

/-- A finder with the calls to what it found. -/
structure Encounter where
  finder : Finder
  contacts : List Contact

namespace Encounter

/-- Whether the candidate signalled. -/
def signalled (e : Encounter) : Bool := e.contacts.any (0 < ·.signals)

/-- Only an answer to the second call counts. -/
def verdict (e : Encounter) : Attempt ConnectorId :=
  match e.contacts with
  | [_, ⟨.connect c _, .answer true, _⟩] => .connected c
  | [_, ⟨.connect _ _, .answer false, _⟩] => .refused
  | _ => .absent

/-- The calls that a finder leads to: what it finds is asked once whether it can be used, and if it
says so, it is asked once to connect. -/
inductive Proper (w : World) (r : Request) : Encounter → Prop
  | missing {f : Finder} (h : w.candidate? f = none) : Proper w r ⟨f, []⟩
  | unusable {f : Finder} {c : ConnectorId} {k : Contact} (hf : w.find? f = some c)
      (hk : k.call = .init c) (hreply : k.reply ≠ .answer true) : Proper w r ⟨f, [k]⟩
  | asked {f : Finder} {c : ConnectorId} {k k' : Contact} (hf : w.find? f = some c)
      (hk : k.call = .init c) (hreply : k.reply = .answer true) (hk' : k'.call = .connect c r) :
      Proper w r ⟨f, [k, k']⟩

end Encounter

/-- Finders are taken in order, each once, up to the first whose candidate answers; that one decides. -/
inductive Probed : List Finder → List Encounter → Decision Finder ConnectorId → Prop
  | nobody : Probed [] [] .absent
  | absent {e : Encounter} {fs : List Finder} {es : List Encounter}
      {d : Decision Finder ConnectorId} (h : e.verdict = .absent) (hrest : Probed fs es d) :
      Probed (e.finder :: fs) (e :: es) d
  | refused {e : Encounter} {fs : List Finder} (h : e.verdict = .refused) :
      Probed (e.finder :: fs) [e] (.refused e.finder)
  | connected {e : Encounter} {fs : List Finder} {c : ConnectorId} (h : e.verdict = .connected c) :
      Probed (e.finder :: fs) [e] (.connected e.finder c)

/-! ## One candidate -/

/-- A connector that is not there cannot be called. -/
theorem calls_listen_of_missing {w : World} {c : ConnectorId} (l : Listener)
    (hd : w.device? c = none) : Calls l w [] (w.listen c l) := by
  have hnone : w.connectors[c]? = none := by
    cases h : w.connectors[c]? with
    | none => rfl
    | some wired => simp [device?, h] at hd
  have hsame : (w.listen c l).connectors = w.connectors := by
    apply List.ext_getElem?
    intro j
    by_cases hj : c = j
    · subst hj
      simp [listen, updateConnector, hnone]
    · simp [listen, updateConnector, hj]
  exact Calls.start.quiet hsame rfl

theorem callConnect_reply {w : World} {c : ConnectorId} {i : Nat} {d : Device} (hp : w.Probing i)
    (hc : w.ReportsTo c i) (hd : w.device? c = some d) (r : Request) :
    (w.callConnect c r).1 = (d.onConnect r).reply :=
  (callDevice_heard hp hc hd false (.connect · r) (Device.onConnect r)
    (fun name => by simp [recoveries, note])).1

/-- Trying the finder of `e` comes down to `e`. -/
structure Encounter.Explains (w : World) (l : Listener) (r : Request) (e : Encounter) : Prop where
  proper : e.Proper w r
  verdict : e.verdict = (w.attempt e.finder l r).1
  signalled : e.signalled = decide (0 < w.attemptSignals e.finder r)
  calls : Calls l w e.contacts (w.attempt e.finder l r).2

section Candidate

variable {w : World} {f : Finder} {l : Listener} {c : ConnectorId} {d : Device}

theorem explains_missing (r : Request) (hmissing : w.candidate? f = none) :
    Encounter.Explains w l r ⟨f, []⟩ := by
  have hsignalled : (Encounter.mk f []).signalled = decide (0 < w.attemptSignals f r) := by
    simp [attemptSignals, hmissing, Encounter.signalled]
  cases hf : w.find? f with
  | none =>
    have hattempt : w.attempt f l r = (.absent, w) := by simp only [attempt, hf]
    exact ⟨.missing hmissing, by rw [hattempt]; rfl, hsignalled, by rw [hattempt]; exact .start⟩
  | some c =>
    have hd : w.device? c = none := by simpa [candidate?, hf] using hmissing
    have hnone : (w.listen c l).device? c = none := (listen_device? w c l).trans hd
    have hattempt : w.attempt f l r = (.absent, w.listen c l) := by
      simp only [attempt, hf, callInit, callDevice, hnone]
    refine ⟨.missing hmissing, by rw [hattempt]; rfl, hsignalled, ?_⟩
    rw [hattempt]
    exact calls_listen_of_missing l hd

/-- A candidate that cannot be used is not asked to connect, and counts as absent. -/
theorem explains_unusable (r : Request) (hp : w.Probing l.session) (hf : w.find? f = some c)
    (hd : w.device? c = some d) (hno : d.onInit.reply ≠ .answer true) :
    Encounter.Explains w l r ⟨f, [(Handshake.init c).contact d]⟩ := by
  have hsignals : w.attemptSignals f r = d.onInit.signals := by
    simp only [attemptSignals, candidate?, hf, Option.bind_some, hd]
  have hsignalled : (Encounter.mk f [(Handshake.init c).contact d]).signalled =
      decide (0 < w.attemptSignals f r) := by
    simp [hsignals, Encounter.signalled, Handshake.contact, Handshake.handle]
  have hreply := (callInit_heard hp hd).1
  have hcalls : Calls l w [(Handshake.init c).contact d] (w.callInit c l).2 :=
    Calls.start.call (.init c) hd
  suffices hattempt : (w.attempt f l r).1 = .absent ∧
      Calls l w [(Handshake.init c).contact d] (w.attempt f l r).2 from
    ⟨.unusable hf rfl hno, hattempt.1.symm, hsignalled, hattempt.2⟩
  cases hinit : w.callInit c l with
  | mk reply u =>
    rw [hinit] at hreply hcalls
    rw [← hreply] at hno
    simp only [attempt, hf, hinit]
    cases reply with
    | crash t => exact ⟨rfl, hcalls.quiet rfl rfl⟩
    | failure e => exact ⟨rfl, hcalls⟩
    | answer b =>
      cases b with
      | false => exact ⟨rfl, hcalls⟩
      | true => exact (hno rfl).elim

/-- A candidate that can be used is asked to connect, and its answer counts. -/
theorem explains_asked (r : Request) (hp : w.Probing l.session) (hf : w.find? f = some c)
    (hd : w.device? c = some d) (hyes : d.onInit.reply = .answer true) :
    Encounter.Explains w l r
      ⟨f, [(Handshake.init c).contact d, (Handshake.connect c r).contact d.onInit.device]⟩ := by
  have hsignals : w.attemptSignals f r =
      d.onInit.signals + (d.onInit.device.onConnect r).signals := by
    simp only [attemptSignals, candidate?, hf, Option.bind_some, hd, hyes]
  have hsignalled : (Encounter.mk f [(Handshake.init c).contact d,
      (Handshake.connect c r).contact d.onInit.device]).signalled =
        decide (0 < w.attemptSignals f r) := by
    simp only [hsignals, Encounter.signalled, Handshake.contact, Handshake.handle, List.any_cons,
      List.any_nil, Bool.or_false, ← Bool.decide_or, decide_eq_decide]
    omega
  obtain ⟨hreply, hheard, hreports, hdevice⟩ := callInit_heard hp hd
  have hreplied := callConnect_reply (hp.heard hheard) hreports hdevice r
  have hcalls : Calls l w [(Handshake.init c).contact d, (Handshake.connect c r).contact d.onInit.device]
      ((w.callInit c l).2.callConnect c r).2 :=
    (Calls.start.call (.init c) hd).call (.connect c r) hdevice
  suffices hanswer : (Encounter.mk f [(Handshake.init c).contact d,
      (Handshake.connect c r).contact d.onInit.device]).verdict = (w.attempt f l r).1 ∧
        Calls l w [(Handshake.init c).contact d, (Handshake.connect c r).contact d.onInit.device]
          (w.attempt f l r).2 from
    ⟨.asked hf rfl hyes rfl, hanswer.1, hsignalled, hanswer.2⟩
  cases hinit : w.callInit c l with
  | mk usable u =>
    rw [hinit] at hreply hreplied hcalls
    obtain rfl : usable = .answer true := hreply.trans hyes
    cases hconnect : u.callConnect c r with
    | mk reply v =>
      simp only [hconnect] at hreplied hcalls
      simp only [Encounter.verdict, Handshake.contact, Handshake.handle, ← hreplied] at hcalls ⊢
      simp only [attempt, hf, hinit, hconnect]
      cases reply with
      | crash t => exact ⟨rfl, hcalls.quiet rfl rfl⟩
      | failure e => exact ⟨rfl, hcalls⟩
      | answer b => cases b <;> exact ⟨rfl, hcalls⟩

/-- Trying a candidate comes down to an encounter with it. -/
theorem attempt_explained (f : Finder) (r : Request) (hp : w.Probing l.session) :
    ∃ e : Encounter, e.finder = f ∧ e.Explains w l r := by
  cases hcandidate : w.candidate? f with
  | none => exact ⟨_, rfl, explains_missing r hcandidate⟩
  | some d =>
    obtain ⟨c, hf, hd⟩ := Option.bind_eq_some_iff.mp hcandidate
    by_cases hyes : d.onInit.reply = .answer true
    · exact ⟨_, rfl, explains_asked r hp hf hd hyes⟩
    · exact ⟨_, rfl, explains_unusable r hp hf hd hyes⟩

end Candidate

/-! ## The whole search -/

/-- A finder leads to the same connector as before if the page only got tasks meanwhile. -/
theorem find?_of_busier {w u : World} (h : Busier w.page u.page) (f : Finder) :
    u.find? f = w.find? f := by
  have hpage : u.page = { w.page with loop := u.page.loop } := h
  unfold find?
  rw [hpage]
  rfl

theorem candidate?_of_rewired {l : Listener} {cs : List ConnectorId} {w u : World}
    (h : Rewired l cs w u) {f : Finder} (hnone : u.candidate? f = none) : w.candidate? f = none := by
  unfold candidate? at hnone ⊢
  rw [find?_of_busier h.page f] at hnone
  cases hf : w.find? f with
  | none => rfl
  | some c =>
    have hwiring := congrArg Option.isSome (h.wiring c)
    simp only [hf, Option.bind_some, device?, wiring?, Option.map_eq_none_iff, Option.isSome_map]
      at hnone hwiring ⊢
    rw [hnone] at hwiring
    simpa using hwiring.symm

/-- What a candidate is taken for does not depend on who was tried before. -/
theorem Encounter.Proper.of_rewired {l : Listener} {cs : List ConnectorId} {w u : World}
    (h : Rewired l cs w u) {r : Request} {e : Encounter} (he : e.Proper u r) : e.Proper w r := by
  cases he with
  | missing hnone => exact .missing (candidate?_of_rewired h hnone)
  | unusable hf hk hreply => exact .unusable ((find?_of_busier h.page _).symm.trans hf) hk hreply
  | asked hf hk hreply hk' => exact .asked ((find?_of_busier h.page _).symm.trans hf) hk hreply hk'

theorem tryFinder_calls {w : World} {l : Listener} (r : Request) (identity : Text) (f : Finder)
    (hp : w.Probing l.session) :
    ∃ e : Encounter, e.finder = f ∧ e.Proper w r ∧ e.verdict = (tryFinder l r identity f w).1 ∧
      e.signalled = decide (0 < w.attemptSignals f r) ∧
      Calls l w e.contacts (tryFinder l r identity f w).2 := by
  obtain ⟨e, rfl, hproper, hverdict, hsignals, hcalls⟩ := attempt_explained f r hp
  refine ⟨e, rfl, hproper, by rw [tryFinder_fst, hverdict], hsignals, ?_⟩
  unfold tryFinder
  split
  next ha =>
    rw [ha] at hcalls
    exact hcalls.quiet rfl rfl
  next => exact hcalls

/-- Probing is a series of encounters. -/
theorem probe_calls {l : Listener} (r : Request) (identity : Text) (fs : List Finder) {w : World}
    (hp : w.Probing l.session) :
    ∃ es : List Encounter, Probed fs es (probe (tryFinder l r identity) fs w).1 ∧
      (∀ e ∈ es, e.Proper w r) ∧
      Calls l w (es.flatMap (·.contacts)) (probe (tryFinder l r identity) fs w).2 ∧
      Heard l.session (es.any (·.signalled)) w (probe (tryFinder l r identity) fs w).2 := by
  induction fs generalizing w with
  | nil => exact ⟨[], .nobody, by simp, .start, .of_eq rfl rfl rfl⟩
  | cons f fs ih =>
    obtain ⟨e, rfl, hproper, hverdict, hsignals, hcalls⟩ := tryFinder_calls r identity f hp
    have hheard := tryFinder_heard r identity e.finder hp
    have hrewired := tryFinder_rewired w l r identity e.finder
    rw [← hsignals] at hheard
    cases ht : tryFinder l r identity e.finder w with
    | mk outcome u =>
      rw [ht] at hverdict hcalls hheard hrewired
      simp only [probe, ht]
      cases outcome with
      | absent =>
        obtain ⟨es, hprobed, hes, hrest, hheard'⟩ := ih (hp.heard hheard)
        refine ⟨e :: es, .absent hverdict hprobed, ?_, ?_, ?_⟩
        · intro x hx
          rcases List.mem_cons.mp hx with rfl | hx
          · exact hproper
          · exact (hes x hx).of_rewired hrewired
        · exact hcalls.trans hrest
        · exact hheard.trans hheard'
      | refused =>
        exact ⟨[e], .refused hverdict, by simpa using hproper, by simpa using hcalls,
          by simpa using hheard⟩
      | connected c =>
        exact ⟨[e], .connected hverdict, by simpa using hproper, by simpa using hcalls,
          by simpa using hheard⟩

/-! ## How a search ends -/

/-- The result of a search for session `s` in place `i`, and what became of the session; `heard` says
whether a candidate signalled. -/
def Concludes (i : Nat) (s : Session ConnectorId Recovery) (r : Request) (heard : Bool)
    (result : Except Failure ConnectorId) (u : World) : Decision Finder ConnectorId → Prop
  | .absent =>
    result = .error (.pluginAbsent r.module) ∧
      u.sessions[i]? = some { s with status := .failed, pending := heard }
  | .refused f =>
    result = .error (.refused r.codeServer r.module f.kind.name none) ∧
      u.sessions[i]? = some { s with status := .failed, pending := heard }
  | .connected f c =>
    result = .ok c ∧
      u.sessions[i]? = some (if heard then
        { s with status := .disconnected, handle := none, recovery := none, connector := f.kind.name }
      else { s with status := .connected, handle := some c, connector := f.kind.name })

theorem disconnected_quiet (w : World) (i : Nat) :
    (w.disconnected i).2.connectors = w.connectors ∧
      (w.disconnected i).2.handshakes = w.handshakes := by
  unfold disconnected
  split
  · exact ⟨rfl, rfl⟩
  next s _ =>
    split
    · exact ⟨rfl, rfl⟩
    next action t _ =>
      cases action with
      | none => exact ⟨rfl, rfl⟩
      | some a =>
        cases a with
        | overlay => exact ⟨rfl, rfl⟩
        | labelled label =>
          simp only [recover]
          split
          · exact ⟨rfl, rfl⟩
          · exact ⟨rfl, by simp [handshakes, note, log, setSession]⟩

theorem attach_quiet (w : World) (i : Nat) (connector : Text) (handle : Option ConnectorId) :
    (w.attach i connector handle).2.connectors = w.connectors ∧
      (w.attach i connector handle).2.handshakes = w.handshakes := by
  unfold attach
  split
  · exact ⟨rfl, rfl⟩
  · split
    · exact ⟨rfl, rfl⟩
    · simp only
      split
      · exact disconnected_quiet _ i
      · exact ⟨rfl, rfl⟩

/-- The request with what it leaves open filled in. -/
theorem filled_eq (r : Request) (identity : Text) :
    r.filled identity = { r with
      session := if r.session = [] then identity else r.session
      version := if r.version = [] then protocolVersion else r.version } := by
  simp only [Request.filled, List.isEmpty_iff]

/-- What a search makes of the decision that probing came to. -/
theorem concludes_of_probe {w v : World} {i : Nat} {s : Session ConnectorId Recovery}
    {finders : List Finder} {l : Listener} {r : Request} {heard : Bool}
    {d : Decision Finder ConnectorId} (hs : w.sessions[i]? = some s) (hidle : s.status = .idle)
    (hfresh : s.pending = false)
    (hprobe : probe (tryFinder l (r.filled s.id) s.id) finders (w.transition i .probing).2 = (d, v))
    (hv : v.sessions[i]? = some { s with status := .probing, pending := heard }) :
    Calls l v [] (w.discover finders l i r).2 ∧
      Concludes i s r heard (w.discover finders l i r).1 (w.discover finders l i r).2 d := by
  rw [discover_of_idle hs hidle hprobe ⟨_, hv, rfl⟩]
  cases d with
  | absent =>
    simp only [concluded, transition_of_probing hv rfl]
    exact ⟨Calls.start.quiet rfl rfl, rfl, getElem?_setSession hv⟩
  | refused f =>
    have hx : (v.remark (r.filled s.id) s.id f .warn "connector refused connection").sessions[i]? =
        some { s with status := .probing, pending := heard } := hv
    simp only [concluded, transition_of_probing hx rfl]
    exact ⟨Calls.start.quiet rfl rfl, rfl, getElem?_setSession hx⟩
  | connected f c =>
    obtain ⟨-, hattached⟩ := attach_of_probing hv rfl f.kind.name c
    obtain ⟨hconnectors, hnotes⟩ := attach_quiet v i f.kind.name (some c)
    refine ⟨Calls.start.quiet hconnectors hnotes, rfl, ?_⟩
    cases heard with
    | false =>
      simp only [Bool.false_eq_true, if_false] at hattached ⊢
      rw [hfresh]
      exact hattached.1
    | true =>
      simp only [if_true] at hattached ⊢
      rw [hfresh]
      exact hattached.1

/-- **What a search does.** It takes the finders in order, each once, up to the first whose candidate
answers. Every candidate is asked once whether it can be used, and only if so, once to connect with the
request, the session's identity and the protocol version standing in for what that leaves open; nobody
else is called. Without an answer the search ends with an absence, with a refusal in one that names the
code server, the module and the kind of the finder, and the session has failed both times. A candidate that
accepts is the result. The session is then connected through it if no candidate signalled meanwhile,
and disconnected if one did. -/
theorem discover_probes {w : World} {i : Nat} {s : Session ConnectorId Recovery}
    (finders : List Finder) (announces : Bool) (r : Request) (hs : w.sessions[i]? = some s)
    (hlived : s.Lived) (hidle : s.status = .idle) :
    let l : Listener := ⟨i, announces⟩
    let request : Request := { r with
      session := if r.session = [] then s.id else r.session
      version := if r.version = [] then protocolVersion else r.version }
    ∃ (es : List Encounter) (d : Decision Finder ConnectorId), Probed finders es d ∧
      (∀ e ∈ es, e.Proper w request) ∧
      Calls l w (es.flatMap (·.contacts)) (w.discover finders l i r).2 ∧
      Concludes i s r (es.any (·.signalled)) (w.discover finders l i r).1
        (w.discover finders l i r).2 d := by
  intro l request
  have hfresh : s.pending = false := hlived.pending_of_idle hidle
  have hrequest : r.filled s.id = request := filled_eq r s.id
  let u := (w.transition i .probing).2
  have hu : u.sessions[i]? = some { s with status := .probing } := sessions_of_idle hs hidle
  have hstart : Calls l w [] u := by
    simp only [u, transition_of_idle hs hidle]
    exact Calls.start.quiet rfl rfl
  have hkept : Rewired l [] w u := by
    have h : Kept w u := transition_kept w i (by decide)
    exact h.rewired l
  obtain ⟨es, hprobed, hproper, hcalls, hheard⟩ := probe_calls (l := l) request s.id finders ⟨_, hu, rfl⟩
  cases hprobe : probe (tryFinder l request s.id) finders u with
  | mk d v =>
    rw [hprobe] at hprobed hcalls hheard
    -- the session that is settled now: still probing, with what it heard
    have hv : v.sessions[i]? = some
        { s with status := .probing, pending := es.any (·.signalled) } := by
      rw [hheard.session, hu]
      simp [Session.hear, hfresh]
    rw [← hrequest] at hprobe
    obtain ⟨hquiet, hconcludes⟩ := concludes_of_probe hs hidle hfresh hprobe hv
    refine ⟨es, d, hprobed, fun e he => (hproper e he).of_rewired hkept, ?_, hconcludes⟩
    simpa using (hstart.trans hcalls).trans hquiet

/-- Connectors under the globals `a` to `f`: one that cannot be used, one that fails and one that
crashes when asked, one that fails to connect, and two that accept, the first of them with a signal. -/
def crowd : World where
  page := {
    dom := { document := .nil, next := 0 }, head := 0, body := 0, location := {}
    globals := [([97], .connector 0), ([98], .connector 1), ([99], .connector 2),
      ([100], .connector 3), ([101], .connector 4), ([102], .connector 5)] }
  state := { source := Identity.Rounds.source, draws := { values := [] } }
  connectors := [
    { device := .script { name := [97], init := .no } },
    { device := .script { name := [98], init := .failing } },
    { device := .script { name := [99], init := .crashing } },
    { device := .script { name := [100], connect := .failing } },
    { device := .script { name := [101], connectSignals := 1 } },
    { device := .script { name := [102] } }]
  sessions := [{ id := [105], module := [109] }]

def crowdFinders : List Finder :=
  [.global [97], .global [98], .global [99], .global [100], .global [120], .global [101], .global [102]]

/-- In a crowd the first that accepts is taken, and lost by its own signal. -/
theorem discover_probes_crowd :
    ∃ (es : List Encounter) (f : Finder), Probed crowdFinders es (.connected f 4) ∧
      Calls ⟨0, true⟩ crowd (es.flatMap (·.contacts))
        (crowd.discover crowdFinders ⟨0, true⟩ 0 { module := [109] }).2 ∧
      ((crowd.discover crowdFinders ⟨0, true⟩ 0 { module := [109] }).2.sessions[0]?).map (·.status) =
        some .disconnected := by
  have hlived : ({ id := [105], module := [109] } : Session ConnectorId Recovery).Lived :=
    ⟨[105], [109], [], trivial, rfl⟩
  have hok : (crowd.discover crowdFinders ⟨0, true⟩ 0 { module := [109] }).1 = .ok 4 := rfl
  obtain ⟨es, d, hprobed, -, hcalls, hconcludes⟩ :=
    discover_probes (w := crowd) (i := 0) crowdFinders true { module := [109] } rfl hlived rfl
  rw [hok] at hconcludes
  cases d with
  | absent => exact nomatch hconcludes.1
  | refused f => exact nomatch hconcludes.1
  | connected f c =>
    obtain ⟨hc, -⟩ := hconcludes
    cases hc
    exact ⟨es, f, hprobed, hcalls, rfl⟩

end World

end PageBoot
