import PageBoot.Proofs.World.Moves

/-!
Which sessions hear that a connector lost its connection. A connector reports to the session of the
last load that asked it, also if that load was turned down; `after_listener` follows the listener
through loads and calls. So of the sessions that share a connector only one can hear a signal:
`signals_after_load` says for each when it does, and `shared` is a page on which one does not.
-/

namespace PageBoot.World

open Page (ConnectorId)
open Connector Loader

/-! ## Who is told to listen -/

/-- The connectors that a move asks. -/
def asks (w : World) : Move → List ConnectorId
  | .load options _ name base => w.askedOnLoad options name base
  | .call .. => []

/-- One of the moves asks connector `c`. -/
def Asks (c : ConnectorId) : World → List Move → Prop
  | _, [] => False
  | w, m :: moves => c ∈ w.asks m ∨ Asks c (w.move m) moves

theorem move_listener {w : World} {m : Move} {c : ConnectorId} {y : Wiring}
    (hy : (w.move m).wiring? c = some y) :
    ∃ x, w.wiring? c = some x ∧
      y.listener = if c ∈ w.asks m then some { session := w.sessions.length } else x.listener := by
  cases m with
  | load options loadError name base =>
    obtain ⟨c', -, h⟩ | ⟨-, h⟩ := onLoad_cases w options loadError name base
    all_goals
      rw [move, h.wiring] at hy
      obtain ⟨x, hx, rfl⟩ := Option.map_eq_some_iff.mp hy
      exact ⟨x, hx, rfl⟩
  | call i disp arity tearOff this args =>
    rw [move, (call_stirs w i disp arity tearOff this args).wiring] at hy
    exact ⟨y, hy, by simp [asks]⟩

/-- A connector reports to whom it did before unless a load asked it, and then to a session that was
opened since. -/
theorem after_listener {w : World} {moves : List Move} {c : ConnectorId} {y : Wiring}
    (hy : (w.after moves).wiring? c = some y) :
    ∃ x, w.wiring? c = some x ∧ (¬ Asks c w moves → y.listener = x.listener) ∧
      (Asks c w moves → ∃ l, y.listener = some l ∧ w.sessions.length ≤ l.session) := by
  induction moves generalizing w with
  | nil => exact ⟨y, hy, fun _ => rfl, fun h => h.elim⟩
  | cons m moves ih =>
    obtain ⟨x, hx, hsame, hnew⟩ := ih hy
    obtain ⟨x', hx', hlistener⟩ := move_listener hx
    refine ⟨x', hx', ?_, ?_⟩
    · intro hnobody
      have hm : c ∉ w.asks m := fun h => hnobody (.inl h)
      rw [hsame fun h => hnobody (.inr h), hlistener, if_neg hm]
    · intro hsomebody
      have hle := (move_aged w m).length_le
      by_cases hlater : Asks c (w.move m) moves
      · obtain ⟨l, hl, hlt⟩ := hnew hlater
        exact ⟨l, hl, by omega⟩
      · have hm : c ∈ w.asks m := hsomebody.resolve_right hlater
        rw [if_pos hm] at hlistener
        exact ⟨_, (hsame hlater).trans hlistener, Nat.le_refl _⟩

/-! ## Signals -/

/-- A signal is a report to the listener's session; whether it is noted changes neither sessions nor
the page. -/
theorem signal_of_listener {w : World} {c : ConnectorId} {x : Wiring} {l : Listener}
    (hx : w.wiring? c = some x) (hl : x.listener = some l) :
    (w.signal c).sessions = (w.disconnected l.session).2.sessions ∧
      (w.signal c).page = (w.disconnected l.session).2.page := by
  obtain ⟨wired, hwired, rfl⟩ := Option.map_eq_some_iff.mp hx
  have hlistener : wired.listener = some l := hl
  simp only [signal, hwired, hlistener]
  split <;> exact ⟨rfl, rfl⟩

theorem setSession_other (w : World) {i j : Nat} (h : i ≠ j) (s : Session ConnectorId Recovery) :
    (w.setSession i s).sessions[j]? = w.sessions[j]? := by
  simp [setSession, h]

theorem recover_other (w : World) {i j : Nat} (h : i ≠ j) (a : Recovery) :
    (w.recover i a).sessions[j]? = w.sessions[j]? := by
  cases a with
  | overlay => rfl
  | labelled label =>
    cases hs : w.sessions[i]? with
    | none => simp only [recover, hs]
    | some s =>
      simp only [recover, hs]
      exact setSession_other w h _

theorem disconnected_other (w : World) {i j : Nat} (h : i ≠ j) :
    (w.disconnected i).2.sessions[j]? = w.sessions[j]? := by
  unfold disconnected
  split
  · rfl
  · split
    · exact setSession_other w h _
    · split
      · exact setSession_other w h _
      · exact (recover_other _ h _).trans (setSession_other w h _)

theorem signal_wiring? (w : World) (c : ConnectorId) : (w.signal c).wiring? c = w.wiring? c :=
  (signal_kept w c).wiring c

/-- Signals reach no session but the listener's. -/
theorem signals_other {w : World} {c : ConnectorId} {x : Wiring} {l : Listener} {j : Nat}
    (hx : w.wiring? c = some x) (hl : x.listener = some l) (h : l.session ≠ j) (n : Nat) :
    (w.signals c n).sessions[j]? = w.sessions[j]? := by
  induction n generalizing w with
  | zero => rfl
  | succ n ih =>
    have hx' : (w.signal c).wiring? c = some x := (signal_wiring? w c).trans hx
    rw [signals, ih hx', (signal_of_listener hx hl).1, disconnected_other w h]

/-- Further signals mean nothing to a session that is disconnected and without an action. -/
theorem signals_of_disconnected {w : World} {c : ConnectorId} {x : Wiring} {l : Listener}
    {s : Session ConnectorId Recovery} (hx : w.wiring? c = some x) (hl : x.listener = some l)
    (hs : w.sessions[l.session]? = some s) (hstatus : s.status = .disconnected)
    (hrecovery : s.recovery = none) (n : Nat) :
    (w.signals c n).sessions = w.sessions ∧ (w.signals c n).page = w.page := by
  induction n generalizing w with
  | zero => exact ⟨rfl, rfl⟩
  | succ n ih =>
    have hignored : s.disconnected = (.ignored, s) := by
      obtain ⟨id, module, status, connector, handle, recovery, pending⟩ := s
      cases hstatus
      cases hrecovery
      rfl
    have hsame : w.sessions.set l.session s = w.sessions := by
      obtain ⟨hlt, heq⟩ := List.getElem?_eq_some_iff.mp hs
      rw [← heq]
      exact List.set_getElem_self hlt
    obtain ⟨hsessions, hpage⟩ := signal_of_listener hx hl
    simp only [disconnected, hs, hignored, setSession, hsame] at hsessions hpage
    have hx' : (w.signal c).wiring? c = some x := (signal_wiring? w c).trans hx
    obtain ⟨hsessions', hpage'⟩ := ih hx' (by rw [hsessions, hs])
    exact ⟨hsessions'.trans hsessions, hpage'.trans hpage⟩

/-- However often it is told, a connected session is disconnected once, and shows the overlay
once. -/
theorem signals_of_connected {w : World} {c : ConnectorId} {x : Wiring} {l : Listener}
    {s : Session ConnectorId Recovery} (hx : w.wiring? c = some x) (hl : x.listener = some l)
    (hs : w.sessions[l.session]? = some s) (hstatus : s.status = .connected)
    (hrecovery : s.recovery = some .overlay) (n : Nat) :
    (w.signals c (n + 1)).sessions = w.sessions.set l.session
        { s with status := .disconnected, handle := none, recovery := none } ∧
      (w.signals c (n + 1)).page =
        { w.page with loop := w.page.loop.setTimeout .overlay overlayDelay } := by
  let s' : Session ConnectorId Recovery :=
    { s with status := .disconnected, handle := none, recovery := none }
  have hlost : s.disconnected = (.lost (some .overlay), s') := by
    simp [Session.disconnected, hstatus, hrecovery, s']
  obtain ⟨hsessions, hpage⟩ := signal_of_listener hx hl
  simp only [disconnected, hs, hlost] at hsessions hpage
  have hx' : (w.signal c).wiring? c = some x := (signal_wiring? w c).trans hx
  have hs' : (w.signal c).sessions[l.session]? = some s' := by
    rw [hsessions]
    exact getElem?_setSession hs
  obtain ⟨hsessions', hpage'⟩ := signals_of_disconnected hx' hl hs' rfl rfl n
  exact ⟨hsessions'.trans hsessions, hpage'.trans hpage⟩

/-! ## Sessions that share a connector -/

/-- What a load leaves that bridged its module through `c`: the connector reports to the module's
session, whose search is over. -/
theorem onLoad_bridged {w : World} {options : BridgeOptions} {loadError : Option Text}
    {name base : Text} {m : DevModule} {c : ConnectorId}
    (hm : (w.onLoad options loadError name base).2.modules = w.modules ++ [m])
    (hc : m.connector = some c) :
    m.session = w.sessions.length ∧
      Bridges (w.askedOnLoad options name base) c w (w.onLoad options loadError name base).2 := by
  have hlinks : (w.onLoad options loadError name base).2.links = w.links ++ [m.link] := by
    simp [links, hm]
  obtain ⟨c', -, h⟩ | ⟨-, h⟩ := onLoad_cases w options loadError name base
  · obtain ⟨takesCalls, hnew, -⟩ := h.links
    rw [hlinks] at hnew
    have hlink := List.singleton_inj.mp (List.append_cancel_left hnew)
    simp only [DevModule.link, Link.mk.injEq, hc, Option.some.injEq] at hlink
    obtain ⟨rfl, hsession, -⟩ := hlink
    exact ⟨hsession, h⟩
  · obtain ⟨ks, hnew, hnone⟩ := h.links
    rw [hlinks] at hnew
    have hlink := List.append_cancel_left hnew
    have hk := hnone m.link (by rw [← hlink]; exact List.mem_singleton_self _)
    simp [DevModule.link, hc] at hk

/-- **Who hears that a guest lost its connection.** A module was bridged through guest `c`, more
loads and calls followed, and the module's session is still connected. If no later load asked the
guest, its signals disconnect this session and no other, and the overlay is shown once. If one
did, this session hears nothing and stays connected. -/
theorem signals_after_load {w : World} {options : BridgeOptions} {loadError : Option Text}
    {name base : Text} {m : DevModule} {c : ConnectorId} {moves : List Move} {p : Wasm.Plugin}
    {s : Session ConnectorId Recovery}
    (hm : (w.onLoad options loadError name base).2.modules = w.modules ++ [m])
    (hc : m.connector = some c)
    (hp : ((w.onLoad options loadError name base).2.after moves).device? c = some (.guest p))
    (hs : ((w.onLoad options loadError name base).2.after moves).sessions[m.session]? = some s)
    (hconnected : s.status = .connected) (n : Nat) :
    let u := (w.onLoad options loadError name base).2
    let v := u.after moves
    (¬ u.Asks c moves →
      (v.signals c (n + 1)).sessions = v.sessions.set m.session
          { s with status := .disconnected, handle := none, recovery := none } ∧
        (v.signals c (n + 1)).page =
          { v.page with loop := v.page.loop.setTimeout .overlay overlayDelay }) ∧
      (u.Asks c moves → (v.signals c (n + 1)).sessions[m.session]? = some s) := by
  intro u v
  obtain ⟨hsession, hbridges⟩ := onLoad_bridged hm hc
  -- the session is what it was when the load was done
  obtain ⟨t, ht, hsettled, hoverlay⟩ := hbridges.session
  rw [← hsession] at ht
  obtain ⟨s', hs', hlasts⟩ := after_aged u moves m.session t ht
  obtain rfl : s = s' := Option.some.inj (hs.symm.trans hs')
  obtain rfl := (hlasts hsettled).2 hconnected
  -- the listener is the one it was then, unless the guest was asked
  obtain ⟨y, hy⟩ : ∃ y, v.wiring? c = some y := by
    obtain ⟨wired, hwired, -⟩ := device?_eq hp
    exact ⟨wired.wiring, by simp [wiring?, v, u, hwired]⟩
  obtain ⟨x, hx, hsame, hlater⟩ := after_listener hy
  have hlistener : x.listener = some { session := m.session } := by
    rw [hbridges.wiring] at hx
    obtain ⟨x', -, rfl⟩ := Option.map_eq_some_iff.mp hx
    simp [hbridges.asked, hsession]
  constructor
  · intro hnobody
    have hl : y.listener = some { session := m.session } := (hsame hnobody).trans hlistener
    exact signals_of_connected hy hl hs hconnected (hoverlay hconnected) n
  · intro hsomebody
    obtain ⟨l, hl, hle⟩ := hlater hsomebody
    have hlt : m.session < u.sessions.length := (List.getElem?_eq_some_iff.mp ht).1
    have hne : l.session ≠ m.session := by omega
    exact (signals_other hy hl hne _).trans hs

/-- On the shared page the module `A` is left connected when the guest signals after `B` was
loaded. -/
theorem signals_after_load_shared :
    ∃ s, sharedByTwo.sessions[0]? = some s ∧ s.status = .connected ∧
      (sharedByTwo.signals 0 1).sessions[0]? = some s := by
  have hone : (shared.onLoad underG none [65] []).2.modules.length = 1 := by decide +kernel
  obtain ⟨m, hm⟩ := List.length_eq_one_iff.mp hone
  have hlink : (shared.onLoad underG none [65] []).2.modules.map
      (fun m => (m.connector, m.session)) = [(some 0, 0)] := by decide +kernel
  rw [hm, List.map_singleton, List.singleton_inj, Prod.mk.injEq] at hlink
  obtain ⟨hc, hsession⟩ := hlink
  obtain ⟨p, hp⟩ := sharedByTwo_guest
  have hstatus : (sharedByTwo.sessions[0]?).map (·.status) = some .connected := by decide +kernel
  obtain ⟨s, hs, hconnected⟩ := Option.map_eq_some_iff.mp hstatus
  have hs' : sharedByTwo.sessions[m.session]? = some s := by rw [hsession, hs]
  have hasks : (shared.onLoad underG none [65] []).2.Asks 0 [.load underG none [66] []] :=
    .inl (by decide +kernel)
  have htwo : sharedByTwo = (shared.onLoad underG none [65] []).2.after [.load underG none [66] []] :=
    after_cons shared (.load underG none [65] []) _
  rw [htwo] at hp hs' ⊢
  have hheard := (signals_after_load hm hc hp hs' hconnected 0).2 hasks
  rw [hsession] at hs' hheard
  exact ⟨s, hs', hconnected, hheard⟩

/-- It is not so that a guest's signal disconnects every session that is connected through it. -/
theorem signal_misses_sessions :
    ¬ ∀ (w : World) (moves : List Move) (i : Nat) (m : DevModule) (c : ConnectorId)
      (p : Wasm.Plugin) (s : Session ConnectorId Recovery), w.modules = [] →
      (w.after moves).modules[i]? = some m → m.connector = some c →
      (w.after moves).device? c = some (.guest p) →
      (w.after moves).sessions[m.session]? = some s → s.status = .connected →
      (((w.after moves).signal c).sessions[m.session]?).map (·.status) = some .disconnected := by
  intro h
  obtain ⟨m, hm, hlink⟩ := exists_module (w := sharedByTwo) (i := 0) (by rw [sharedByTwo_links]; rfl)
  have hc : m.connector = some 0 := congrArg Link.connector hlink
  have hsession : m.session = 0 := congrArg Link.session hlink
  obtain ⟨p, hp⟩ := sharedByTwo_guest
  have hstatus : (sharedByTwo.sessions[0]?).map (·.status) = some .connected := by decide +kernel
  obtain ⟨s, hs, hconnected⟩ := Option.map_eq_some_iff.mp hstatus
  rw [← hsession] at hs
  have hlost := h shared _ 0 m 0 p s rfl hm hc hp hs hconnected
  rw [hsession] at hlost
  have hkept : ((sharedByTwo.signal 0).sessions[0]?).map (·.status) = some .connected := by
    decide +kernel
  cases hkept.symm.trans hlost

end PageBoot.World
