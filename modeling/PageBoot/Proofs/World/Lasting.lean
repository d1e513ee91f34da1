import PageBoot.Proofs.Session.Lifecycle
import PageBoot.Proofs.World.Siblings
import PageBoot.Proofs.World.Moves

/-!
What outlasts connectors. A property that looks at no more of a page than its tasks, its overlays, its
shared state and its sessions, and that survives what may become of a session (`Lasting`), survives
everything that connectors do: signals, searches, calls and factories. Each is shown once, for all
such properties.
-/

namespace PageBoot

/-! ## Steps of a session -/

namespace Session

variable {η ρ : Type} {s t : Session η ρ}

theorem transition_failed (h : s.transition .failed = .ok t) :
    s.status = .probing ∧ t = { s with status := .failed } := by
  obtain ⟨hallowed, ht⟩ := transition_eq_ok h
  refine ⟨?_, ht⟩
  cases hs : s.status <;> rw [hs] at hallowed <;> first | rfl | cases hallowed

theorem attach_eq_ok {connector : Text} {handle : Option η} {pending : Bool}
    (h : s.attach connector handle = .ok (pending, t)) :
    s.status = .probing ∧ t = { s with status := .connected, handle, connector, pending := false } := by
  unfold attach at h
  cases hconnected : s.transition .connected with
  | error f =>
    rw [hconnected] at h
    cases h
  | ok u =>
    obtain ⟨hallowed, rfl⟩ := transition_eq_ok hconnected
    rw [hconnected] at h
    cases h
    refine ⟨?_, rfl⟩
    cases hs : s.status <;> rw [hs] at hallowed <;> first | rfl | cases hallowed

theorem disconnected_id (s : Session η ρ) : s.disconnected.2.id = s.id := by
  unfold disconnected
  split <;> rfl

end Session

namespace World

open Page Connector Loader

/-- Numbers of the modules of a page, oldest first. -/
def numbers (w : World) : List Nat := w.modules.map (·.number)

/-- A module keeps its number when its adapters change. -/
theorem numbers_set {w : World} {i : Nat} {m : DevModule} (hm : w.modules[i]? = some m)
    (a : Bridge.Adapters) :
    ({ w with modules := w.modules.set i { m with adapters := some a } } : World).numbers =
      w.numbers :=
  List.map_set_of_eq hm rfl

/-- A property of pages that neither the wiring of connectors nor a step of a session breaks. -/
structure Lasting (P : World → Prop) : Prop where
  apart {w u : World} (hw : P w) (tasks : u.page.loop = w.page.loop)
    (overlays : u.page.overlays = w.page.overlays) (state : u.state = w.state)
    (sessions : u.sessions = w.sessions) (numbers : u.numbers = w.numbers) : P u
  loss {w : World} (hw : P w) (i : Nat) : P (w.disconnected i).2
  fails {w : World} (hw : P w) (i : Nat) : P (w.transition i .failed).2
  attaches {w : World} (hw : P w) (i : Nat) (connector : Text) (handle : Option ConnectorId) :
    P (w.attach i connector handle).2

namespace Lasting

variable {P : World → Prop} {w : World}

theorem log (h : Lasting P) (hw : P w) (e : Journal.Entry) : P (w.log e) := h.apart hw rfl rfl rfl rfl rfl

theorem note (h : Lasting P) (hw : P w) (n : Note) : P (w.note n) := h.apart hw rfl rfl rfl rfl rfl

theorem emit (h : Lasting P) (hw : P w) (e : Metrics.Emitter Text) (m : Metrics.Moment) :
    P (w.emit e m) := by
  rw [emit_eq]
  exact h.apart hw rfl rfl rfl rfl rfl

theorem rewire (h : Lasting P) (hw : P w) (c : ConnectorId) (f : Wired → Wired) :
    P (w.updateConnector c f) :=
  h.apart hw rfl rfl rfl rfl rfl

/-! ## Calls to connectors -/

theorem signal (h : Lasting P) (hw : P w) (c : ConnectorId) : P (w.signal c) := by
  unfold World.signal
  split
  · exact hw
  next wired _ =>
    split
    next l _ =>
      have hloss := h.loss hw l.session
      simp only
      split
      · exact h.note hloss _
      · exact hloss
    · split
      · exact hw
      · exact h.log hw _

theorem signals (h : Lasting P) (hw : P w) (c : ConnectorId) (n : Nat) : P (w.signals c n) := by
  induction n generalizing w with
  | zero => exact hw
  | succ n ih => exact ih (h.signal hw c)

theorem callDevice (h : Lasting P) (hw : P w) (c : ConnectorId) (missing : Bool)
    (saying : Text → Note) (handle : Device → Device.Handled) :
    P (w.callDevice c missing saying handle).2 := by
  unfold World.callDevice
  split
  · exact hw
  · next d _ =>
    have hannounced : P (w.announced d saying) := by
      cases d with
      | script s => exact h.note hw _
      | guest p => exact hw
    exact h.signals (h.rewire hannounced c _) c _

theorem finishCall (h : Lasting P) {α : Type} (hw : P w) (c : ConnectorId) (call : Wasm.Called α) :
    P (w.finishCall c call).2 :=
  h.signals (h.rewire hw c _) c _

theorem callDispatch (h : Lasting P) (hw : P w) (c : ConnectorId) (disp : Int) (this : Value)
    (args : List Value) : P (w.callDispatch c disp this args).2 := by
  unfold World.callDispatch
  split
  · exact hw
  · split
    · exact h.note hw _
    · simp only
      split
      next t table _ _ =>
        have htable : P { w with tables := w.tables.set t table } := h.apart hw rfl rfl rfl rfl rfl
        exact h.finishCall htable c _
      · exact h.finishCall hw c _

theorem call (h : Lasting P) (hw : P w) (i : Nat) (disp arity : Int) (tearOff : Bool) (this : Value)
    (args : List Value) : P (w.call i disp arity tearOff this args).2 := by
  unfold World.call
  split
  · exact hw
  next m hm =>
    split
    next a c _ _ =>
      let adapters := (a.adapter disp arity tearOff).2
      have hset : P { w with modules := w.modules.set i { m with adapters := some adapters } } :=
        h.apart hw rfl rfl rfl rfl (numbers_set hm adapters)
      simp only
      split
      · exact hset
      · have hdispatch := h.callDispatch hset c disp this args
        split <;> next heq => rw [heq] at hdispatch; exact hdispatch
    · exact hw

/-! ## Searches -/

theorem attempt (h : Lasting P) (hw : P w) (f : Finder) (l : Listener) (r : Connector.Request) :
    P (w.attempt f l r).2 := by
  unfold World.attempt
  cases w.find? f with
  | none => exact hw
  | some c =>
    have hlisten : P (w.listen c l) := h.apart hw rfl rfl rfl rfl rfl
    have hinit : P (w.callInit c l).2 := h.callDevice hlisten c _ _ _
    simp only
    cases hi : w.callInit c l with
    | mk reply u =>
      rw [hi] at hinit
      cases reply with
      | crash t => exact h.log hinit _
      | failure f => exact hinit
      | answer b =>
        cases b with
        | false => exact hinit
        | true =>
          have hconnect : P (u.callConnect c r).2 := h.callDevice hinit c _ _ _
          simp only
          cases hcon : u.callConnect c r with
          | mk reply v =>
            rw [hcon] at hconnect
            cases reply with
            | crash t => exact h.log hconnect _
            | failure f => exact hconnect
            | answer b => cases b <;> exact hconnect

theorem tryFinder (h : Lasting P) (hw : P w) (l : Listener) (r : Connector.Request) (identity : Text)
    (f : Finder) : P (tryFinder l r identity f w).2 := by
  have hattempt := h.attempt hw f l r
  unfold World.tryFinder
  split
  next heq =>
    rw [heq] at hattempt
    exact h.log hattempt _
  · exact hattempt

theorem probe (h : Lasting P) (hw : P w) (l : Listener) (r : Connector.Request) (identity : Text)
    (fs : List Finder) : P (probe (World.tryFinder l r identity) fs w).2 := by
  induction fs generalizing w with
  | nil => exact hw
  | cons f fs ih =>
    have htry := h.tryFinder hw l r identity f
    cases ht : World.tryFinder l r identity f w with
    | mk outcome u =>
      rw [ht] at htry
      simp only [Connector.probe, ht]
      cases outcome with
      | absent => exact ih htry
      | refused => exact htry
      | connected c => exact htry

/-- A search keeps what holds once its session is probing. -/
theorem discover (h : Lasting P) {i : Nat} (hw : P (w.transition i .probing).2) (finders : List Finder)
    (l : Listener) (r : Connector.Request) : P (w.discover finders l i r).2 := by
  unfold World.discover
  cases ht : w.transition i .probing with
  | mk failed u =>
    rw [ht] at hw
    cases failed with
    | some f => exact hw
    | none =>
      let identity := ((u.sessions[i]?).map (·.id)).getD []
      have hprobe := h.probe hw l (r.filled identity) identity finders
      simp only
      cases hp : Connector.probe (World.tryFinder l (r.filled identity) identity) finders u with
      | mk decision v =>
        rw [hp] at hprobe
        cases decision with
        | absent => exact h.fails hprobe i
        | refused f => exact h.fails (h.log hprobe _) i
        | connected f c =>
          have hattach := h.attaches hprobe i f.kind.name (some c)
          simp only
          cases ha : v.attach i f.kind.name (some c) with
          | mk failed x =>
            rw [ha] at hattach
            cases failed with
            | some e => exact hattach
            | none => exact h.log hattach _

/-! ## Loads -/

theorem bindTable (h : Lasting P) (hw : P w) (c : ConnectorId) (t : Nat) : P (w.bindTable c t) := by
  unfold World.bindTable
  split
  · split
    · exact h.note hw _
    · exact hw
  · exact h.rewire hw c _
  · exact hw

/-- A module is added, which does not matter to a property that does not look at modules. -/
theorem settleModule (h : Lasting P) (hw : P w)
    (hfree : ∀ (u : World) (ms : List DevModule), P u → P { u with modules := ms })
    (o : BridgeOptions) (loadError : Option Text) (m : DevModule) (found : Except Failure ConnectorId) :
    P (w.settleModule o loadError m found).2 := by
  cases found with
  | ok c =>
    have htable : P w.newTable.2 := h.apart hw rfl rfl rfl rfl rfl
    exact h.apart (hfree _ _ (h.bindTable htable c w.newTable.1)) rfl rfl rfl rfl rfl
  | error f =>
    unfold World.settleModule
    simp only
    split
    · cases loadError <;> exact h.apart (hfree _ _ hw) rfl rfl rfl rfl rfl
    · split
      · exact h.apart (hfree _ _ hw) rfl rfl rfl rfl rfl
      · exact hw

/-- A load keeps what holds once the session of its module is probing. -/
theorem onLoad (h : Lasting P) {options : BridgeOptions} {name base : Text}
    (hname : name.isEmpty = false)
    (hw : P ((w.openModule options.complete name base).2.transition w.sessions.length .probing).2)
    (hfree : ∀ (u : World) (ms : List DevModule), P u → P { u with modules := ms })
    (loadError : Option Text) : P (w.onLoad options loadError name base).2 := by
  have hsession := openModule_session w options.complete name base
  rw [← hsession] at hw
  simp only [World.onLoad, hname, Bool.false_eq_true, if_false]
  exact h.settleModule (h.emit (h.discover hw _ _ _) _ _) hfree _ _ _ _

/-! ## Plugin elements -/

theorem produce (h : Lasting P) (hw : P w) (f : Factory) : P (w.produce f).2 := by
  have hnote : P (w.note (.factory f.key)) := h.note hw _
  unfold World.produce
  simp only
  split
  · exact hnote
  · exact hnote
  · exact hnote
  · split
    · exact hnote
    next p signals _ =>
      have hadded : P { w.note (.factory f.key) with connectors := w.connectors ++ [Wired.ofGuest p] } :=
        h.apart hnote rfl rfl rfl rfl rfl
      exact h.log (h.signals hadded _ signals) _

theorem runFactory (h : Lasting P) (hw : P w) (id : Html.NodeId) (f : Factory) :
    P (w.runFactory id f) := by
  have hproduce := h.produce hw f
  rw [runFactory_eq]
  cases (w.produce f).1 with
  | none => exact hproduce
  | some t => exact h.apart hproduce rfl rfl rfl rfl rfl

theorem runFactories (h : Lasting P) (hw : P w) (waiting : List (Html.NodeId × Factory)) :
    P (w.runFactories waiting) := by
  induction waiting generalizing w with
  | nil => exact hw
  | cons x waiting ih => exact ih (h.runFactory hw x.1 x.2)

theorem registerPlugin (h : Lasting P) (hw : P w) (f : Factory) : P (w.registerPlugin f) := by
  have hpage : P { w with page := (w.page.registerPlugin f).2 } := h.apart hw rfl rfl rfl rfl rfl
  exact h.runFactories hpage _

theorem write (h : Lasting P) (hw : P w) (markup : Text) : P (w.write markup) := by
  have hpage : P { w with page := (w.page.write markup).2 } := by
    obtain ⟨dom, cursor, heq⟩ := w.page.write_eq markup
    rw [heq]
    exact h.apart hw rfl rfl rfl rfl rfl
  exact h.runFactories hpage _

end Lasting

end World

end PageBoot
