import PageBoot.Proofs.World.Lasting
import PageBoot.Proofs.World.Draining

/-!
Overlays of lost connections. Every session that loses its connection has one overlay shown, soon
after: those shown and those that still wait in the event loop are as many as the sessions that are
disconnected (`Accounts`). So a page with two modules may get two overlays.
-/

namespace PageBoot

open Page

/-! ## Waiting overlays -/

def Page.Job.isOverlay : Job → Bool
  | .overlay => true
  | .labelled .. => false

/-- What is shown when a connection is lost. -/
def Page.disconnectOverlay : Overlay := ⟨World.disconnectSummary, World.disconnectDetails⟩

/-- Covers a page because a connection was lost. -/
def Page.cover (p : Page) : Page := p.showGlass World.disconnectSummary World.disconnectDetails

/-- How many overlays wait in a loop. -/
def Page.EventLoop.overlays (l : EventLoop Job) : Nat := l.queue.countP (·.task.isOverlay)

namespace Page

theorem overlays_cover (p : Page) : p.cover.overlays = p.overlays ++ [disconnectOverlay] := by
  simp only [cover, showGlass, setTitle, overlaid, stopScrolling]
  split
  · rfl
  · split <;> rfl

theorem overlays_iterate_cover (n : Nat) (p : Page) :
    (cover^[n] p).overlays = p.overlays ++ List.replicate n disconnectOverlay := by
  induction n generalizing p with
  | zero => simp
  | succ n ih =>
    rw [Function.iterate_succ_apply, ih, overlays_cover, List.append_assoc]
    rfl

namespace EventLoop

variable {l l' : EventLoop Job} {t : Timer Job}

theorem overlays_setTimeout (l : EventLoop Job) (job : Job) (delay : Int) :
    (l.setTimeout job delay).overlays = l.overlays + if job.isOverlay then 1 else 0 := by
  simp [overlays, setTimeout, timer, List.countP_cons]

/-- Tasks that are asked for by others show no overlay. -/
theorem overlays_requestAll (l : EventLoop Job) (ts : Tasks) :
    (l.requestAll ts.requests).overlays = l.overlays := by
  induction ts generalizing l with
  | nil => rfl
  | task delay isEmpty label after rest _ ih =>
    rw [Tasks.requests, requestAll, List.foldl_cons, ← requestAll, ih]
    cases isEmpty with
    | true => rfl
    | false => exact overlays_setTimeout l (.labelled label after) delay

theorem overlays_takes (h : Takes l t l') :
    l.overlays = l'.overlays + if t.task.isOverlay then 1 else 0 := by
  obtain ⟨front, back, hbefore, hafter⟩ := h.queue
  rw [overlays, overlays, hbefore, hafter, List.countP_append, List.countP_append, List.countP_cons]
  omega

end EventLoop

end Page

namespace World

open Connector Loader

/-! ## Accounts -/

/-- How many sessions lost their connection. -/
def lost (w : World) : Nat := w.sessions.countP (·.status = .disconnected)

/-- Overlays were shown after `shown`, and others wait, one for each session that lost its connection.
Sessions that may still lose it are to have one shown. -/
structure Accounts (shown : List Overlay) (w : World) : Prop where
  overlays : ∃ n, w.page.overlays = shown ++ List.replicate n disconnectOverlay ∧
    n + w.page.loop.overlays = w.lost
  ready : ∀ s ∈ w.sessions, s.status = .probing ∨ s.status = .connected → s.recovery = some .overlay

variable {w : World} {shown : List Overlay} {i : Nat} {s t : Session ConnectorId Recovery}

theorem lost_setSession (hs : w.sessions[i]? = some s) (t : Session ConnectorId Recovery) :
    (w.setSession i t).lost + (if s.status = .disconnected then 1 else 0) =
      w.lost + if t.status = .disconnected then 1 else 0 := by
  obtain ⟨hi, hget⟩ := List.getElem?_eq_some_iff.mp hs
  obtain ⟨front, back, hsplit, -, hset⟩ : ∃ front back,
      w.sessions = front ++ w.sessions[i] :: back ∧ front.length = i ∧
        w.sessions.set i t = front ++ t :: back :=
    List.exists_of_set hi
  rw [hget] at hsplit
  rw [lost, lost, setSession, hset, hsplit]
  simp only [List.countP_append, List.countP_cons, decide_eq_true_eq]
  omega

theorem Accounts.log (h : w.Accounts shown) (e : Journal.Entry) : (w.log e).Accounts shown :=
  ⟨h.overlays, h.ready⟩

/-- A session changes without losing its connection. -/
theorem Accounts.setSession (h : w.Accounts shown) (hs : w.sessions[i]? = some s)
    (hstatus : t.status = .disconnected ↔ s.status = .disconnected)
    (hready : t.status = .probing ∨ t.status = .connected → t.recovery = some .overlay) :
    (w.setSession i t).Accounts shown := by
  obtain ⟨⟨n, hoverlays, hcount⟩, hall⟩ := h
  have hlost : (w.setSession i t).lost = w.lost := by
    have hset := lost_setSession hs t
    simp only [hstatus] at hset
    omega
  refine ⟨⟨n, hoverlays, by rw [hlost]; exact hcount⟩, fun u hu => ?_⟩
  rcases List.mem_or_eq_of_mem_set hu with hu | rfl
  · exact hall u hu
  · exact hready

/-- A session that loses its connection has an overlay shown. -/
theorem Accounts.disconnected (h : w.Accounts shown) (i : Nat) :
    (w.disconnected i).2.Accounts shown := by
  unfold World.disconnected
  cases hs : w.sessions[i]? with
  | none => exact h
  | some s =>
    have hready := h.ready s (List.mem_of_getElem? hs)
    cases hstatus : s.status with
    | connected =>
      let t : Session ConnectorId Recovery :=
        { s with recovery := none, status := .disconnected, handle := none }
      obtain ⟨n, hoverlays, hcount⟩ := h.overlays
      have hlost : (w.setSession i t).lost = w.lost + 1 := by
        have hset := lost_setSession hs t
        simpa [hstatus, t] using hset
      simp only [Session.disconnected, hstatus, hready (.inr hstatus)]
      refine ⟨⟨n, hoverlays, ?_⟩, fun u hu => ?_⟩
      · have hwaiting := EventLoop.overlays_setTimeout w.page.loop .overlay overlayDelay
        have htotal : n + (w.page.loop.setTimeout .overlay overlayDelay).overlays =
            (w.setSession i t).lost := by
          rw [hwaiting, hlost, ← hcount]
          rfl
        exact htotal
      · rcases List.mem_or_eq_of_mem_set hu with hu | rfl
        · exact h.ready u hu
        · rintro (h | h) <;> cases h
    | probing =>
      simp only [Session.disconnected, hstatus]
      exact h.setSession hs (by simp [hstatus]) fun _ => hready (.inl hstatus)
    | _ =>
      simp only [Session.disconnected, hstatus]
      exact h.setSession hs (by simp [hstatus]) (by simp)

theorem lasting_accounts (shown : List Overlay) : Lasting (Accounts shown) where
  apart hw tasks overlays _ sessions _ := by
    refine ⟨?_, by rw [sessions]; exact hw.ready⟩
    rw [overlays, tasks, lost, sessions]
    exact hw.overlays
  loss hw i := hw.disconnected i
  fails {w} hw i := by
    cases hs : w.sessions[i]? with
    | none =>
      simp only [transition, hs]
      exact hw
    | some s =>
      cases ht : s.transition .failed with
      | error f =>
        simp only [transition, hs, ht]
        exact hw
      | ok t =>
        obtain ⟨hprobing, rfl⟩ := Session.transition_failed ht
        have hset := hw.setSession hs (t := { s with status := .failed }) (by simp [hprobing]) (by simp)
        simp only [transition, hs, ht]
        exact hset.log _
  attaches {w} hw i connector handle := by
    cases hs : w.sessions[i]? with
    | none =>
      simp only [attach, hs]
      exact hw
    | some s =>
      cases ht : s.attach connector handle with
      | error f =>
        simp only [attach, hs, ht]
        exact hw
      | ok r =>
        obtain ⟨pending, t⟩ := r
        obtain ⟨hprobing, rfl⟩ := Session.attach_eq_ok ht
        have hready := hw.ready s (List.mem_of_getElem? hs) (.inl hprobing)
        have hset := hw.setSession hs
          (t := { s with status := .connected, handle, connector, pending := false })
          (by simp [hprobing]) fun _ => hready
        have hlogged := hset.log (s.transitionEntry .connected)
        simp only [attach, hs, ht]
        split
        · exact hlogged.disconnected i
        · exact hlogged

/-! ## Loads -/

theorem Accounts.onLoad (h : w.Accounts shown) (options : BridgeOptions) (loadError : Option Text)
    (name base : Text) : (w.onLoad options loadError name base).2.Accounts shown := by
  cases hname : name.isEmpty with
  | true =>
    simp only [World.onLoad, hname, if_true]
    exact h
  | false =>
    refine (lasting_accounts shown).onLoad hname ?_ (fun u ms hu => ⟨hu.overlays, hu.ready⟩) loadError
    obtain ⟨id, hopened⟩ := openModule_eq w options.complete name base
    rw [hopened]
    let s : Session ConnectorId Recovery := { id, module := name, recovery := some .overlay }
    let u : World := { w with
      state := (w.openModule options.complete name base).2.state
      notes := (w.openModule options.complete name base).2.notes
      journal := (w.openModule options.complete name base).2.journal
      sessions := w.sessions ++ [s] }
    have hs : u.sessions[w.sessions.length]? = some s := by simp [u]
    have hu : u.Accounts shown := by
      obtain ⟨n, hoverlays, hcount⟩ := h.overlays
      refine ⟨⟨n, hoverlays, ?_⟩, fun t ht => ?_⟩
      · simpa [lost, u, s] using hcount
      · rcases List.mem_append.mp ht with ht | ht
        · exact h.ready t ht
        · obtain rfl := List.mem_singleton.mp ht
          exact fun _ => rfl
    change (u.transition w.sessions.length .probing).2.Accounts shown
    rw [transition_of_idle hs rfl]
    exact (hu.setSession hs (t := { s with status := .probing }) (by simp [s]) fun _ => rfl).log _

/-! ## Turns -/

/-- A turn runs one task: it covers the page, or it says something. -/
theorem runOnce_covers (l : EventLoop Job) (w : World) :
    ∃ k notes, (l.runOnce runJob w).2.2 = { w with page := cover^[k] w.page, notes } ∧
      k + (l.runOnce runJob w).2.1.overlays = l.overlays := by
  rcases EventLoop.runOnce_cases runJob l w with ⟨-, hrun⟩ | ⟨t, l', htakes, hrun⟩
  · rw [hrun]
    exact ⟨0, w.notes, rfl, Nat.zero_add _⟩
  · rw [hrun, EventLoop.overlays_takes htakes]
    cases ht : t.task with
    | labelled label after =>
      exact ⟨0, _, rfl, by simp only [runJob, EventLoop.overlays_requestAll]; exact Nat.zero_add _⟩
    | overlay => exact ⟨1, w.notes, rfl, Nat.add_comm 1 _⟩

theorem runSome_covers (n : Nat) (l : EventLoop Job) (w : World) :
    ∃ k notes, (l.runSome runJob n w).2.2 = { w with page := cover^[k] w.page, notes } ∧
      k + (l.runSome runJob n w).2.1.overlays = l.overlays := by
  induction n generalizing l w with
  | zero => exact ⟨0, w.notes, rfl, Nat.zero_add _⟩
  | succ n ih =>
    obtain ⟨k, notes, hworld, hcount⟩ := runOnce_covers l w
    cases hone : l.runOnce runJob w with
    | mk ran rest =>
      obtain ⟨l', v⟩ := rest
      rw [hone] at hworld hcount
      simp only at hworld hcount
      cases ran with
      | false =>
        simp only [EventLoop.runSome, hone]
        exact ⟨k, notes, hworld, hcount⟩
      | true =>
        obtain ⟨j, notes', hrest, hcount'⟩ := ih l' v
        simp only [EventLoop.runSome, hone]
        have htotal : j + k + (l'.runSome runJob n v).2.1.overlays = l.overlays := by omega
        refine ⟨j + k, notes', ?_, htotal⟩
        rw [hrest, hworld, Function.iterate_add_apply]

/-- Overlays were shown after `shown`, and others wait: `n` in all. -/
def Overlaid (shown : List Overlay) (n : Nat) (w : World) : Prop :=
  ∃ k, w.page.overlays = shown ++ List.replicate k disconnectOverlay ∧ k + w.page.loop.overlays = n

/-- What covers the page did wait before. -/
theorem Overlaid.covers {n : Nat} (h : w.Overlaid shown n) {l : EventLoop Job} {k : Nat}
    (notes : List Note) (hk : k + l.overlays = w.page.loop.overlays) :
    (({ w with page := cover^[k] w.page, notes } : World).withLoop l).Overlaid shown n := by
  obtain ⟨j, hoverlays, hcount⟩ := h
  refine ⟨j + k, ?_, ?_⟩
  · have hcovered := overlays_iterate_cover k w.page
    rw [hoverlays, List.append_assoc, List.replicate_append_replicate] at hcovered
    exact hcovered
  · have htotal : j + k + l.overlays = n := by omega
    exact htotal

theorem Accounts.covers (h : w.Accounts shown) {l : EventLoop Job} {k : Nat} (notes : List Note)
    (hk : k + l.overlays = w.page.loop.overlays) :
    (({ w with page := cover^[k] w.page, notes } : World).withLoop l).Accounts shown :=
  ⟨Overlaid.covers h.overlays notes hk, h.ready⟩

theorem Accounts.runOnce (h : w.Accounts shown) : w.runOnce.2.Accounts shown := by
  obtain ⟨k, notes, hworld, hcount⟩ := runOnce_covers w.page.loop w
  have hcovers := h.covers notes hcount
  rw [← hworld] at hcovers
  exact hcovers

/-- A drain covers the page once for each overlay that waits, and none is left. -/
theorem drain_covers (w : World) :
    ∃ loop notes, w.drain.2 =
      ({ w with page := cover^[w.page.loop.overlays] w.page, notes } : World).withLoop loop ∧
        loop.overlays = 0 := by
  obtain ⟨k, notes, hworld, hcount⟩ := runSome_covers (workload w.page.loop.queue) w.page.loop w
  have hempty := runSome_empties _ w.page.loop w (Nat.le_refl _)
  have hnone : (w.page.loop.runSome runJob (workload w.page.loop.queue) w).2.1.overlays = 0 := by
    rw [EventLoop.overlays, hempty]
    rfl
  have hk : k = w.page.loop.overlays := by omega
  subst hk
  exact ⟨_, notes, by rw [← hworld]; rfl, hnone⟩

theorem Accounts.drain (h : w.Accounts shown) : w.drain.2.Accounts shown := by
  obtain ⟨loop, notes, hdrain, hnone⟩ := drain_covers w
  rw [hdrain]
  exact h.covers notes (by omega)

/-- After a drain nothing waits. -/
theorem Overlaid.drained {n : Nat} (h : w.Overlaid shown n) :
    w.drain.2.page.overlays = shown ++ List.replicate n disconnectOverlay := by
  obtain ⟨loop, notes, hdrain, hnone⟩ := drain_covers w
  have hwaiting : w.page.loop.overlays + loop.overlays = w.page.loop.overlays := by omega
  obtain ⟨k, hoverlays, hcount⟩ := h.covers notes hwaiting
  rw [← hdrain] at hoverlays hcount
  have hloop : w.drain.2.page.loop = loop := by rw [hdrain]; rfl
  rw [hloop, hnone, Nat.add_zero] at hcount
  rw [hoverlays, hcount]

/-- So as many overlays were shown as sessions are disconnected. -/
theorem Accounts.drained (h : w.Accounts shown) :
    w.drain.2.page.overlays = shown ++ List.replicate w.lost disconnectOverlay :=
  Overlaid.drained h.overlays

/-! ## Any history -/

/-- What may happen to a page with modules in dev mode. -/
inductive Happening where
  | move (m : Move)
  | stir (x : Stir)
  | write (markup : Text)
  | registerPlugin (f : Factory)
  | queue (ts : Tasks)
  | turn
  | drain

def happen (w : World) : Happening → World
  | .move m => w.move m
  | .stir x => w.stir x
  | .write markup => w.write markup
  | .registerPlugin f => w.registerPlugin f
  | .queue ts => w.setTimeouts ts
  | .turn => w.runOnce.2
  | .drain => w.drain.2

def happenings (w : World) (xs : List Happening) : World := xs.foldl happen w

theorem Accounts.happen (h : w.Accounts shown) (x : Happening) : (w.happen x).Accounts shown := by
  have hlasting := lasting_accounts shown
  cases x with
  | move m =>
    cases m with
    | load options loadError name base => exact h.onLoad options loadError name base
    | call i disp arity tearOff this args => exact hlasting.call h i disp arity tearOff this args
  | stir x =>
    cases x with
    | signal c => exact hlasting.signal h c
    | loss i => exact h.disconnected i
  | write markup => exact hlasting.write h markup
  | registerPlugin f => exact hlasting.registerPlugin h f
  | queue ts =>
    have hcovers := h.covers (k := 0) (l := w.page.loop.requestAll ts.requests) w.notes
      (by rw [EventLoop.overlays_requestAll, Nat.zero_add])
    exact hcovers
  | turn => exact h.runOnce
  | drain => exact h.drain

theorem Accounts.happenings (h : w.Accounts shown) (xs : List Happening) :
    (w.happenings xs).Accounts shown := by
  induction xs generalizing w with
  | nil => exact h
  | cons x xs ih => exact ih (h.happen x)

theorem accounts_of_fresh (hsessions : w.sessions = []) (hwaiting : w.page.loop.overlays = 0) :
    w.Accounts w.page.overlays :=
  ⟨⟨0, by simp, by simp [hwaiting, lost, hsessions]⟩, by simp [hsessions]⟩

/-- **One overlay for each session that loses its connection.** Whatever happens to a page, the overlays
that were shown and those that wait are as many as the sessions that are disconnected. A drain covers the
page once for each that waits, so that it had one overlay at most exactly if one session at most is
disconnected. -/
theorem overlays_account (hsessions : w.sessions = []) (hwaiting : w.page.loop.overlays = 0)
    (xs : List Happening) :
    let v := w.happenings xs
    (∃ n, v.page.overlays = w.page.overlays ++ List.replicate n disconnectOverlay ∧
      n + v.page.loop.overlays = v.lost) ∧
    v.drain.2.page =
      { cover^[v.page.loop.overlays] v.page with loop := v.drain.2.page.loop } ∧
    v.drain.2.page.overlays = w.page.overlays ++ List.replicate v.lost disconnectOverlay ∧
    (v.drain.2.page.overlays.length ≤ w.page.overlays.length + 1 ↔ v.lost ≤ 1) := by
  intro v
  have hv := (accounts_of_fresh hsessions hwaiting).happenings xs
  obtain ⟨loop, notes, hdrain, -⟩ := drain_covers v
  refine ⟨hv.overlays, by rw [hdrain]; rfl, hv.drained, ?_⟩
  rw [hv.drained, List.length_append, List.length_replicate, Nat.add_le_add_iff_left]

/-- A page with two connectors under the globals `a` and `b`. -/
def pier : World :=
  .start {
    dom := {
      document := .tree 1 (.element "html" []) (.tree 2 (.element "head" []) ++ .tree 3 (.element "body" []))
      next := 4 }
    head := 2, body := 3, location := {}
    globals := [([97], .connector 0), ([98], .connector 1)] } [] [{ name := "a" }, { name := "b" }]

/-- Two modules are bridged, each through a connector of its own, and both connectors signal. -/
def pierHappenings : List Happening :=
  [.move (.load { finders := [.global [97]] } none [65] []),
    .move (.load { finders := [.global [98]] } none [66] []), .stir (.signal 0), .stir (.signal 1)]

theorem lost_pier : (pier.happenings pierHappenings).lost = 2 := by decide +kernel

theorem overlays_account_pier :
    pier.sessions = [] ∧ pier.page.loop.overlays = 0 ∧ (pier.happenings pierHappenings).lost = 2 ∧
      (pier.happenings pierHappenings).drain.2.page.overlays =
        [disconnectOverlay, disconnectOverlay] := by
  have hshown := (overlays_account (w := pier) rfl rfl pierHappenings).2.2.1
  rw [lost_pier] at hshown
  exact ⟨rfl, rfl, lost_pier, hshown⟩

/-- A page does not show one overlay at most. -/
theorem overlay_shown_twice :
    ¬ ∀ (w : World) (xs : List Happening), w.sessions = [] → w.page.loop.overlays = 0 →
      w.page.overlays = [] → (w.happenings xs).drain.2.page.overlays.length ≤ 1 := by
  intro h
  have hone := h pier pierHappenings rfl rfl rfl
  rw [((accounts_of_fresh rfl rfl).happenings pierHappenings).drained, lost_pier] at hone
  exact absurd hone (by decide)

end World

end PageBoot
