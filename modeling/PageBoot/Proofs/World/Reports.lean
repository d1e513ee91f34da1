import PageBoot.Proofs.World.Siblings
import PageBoot.World.Discovery

/-!
Reports: what observers of resources, handlers of illegal values and handlers of failed loads are
told. Connectors never bring one about. Calls, signals, searches and factories leave the reports of a
page as they are, whatever else is noted meanwhile.
-/

namespace PageBoot

/-- The note of an observer or a handler that was told of something. -/
def Note.isReport : Note → Bool
  | .loaded .. | .propertyError .. | .loadError .. => true
  | _ => false

namespace World

open Page Connector

/-- What observers and handlers were told, oldest first. -/
def reports (w : World) : List Note := w.notes.filter Note.isReport

variable {w : World}

theorem reports_note {n : Note} (h : n.isReport = false) : (w.note n).reports = w.reports := by
  simp [reports, note, List.filter_append, h]

theorem reports_note_of_report {n : Note} (h : n.isReport = true) :
    (w.note n).reports = w.reports ++ [n] := by
  simp [reports, note, List.filter_append, h]

@[simp] theorem reports_emit (w : World) (e : Metrics.Emitter Text) (m : Metrics.Moment) :
    (w.emit e m).reports = w.reports := by
  unfold emit
  generalize e.sinks = sinks
  induction sinks generalizing w with
  | nil => rfl
  | cons sink sinks ih => exact (ih _).trans (reports_note rfl)

/-! ## Sessions -/

@[simp] theorem reports_recover (w : World) (i : Nat) (r : Recovery) :
    (w.recover i r).reports = w.reports := by
  cases r with
  | overlay => rfl
  | labelled label =>
    unfold recover
    cases w.sessions[i]? with
    | none => rfl
    | some s => exact reports_note rfl

@[simp] theorem reports_disconnected (w : World) (i : Nat) :
    (w.disconnected i).2.reports = w.reports := by
  unfold disconnected
  cases w.sessions[i]? with
  | none => rfl
  | some s =>
    simp only
    split
    · rfl
    next action t _ =>
      cases action with
      | none => rfl
      | some a => exact reports_recover _ i a

@[simp] theorem reports_transition (w : World) (i : Nat) (target : Status) :
    (w.transition i target).2.reports = w.reports := by
  unfold transition
  cases w.sessions[i]? with
  | none => rfl
  | some s =>
    simp only
    split <;> rfl

@[simp] theorem reports_attach (w : World) (i : Nat) (connector : Text) (handle : Option ConnectorId) :
    (w.attach i connector handle).2.reports = w.reports := by
  unfold attach
  cases w.sessions[i]? with
  | none => rfl
  | some s =>
    simp only
    split
    · rfl
    next pending t _ =>
      cases pending with
      | false => rfl
      | true => exact reports_disconnected _ i

/-! ## Connectors -/

@[simp] theorem reports_signal (w : World) (c : ConnectorId) : (w.signal c).reports = w.reports := by
  unfold signal
  split
  · rfl
  next wired _ =>
    split
    next l _ =>
      simp only
      split
      · exact (reports_note rfl).trans (reports_disconnected w l.session)
      · exact reports_disconnected w l.session
    · split <;> rfl

@[simp] theorem reports_signals (w : World) (c : ConnectorId) (n : Nat) :
    (w.signals c n).reports = w.reports := by
  induction n generalizing w with
  | zero => rfl
  | succ n ih => exact (ih (w.signal c)).trans (reports_signal w c)

theorem reports_callDevice (c : ConnectorId) (missing : Bool) {saying : Text → Note}
    (hsaying : ∀ name, (saying name).isReport = false) (handle : Device → Device.Handled) :
    (w.callDevice c missing saying handle).2.reports = w.reports := by
  unfold callDevice
  split
  · rfl
  next d _ =>
    have hannounced : (w.announced d saying).reports = w.reports := by
      cases d with
      | script s => exact reports_note (hsaying s.name)
      | guest p => rfl
    exact (reports_signals _ c _).trans hannounced

@[simp] theorem reports_bindTable (w : World) (c : ConnectorId) (t : Nat) :
    (w.bindTable c t).reports = w.reports := by
  unfold bindTable
  split
  · split
    · exact reports_note rfl
    · rfl
  · rfl
  · rfl

/-! ## Searches -/

@[simp] theorem reports_attempt (w : World) (f : Finder) (l : Listener) (r : Connector.Request) :
    (w.attempt f l r).2.reports = w.reports := by
  unfold attempt
  cases w.find? f with
  | none => rfl
  | some c =>
    have hinit : (w.callInit c l).2.reports = w.reports :=
      reports_callDevice (w := w.listen c l) c false (fun _ => rfl) Device.onInit
    simp only
    cases hi : w.callInit c l with
    | mk reply u =>
      rw [hi] at hinit
      have hconnect : (u.callConnect c r).2.reports = w.reports :=
        (reports_callDevice c false (fun _ => rfl) (Device.onConnect r)).trans hinit
      split
      next heq => cases heq; exact hinit
      next heq => cases heq; exact hinit
      next heq => cases heq; exact hinit
      next heq =>
        cases heq
        split <;> next hcon => rw [hcon] at hconnect; exact hconnect

@[simp] theorem reports_tryFinder (l : Listener) (r : Connector.Request) (identity : Text) (f : Finder)
    (w : World) : (tryFinder l r identity f w).2.reports = w.reports := by
  have hattempt := w.reports_attempt f l r
  unfold tryFinder
  split
  next heq =>
    rw [heq] at hattempt
    exact hattempt
  next => exact hattempt

@[simp] theorem reports_probe (l : Listener) (r : Connector.Request) (identity : Text)
    (fs : List Finder) (w : World) :
    (probe (tryFinder l r identity) fs w).2.reports = w.reports := by
  induction fs generalizing w with
  | nil => rfl
  | cons f fs ih =>
    have htry := reports_tryFinder l r identity f w
    cases ht : tryFinder l r identity f w with
    | mk outcome u =>
      rw [ht] at htry
      simp only [probe, ht]
      cases outcome with
      | absent => exact (ih u).trans htry
      | _ => exact htry

@[simp] theorem reports_discover (w : World) (finders : List Finder) (l : Listener) (i : Nat)
    (r : Connector.Request) : (w.discover finders l i r).2.reports = w.reports := by
  have hprobing := w.reports_transition i .probing
  unfold discover
  cases ht : w.transition i .probing with
  | mk failed u =>
    rw [ht] at hprobing
    cases failed with
    | some f => exact hprobing
    | none =>
      let identity := ((u.sessions[i]?).map (·.id)).getD []
      have hprobe := reports_probe l (r.filled identity) identity finders u
      simp only
      cases hp : probe (tryFinder l (r.filled identity) identity) finders u with
      | mk decision v =>
        rw [hp] at hprobe
        cases decision with
        | absent => exact (v.reports_transition i .failed).trans (hprobe.trans hprobing)
        | refused f => exact (reports_transition _ i .failed).trans (hprobe.trans hprobing)
        | connected f c =>
          have hattach := v.reports_attach i f.kind.name (some c)
          simp only
          cases ha : v.attach i f.kind.name (some c) with
          | mk failed x =>
            rw [ha] at hattach
            cases failed <;> exact hattach.trans (hprobe.trans hprobing)

/-! ## Plugin elements -/

@[simp] theorem reports_produce (w : World) (f : Factory) : (w.produce f).2.reports = w.reports := by
  have hnote : (w.note (.factory f.key)).reports = w.reports := reports_note rfl
  unfold produce
  simp only
  split
  · exact hnote
  · exact hnote
  · exact hnote
  · split
    · exact hnote
    next p signals _ => exact (reports_signals _ _ signals).trans hnote

@[simp] theorem reports_runFactories (w : World) (waiting : List (Html.NodeId × Factory)) :
    (w.runFactories waiting).reports = w.reports := by
  induction waiting generalizing w with
  | nil => rfl
  | cons x waiting ih =>
    have hone : (w.runFactory x.1 x.2).reports = w.reports := by
      rw [runFactory_eq]
      cases (w.produce x.2).1 <;> exact w.reports_produce x.2
    exact (ih _).trans hone

@[simp] theorem reports_write (w : World) (markup : Text) : (w.write markup).reports = w.reports :=
  reports_runFactories { w with page := (w.page.write markup).2 } _

end World

end PageBoot
