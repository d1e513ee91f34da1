import PageBoot.Proofs.World.Moves

/-!
The duties of leaving a page, one by one. Losses may be reported at any time, also between two duties
and right before the call that a duty ends with. A `Moment` is a duty in the world in which its turn
comes, and tells which connector is called. Whatever comes in between, sessions only age, closed tables
stay closed, and the wiring stays as it is (`Wanes`).
-/

namespace PageBoot

open Page

/-- The place of the module that a handler ends. -/
def Page.Farewell.module? : Farewell → Option Nat
  | .labelled _ => none
  | .module j => some j

namespace World

open Connector Loader

/-! ## A moment of leaving -/

namespace Duty

def table? : Duty → Option Nat
  | .release t => some t
  | _ => none

def session? : Duty → Option Nat
  | .hangUp i => some i
  | _ => none

def thing? : Duty → Option Thing
  | .close t => some t
  | _ => none

end Duty

/-- A duty and the world in which its turn comes. -/
structure Moment where
  before : World
  duty : Duty

namespace Moment

/-- The world when the duty is done but for the call that it ends with. -/
def done (m : Moment) : World := (m.before.takeUp m.duty).2

/-- The connector that is told to disconnect. -/
def disconnects? (m : Moment) : Option ConnectorId :=
  match (m.before.takeUp m.duty).1 with
  | some (.disconnect _ c) => some c
  | _ => none

/-- The connector that is closed. -/
def closes? (m : Moment) : Option ConnectorId :=
  match (m.before.takeUp m.duty).1 with
  | some (.close c) => some c
  | _ => none

theorem disconnects?_of_hangUp {m : Moment} {i : Nat} {s : Session ConnectorId Recovery}
    (hi : m.duty = .hangUp i) (hs : m.before.sessions[i]? = some s) :
    m.disconnects? = s.handle ∧ m.done.sessions[i]? = some s.close.2 := by
  refine ⟨?_, ?_⟩
  · simp only [disconnects?, hi, takeUp, endSession, hs, Session.close]
    cases s.handle <;> rfl
  · simp only [done, hi, takeUp, endSession, hs]
    exact getElem?_setSession hs

theorem done_of_release {m : Moment} {t : Nat} {objects : Bridge.ObjectTable}
    (ht : m.duty = .release t) (hobjects : m.before.tables[t]? = some objects) :
    m.done = { m.before with
      tables := m.before.tables.set t objects.close.2
      notes := m.before.notes ++ (objects.close.1.filterMap Bridge.releaseName?).map Note.release } := by
  simp only [done, ht, takeUp, closeTable, hobjects]

/-- Only the end of a session calls for a disconnect. -/
theorem hangUp_of_disconnects? {m : Moment} (h : m.disconnects? ≠ none) : ∃ i, m.duty = .hangUp i := by
  obtain ⟨w, d⟩ := m
  cases d with
  | hangUp i => exact ⟨i, rfl⟩
  | close t =>
    simp only [disconnects?, takeUp] at h
    cases hc : (t.connector?.filter w.isClosable) <;> simp [hc] at h
  | _ => exact absurd rfl h

/-- A connector is closed if it was returned by a factory and can be closed. -/
theorem closes?_eq (m : Moment) :
    m.closes? = m.duty.thing?.bind fun t => t.connector?.filter m.before.isClosable := by
  obtain ⟨w, d⟩ := m
  cases d with
  | hangUp i =>
    simp only [closes?, takeUp, Duty.thing?, Option.bind_none]
    cases (w.endSession i).1 <;> rfl
  | close t =>
    simp only [closes?, takeUp, Duty.thing?, Option.bind_some]
    cases t.connector?.filter w.isClosable <;> rfl
  | _ => rfl

end Moment

/-- The moments of some duties, each with the losses that are reported meanwhile. -/
def moments : World → List (Duty × Unrest) → List Moment
  | _, [] => []
  | w, (d, u) :: rest => ⟨u.before.foldl stir w, d⟩ :: moments (w.perform d u) rest

/-- The page is not bound to anything any more. -/
def released (w : World) : World := w.onPage fun p => { p with handlers := {}, owned := [] }

/-- The moments of leaving the page. -/
def leaving (w : World) (unrest : Nat → Unrest) : List Moment :=
  moments w.released (w.duties.mapIdx fun n d => (d, unrest n))

theorem moments_duties (w : World) (ds : List (Duty × Unrest)) :
    (moments w ds).map (·.duty) = ds.map (·.1) := by
  induction ds generalizing w with
  | nil => rfl
  | cons x ds ih => simp only [moments, List.map_cons, ih]

theorem leaving_duties (w : World) (unrest : Nat → Unrest) :
    (w.leaving unrest).map (·.duty) = w.duties := by
  rw [leaving, moments_duties]
  exact List.ext_getElem (by simp) (by simp)

/-! ## What leaving does -/

/-- From `w` to `v` sessions aged and tables were closed, if anything. -/
structure Wanes (w v : World) : Prop where
  modules : v.modules = w.modules
  tables : ∀ (t : Nat) (table : Bridge.ObjectTable), w.tables[t]? = some table →
    ∃ table', v.tables[t]? = some table' ∧ (table.closed = true → table'.closed = true)
  sessions : Aged w v
  wiring : ∀ c, v.wiring? c = w.wiring? c
  tied : w.Tied → v.Tied
  page : Busier w.page v.page

theorem Kept.wanes {w v : World} (h : Kept w v) : Wanes w v where
  modules := h.modules
  tables t table ht := ⟨table, by rw [h.tables, ht], id⟩
  sessions := h.sessions
  wiring := h.wiring
  tied := h.tied
  page := h.page

theorem Wanes.trans {w u v : World} (h : Wanes w u) (h' : Wanes u v) : Wanes w v where
  modules := h'.modules.trans h.modules
  tables t table ht := by
    obtain ⟨table', ht', hclosed⟩ := h.tables t table ht
    obtain ⟨table'', ht'', hclosed'⟩ := h'.tables t table' ht'
    exact ⟨table'', ht'', fun hc => hclosed' (hclosed hc)⟩
  sessions := h.sessions.trans h'.sessions
  wiring c := (h'.wiring c).trans (h.wiring c)
  tied hw := h'.tied (h.tied hw)
  page := h.page.trans h'.page

theorem isClosable_eq (w : World) (c : ConnectorId) :
    w.isClosable c = (w.wiring? c).any (·.reach = .full) := by
  simp only [isClosable, device?, wiring?, Option.any_map]
  rfl

theorem Wanes.isClosable {w v : World} (h : Wanes w v) : v.isClosable = w.isClosable := by
  funext c
  rw [isClosable_eq, isClosable_eq, h.wiring]

theorem stir_kept (w : World) (x : Stir) : Kept w (w.stir x) := by
  cases x with
  | signal c => exact signal_kept w c
  | loss i => exact disconnected_kept w i

theorem stirs_kept (w : World) (xs : List Stir) : Kept w (xs.foldl stir w) := by
  induction xs generalizing w with
  | nil => exact .refl w
  | cons x xs ih => exact (stir_kept w x).trans (ih _)

theorem endSession_kept (w : World) (i : Nat) : Kept w (w.endSession i).2 := by
  unfold endSession
  split
  · exact .refl w
  · next s hs => exact setSession_kept hs s.close_lasts fun _ => s.close_tied

theorem hangUp_kept (w : World) (s : Session ConnectorId Recovery) (c : ConnectorId) :
    Kept w (w.hangUp s c) := by
  have hcall : Kept w (w.callDisconnect c).2 := by
    refine callDevice_kept w c _ _ ?_
    intro d
    cases d <;> exact ⟨rfl, rfl⟩
  unfold hangUp
  split <;> next h => rw [h] at hcall; first | exact hcall | exact hcall.trans (log_kept _ _)

theorem closeSession_kept (w : World) (i : Nat) : Kept w (w.closeSession i) := by
  have hended := endSession_kept w i
  unfold closeSession
  split <;> next h => rw [h] at hended; first | exact hended | exact hended.trans (hangUp_kept _ _ _)

theorem closeConnector_kept (w : World) (c : ConnectorId) : Kept w (w.closeConnector c) := by
  unfold closeConnector
  split
  · exact note_kept w _
  · next p hp =>
    obtain ⟨x, hx, hd⟩ := device?_eq hp
    refine updateConnector_kept w c fun y hy => ?_
    obtain rfl : x = y := Option.some.inj (hx.symm.trans hy)
    simp [Wired.wiring, hd]
  · exact .refl w

theorem part_kept (w : World) (p : Parting) : Kept w (w.part p) := by
  cases p with
  | disconnect s c => exact hangUp_kept w s c
  | close c => exact closeConnector_kept w c

theorem close_closed (table : Bridge.ObjectTable) : table.close.2.closed = true := by
  unfold Bridge.ObjectTable.close
  split
  · assumption
  · rfl

theorem closeTable_wanes (w : World) (t : Nat) : Wanes w (w.closeTable t) := by
  unfold closeTable
  split
  · exact (Kept.refl w).wanes
  next table ht =>
    refine ⟨rfl, fun t' table' ht' => ?_, .of_eq rfl, fun _ => rfl, id, rfl⟩
    by_cases hne : t = t'
    · subst hne
      obtain ⟨hlt, -⟩ := List.getElem?_eq_some_iff.mp ht
      exact ⟨table.close.2, by simp [hlt], fun _ => close_closed table⟩
    · exact ⟨table', by simpa [hne] using ht', id⟩

theorem takeUp_wanes (w : World) (d : Duty) : Wanes w (w.takeUp d).2 := by
  cases d with
  | say label => exact (note_kept w _).wanes
  | release t => exact closeTable_wanes w t
  | hangUp i => exact (endSession_kept w i).wanes
  | close t => exact (Kept.refl w).wanes

/-- What follows when a duty is taken up: more losses, and the call that it ends with. -/
theorem perform_done (w : World) (d : Duty) (u : Unrest) :
    Wanes (Moment.mk (u.before.foldl stir w) d).done (w.perform d u) := by
  unfold perform Moment.done
  simp only
  have hstirred := stirs_kept ((u.before.foldl stir w).takeUp d).2 u.between
  cases ((u.before.foldl stir w).takeUp d).1 with
  | none => exact hstirred.wanes
  | some p => exact (hstirred.trans (part_kept _ p)).wanes

theorem perform_wanes (w : World) (d : Duty) (u : Unrest) : Wanes w (w.perform d u) :=
  ((stirs_kept w u.before).wanes.trans (takeUp_wanes _ d)).trans (perform_done w d u)

theorem performs_wane (w : World) (ds : List (Duty × Unrest)) :
    Wanes w (ds.foldl (fun w (d, u) => w.perform d u) w) := by
  induction ds generalizing w with
  | nil => exact (Kept.refl w).wanes
  | cons x ds ih => exact (perform_wanes w x.1 x.2).trans (ih _)

theorem moments_wane {w : World} {ds : List (Duty × Unrest)} {m : Moment} (hm : m ∈ moments w ds) :
    Wanes w m.before ∧ Wanes m.done (ds.foldl (fun w (d, u) => w.perform d u) w) := by
  induction ds generalizing w with
  | nil => cases hm
  | cons x ds ih =>
    rcases List.mem_cons.mp hm with rfl | hm
    · exact ⟨(stirs_kept w x.2.before).wanes, (perform_done w x.1 x.2).trans (performs_wane _ ds)⟩
    · obtain ⟨hbefore, hafter⟩ := ih hm
      exact ⟨(perform_wanes w x.1 x.2).trans hbefore, hafter⟩

theorem leave_wanes (w : World) (unrest : Nat → Unrest) : Wanes w.released (w.leave unrest) :=
  performs_wane _ _

/-- On a page that was left there is nothing more to do. -/
theorem duties_leave (w : World) (unrest : Nat → Unrest) : (w.leave unrest).duties = [] := by
  rw [duties, (leave_wanes w unrest).page]
  rfl

end World

end PageBoot
