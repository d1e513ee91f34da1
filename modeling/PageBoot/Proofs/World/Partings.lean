import Mathlib.Data.List.Basic
import PageBoot.Proofs.World.Duties

/-!
What leaving a page leaves behind. Labelled handlers, released objects and calls to connectors are
noted, and a connector is what such a call made of it. `Parted` says which calls were made and what
was noted; reports of losses, whenever they come, add nothing to either (`stirs_parted`). Of a page that
is left, `moments_parted` tells both from its moments, and `before_parted` what there is of them when the
turn of a duty comes.
-/

namespace PageBoot

open Page (ConnectorId Farewell)

/-! ## Calls and notes -/

/-- What is noted only when a page is left, or a module ended. -/
def Note.isOfLeaving : Note → Bool
  | .unload _ | .release _ | .disconnect _ | .close _ => true
  | _ => false

/-- The label of a handler that says that the page is left. -/
def Note.unloaded? : Note → Option Text
  | .unload label => some label
  | _ => none

theorem Note.filterMap_unloaded? (ns : List Note) :
    (ns.filter Note.isOfLeaving).filterMap Note.unloaded? = ns.filterMap Note.unloaded? := by
  rw [List.filterMap_filter]
  refine List.filterMap_congr fun n _ => ?_
  cases n <;> rfl

/-- The label of a handler of the host. -/
def Page.Farewell.label? : Farewell → Option Text
  | .labelled label => some label
  | .module _ => none

namespace World

open Connector Loader

def Duty.said? : Duty → Option Text
  | .say label => some label
  | _ => none

namespace Parting

def connector : Parting → ConnectorId
  | .disconnect _ c => c
  | .close c => c

/-- A script says what it is asked to do. -/
def note? : Parting → Device → Option Note
  | .disconnect .., .script s => some (.disconnect s.name)
  | .close _, .script s => some (.close s.name)
  | _, .guest _ => none

/-- What the call makes of a connector. -/
def leaves : Parting → Device → Device
  | .disconnect .., d => d.onDisconnect.device
  | .close _, .script s => .script s
  | .close _, .guest p => .guest p.close

theorem note?_isOfLeaving {p : Parting} {d : Device} {n : Note} (h : p.note? d = some n) :
    n.isOfLeaving = true := by
  cases p <;> cases d <;> cases h <;> rfl

end Parting

/-- From `w` to `v` the calls `ps` were made, which made of connectors what they are, and `ns` was
noted of leaving. -/
structure Parted (ps : List Parting) (ns : List Note) (w v : World) : Prop where
  notes : ∃ more, v.notes = w.notes ++ more ∧ more.filter Note.isOfLeaving = ns
  devices : ∀ c, v.device? c =
    (w.device? c).map fun d => (ps.filter (·.connector = c)).foldl (fun d p => p.leaves d) d

/-- No call was made, and some things were noted. -/
theorem Parted.of_notes {w v : World} {more : List Note} (hnotes : v.notes = w.notes ++ more)
    (hdevices : v.device? = w.device?) : Parted [] (more.filter Note.isOfLeaving) w v :=
  ⟨⟨more, hnotes, rfl⟩, fun c => by simp [hdevices]⟩

theorem Parted.of_eq {w v : World} (hnotes : v.notes = w.notes) (hdevices : v.device? = w.device?) :
    Parted [] [] w v :=
  .of_notes (hnotes.trans (List.append_nil _).symm) hdevices

theorem Parted.refl (w : World) : Parted [] [] w w := .of_eq rfl rfl

theorem Parted.trans {ps ps' : List Parting} {ns ns' : List Note} {w u v : World} (h : Parted ps ns w u)
    (h' : Parted ps' ns' u v) : Parted (ps ++ ps') (ns ++ ns') w v where
  notes := by
    obtain ⟨more, hu, rfl⟩ := h.notes
    obtain ⟨more', hv, rfl⟩ := h'.notes
    exact ⟨more ++ more', by rw [hv, hu, List.append_assoc], List.filter_append _ _⟩
  devices c := by
    rw [h'.devices, h.devices, Option.map_map]
    simp only [List.filter_append, List.foldl_append]
    rfl

/-- Nothing of leaving was said or called. -/
theorem Parted.trans_quiet {ps : List Parting} {ns : List Note} {w u v : World} (h : Parted ps ns w u)
    (h' : Parted [] [] u v) : Parted ps ns w v := by
  simpa using h.trans h'

theorem Parted.quiet_trans {ps : List Parting} {ns : List Note} {w u v : World} (h : Parted [] [] w u)
    (h' : Parted ps ns u v) : Parted ps ns w v := h.trans h'

/-! ## Losses -/

theorem setSession_parted (w : World) (i : Nat) (s : Session ConnectorId Recovery) :
    Parted [] [] w (w.setSession i s) := .of_eq rfl rfl

theorem log_parted (w : World) (e : Journal.Entry) : Parted [] [] w (w.log e) :=
  .of_eq rfl rfl

theorem note_parted (w : World) {n : Note} {ns : List Note} (h : [n].filter Note.isOfLeaving = ns) :
    Parted [] ns w (w.note n) :=
  h ▸ .of_notes rfl rfl

theorem recover_parted (w : World) (i : Nat) (r : Recovery) : Parted [] [] w (w.recover i r) := by
  cases r with
  | overlay => exact .of_eq rfl rfl
  | labelled label =>
    simp only [recover]
    split
    · exact .refl w
    · exact (setSession_parted w i _).trans (note_parted _ rfl)

theorem disconnected_parted (w : World) (i : Nat) : Parted [] [] w (w.disconnected i).2 := by
  unfold disconnected
  split
  · exact .refl w
  · split
    · exact setSession_parted w i _
    · simp only
      split
      · exact (setSession_parted w i _).trans (log_parted _ _)
      · exact ((setSession_parted w i _).trans (log_parted _ _)).trans (recover_parted _ i _)

theorem signal_parted (w : World) (c : ConnectorId) : Parted [] [] w (w.signal c) := by
  unfold signal
  split
  · exact .refl w
  · split
    · next l _ =>
      simp only
      split
      · exact (disconnected_parted w l.session).trans (note_parted _ rfl)
      · exact disconnected_parted w l.session
    · split
      · exact .refl w
      · exact log_parted w _

theorem signals_parted (w : World) (c : ConnectorId) (n : Nat) : Parted [] [] w (w.signals c n) := by
  induction n generalizing w with
  | zero => exact .refl w
  | succ n ih => exact (signal_parted w c).trans (ih _)

theorem stirs_parted (w : World) (xs : List Stir) : Parted [] [] w (xs.foldl stir w) := by
  induction xs generalizing w with
  | nil => exact .refl w
  | cons x xs ih =>
    cases x with
    | signal c => exact (signal_parted w c).trans (ih _)
    | loss i => exact (disconnected_parted w i).trans (ih _)

/-! ## Calls -/

/-- A call makes something of its connector, and nothing of others. -/
theorem updateConnector_device? (w : World) (c : ConnectorId) (d : Device) (c' : ConnectorId) :
    (w.updateConnector c fun x => { x with device := d }).device? c' =
      (w.device? c').map fun d' => if c = c' then d else d' := by
  simp only [device?, updateConnector, List.getElem?_modify]
  cases w.connectors[c']? with
  | none => rfl
  | some x => by_cases hc : c = c' <;> simp [hc]

/-- A call that is made, of a connector that is there. -/
theorem Parted.call {w u : World} {p : Parting} {d : Device} (hd : w.device? p.connector = some d)
    (hnotes : u.notes = w.notes ++ (p.note? d).toList)
    (hdevices : ∀ c, u.device? c = (w.device? c).map fun d' => if p.connector = c then p.leaves d else d') :
    Parted [p] (p.note? d).toList w u where
  notes := by
    refine ⟨_, hnotes, ?_⟩
    cases hn : p.note? d with
    | none => rfl
    | some n => simp [Parting.note?_isOfLeaving hn]
  devices c := by
    rw [hdevices]
    by_cases hc : p.connector = c
    · subst hc
      simp [hd]
    · simp [hc]

/-- A call to a connector that is not there. -/
theorem Parted.missed {w : World} {p : Parting} (hd : w.device? p.connector = none) : Parted [p] [] w w where
  notes := ⟨[], (List.append_nil _).symm, rfl⟩
  devices c := by
    by_cases hc : p.connector = c
    · subst hc
      simp [hd]
    · simp [hc]

/-- What is noted when a connector of this world is called. -/
def partingNotes (w : World) (p : Parting) : List Note := ((w.device? p.connector).bind p.note?).toList

theorem callDisconnect_parted (w : World) (s : Session ConnectorId Recovery) (c : ConnectorId) :
    Parted [.disconnect s c] (w.partingNotes (.disconnect s c)) w (w.callDisconnect c).2 := by
  cases hd : w.device? c with
  | none =>
    have hnone : w.partingNotes (.disconnect s c) = [] := by simp [partingNotes, Parting.connector, hd]
    simp only [callDisconnect, callDevice, hd, hnone]
    exact .missed hd
  | some d =>
    have hsome : w.partingNotes (.disconnect s c) = (Parting.note? (.disconnect s c) d).toList := by
      simp [partingNotes, Parting.connector, hd]
    simp only [callDisconnect, callDevice, hd, hsome]
    refine Parted.trans_quiet (.call (p := .disconnect s c) hd ?_ fun c' => ?_) (signals_parted _ c _)
    · cases d with
      | script script => rfl
      | guest p => exact (List.append_nil _).symm
    · rw [updateConnector_device?]
      cases d <;> rfl

theorem part_parted (w : World) (p : Parting) : Parted [p] (w.partingNotes p) w (w.part p) := by
  cases p with
  | disconnect s c =>
    have hcall := callDisconnect_parted w s c
    simp only [part, hangUp]
    split <;> next h =>
      rw [h] at hcall
      first | exact hcall | exact hcall.trans_quiet (log_parted _ _)
  | close c =>
    simp only [part, closeConnector, partingNotes, Parting.connector]
    cases hd : w.device? c with
    | none => exact .missed hd
    | some d =>
      refine .call (p := .close c) hd ?_ fun c' => ?_
      · cases d with
        | script s => rfl
        | guest p => exact (List.append_nil _).symm
      · cases d with
        | guest p => exact updateConnector_device? w c _ c'
        | script s =>
          show w.device? c' = _
          by_cases hc : c = c'
          · subst hc
            simp [hd, Parting.connector, Parting.leaves]
          · simp [Parting.connector, hc]

/-! ## Moments -/

namespace Moment

/-- The call that the duty ends with. -/
def call? (m : Moment) : Option Parting := (m.before.takeUp m.duty).1

/-- What is noted of the duty, its call included. -/
def notes (m : Moment) : List Note :=
  match m.duty with
  | .say label => [.unload label]
  | .release t => (m.before.tables[t]?).elim [] fun objects =>
    (objects.close.1.filterMap Bridge.releaseName?).map .release
  | .hangUp _ | .close _ => m.call?.toList.flatMap m.before.partingNotes

end Moment

/-- A handler of the host says its label, and nobody else says one. -/
theorem Moment.notes_unloaded? (m : Moment) : m.notes.filterMap Note.unloaded? = m.duty.said?.toList := by
  have hcalls (p : Parting) : (m.before.partingNotes p).filterMap Note.unloaded? = [] := by
    unfold partingNotes
    cases m.before.device? p.connector with
    | none => rfl
    | some d => cases p <;> cases d <;> rfl
  obtain ⟨w, d⟩ := m
  cases d with
  | say label => rfl
  | release t =>
    simp only [Moment.notes]
    cases w.tables[t]? <;> simp [Note.unloaded?, Duty.said?]
  | hangUp i =>
    simp only [Moment.notes]
    cases (Moment.mk w (.hangUp i)).call? <;> simp [hcalls, Duty.said?]
  | close t =>
    simp only [Moment.notes]
    cases (Moment.mk w (.close t)).call? <;> simp [hcalls, Duty.said?]

theorem partingNotes_of_eq {w v : World} (h : v.device? = w.device?) (p : Parting) :
    v.partingNotes p = w.partingNotes p := by
  rw [partingNotes, partingNotes, h]

theorem Parted.device?_eq {ns : List Note} {w v : World} (h : Parted [] ns w v) : v.device? = w.device? := by
  funext c
  simpa using h.devices c

/-- A table that is closed releases its objects. -/
theorem closeTable_parted (w : World) (t : Nat) :
    Parted [] (Moment.mk w (.release t)).notes w (w.closeTable t) := by
  simp only [closeTable, Moment.notes]
  cases w.tables[t]? with
  | none => exact .refl w
  | some objects =>
    refine ⟨⟨_, rfl, List.filter_eq_self.mpr fun n hn => ?_⟩, fun _ => Option.map_id'.symm⟩
    obtain ⟨name, -, rfl⟩ := List.mem_map.mp hn
    rfl

/-- A duty up to its call, and what is noted of the call. -/
theorem takeUp_parted (w : World) (d : Duty) : ∃ ns, Parted [] ns w (w.takeUp d).2 ∧
    (Moment.mk w d).notes = ns ++ (w.takeUp d).1.toList.flatMap w.partingNotes := by
  cases d with
  | say label => exact ⟨_, note_parted w rfl, rfl⟩
  | release t => exact ⟨_, closeTable_parted w t, (List.append_nil _).symm⟩
  | hangUp i =>
    refine ⟨[], ?_, rfl⟩
    simp only [takeUp, endSession]
    cases w.sessions[i]? with
    | none => exact .refl w
    | some s => exact setSession_parted w i _
  | close t => exact ⟨[], .refl w, rfl⟩

/-- A duty that is done leaves its notes, and what its call makes of a connector. -/
theorem perform_parted (w : World) (d : Duty) (u : Unrest) :
    let m : Moment := ⟨u.before.foldl stir w, d⟩
    Parted m.call?.toList m.notes w (w.perform d u) := by
  intro m
  obtain ⟨ns, htaken, hnotes⟩ := takeUp_parted m.before d
  have hbetween : Parted [] ns m.before (u.between.foldl stir (m.before.takeUp d).2) :=
    htaken.trans_quiet (stirs_parted _ u.between)
  have hdone : Parted m.call?.toList (ns ++ m.call?.toList.flatMap m.before.partingNotes) m.before
      (m.call?.elim (u.between.foldl stir (m.before.takeUp d).2)
        (part (u.between.foldl stir (m.before.takeUp d).2))) := by
    cases m.call? with
    | none => simpa using hbetween
    | some p =>
      have hcall := part_parted (u.between.foldl stir (m.before.takeUp d).2) p
      rw [partingNotes_of_eq hbetween.device?_eq] at hcall
      simpa using hbetween.trans hcall
  rw [hnotes]
  exact (stirs_parted w u.before).quiet_trans hdone

/-- What was called and noted when all duties are done. -/
theorem moments_parted (w : World) (ds : List (Duty × Unrest)) :
    Parted ((moments w ds).filterMap (·.call?)) ((moments w ds).flatMap (·.notes)) w
      (ds.foldl (fun w (d, u) => w.perform d u) w) := by
  rw [List.filterMap_eq_flatMap_toList]
  induction ds generalizing w with
  | nil => exact .refl w
  | cons x ds ih => exact (perform_parted w x.1 x.2).trans (ih (w.perform x.1 x.2))

/-- What was called and noted when the turn of a duty comes. -/
theorem before_parted {w : World} {ds : List (Duty × Unrest)} {earlier later : List Moment} {m : Moment}
    (h : moments w ds = earlier ++ m :: later) :
    Parted (earlier.filterMap (·.call?)) (earlier.flatMap (·.notes)) w m.before := by
  rw [List.filterMap_eq_flatMap_toList]
  induction ds generalizing w earlier with
  | nil => simp [moments] at h
  | cons x ds ih =>
    cases earlier with
    | nil =>
      obtain ⟨rfl, -⟩ := List.cons.inj h
      exact stirs_parted w x.2.before
    | cons m' earlier =>
      obtain ⟨rfl, hrest⟩ := List.cons.inj h
      exact (perform_parted w x.1 x.2).trans (ih hrest)

/-- The labels of the host's handlers are said, newest first. -/
theorem leave_unloaded (w : World) (unrest : Nat → Unrest) :
    ∃ more, (w.leave unrest).notes = w.notes ++ more ∧
      more.filterMap Note.unloaded? = w.page.handlers.unload.filterMap Farewell.label? := by
  have hparted := moments_parted w.released (w.duties.mapIdx fun n d => (d, unrest n))
  obtain ⟨more, hmore, hsaid⟩ := hparted.notes
  have hhandler (f : Farewell) : (w.dutiesOf f).filterMap Duty.said? = f.label?.toList := by
    cases f with
    | labelled label => rfl
    | module j =>
      simp only [dutiesOf]
      cases w.modules[j]? with
      | none => rfl
      | some m => cases ht : m.table <;> simp [ht, Duty.said?, Farewell.label?]
  have hclosing : (w.page.owned.map Duty.close).filterMap Duty.said? = [] := by
    simp [List.filterMap_map, Function.comp_def, Duty.said?]
  refine ⟨more, hmore, ?_⟩
  calc more.filterMap Note.unloaded?
    _ = (w.leaving unrest).flatMap fun m => m.duty.said?.toList := by
      rw [← Note.filterMap_unloaded?, hsaid, List.filterMap_flatMap]
      simp only [Moment.notes_unloaded?]
      rfl
    _ = w.duties.filterMap Duty.said? := by
      rw [← leaving_duties w unrest, List.filterMap_map, List.filterMap_eq_flatMap_toList]
      rfl
    _ = w.page.handlers.unload.filterMap Farewell.label? := by
      rw [duties, List.filterMap_append, hclosing, List.append_nil, List.filterMap_flatMap,
        List.filterMap_eq_flatMap_toList]
      simp only [hhandler]

end World

end PageBoot
