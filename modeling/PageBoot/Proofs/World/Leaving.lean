import PageBoot.Proofs.Lists
import PageBoot.Proofs.World.Owing
import PageBoot.Proofs.World.Partings

/-!
How a page is left. Handlers run newest first, and that of a bridged module closes its table of objects
and then ends its session; only then is closed what factories returned. `leave_orderly` says so for
every history of a page and whatever losses are reported meanwhile: each module is taken down once, its
connector is told exactly if the session is connected when its turn comes, and each closable connector
is closed once for each time a factory returned it; and what is noted and what connectors are afterwards
comes of just these calls.
-/

namespace PageBoot.World

open Page Connector Loader

/-! ## The duties of modules -/

theorem dutiesOf_module {w : World} {j t : Nat} {k : Link} (hk : w.links[j]? = some k)
    (ht : k.table = some t) : w.dutiesOf (.module j) = [.release t, .hangUp k.session] := by
  obtain ⟨m, hm, rfl⟩ := exists_module hk
  have ht : m.table = some t := ht
  simp only [dutiesOf, hm, ht]
  rfl

/-- What the handlers of some modules are about, by the links of the modules. -/
theorem duties_filterMap {w : World} {g : Duty → Option Nat} {e : Link → Option Nat}
    (hsay : ∀ label, g (.say label) = none)
    (hmodule : ∀ m : DevModule, ((m.table.map Duty.release).toList ++ [Duty.hangUp m.session]).filterMap g =
      (e m.link).toList) (fs : List Farewell) :
    (fs.flatMap w.dutiesOf).filterMap g =
      fs.filterMap fun f => (f.module?.bind (w.links[·]?)).bind e := by
  rw [List.filterMap_flatMap, List.filterMap_eq_flatMap_toList]
  congr 1
  funext f
  cases f with
  | labelled label => simp [dutiesOf, hsay, Farewell.module?]
  | module j =>
    simp only [dutiesOf, Farewell.module?, Option.bind_some, links, List.getElem?_map]
    cases w.modules[j]? with
    | none => rfl
    | some m => exact hmodule m

theorem Bonded.pairwise {w : World} {fs : List Farewell} (h : w.Bonded fs) {e : Link → Option Nat}
    (he : ∀ k k' : Link, k'.session < k.session → (∀ t ∈ k.table, ∀ t' ∈ k'.table, t' < t) →
      ∀ x ∈ e k, ∀ y ∈ e k', y < x) :
    (fs.filterMap fun f => (f.module?.bind (w.links[·]?)).bind e).Pairwise (· > ·) := by
  rw [List.pairwise_filterMap]
  refine (List.pairwise_filterMap.mp h.order).imp fun {f f'} horder x hx y hy => ?_
  obtain ⟨k, hk, hx⟩ := Option.bind_eq_some_iff.mp hx
  obtain ⟨j, hj, hk⟩ := Option.bind_eq_some_iff.mp hk
  obtain ⟨k', hk', hy⟩ := Option.bind_eq_some_iff.mp hy
  obtain ⟨i, hi, hk'⟩ := Option.bind_eq_some_iff.mp hk'
  obtain ⟨hsession, htable⟩ := (horder j hj i hi).2 k k' hk hk'
  exact he k k' hsession htable x hx y hy

/-- Sessions are ended newest first, and so tables are closed. -/
theorem Bonded.newest_first {w : World} {fs : List Farewell} (h : w.Bonded fs) :
    ((fs.flatMap w.dutiesOf).filterMap Duty.session?).Pairwise (· > ·) ∧
      ((fs.flatMap w.dutiesOf).filterMap Duty.table?).Pairwise (· > ·) := by
  constructor
  · rw [duties_filterMap (e := fun k => some k.session) (fun _ => rfl) fun m => ?_]
    · refine h.pairwise fun k k' hsession _ x hx y hy => ?_
      cases hx
      cases hy
      exact hsession
    · cases m.table <;> rfl
  · rw [duties_filterMap (e := Link.table) (fun _ => rfl) fun m => ?_]
    · exact h.pairwise fun k k' _ htable => htable
    · cases ht : m.table <;> simp [Duty.table?, DevModule.link, ht]

/-! ## Leaving in order -/

/-- Module `j` is taken down once: its table `t` is closed, and then its session `i` is ended, for which
connector `c` is told if the session is connected at that moment. -/
structure TakesDown (w : World) (ms : List Moment) (v : World) (j : Nat) (c : ConnectorId) (t i : Nat) :
    Prop where
  link : ∃ takesCalls, w.links[j]? = some ⟨some c, i, some t, takesCalls⟩
  duties : w.dutiesOf (.module j) = [.release t, .hangUp i]
  releases : ∃ m objects, ms.filter (·.duty.table? = some t) = [m] ∧
    m.before.tables[t]? = some objects ∧ m.done = { m.before with
      tables := m.before.tables.set t objects.close.2
      notes := m.before.notes ++ (objects.close.1.filterMap Bridge.releaseName?).map Note.release }
  hangsUp : ∃ m s, ms.filter (·.duty.session? = some i) = [m] ∧ m.before.sessions[i]? = some s ∧
    m.disconnects? = if s.status = .connected then some c else none
  closed : ∃ objects, v.tables[t]? = some objects ∧ objects.closed = true
  ended : ∃ s, v.sessions[i]? = some s ∧ s.status ≠ .connected ∧ s.handle = none

/-- A page that owes `d` is left in `w`, in the moments `ms`, which end in `v`. -/
structure Leaves (d : Dues) (w : World) (ms : List Moment) (v : World) : Prop where
  /-- Handlers run newest first, and then what factories returned is closed. -/
  order : ms.map (·.duty) = d.handlers.unload.flatMap w.dutiesOf ++ d.returned.map .close
  modules : ∀ j ∈ d.handlers.unload.filterMap Farewell.module?, ∃ c t i, TakesDown w ms v j c t i
  newest_first : (d.handlers.unload.filterMap Farewell.module?).Pairwise (· > ·)
  /-- No connector is told to disconnect but for a module. -/
  disconnects : ∀ m ∈ ms, m.disconnects? ≠ none →
    ∃ j ∈ d.handlers.unload.filterMap Farewell.module?, ∃ k, w.links[j]? = some k ∧
      m.duty = .hangUp k.session
  disconnects_first : ms.Pairwise fun m m' => m.closes? ≠ none → m'.disconnects? = none
  closes : ms.filterMap (·.closes?) =
    d.returned.filterMap fun t => t.connector?.filter w.isClosable
  /-- Connectors that no factory returned are not closed. -/
  spared : ∀ c, (∀ t ∈ d.returned, t.connector? ≠ some c) → ∀ m ∈ ms, m.closes? ≠ some c
  /-- The calls are made, and nothing else is said or done to a connector. -/
  made : Parted (ms.filterMap (·.call?)) (ms.flatMap (·.notes)) w v
  /-- So far only the calls of earlier moments were made. -/
  meanwhile : ∀ earlier m later, ms = earlier ++ m :: later →
    Parted (earlier.filterMap (·.call?)) (earlier.flatMap (·.notes)) w m.before
  /-- Once more, with nothing owed in between, leaving changes nothing. -/
  again : ∀ xs, v.owing {} xs = {} → ∀ unrest, (v.deeds xs).leave unrest = v.deeds xs

section

variable {w : World} {d : Dues} {unrest : Nat → Unrest}

theorem Owes.duties (h : w.Owes d) :
    w.duties = d.handlers.unload.flatMap w.dutiesOf ++ d.returned.map .close := by
  rw [World.duties, h.handlers, h.owned]

theorem leaving_wanes {m : Moment} (hm : m ∈ w.leaving unrest) :
    Wanes w.released m.before ∧ Wanes m.done (w.leave unrest) := moments_wane hm

theorem Owes.moments_fall (h : w.Owes d) (unrest : Nat → Unrest) :
    ((w.leaving unrest).filterMap (·.duty.session?)).Pairwise (· > ·) ∧
      ((w.leaving unrest).filterMap (·.duty.table?)).Pairwise (· > ·) := by
  have hduties (g : Duty → Option Nat) : (w.leaving unrest).filterMap (g ·.duty) = w.duties.filterMap g := by
    rw [← leaving_duties w unrest, List.filterMap_map]
    rfl
  have hclose (g : Duty → Option Nat) (hg : ∀ t, g (.close t) = none) :
      (d.returned.map Duty.close).filterMap g = [] := by
    simp [hg]
  rw [hduties, hduties, h.duties, List.filterMap_append, List.filterMap_append, hclose _ fun _ => rfl,
    hclose _ fun _ => rfl, List.append_nil, List.append_nil]
  exact h.bonded.newest_first

/-- The one moment of a duty that is about a session or a table. -/
theorem exists_moment {x : Duty} (hx : x ∈ w.duties) {g : Duty → Option Nat} {n : Nat}
    (hg : g x = some n)
    (hfall : ((w.leaving unrest).filterMap (g ·.duty)).Pairwise (· > ·)) :
    ∃ m ∈ w.leaving unrest, m.duty = x ∧ (w.leaving unrest).filter (g ·.duty = some n) = [m] := by
  rw [← leaving_duties w unrest] at hx
  obtain ⟨m, hm, rfl⟩ := List.mem_map.mp hx
  refine ⟨m, hm, rfl, List.filter_eq_singleton hm (by simpa using hg) ?_⟩
  refine (List.pairwise_filterMap.mp hfall).imp fun {m m'} hlt h => ?_
  simp only [decide_eq_true_eq] at h
  refine decide_eq_false fun h' => ?_
  exact Nat.lt_irrefl n (hlt n h n h')

/-- A table is closed in its moment, and stays so. -/
theorem closed_of_release {m : Moment} {t : Nat} (hm : m ∈ w.leaving unrest) (ht : m.duty = .release t)
    (hlt : t < w.tables.length) :
    ∃ objects, m.before.tables[t]? = some objects ∧ m.done = { m.before with
        tables := m.before.tables.set t objects.close.2
        notes := m.before.notes ++ (objects.close.1.filterMap Bridge.releaseName?).map Note.release } ∧
      ∃ objects', (w.leave unrest).tables[t]? = some objects' ∧ objects'.closed = true := by
  obtain ⟨hbefore, hafter⟩ := leaving_wanes hm
  obtain ⟨objects, hobjects, -⟩ := hbefore.tables t _ (List.getElem?_eq_getElem hlt)
  have hdone := Moment.done_of_release ht hobjects
  have hclosed : m.done.tables[t]? = some objects.close.2 := by
    obtain ⟨hlt', -⟩ := List.getElem?_eq_some_iff.mp hobjects
    simp [hdone, hlt']
  obtain ⟨objects', hobjects', hstays⟩ := hafter.tables t _ hclosed
  exact ⟨objects, hobjects, hdone, objects', hobjects', hstays (close_closed objects)⟩

/-- A session is ended in its moment, with a call to its connector if it is connected, and stays so. -/
theorem ended_of_hangUp {m : Moment} {i : Nat} {s : Session ConnectorId Recovery} {c : ConnectorId}
    (hw : w.Tied) (hm : m ∈ w.leaving unrest) (hi : m.duty = .hangUp i) (hs : w.sessions[i]? = some s)
    (hsettled : s.isSettled = true) (hhandle : s.status = .connected → s.handle = some c) :
    (∃ s', m.before.sessions[i]? = some s' ∧
        m.disconnects? = if s'.status = .connected then some c else none) ∧
      ∃ t, (w.leave unrest).sessions[i]? = some t ∧ t.status ≠ .connected ∧ t.handle = none := by
  obtain ⟨hbefore, hafter⟩ := leaving_wanes hm
  obtain ⟨s', hs', hlasts⟩ := hbefore.sessions i s hs
  obtain ⟨hsettled', hsame⟩ := hlasts hsettled
  obtain ⟨hcall, hdone⟩ := Moment.disconnects?_of_hangUp hi hs'
  have htied : s'.IsTied := hbefore.tied hw s' (List.mem_of_getElem? hs')
  refine ⟨⟨s', hs', ?_⟩, ?_⟩
  · rw [hcall]
    split
    · next hconnected =>
      obtain rfl := hsame hconnected
      exact hhandle hconnected
    · next hstatus => exact htied hstatus
  · have hclosed : s'.close.2.status ≠ .connected := by
      unfold Session.close
      simp only
      split
      · nofun
      · assumption
    obtain ⟨t, ht, hlasts'⟩ := hafter.sessions i _ hdone
    obtain ⟨-, hsame'⟩ := hlasts' (s'.close_lasts hsettled').1
    have hstatus : t.status ≠ .connected := fun hconnected => hclosed (hsame' hconnected ▸ hconnected)
    exact ⟨t, ht, hstatus, (leave_wanes w unrest).tied hw t (List.mem_of_getElem? ht) hstatus⟩

theorem Owes.takesDown (h : w.Owes d) {j : Nat}
    (hj : j ∈ d.handlers.unload.filterMap Farewell.module?) :
    ∃ c t i, TakesDown w (w.leaving unrest) (w.leave unrest) j c t i := by
  obtain ⟨⟨connector, i, table, takesCalls⟩, hk, c, t, s, hc, ht, hlt, hs, hsettled, hhandle⟩ :=
    h.bonded.bound j hj
  simp only at hc ht hs
  subst hc ht
  have hduties : w.dutiesOf (.module j) = [.release t, .hangUp i] := dutiesOf_module hk rfl
  have hmem {x : Duty} (hx : x ∈ [.release t, .hangUp i]) : x ∈ w.duties := by
    obtain ⟨f, hf, hfj⟩ := List.mem_filterMap.mp hj
    cases f with
    | labelled label => cases hfj
    | module j' =>
      cases hfj
      rw [h.duties, List.mem_append, List.mem_flatMap]
      exact .inl ⟨_, hf, by rwa [hduties]⟩
  obtain ⟨hsessions, htables⟩ := h.moments_fall unrest
  obtain ⟨m, hm, hrelease, honce⟩ := exists_moment (hmem (by simp)) (x := .release t) rfl htables
  obtain ⟨m', hm', hhangUp, honce'⟩ := exists_moment (hmem (by simp)) (x := .hangUp i) rfl hsessions
  obtain ⟨objects, hobjects, hdone, hclosed⟩ := closed_of_release hm hrelease hlt
  obtain ⟨⟨s', hs', hcall⟩, hended⟩ := ended_of_hangUp h.tied hm' hhangUp hs hsettled hhandle
  exact ⟨c, t, i, ⟨takesCalls, hk⟩, hduties, ⟨m, objects, honce, hobjects, hdone⟩,
    ⟨m', s', honce', hs', hcall⟩, hclosed, hended⟩

theorem release_of_free {p : Page} (hhandlers : p.handlers = {}) (howned : p.owned = []) :
    ({ p with handlers := {}, owned := [] } : Page) = p := by
  cases p
  cases hhandlers
  cases howned
  rfl

/-- Nothing owed, nothing done. -/
theorem Owes.leave_of_nothing (h : w.Owes {}) (unrest : Nat → Unrest) : w.leave unrest = w := by
  have hduties : w.duties = [] := by rw [h.duties]; rfl
  rw [leave, hduties]
  exact congrArg (fun page => { w with page }) (release_of_free h.handlers h.owned)

theorem Owes.disconnects (h : w.Owes d) {m : Moment} (hm : m ∈ w.leaving unrest)
    (hcall : m.disconnects? ≠ none) :
    ∃ j ∈ d.handlers.unload.filterMap Farewell.module?, ∃ k, w.links[j]? = some k ∧
      m.duty = .hangUp k.session := by
  obtain ⟨i, hi⟩ := Moment.hangUp_of_disconnects? hcall
  have hmem : m.duty ∈ (w.leaving unrest).map (·.duty) := List.mem_map_of_mem hm
  rw [leaving_duties, h.duties, hi] at hmem
  rcases List.mem_append.mp hmem with hmem | hmem
  · obtain ⟨f, hf, hmem⟩ := List.mem_flatMap.mp hmem
    cases f with
    | labelled label => cases List.mem_singleton.mp hmem
    | module j =>
      have hj : j ∈ d.handlers.unload.filterMap Farewell.module? := List.mem_filterMap.mpr ⟨_, hf, rfl⟩
      obtain ⟨k, hk, c, t, -, -, ht, -⟩ := h.bonded.bound j hj
      rw [dutiesOf_module hk ht] at hmem
      have hsession : i = k.session := by simpa using hmem
      exact ⟨j, hj, k, hk, by rw [hi, hsession]⟩
  · obtain ⟨t, -, ht⟩ := List.mem_map.mp hmem
    cases ht

theorem thing?_of_dutiesOf {f : Farewell} {x : Duty} (hx : x ∈ w.dutiesOf f) : x.thing? = none := by
  cases f with
  | labelled label =>
    obtain rfl := List.mem_singleton.mp hx
    rfl
  | module j =>
    simp only [dutiesOf] at hx
    split at hx
    · cases hx
    · rcases List.mem_append.mp hx with hx | hx
      · obtain ⟨t, -, rfl⟩ := by simpa using hx
        rfl
      · obtain rfl := List.mem_singleton.mp hx
        rfl

/-- What is closed is what factories returned, if it can be closed. -/
theorem Owes.closes (h : w.Owes d) :
    (w.leaving unrest).filterMap (·.closes?) =
      d.returned.filterMap fun t => t.connector?.filter w.isClosable := by
  let e (x : Duty) : Option ConnectorId := x.thing?.bind fun t => t.connector?.filter w.isClosable
  have hmoment (m : Moment) (hm : m ∈ w.leaving unrest) : m.closes? = e m.duty := by
    rw [m.closes?_eq, (leaving_wanes hm).1.isClosable]
    rfl
  have hhandlers : (d.handlers.unload.flatMap w.dutiesOf).filterMap e = [] := by
    rw [List.filterMap_eq_nil_iff]
    intro x hx
    obtain ⟨f, -, hf⟩ := List.mem_flatMap.mp hx
    simp only [e, thing?_of_dutiesOf hf, Option.bind_none]
  calc (w.leaving unrest).filterMap (·.closes?)
    _ = ((w.leaving unrest).map (·.duty)).filterMap e := by
      rw [List.filterMap_map]
      exact List.filterMap_congr hmoment
    _ = d.returned.filterMap fun t => t.connector?.filter w.isClosable := by
      rw [leaving_duties, h.duties, List.filterMap_append, hhandlers, List.nil_append, List.filterMap_map]
      rfl

/-- Handlers close nothing, and behind them no connector is told to disconnect. -/
theorem Owes.disconnects_first (h : w.Owes d) :
    (w.leaving unrest).Pairwise fun m m' => m.closes? ≠ none → m'.disconnects? = none := by
  have horder := leaving_duties w unrest
  rw [h.duties] at horder
  obtain ⟨fs, cs, hms, hfs, hcs⟩ := List.map_eq_append_iff.mp horder
  have hhandler (m : Moment) (hm : m ∈ fs) : m.closes? = none := by
    have hduty : m.duty ∈ d.handlers.unload.flatMap w.dutiesOf := hfs ▸ List.mem_map_of_mem hm
    obtain ⟨f, -, hf⟩ := List.mem_flatMap.mp hduty
    rw [m.closes?_eq, thing?_of_dutiesOf hf, Option.bind_none]
  have hclosing (m : Moment) (hm : m ∈ cs) : m.disconnects? = none := by
    have hduty : m.duty ∈ d.returned.map Duty.close := hcs ▸ List.mem_map_of_mem hm
    obtain ⟨t, -, ht⟩ := List.mem_map.mp hduty
    by_contra hcall
    obtain ⟨i, hi⟩ := Moment.hangUp_of_disconnects? hcall
    cases ht.trans hi
  rw [hms, List.pairwise_append]
  exact ⟨List.pairwise_of_forall_mem_list fun m hm _ _ hcloses => absurd (hhandler m hm) hcloses,
    List.pairwise_of_forall_mem_list fun _ _ m hm _ => hclosing m hm, fun _ _ m hm _ => hclosing m hm⟩

theorem Owes.leaves (h : w.Owes d) (unrest : Nat → Unrest) :
    Leaves d w (w.leaving unrest) (w.leave unrest) where
  order := (leaving_duties w unrest).trans h.duties
  modules _ hj := h.takesDown hj
  newest_first := h.bonded.order.imp And.left
  disconnects _ hm hcall := h.disconnects hm hcall
  disconnects_first := h.disconnects_first
  closes := h.closes
  spared c hc m hm hcall := by
    have hmem : c ∈ (w.leaving unrest).filterMap (·.closes?) := List.mem_filterMap.mpr ⟨m, hm, hcall⟩
    rw [h.closes] at hmem
    obtain ⟨t, ht, hfilter⟩ := List.mem_filterMap.mp hmem
    exact hc t ht (Option.filter_eq_some_iff.mp hfilter).1
  made :=
    have h := moments_parted w.released (w.duties.mapIdx fun n d => (d, unrest n))
    ⟨h.notes, h.devices⟩
  meanwhile _ _ _ hms :=
    have h := before_parted hms
    ⟨h.notes, h.devices⟩
  again xs hxs unrest' := by
    have hleft : (w.leave unrest).Owes {} := deed_owes h (.leave unrest)
    have hlater := deeds_owes hleft xs
    rw [hxs] at hlater
    exact hlater.leave_of_nothing unrest'

end

/-- A page of which nothing was asked yet. -/
structure IsFresh (w : World) : Prop where
  handlers : w.page.handlers = {}
  owned : w.page.owned = []
  sessions : w.sessions = []

/-- Pages are fresh when they are opened. -/
theorem start_fresh {markup location userAgent compatMode : Text} {page : Page}
    (h : Page.open? markup location userAgent compatMode = .ok page) (draws : List Int)
    (connectors : List Connector.Script) : (World.start page draws connectors).IsFresh := by
  simp only [Page.open?] at h
  generalize (if compatMode.isEmpty then standardsMode else compatMode) = mode at h
  split at h
  · cases h
  · split at h
    · cases h
      exact ⟨rfl, rfl, rfl⟩
    · cases h

theorem IsFresh.owes {w : World} (hw : w.IsFresh) : w.Owes {} where
  handlers := hw.handlers
  owned := hw.owned
  tied s hs := by
    rw [hw.sessions] at hs
    cases hs
  bonded := bonded_nil w

/-- **How a page is left.** Whatever happened on a page since it was opened, what is owed when it is
left is what loads and factories returned since it was last left; and whatever losses are reported
meanwhile, it is left in order. -/
theorem leave_orderly {w : World} (hw : w.IsFresh) (xs : List Deed) (unrest : Nat → Unrest) :
    let v := w.deeds xs
    Leaves (w.owing {} xs) v (v.leaving unrest) (v.leave unrest) :=
  (deeds_owes hw.owes xs).leaves unrest

/-- A page with two plugin elements, and with one of its two connectors under the global `g`. -/
def quay : World :=
  .start {
    dom := {
      document := .tree 1 (.element "embed" [("type", "x")]) ++ .tree 2 (.element "object" [("type", "x")])
      next := 3 }
    head := 0, body := 0, location := {}
    globals := [([103], .connector 0)] } [] [{ name := "a" }, { name := "b", reach := .full }]

/-- The other connector is returned for both elements, and three modules are bridged. -/
def quayDeeds : List Deed :=
  [.registerPlugin { key := "x", make := .thing (.connector 1) },
    .move (.load underG none [65] []), .move (.load underG none [66] []), .move (.load underG none [67] [])]

/-- The connector that says that it is called, and whether it is closed. -/
def calledBy? : Note → Option (Bool × Text)
  | .disconnect connector => some (false, connector)
  | .close connector => some (true, connector)
  | _ => none

/-- While the newest module is ended, the oldest loses its connection. So the connector that they share
is told for two of them, and the other one is closed twice; and so both say. -/
theorem leave_orderly_quay :
    let v := quay.deeds quayDeeds
    let ms := v.leaving fun n => if n = 1 then { between := [.loss 0] } else {}
    quay.IsFresh ∧ Leaves (quay.owing {} quayDeeds) v ms
        (v.leave fun n => if n = 1 then { between := [.loss 0] } else {}) ∧
      ms.filterMap (·.duty.session?) = [2, 1, 0] ∧ ms.filterMap (·.disconnects?) = [0, 0] ∧
      ms.filterMap (·.closes?) = [1, 1] ∧
      ∃ more, (v.leave fun n => if n = 1 then { between := [.loss 0] } else {}).notes = v.notes ++ more ∧
        (more.filter Note.isOfLeaving).map calledBy? =
          [some (false, [97]), some (false, [97]), some (true, [98]), some (true, [98])] := by
  intro v ms
  have hfresh : quay.IsFresh := ⟨rfl, rfl, rfl⟩
  have hleaves := leave_orderly hfresh quayDeeds fun n => if n = 1 then { between := [.loss 0] } else {}
  obtain ⟨more, hmore, hsaid⟩ := hleaves.made.notes
  refine ⟨hfresh, hleaves, ?_, ?_, ?_, more, hmore, ?_⟩
  · decide +kernel
  · decide +kernel
  · rw [hleaves.closes]
    decide +kernel
  · rw [hsaid]
    decide +kernel

end PageBoot.World
