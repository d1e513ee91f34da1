import PageBoot.Proofs.World.Duties
import PageBoot.Proofs.World.Siblings

/-!
What a page owes when it is left. `Dues` are an account of that, kept by what loads and factories
returned along a history (`owing`); the page keeps the same account (`deeds_owes`), each handler of a
module with a session and a table of its own.
-/

namespace PageBoot.World

open Page Connector Loader

/-! ## What a page owes -/

/-- What is owed when a page is left: handlers, newest first, and what factories returned, oldest
first. -/
structure Dues where
  handlers : Handlers := {}
  returned : List Thing := []

namespace Dues

/-- A module that was bridged without a failure is to be ended. -/
def load (d : Dues) : Bridged → Dues
  | ⟨some j, none⟩ => { d with handlers.unload := .module j :: d.handlers.unload }
  | _ => d

theorem load_of_failure (d : Dues) {b : Bridged} (h : b.failure ≠ none) : d.load b = d := by
  unfold load
  split
  · exact absurd rfl h
  · rfl

/-- What factories returned is to be closed. -/
def add (d : Dues) (ts : List Thing) : Dues := { d with returned := d.returned ++ ts }

theorem add_nil (d : Dues) : d.add [] = d := by
  rw [add, List.append_nil]

theorem add_add (d : Dues) (ts us : List Thing) : (d.add ts).add us = d.add (ts ++ us) := by
  rw [add, add, add, List.append_assoc]

/-- The host asked for some of the page's events. -/
def listen (d : Dues) (resize : Option Text) (beforeUnload : Option Question) (unload : Option Text) :
    Dues := { d with handlers := {
  resize := resize.toList ++ d.handlers.resize
  beforeUnload := beforeUnload.toList ++ d.handlers.beforeUnload
  unload := (unload.map .labelled).toList ++ d.handlers.unload } }

end Dues

/-- What may happen to a page. -/
inductive Deed where
  | move (m : Move)
  | stir (x : Stir)
  | act (a : Act)
  | registerPlugin (f : Factory)
  | setGlobal (name : Text) (t : Thing)
  | bindCapability (id : Text) (t : Thing)
  | initHandlers (resize : Option Text) (beforeUnload : Option Question) (unload : Option Text)
  | closeTable (t : Nat)
  | closeSession (i : Nat)
  | leave (unrest : Nat → Unrest)

def deed (w : World) : Deed → World
  | .move m => w.move m
  | .stir x => w.stir x
  | .act a => w.act a
  | .registerPlugin f => w.registerPlugin f
  | .setGlobal name t => w.onPage (·.setGlobal name t)
  | .bindCapability id t => w.onPage fun p => (p.bindCapability id t).toOption.getD p
  | .initHandlers resize beforeUnload unload =>
    w.onPage (·.initHandlers resize beforeUnload (unload.map .labelled))
  | .closeTable t => w.closeTable t
  | .closeSession i => w.closeSession i
  | .leave unrest => w.leave unrest

def deeds (w : World) (xs : List Deed) : World := xs.foldl deed w

/-- What factories return that are run one after another. -/
def returns : World → List (Html.NodeId × Factory) → List Thing
  | _, [] => []
  | w, (id, f) :: waiting => (w.produce f).1.toList ++ returns (w.runFactory id f) waiting

/-- What is owed after a deed. -/
def owed (w : World) (d : Dues) : Deed → Dues
  | .move (.load options loadError name base) => d.load (w.onLoad options loadError name base).1
  | .act (.write markup) =>
    let (waiting, page) := w.page.write markup
    d.add (returns { w with page } waiting)
  | .registerPlugin f =>
    let (waiting, page) := w.page.registerPlugin f
    d.add (returns { w with page } waiting)
  | .initHandlers resize beforeUnload unload => d.listen resize beforeUnload unload
  | .leave _ => {}
  | _ => d

/-- What is owed after deeds, one after another. -/
def owing : World → Dues → List Deed → Dues
  | _, d, [] => d
  | w, d, x :: xs => owing (w.deed x) (w.owed d x) xs

/-! ## The page keeps account -/

/-- From `w` to `v` modules stayed what they are, and sessions only aged. -/
structure Carries (w v : World) : Prop where
  links : ∀ (j : Nat) (k : Link), w.links[j]? = some k → v.links[j]? = some k
  tables : w.tables.length ≤ v.tables.length
  sessions : Aged w v
  tied : w.Tied → v.Tied

theorem Carries.trans {w u v : World} (h : Carries w u) (h' : Carries u v) : Carries w v where
  links j k hk := h'.links j k (h.links j k hk)
  tables := h.tables.trans h'.tables
  sessions := h.sessions.trans h'.sessions
  tied hw := h'.tied (h.tied hw)

theorem Stirs.carries {w v : World} (h : Stirs w v) : Carries w v where
  links j k hk := by rw [h.links, hk]
  tables := h.tables.ge
  sessions := h.sessions
  tied := h.tied

theorem Kept.carries {w v : World} (h : Kept w v) : Carries w v := h.stirs.carries

theorem Wanes.carries {w v : World} (h : Wanes w v) : Carries w v where
  links j k hk := by rw [links, h.modules, ← links, hk]
  tables := by
    refine Nat.not_lt.mp fun hlast => ?_
    obtain ⟨table, ht, -⟩ := h.tables v.tables.length _ (List.getElem?_eq_getElem hlast)
    simp at ht
  sessions := h.sessions
  tied := h.tied

theorem onPage_carries (w : World) (f : Page → Page) : Carries w (w.onPage f) :=
  ⟨fun _ _ => id, Nat.le_refl _, .of_eq rfl, id⟩

/-- Module `k` is bound to a connector, with a table, and with a session that has this connector as
long as it is connected. -/
def Bound (w : World) (k : Link) : Prop :=
  ∃ c t s, k.connector = some c ∧ k.table = some t ∧ t < w.tables.length ∧
    w.sessions[k.session]? = some s ∧ s.isSettled = true ∧ (s.status = .connected → s.handle = some c)

theorem Bound.carried {w v : World} {k : Link} (hk : w.Bound k) (h : Carries w v) : v.Bound k := by
  obtain ⟨c, t, s, hc, ht, hlt, hs, hsettled, hhandle⟩ := hk
  obtain ⟨s', hs', hlasts⟩ := h.sessions _ s hs
  obtain ⟨hsettled', hsame⟩ := hlasts hsettled
  refine ⟨c, t, s', hc, ht, Nat.lt_of_lt_of_le hlt h.tables, hs', hsettled', fun hconnected => ?_⟩
  obtain rfl := hsame hconnected
  exact hhandle hconnected

/-- Handlers are those of bound modules, newest first, each with a session and a table of its own. -/
structure Bonded (w : World) (fs : List Farewell) : Prop where
  bound : ∀ j ∈ fs.filterMap Farewell.module?, ∃ k, w.links[j]? = some k ∧ w.Bound k
  order : (fs.filterMap Farewell.module?).Pairwise fun j i => i < j ∧
    ∀ k k', w.links[j]? = some k → w.links[i]? = some k' →
      k'.session < k.session ∧ ∀ t ∈ k.table, ∀ t' ∈ k'.table, t' < t

theorem bonded_nil (w : World) : w.Bonded [] := ⟨nofun, .nil⟩

theorem Bonded.carried {w v : World} {fs : List Farewell} (hfs : w.Bonded fs) (h : Carries w v) :
    v.Bonded fs where
  bound j hj := by
    obtain ⟨k, hk, hbound⟩ := hfs.bound j hj
    exact ⟨k, h.links j k hk, hbound.carried h⟩
  order := by
    refine hfs.order.imp_of_mem fun {j i} hj hi horder => ⟨horder.1, fun k k' hk hk' => ?_⟩
    obtain ⟨x, hx, -⟩ := hfs.bound j hj
    obtain ⟨x', hx', -⟩ := hfs.bound i hi
    obtain rfl := Option.some.inj ((h.links j x hx).symm.trans hk)
    obtain rfl := Option.some.inj ((h.links i x' hx').symm.trans hk')
    exact horder.2 x x' hx hx'

theorem Bridges.carries {w v : World} {cs : List ConnectorId} {c : ConnectorId}
    (h : Bridges cs c w v) : Carries w v where
  links j k hk := by
    obtain ⟨takesCalls, hlinks, -⟩ := h.links
    rw [hlinks, List.getElem?_append_left (List.getElem?_eq_some_iff.mp hk).1, hk]
  tables := by simp [h.tables]
  sessions := h.sessions
  tied := h.tied

theorem Strands.carries {w v : World} {cs : List ConnectorId} (h : Strands cs w v) : Carries w v where
  links j k hk := by
    obtain ⟨ks, hlinks, -⟩ := h.links
    rw [hlinks, List.getElem?_append_left (List.getElem?_eq_some_iff.mp hk).1, hk]
  tables := by rw [h.tables]
  sessions := h.sessions
  tied := h.tied

/-- A module that is bridged is newer than all that are bound. -/
theorem Bonded.bridges {w v : World} {fs : List Farewell} {cs : List ConnectorId} {c : ConnectorId}
    (hfs : w.Bonded fs) (h : Bridges cs c w v) : v.Bonded (.module w.modules.length :: fs) := by
  have hold := hfs.carried h.carries
  obtain ⟨takesCalls, hlinks, -⟩ := h.links
  have hnew : v.links[w.modules.length]? =
      some ⟨some c, w.sessions.length, some w.tables.length, takesCalls⟩ := by
    have hlength : w.links.length = w.modules.length := List.length_map _
    rw [hlinks, ← hlength]
    simp
  refine ⟨fun j hj => ?_, List.pairwise_cons.mpr ⟨fun i hi => ?_, hold.order⟩⟩
  · rcases List.mem_cons.mp hj with rfl | hj
    · obtain ⟨s, hs, hsettled, -⟩ := h.session
      refine ⟨_, hnew, c, w.tables.length, s, rfl, rfl, by simp [h.tables], hs, hsettled, ?_⟩
      exact h.handle s hs
    · exact hold.bound j hj
  · obtain ⟨x, hx, c', t, s, -, ht, hlt, hs, -⟩ := hfs.bound i hi
    have hi' := (List.getElem?_eq_some_iff.mp hx).1
    refine ⟨by simpa [links] using hi', fun k k' hk hk' => ?_⟩
    obtain rfl := Option.some.inj (hnew.symm.trans hk)
    obtain rfl := Option.some.inj ((h.carries.links i x hx).symm.trans hk')
    refine ⟨(List.getElem?_eq_some_iff.mp hs).1, ?_⟩
    intro t₁ ht₁ t₂ ht₂
    obtain rfl : w.tables.length = t₁ := Option.some.inj ht₁
    obtain rfl : t = t₂ := Option.some.inj (ht.symm.trans ht₂)
    exact hlt

/-- The page keeps the account `d`. -/
structure Owes (w : World) (d : Dues) : Prop where
  handlers : w.page.handlers = d.handlers
  owned : w.page.owned = d.returned
  tied : w.Tied
  bonded : w.Bonded d.handlers.unload

theorem Owes.carried {w v : World} {d : Dues} (hw : w.Owes d) (h : Carries w v)
    (hhandlers : v.page.handlers = w.page.handlers) (howned : v.page.owned = w.page.owned) :
    v.Owes d :=
  ⟨hhandlers.trans hw.handlers, howned.trans hw.owned, h.tied hw.tied, hw.bonded.carried h⟩

theorem Owes.stirs {w v : World} {d : Dues} (hw : w.Owes d) (h : Stirs w v) : v.Owes d :=
  hw.carried h.carries (by rw [h.page]) (by rw [h.page])

theorem Owes.wanes {w v : World} {d : Dues} (hw : w.Owes d) (h : Wanes w v) : v.Owes d :=
  hw.carried h.carries (by rw [h.page]) (by rw [h.page])

/-! ## Factories -/

theorem produce_carries (w : World) (f : Factory) : Carries w (w.produce f).2 := by
  unfold produce
  simp only
  split
  · exact (note_kept w _).carries
  · exact (note_kept w _).carries
  · exact (note_kept w _).carries
  · split
    · exact (note_kept w _).carries
    · next p signals _ =>
      have hadded : Carries w
          { w.note (.factory f.key) with connectors := w.connectors ++ [Wired.ofGuest p] } :=
        ⟨fun _ _ => id, Nat.le_refl _, .of_eq rfl, id⟩
      exact hadded.trans ((signals_kept _ _ signals).trans (log_kept _ _)).carries

theorem runFactory_owes {w : World} {d : Dues} (hw : w.Owes d) (id : Html.NodeId) (f : Factory) :
    (w.runFactory id f).Owes (d.add (w.produce f).1.toList) := by
  obtain ⟨added, heq⟩ := w.produce_eq f
  have hmade : (w.produce f).2.Owes d :=
    hw.carried (produce_carries w f) (by rw [heq]) (by rw [heq])
  rw [runFactory_eq]
  cases (w.produce f).1 with
  | none => rwa [Option.elim_none, Option.toList_none, d.add_nil]
  | some t =>
    rw [Option.elim_some]
    exact ⟨hmade.handlers, congrArg (· ++ [t]) hmade.owned, hmade.tied,
      hmade.bonded.carried (onPage_carries _ _)⟩

theorem runFactories_owes {w : World} {d : Dues} (hw : w.Owes d)
    (waiting : List (Html.NodeId × Factory)) :
    (w.runFactories waiting).Owes (d.add (returns w waiting)) := by
  induction waiting generalizing w d with
  | nil => rwa [returns, d.add_nil]
  | cons x waiting ih =>
    rw [returns, ← d.add_add]
    exact ih (runFactory_owes hw x.1 x.2)

/-! ## Deeds -/

theorem insertAll_dues (p : Page) (f : Html.Forest) :
    (p.insertAll f).handlers = p.handlers ∧ (p.insertAll f).owned = p.owned := by
  obtain ⟨dom, cursor, heq⟩ := p.insertAll_eq f
  rw [heq]
  exact ⟨rfl, rfl⟩

theorem act_dues (p : Page) (a : Act) :
    (p.act a).handlers = p.handlers ∧ (p.act a).owned = p.owned := by
  cases a with
  | write markup => exact insertAll_dues _ _
  | writeScript src =>
    simp only [Page.act, writeScript, insertWritten]
    split <;> exact ⟨rfl, rfl⟩
  | appendScript src => exact ⟨rfl, rfl⟩
  | appendStylesheet href => exact ⟨rfl, rfl⟩
  | loadFrame url => exact ⟨rfl, rfl⟩
  | showGlass summary details =>
    simp only [Page.act, showGlass, setTitle, overlaid, stopScrolling]
    split
    · exact ⟨rfl, rfl⟩
    · split <;> exact ⟨rfl, rfl⟩
  | remove id =>
    simp only [Page.act, remove]
    split <;> exact ⟨rfl, rfl⟩

theorem onPage_owes {w : World} {d : Dues} (hw : w.Owes d) (f : Page → Page)
    (hf : (f w.page).handlers = w.page.handlers ∧ (f w.page).owned = w.page.owned) :
    (w.onPage f).Owes d :=
  hw.carried (onPage_carries w f) hf.1 hf.2

theorem Bonded.labelled {w : World} {fs : List Farewell} (h : w.Bonded fs) (label : Option Text) :
    w.Bonded ((label.map Farewell.labelled).toList ++ fs) := by
  have hsame : ((label.map Farewell.labelled).toList ++ fs).filterMap Farewell.module? =
      fs.filterMap Farewell.module? := by
    cases label <;> rfl
  exact ⟨hsame ▸ h.bound, hsame ▸ h.order⟩

theorem load_owes {w : World} {d : Dues} (hw : w.Owes d) (options : BridgeOptions)
    (loadError : Option Text) (name base : Text) :
    (w.onLoad options loadError name base).2.Owes
      (d.load (w.onLoad options loadError name base).1) := by
  obtain ⟨c, hbridged, h⟩ | ⟨hfailed, h⟩ := onLoad_cases w options loadError name base
  · rw [hbridged]
    refine ⟨?_, ?_, h.tied hw.tied, hw.bonded.bridges h⟩
    · rw [h.page, Dues.load, ← hw.handlers]
      rfl
    · rw [h.page]
      exact hw.owned
  · rw [d.load_of_failure hfailed]
    exact hw.carried h.carries h.handlers h.owned

/-- **The page keeps account of what it owes**, whatever happens to it. -/
theorem deed_owes {w : World} {d : Dues} (hw : w.Owes d) (x : Deed) :
    (w.deed x).Owes (w.owed d x) := by
  cases x with
  | move m =>
    cases m with
    | load options loadError name base => exact load_owes hw options loadError name base
    | call i disp arity tearOff this args => exact hw.stirs (call_stirs w i disp arity tearOff this args)
  | stir x => exact hw.wanes (stir_kept w x).wanes
  | act a =>
    have hpage := onPage_owes hw (·.act a) (act_dues w.page a)
    cases a with
    | write markup => exact runFactories_owes hpage _
    | _ => exact hpage
  | registerPlugin f =>
    exact runFactories_owes (onPage_owes hw (fun p => (p.registerPlugin f).2) ⟨rfl, rfl⟩) _
  | setGlobal name t => exact onPage_owes hw (·.setGlobal name t) ⟨rfl, rfl⟩
  | bindCapability id t =>
    refine onPage_owes hw _ ?_
    unfold bindCapability
    cases w.page.dom.byId? id <;> exact ⟨rfl, rfl⟩
  | initHandlers resize beforeUnload unload =>
    have hcarries := onPage_carries w (·.initHandlers resize beforeUnload (unload.map .labelled))
    refine ⟨?_, hw.owned, hw.tied, (hw.bonded.labelled unload).carried hcarries⟩
    rw [owed, Dues.listen, ← hw.handlers]
    rfl
  | closeTable t => exact hw.wanes (closeTable_wanes w t)
  | closeSession i => exact hw.wanes (closeSession_kept w i).wanes
  | leave unrest =>
    have h := leave_wanes w unrest
    refine ⟨?_, ?_, h.tied hw.tied, bonded_nil _⟩
    · rw [deed, h.page]
      rfl
    · rw [deed, h.page]
      rfl

theorem deeds_owes {w : World} {d : Dues} (hw : w.Owes d) (xs : List Deed) :
    (w.deeds xs).Owes (w.owing d xs) := by
  induction xs generalizing w d with
  | nil => exact hw
  | cons x xs ih => exact ih (deed_owes hw x)

end PageBoot.World
