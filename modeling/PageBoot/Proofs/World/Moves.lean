import PageBoot.Proofs.Lists
import PageBoot.Proofs.World.Wiring

/-!
Loads and dispatched calls, one after another. A load gives its session to every connector that it
asks, and bridges its module through one of them, with a table of its own, or through none; a call
leaves all wirings as they are. `onLoad_cases` and `call_stirs` say so for one move.
-/

namespace PageBoot

open Page (ConnectorId)

/-- What ties a module to its connector. -/
structure Link where
  connector : Option ConnectorId
  session : Nat
  table : Option Nat
  takesCalls : Bool
  deriving DecidableEq

def DevModule.link (m : DevModule) : Link := ⟨m.connector, m.session, m.table, m.adapters.isSome⟩

namespace World

open Connector Loader

def links (w : World) : List Link := w.modules.map DevModule.link

theorem exists_module {w : World} {i : Nat} {k : Link} (h : w.links[i]? = some k) :
    ∃ m, w.modules[i]? = some m ∧ m.link = k := by
  rw [links, List.getElem?_map] at h
  exact Option.map_eq_some_iff.mp h

/-! ## Opening a module -/

theorem emit_eq (w : World) (e : Metrics.Emitter Text) (m : Metrics.Moment) :
    w.emit e m = { w with notes := (w.emit e m).notes } := by
  unfold emit
  generalize e.sinks = sinks
  induction sinks generalizing w with
  | nil => rfl
  | cons sink sinks ih => exact ih (w.note _)

theorem emit_kept (w : World) (e : Metrics.Emitter Text) (m : Metrics.Moment) :
    Kept w (w.emit e m) := by
  rw [emit_eq]
  exact .of_eq rfl rfl rfl rfl rfl

theorem identity_eq (w : World) :
    w.identity.2 = { w with state := w.identity.2.state, journal := w.identity.2.journal } := by
  unfold identity
  simp only
  split <;> rfl

theorem identity_state (w : World) : w.identity.2.state = w.state.drawIdentity := by
  unfold identity
  simp only
  split <;> rfl

/-- A module that is opened has a session of its own, which is to show an overlay. -/
theorem openModule_eq (w : World) (o : BridgeOptions) (name base : Text) :
    ∃ id, (w.openModule o name base).2 = { w with
      state := (w.openModule o name base).2.state
      notes := (w.openModule o name base).2.notes
      journal := (w.openModule o name base).2.journal
      sessions := w.sessions ++ [{ id, module := name, recovery := some .overlay }] } := by
  refine ⟨(w.emit { sinks := o.sinks, module := name, session := w.page.globalText Metrics.sessionGlobal }
    Metrics.evalStart).identity.1, ?_⟩
  simp only [openModule, newSession, onDisconnected]
  rw [identity_eq, emit_eq]
  simp [setSession, Session.onDisconnected]

theorem openModule_session (w : World) (o : BridgeOptions) (name base : Text) :
    (w.openModule o name base).1.session = w.sessions.length := by
  simp only [openModule, newSession]
  rw [identity_eq, emit_eq]

theorem openModule_number (w : World) (o : BridgeOptions) (name base : Text) :
    (w.openModule o name base).1.number = w.state.modules + 1 := by
  simp only [openModule, newSession, PageState.nextModule, identity_state, PageState.drawIdentity]
  rw [emit_eq]
  split <;> rfl

theorem openModule_kept (w : World) (o : BridgeOptions) (name base : Text) :
    Kept w (w.openModule o name base).2 := by
  obtain ⟨id, h⟩ := openModule_eq w o name base
  rw [h]
  refine ⟨rfl, rfl, fun j s hs => ⟨s, ?_, .refl s⟩, fun _ => rfl, fun hw s hs => ?_, rfl⟩
  · obtain ⟨hlt, -⟩ := List.getElem?_eq_some_iff.mp hs
    simpa [List.getElem?_append_left hlt] using hs
  · rcases List.mem_append.mp hs with hs | hs
    · exact hw s hs
    · obtain rfl := List.mem_singleton.mp hs
      exact fun _ => rfl

/-- A module that was opened: nothing was looked for yet, and its session is new. -/
structure Opened (w : World) (name : Text) (m : DevModule) (u : World) : Prop where
  named : m.name = name
  number : m.number = w.state.modules + 1
  server : m.codeServer = Url.codeServer w.page.search
  outcome : m.outcome = .connected
  connector : m.connector = none
  place : m.session = w.sessions.length
  session : ∃ id, u.sessions[m.session]? = some { id, module := name, recovery := some .overlay }
  kept : Kept w u

theorem openModule_opened (w : World) (o : BridgeOptions) (name base : Text) :
    Opened w name (w.openModule o name base).1 (w.openModule o name base).2 := by
  obtain ⟨id, hopened⟩ := openModule_eq w o name base
  have hplace := openModule_session w o name base
  refine ⟨rfl, openModule_number w o name base, ?_, rfl, rfl, hplace, ⟨id, ?_⟩,
    openModule_kept w o name base⟩
  · simp only [openModule, newSession]
    rw [identity_eq, emit_eq]
  · rw [hplace, hopened]
    simp

/-! ## Settling a module -/

theorem bindTable_keeps (w : World) (c : ConnectorId) (t : Nat) :
    (w.bindTable c t).modules = w.modules ∧ (w.bindTable c t).tables = w.tables ∧
      (w.bindTable c t).sessions = w.sessions := by
  unfold bindTable
  split
  · split <;> exact ⟨rfl, rfl, rfl⟩
  · exact ⟨rfl, rfl, rfl⟩
  · exact ⟨rfl, rfl, rfl⟩

theorem bindTable_page (w : World) (c : ConnectorId) (t : Nat) :
    (w.bindTable c t).page = w.page := by
  unfold bindTable
  split
  · split <;> rfl
  · rfl
  · rfl

theorem bindTable_other (w : World) {c c' : ConnectorId} (h : c' ≠ c) (t : Nat) :
    (w.bindTable c t).connectors[c']? = w.connectors[c']? := by
  unfold bindTable
  split
  · split <;> rfl
  · simp [updateConnector, h.symm]
  · rfl

/-- Only a guest keeps a table that it is given. -/
theorem bindTable_wiring? (w : World) (c : ConnectorId) (t : Nat) (c' : ConnectorId) :
    (w.bindTable c t).wiring? c' = (w.wiring? c').map fun x =>
      if c' = c ∧ x.isGuest = true then { x with table := some t } else x := by
  by_cases hc : c' = c
  · subst hc
    cases hx : w.connectors[c']? with
    | none => simp [bindTable, device?, wiring?, hx]
    | some x =>
      cases hd : x.device with
      | script s =>
        simp only [bindTable, device?, hx, Option.map_some, hd]
        split <;> simp [wiring?, note, hx, Wired.wiring, hd]
      | guest p =>
        simp [bindTable, device?, wiring?, updateConnector, hx, Wired.wiring, hd]
  · simp [wiring?, bindTable_other w hc, hc, Function.comp_def]

theorem bindTable_takesCalls {w : World} {c : ConnectorId} {x : Wiring} (hx : w.wiring? c = some x)
    (hguest : x.isGuest = true) (t : Nat) : (w.bindTable c t).takesCalls c = true := by
  obtain ⟨y, hy, rfl⟩ := Option.map_eq_some_iff.mp hx
  cases hd : y.device with
  | script s => simp [Wired.wiring, hd] at hguest
  | guest p => simp [bindTable, takesCalls, device?, updateConnector, hy, hd]

/-- A load told the connectors in `cs` to report to the session of its module, and bridged the
module through one of them, `c`, with a table of its own. -/
structure Bridges (cs : List ConnectorId) (c : ConnectorId) (w v : World) : Prop where
  asked : c ∈ cs
  sessions : Aged w v
  session : ∃ s, v.sessions[w.sessions.length]? = some s ∧ s.isSettled = true ∧
    (s.status = .connected → s.recovery = some .overlay)
  tables : v.tables = w.tables ++ [.empty]
  links : ∃ takesCalls, v.links = w.links ++
      [⟨some c, w.sessions.length, some w.tables.length, takesCalls⟩] ∧
    ∀ x, w.wiring? c = some x → x.isGuest = true → takesCalls = true
  wiring : ∀ c', v.wiring? c' = (w.wiring? c').map fun x => { x with
    listener := if c' ∈ cs then some { session := w.sessions.length } else x.listener
    table := if c' = c ∧ x.isGuest = true then some w.tables.length else x.table }
  tied : w.Tied → v.Tied
  handle : ∀ s, v.sessions[w.sessions.length]? = some s → s.status = .connected → s.handle = some c
  page : Busier (w.page.onUnload (.module w.modules.length)) v.page

/-- A load told the connectors in `cs` to report to the session of its module, but bridged it
through none. -/
structure Strands (cs : List ConnectorId) (w v : World) : Prop where
  sessions : Aged w v
  tables : v.tables = w.tables
  links : ∃ ks, v.links = w.links ++ ks ∧ ∀ k ∈ ks, k.connector = none
  wiring : ∀ c', v.wiring? c' = (w.wiring? c').map fun x => { x with
    listener := if c' ∈ cs then some { session := w.sessions.length } else x.listener }
  tied : w.Tied → v.Tied
  handlers : v.page.handlers = w.page.handlers
  owned : v.page.owned = w.page.owned

theorem settleModule_bridges {w u : World} {cs : List ConnectorId} {c : ConnectorId}
    {m : DevModule} (h : Rewired { session := w.sessions.length } cs w u) (hc : c ∈ cs)
    (hsession : ∃ s, u.sessions[w.sessions.length]? = some s ∧ s.isSettled = true ∧
      (s.status = .connected → s.recovery = some .overlay ∧ s.handle = some c))
    (hm : m.session = w.sessions.length) (o : BridgeOptions) (loadError : Option Text) :
    (u.settleModule o loadError m (.ok c)).1 = { module := some w.modules.length } ∧
      Bridges cs c w (u.settleModule o loadError m (.ok c)).2 := by
  let b := u.newTable.2.bindTable c u.tables.length
  obtain ⟨hmodules, htables, hsessions⟩ := bindTable_keeps u.newTable.2 c u.tables.length
  have hbridged : (u.settleModule o loadError m (.ok c)).2.modules = b.modules ++ [{ m with
      connector := some c, table := some u.tables.length
      adapters := if b.takesCalls c then some {} else none }] := rfl
  have hkept : (u.settleModule o loadError m (.ok c)).2.sessions = u.sessions := hsessions
  have hu : u.newTable.2.modules = w.modules := h.modules
  have hplace : b.modules.length = w.modules.length := by rw [hmodules, hu]
  obtain ⟨s, hs, hsettled, hconnected⟩ := hsession
  refine ⟨congrArg (fun i => Bridged.mk (some i) none) hplace, hc, h.sessions.trans (.of_eq hkept),
    ⟨s, by rwa [hkept], hsettled, fun h => (hconnected h).1⟩, ?_, ⟨b.takesCalls c, ?_, ?_⟩, ?_, ?_, ?_, ?_⟩
  · rw [← h.tables]
    exact htables
  · rw [links, hbridged, hmodules, List.map_append, List.map_singleton, hu]
    cases b.takesCalls c <;> simp [links, DevModule.link, hm, h.tables]
  · intro x hx hguest
    have hu := h.wiring c
    rw [hx, Option.map_some] at hu
    exact bindTable_takesCalls (w := u.newTable.2) hu hguest u.tables.length
  · intro c'
    have hbind : (u.settleModule o loadError m (.ok c)).2.wiring? c' = (u.wiring? c').map fun x =>
        if c' = c ∧ x.isGuest = true then { x with table := some u.tables.length } else x :=
      bindTable_wiring? u.newTable.2 c u.tables.length c'
    rw [hbind, h.wiring, h.tables, Option.map_map]
    congr 1
    funext x
    by_cases hcc : c' = c <;> cases hx : x.isGuest <;> simp [hcc, hx]
  · intro hw
    rw [Tied, hkept]
    exact h.tied hw
  · intro s' hs' hstatus
    rw [hkept, hs] at hs'
    cases hs'
    exact (hconnected hstatus).2
  · have hpage : (u.settleModule o loadError m (.ok c)).2.page =
        u.page.onUnload (.module w.modules.length) := by
      have hbound : b.page = u.page := bindTable_page u.newTable.2 c u.tables.length
      rw [← hplace, ← hbound]
      rfl
    rw [hpage, h.page]
    rfl

/-- Whatever is said and shown when no connector was found, at most a module without one is added. -/
theorem settleModule_error (w : World) {m : DevModule} (hm : m.connector = none)
    (o : BridgeOptions) (loadError : Option Text) (f : Failure) :
    ∃ ms, (w.settleModule o loadError m (.error f)).2 = { w with
      page := (w.settleModule o loadError m (.error f)).2.page
      notes := (w.settleModule o loadError m (.error f)).2.notes
      journal := (w.settleModule o loadError m (.error f)).2.journal
      modules := w.modules ++ ms } ∧ (∀ m ∈ ms, m.connector = none) ∧
      (w.settleModule o loadError m (.error f)).1.failure = some f ∧
      (w.settleModule o loadError m (.error f)).2.page.handlers = w.page.handlers ∧
      (w.settleModule o loadError m (.error f)).2.page.owned = w.page.owned := by
  unfold settleModule
  by_cases hrefused : f.isConnectionRefused = true
  · refine ⟨[{ m with outcome := .refused }], ?_, by simpa using hm, ?_⟩
    · simp only [hrefused, if_true, reportRefusal]
      cases loadError <;> rfl
    · simp only [hrefused, if_true, reportRefusal]
      cases loadError <;> exact ⟨trivial, rfl, rfl⟩
  · by_cases habsent : f.isPluginAbsent = true
    · refine ⟨[{ m with outcome := .absent }], ?_, by simpa using hm, ?_⟩
      · simp only [hrefused, habsent, if_true]
        rfl
      · simp only [hrefused, habsent, if_true]
        exact ⟨rfl, rfl, rfl⟩
    · refine ⟨[], ?_, by simp, ?_⟩ <;> simp [hrefused, habsent]

theorem settleModule_strands {w u : World} {cs : List ConnectorId} {m : DevModule}
    (h : Rewired { session := w.sessions.length } cs w u) (hm : m.connector = none)
    (o : BridgeOptions) (loadError : Option Text) (f : Failure) :
    (u.settleModule o loadError m (.error f)).1.failure ≠ none ∧
      Strands cs w (u.settleModule o loadError m (.error f)).2 := by
  obtain ⟨ms, heq, hnone, hfailure, hhandlers, howned⟩ := settleModule_error u hm o loadError f
  refine ⟨by simp [hfailure], ?_⟩
  rw [heq]
  refine ⟨h.sessions.trans (.of_eq rfl), h.tables, ⟨ms.map DevModule.link, ?_, ?_⟩, h.wiring, h.tied,
    hhandlers.trans (by rw [h.page]), howned.trans (by rw [h.page])⟩
  · simp [links, h.modules]
  · intro k hk
    obtain ⟨m', hm', rfl⟩ := List.mem_map.mp hk
    exact hnone m' hm'

/-! ## Loading a module -/

/-- The connectors that are asked when a module is loaded. -/
def askedOnLoad (w : World) (options : BridgeOptions) (name base : Text) : List ConnectorId :=
  if name.isEmpty then []
  else
    let o := options.complete
    let (m, u) := w.openModule o name base
    u.askedFor o.finders { session := m.session } m.session (u.requestOf o m)

/-- The search for a connector and what comes of it, for a module that was opened. -/
theorem discoverFor_cases {w u : World} {m : DevModule} {s : Session ConnectorId Recovery}
    (hkept : Kept w u) (hsession : m.session = w.sessions.length) (hnone : m.connector = none)
    (hs : u.sessions[w.sessions.length]? = some s) (hidle : s.status = .idle)
    (hoverlay : s.recovery = some .overlay) (o : BridgeOptions) (loadError : Option Text) :
    let cs := u.askedFor o.finders { session := m.session } m.session (u.requestOf o m)
    let (found, x) := u.discoverFor o m
    let (b, v) := (x.emit m.emitter Metrics.evalEnd).settleModule o loadError m found
    (∃ c, b = { module := some w.modules.length } ∧ Bridges cs c w v) ∨
      b.failure ≠ none ∧ Strands cs w v := by
  intro cs
  have hsearch : Rewired { session := m.session } cs w (u.discoverFor o m).2 :=
    Rewired.of_right hkept (discover_rewired ..)
  rw [hsession] at hsearch
  rw [← hsession] at hs
  cases hd : u.discoverFor o m with
  | mk found x =>
    rw [hd] at hsearch
    have hemitted := hsearch.of_left (emit_kept x m.emitter Metrics.evalEnd)
    cases found with
    | error f => exact .inr (settleModule_strands hemitted hnone o loadError f)
    | ok c =>
      have hok : (u.discoverFor o m).1 = .ok c := by rw [hd]
      obtain ⟨t, ht, hsettled, hrecovery⟩ := discover_settles (l := { session := m.session }) hs hidle hok
      refine .inl ⟨c, settleModule_bridges hemitted (mem_askedFor hok) ⟨t, ?_, hsettled, ?_⟩ hsession o
        loadError⟩
      · have hx : (u.discoverFor o m).2.sessions[m.session]? = some t := ht
        rw [hd, hsession] at hx
        rw [emit_eq]
        exact hx
      · intro hconnected
        rw [← hoverlay]
        exact hrecovery hconnected

theorem onLoad_cases (w : World) (options : BridgeOptions) (loadError : Option Text)
    (name base : Text) :
    (∃ c, (w.onLoad options loadError name base).1 = { module := some w.modules.length } ∧
      Bridges (w.askedOnLoad options name base) c w (w.onLoad options loadError name base).2) ∨
    (w.onLoad options loadError name base).1.failure ≠ none ∧
      Strands (w.askedOnLoad options name base) w (w.onLoad options loadError name base).2 := by
  unfold askedOnLoad onLoad
  by_cases hname : name.isEmpty = true
  · rw [if_pos hname, if_pos hname]
    exact .inr ⟨nofun, .of_eq rfl, rfl, ⟨[], by simp, by simp⟩, by simp, id, rfl, rfl⟩
  rw [if_neg hname, if_neg hname]
  have hopened := openModule_opened w options.complete name base
  obtain ⟨id, hs⟩ := hopened.session
  rw [hopened.place] at hs
  exact discoverFor_cases hopened.kept hopened.place hopened.connector hs rfl rfl options.complete loadError

/-! ## Dispatched calls -/

/-- From `w` to `v` nothing changed but what tables hold and what modules keep of their adapters, and
sessions aged. -/
structure Stirs (w v : World) : Prop where
  links : v.links = w.links
  tables : v.tables.length = w.tables.length
  sessions : Aged w v
  wiring : ∀ c, v.wiring? c = w.wiring? c
  tied : w.Tied → v.Tied
  page : Busier w.page v.page

theorem Kept.stirs {w v : World} (h : Kept w v) : Stirs w v :=
  ⟨by rw [links, links, h.modules], by rw [h.tables], h.sessions, h.wiring, h.tied, h.page⟩

theorem Stirs.trans {w u v : World} (h : Stirs w u) (h' : Stirs u v) : Stirs w v :=
  ⟨h'.links.trans h.links, h'.tables.trans h.tables, h.sessions.trans h'.sessions,
    fun c => (h'.wiring c).trans (h.wiring c), fun hw => h'.tied (h.tied hw), h.page.trans h'.page⟩

theorem setTable_stirs (w : World) (t : Nat) (table : Bridge.ObjectTable) :
    Stirs w { w with tables := w.tables.set t table } :=
  ⟨rfl, by simp, .of_eq rfl, fun _ => rfl, id, rfl⟩

/-- A guest stays one, and its signals only age sessions. -/
theorem finishCall_kept {α : Type} {w : World} {c : ConnectorId} {x : Wired}
    (hx : w.connectors[c]? = some x) (hguest : x.device.isGuest = true) (call : Wasm.Called α) :
    Kept w (w.finishCall c call).2 := by
  refine (updateConnector_kept w c ?_).trans (signals_kept _ c call.signals)
  intro y hy
  obtain rfl : x = y := by simpa [hx] using hy
  simp [Wired.wiring, hguest, Device.reach_of_isGuest hguest]

theorem callDispatch_stirs (w : World) (c : ConnectorId) (disp : Int) (this : Value)
    (args : List Value) : Stirs w (w.callDispatch c disp this args).2 := by
  unfold callDispatch
  split
  · exact (Kept.refl w).stirs
  next x hx =>
    split
    · exact (note_kept w _).stirs
    next p hd =>
      have hguest : x.device.isGuest = true := by rw [hd]; rfl
      simp only
      split
      next t table _ _ =>
        have hset : ({ w with tables := w.tables.set t table } : World).connectors[c]? = some x := hx
        exact (setTable_stirs w t table).trans (finishCall_kept hset hguest _).stirs
      next => exact (finishCall_kept hx hguest _).stirs

/-- Calls through a module leave its link as it is. -/
theorem setAdapters_stirs {w : World} {i : Nat} {m : DevModule} {a : Bridge.Adapters}
    (hm : w.modules[i]? = some m) (ha : m.adapters = some a) (a' : Bridge.Adapters) :
    Stirs w { w with modules := w.modules.set i { m with adapters := some a' } } where
  links := List.map_set_of_eq hm (by simp [DevModule.link, ha])
  tables := rfl
  sessions := .of_eq rfl
  wiring _ := rfl
  tied hw := hw
  page := rfl

theorem call_stirs (w : World) (i : Nat) (disp arity : Int) (tearOff : Bool) (this : Value)
    (args : List Value) : Stirs w (w.call i disp arity tearOff this args).2 := by
  unfold call
  split
  · exact (Kept.refl w).stirs
  next m hm =>
    split
    next a c ha hc =>
      have hset := setAdapters_stirs hm ha (a.adapter disp arity tearOff).2
      simp only
      split
      · exact hset
      · have hdispatch := hset.trans (callDispatch_stirs _ c disp this args)
        split <;> next h => rw [h] at hdispatch; exact hdispatch
    next => exact (Kept.refl w).stirs

/-! ## Moves -/

inductive Move where
  | load (options : BridgeOptions) (loadError : Option Text) (name base : Text)
  | call (module : Nat) (disp arity : Int) (tearOff : Bool) (this : Value) (args : List Value)

def move (w : World) : Move → World
  | .load options loadError name base => (w.onLoad options loadError name base).2
  | .call i disp arity tearOff this args => (w.call i disp arity tearOff this args).2

/-- The page after loads and calls, one after another. -/
def after (w : World) (moves : List Move) : World := moves.foldl move w

theorem after_cons (w : World) (m : Move) (moves : List Move) :
    w.after (m :: moves) = (w.move m).after moves := rfl

theorem move_aged (w : World) (m : Move) : Aged w (w.move m) := by
  cases m with
  | load options loadError name base =>
    obtain ⟨c, -, h⟩ | ⟨-, h⟩ := onLoad_cases w options loadError name base
    · exact h.sessions
    · exact h.sessions
  | call i disp arity tearOff this args => exact (call_stirs w i disp arity tearOff this args).sessions

theorem after_aged (w : World) (moves : List Move) : Aged w (w.after moves) := by
  induction moves generalizing w with
  | nil => exact .of_eq rfl
  | cons m moves ih => exact (move_aged w m).trans (ih _)

/-! ## A page with one guest -/

/-- A guest that agrees to everything: `alloc` gives the start of its memory, `init` and `connect`
accept, and `dispatch` gives back a number. -/
def obliging : Wasm.Plugin where
  name := []
  guest := .ofProgram {
    imports := []
    routines := [
      ⟨⟨[.i32], [.i32]⟩, 0, [.const 0]⟩,
      ⟨⟨[], [.i32]⟩, 0, [.const 1]⟩,
      ⟨⟨List.replicate 10 .i32, [.i32]⟩, 0, [.const 1]⟩,
      ⟨⟨List.replicate 4 .i32, [.i32, .i32]⟩, 0, [.const 0, .const 7]⟩]
    memory := some 1
    globals := []
    exports := [
      ⟨Wasm.Guest.allocExport, 0, 0⟩, ⟨Wasm.Guest.initExport, 0, 1⟩,
      ⟨Wasm.Guest.connectExport, 0, 2⟩, ⟨Wasm.Guest.dispatchExport, 0, 3⟩] }
  alloc := 0
  init := 1
  connect := 2
  disconnect := none
  dispatch := some 3

/-- A page with the obliging guest under the global `g`. -/
def shared : World where
  page := {
    dom := { document := .nil, next := 0 }, head := 0, body := 0, location := {}
    globals := [([103], .connector 0)] }
  state := { source := Identity.Rounds.source, draws := { values := [] } }
  connectors := [.ofGuest obliging]

/-- Options of modules that look under `g` for their connector. -/
def underG : BridgeOptions := { finders := [.global [103]] }

/-- The shared page after the modules `A` and `B` were loaded. -/
def sharedByTwo : World := shared.after [.load underG none [65] [], .load underG none [66] []]

/-- Both are bridged through the guest, each with its own session and table. -/
theorem sharedByTwo_links :
    sharedByTwo.links = [⟨some 0, 0, some 0, true⟩, ⟨some 0, 1, some 1, true⟩] := by
  decide +kernel

theorem sharedByTwo_guest : ∃ p, sharedByTwo.device? 0 = some (.guest p) := by
  have hguest : (sharedByTwo.device? 0).map Device.isGuest = some true := by decide +kernel
  obtain ⟨d, hd, hp⟩ := Option.map_eq_some_iff.mp hguest
  cases d with
  | script s => cases hp
  | guest p => exact ⟨p, hd⟩

end World

end PageBoot
