import PageBoot.Loader.Bootstrap
import PageBoot.Proofs.Loader.Choosing
import PageBoot.Proofs.World.Moves

/-!
When starting a module fails. A start in dev mode ends with a bridged module whatever connectors do
(`Ends`): the session that looks for one takes every step it is told to (`Smooth`), and all that can
be reported is a refusal or that there is no connector. So a start fails for bad arguments, and as
compiled for what the module lacks, and for nothing else (`bootstrapBy_fails_iff`).
-/

namespace PageBoot.World

open Page (ConnectorId)
open Connector Loader

/-! ## The search for a connector -/

/-- What a search comes to for a module, and the status that its session is left in. -/
inductive Finds (module : Text) : Except Failure ConnectorId → Status → Prop where
  | connected (c : ConnectorId) : Finds module (.ok c) .connected
  /-- The connection was lost as soon as it was made. -/
  | lost (c : ConnectorId) : Finds module (.ok c) .disconnected
  | absent : Finds module (.error (.pluginAbsent module)) .failed
  | refused (server kind : Text) : Finds module (.error (.refused server module kind none)) .failed

/-- The steps that a search has its session take are all allowed: the one into it, and the one out
of it that what was found leads to. -/
def Smooth (w : World) (finders : List Finder) (l : Listener) (r : Request) : Prop :=
  ∃ u, w.transition l.session .probing = (none, u) ∧
    let identity := u.identityOf l.session
    match probe (tryFinder l (r.filled identity) identity) finders u with
    | (.absent, v) => (v.transition l.session .failed).1 = none
    | (.refused f, v) =>
      ((v.remark (r.filled identity) identity f .warn "connector refused connection").transition
        l.session .failed).1 = none
    | (.connected f c, v) => (v.attach l.session f.kind.name (some c)).1 = none

/-- Giving up is a step that a probing session takes. -/
theorem gives_up {w : World} {i : Nat} (hp : w.Probing i) :
    (w.transition i .failed).1 = none ∧
      ∃ t, (w.transition i .failed).2.sessions[i]? = some t ∧ t.status = .failed := by
  obtain ⟨s, hs, hprobing⟩ := hp
  rw [transition_of_probing hs hprobing]
  exact ⟨rfl, _, getElem?_setSession hs, rfl⟩

/-- So is taking a connector, also if its loss was reported before. -/
theorem attaches {w : World} {i : Nat} (hp : w.Probing i) (connector : Text) (c : ConnectorId) :
    (w.attach i connector (some c)).1 = none ∧
      ∃ t, (w.attach i connector (some c)).2.sessions[i]? = some t ∧
        (t.status = .connected ∨ t.status = .disconnected) := by
  obtain ⟨s, hs, hprobing⟩ := hp
  obtain ⟨hnone, hattach⟩ := attach_of_probing hs hprobing connector c
  refine ⟨hnone, ?_⟩
  split at hattach
  · exact ⟨_, hattach.1, .inr rfl⟩
  · exact ⟨_, hattach.1, .inl rfl⟩

/-- A search for an idle session takes its steps and comes to one of four ends. -/
theorem discover_finds {w : World} {s : Session ConnectorId Recovery} {l : Listener}
    (hs : w.sessions[l.session]? = some s) (hidle : s.status = .idle) (finders : List Finder)
    (r : Request) :
    w.Smooth finders l r ∧
      ∃ t, (w.discover finders l l.session r).2.sessions[l.session]? = some t ∧
        Finds r.module (w.discover finders l l.session r).1 t.status := by
  let u := (w.transition l.session .probing).2
  have htransition : w.transition l.session .probing = (none, u) := by
    simp [u, transition_of_idle hs hidle]
  have hu : u.sessions[l.session]? = some { s with status := .probing } := sessions_of_idle hs hidle
  have hidentity : u.identityOf l.session = s.id := by simp [identityOf, hu]
  have hheard := probe_heard (r.filled s.id) s.id finders ⟨_, hu, rfl⟩
  unfold Smooth
  cases hprobe : probe (tryFinder l (r.filled s.id) s.id) finders u with
  | mk decision v =>
    rw [hprobe] at hheard
    have hv : v.Probing l.session := Probing.heard ⟨_, hu, rfl⟩ hheard
    rw [discover_of_idle hs hidle hprobe hv]
    cases decision with
    | absent =>
      obtain ⟨hnone, t, ht, hfailed⟩ := gives_up hv
      refine ⟨⟨u, htransition, by simpa only [hidentity, hprobe] using hnone⟩, t, ht, ?_⟩
      rw [hfailed]
      exact .absent
    | refused f =>
      have hv' : (v.remark (r.filled s.id) s.id f .warn "connector refused connection").Probing
          l.session := hv
      obtain ⟨hnone, t, ht, hfailed⟩ := gives_up hv'
      refine ⟨⟨u, htransition, by simpa only [hidentity, hprobe] using hnone⟩, t, ht, ?_⟩
      rw [hfailed]
      exact .refused _ _
    | connected f c =>
      obtain ⟨hnone, t, ht, hstatus⟩ := attaches hv f.kind.name c
      refine ⟨⟨u, htransition, by simpa only [hidentity, hprobe] using hnone⟩, t, ht, ?_⟩
      rcases hstatus with h | h <;> rw [h]
      · exact .connected c
      · exact .lost c

/-! ## Bridging a module -/

/-- What is reported of bridging a module, what came of it, and the status of the module's session. -/
inductive Ends (module : Text) : Option Failure → BridgeOutcome → Status → Prop where
  | connected : Ends module none .connected .connected
  | lost : Ends module none .connected .disconnected
  | absent : Ends module (some (.pluginAbsent module)) .absent .failed
  | refused (server kind : Text) :
    Ends module (some (.refused server module kind none)) .refused .failed

/-- A module was bridged under `name`: it is there with its session, and what is reported of it is
how it ended. -/
def Settled (w : World) (name : Text) (i : Option Nat) (reported : Option Failure) : Prop :=
  ∃ j m s, i = some j ∧ w.modules[j]? = some m ∧ m.name = name ∧
    w.sessions[m.session]? = some s ∧ Ends name reported m.outcome s.status

/-- Taking in what came of a search adds the module, with the outcome `outcome`, and reports
`reported`. -/
structure Settles (m : DevModule) (outcome : BridgeOutcome) (reported : Option Failure) (w : World)
    (b : Loader.Bridged) (v : World) : Prop where
  added : ∃ m', v.modules = w.modules ++ [m'] ∧ m'.name = m.name ∧ m'.number = m.number ∧
    m'.session = m.session ∧ m'.outcome = outcome
  sessions : v.sessions = w.sessions
  module : b.module = some w.modules.length
  failure : b.failure = reported

theorem settleModule_ok (w : World) (o : BridgeOptions) (loadError : Option Text) (m : DevModule)
    (c : ConnectorId) : Settles m m.outcome none w (w.settleModule o loadError m (.ok c)).1
      (w.settleModule o loadError m (.ok c)).2 := by
  let b := w.newTable.2.bindTable c w.tables.length
  obtain ⟨hmodules, -, hsessions⟩ := bindTable_keeps w.newTable.2 c w.tables.length
  have hplace : b.modules.length = w.modules.length := by rw [hmodules]; rfl
  let m' : DevModule := { m with
    connector := some c, table := some w.tables.length
    adapters := if b.takesCalls c then some {} else none }
  exact ⟨⟨m', congrArg (· ++ [m']) hmodules, rfl, rfl, rfl, rfl⟩, hsessions, congrArg some hplace, rfl⟩

theorem settleModule_refused (w : World) (o : BridgeOptions) (loadError : Option Text)
    (m : DevModule) (server kind : Text) :
    Settles m .refused (some (.refused server m.name kind none)) w
      (w.settleModule o loadError m (.error (.refused server m.name kind none))).1
      (w.settleModule o loadError m (.error (.refused server m.name kind none))).2 := by
  have hrefused : (Failure.refused server m.name kind none).isConnectionRefused = true := rfl
  simp only [settleModule, hrefused, if_true]
  cases loadError <;> exact ⟨⟨_, rfl, rfl, rfl, rfl, rfl⟩, rfl, rfl, rfl⟩

theorem settleModule_absent (w : World) (o : BridgeOptions) (loadError : Option Text)
    (m : DevModule) :
    Settles m .absent (some (.pluginAbsent m.name)) w
      (w.settleModule o loadError m (.error (.pluginAbsent m.name))).1
      (w.settleModule o loadError m (.error (.pluginAbsent m.name))).2 := by
  have hrefused : (Failure.pluginAbsent m.name).isConnectionRefused = false := rfl
  have habsent : (Failure.pluginAbsent m.name).isPluginAbsent = true := rfl
  simp only [settleModule, hrefused, habsent, if_true]
  exact ⟨⟨_, rfl, rfl, rfl, rfl, rfl⟩, rfl, rfl, rfl⟩

theorem Settles.settled {m : DevModule} {outcome : BridgeOutcome} {reported : Option Failure}
    {w v : World} {b : Loader.Bridged} {s : Session ConnectorId Recovery}
    (h : Settles m outcome reported w b v) (hs : w.sessions[m.session]? = some s)
    (hends : Ends m.name reported outcome s.status) : v.Settled m.name b.module b.failure := by
  obtain ⟨m', hmodules, hname, -, hsession, houtcome⟩ := h.added
  refine ⟨w.modules.length, m', s, h.module, by simp [hmodules], hname, ?_, ?_⟩
  · rw [h.sessions, hsession, hs]
  · rw [h.failure, houtcome]
    exact hends

theorem settleModule_settles {w : World} {m : DevModule} {s : Session ConnectorId Recovery}
    {found : Except Failure ConnectorId} (hm : m.outcome = .connected) (h : Finds m.name found s.status)
    (o : BridgeOptions) (loadError : Option Text) :
    ∃ outcome reported, Ends m.name reported outcome s.status ∧
      Settles m outcome reported w (w.settleModule o loadError m found).1
        (w.settleModule o loadError m found).2 := by
  generalize s.status = status at h ⊢
  cases h with
  | connected c => exact ⟨_, _, hm ▸ .connected, settleModule_ok w o loadError m c⟩
  | lost c => exact ⟨_, _, hm ▸ .lost, settleModule_ok w o loadError m c⟩
  | absent => exact ⟨_, _, .absent, settleModule_absent w o loadError m⟩
  | refused server kind =>
    exact ⟨_, _, .refused server kind, settleModule_refused w o loadError m server kind⟩

/-- However connectors behave, a module with a name is bridged, with the next number, and what is
reported of it is how that ended. -/
theorem onLoad_settles (w : World) (options : BridgeOptions) (loadError : Option Text)
    {name : Text} (hname : name ≠ []) (base : Text) :
    ∃ m s u outcome reported, m.name = name ∧ m.number = w.state.modules + 1 ∧
      u.modules = w.modules ∧ u.sessions[m.session]? = some s ∧ Ends name reported outcome s.status ∧
      Settles m outcome reported u (w.onLoad options loadError name base).1
        (w.onLoad options loadError name base).2 := by
  unfold onLoad
  simp only [List.isEmpty_iff, hname, if_false]
  have hopened := openModule_opened w options.complete name base
  cases hopen : w.openModule options.complete name base with
  | mk m u =>
    rw [hopen] at hopened
    obtain ⟨id, hs⟩ := hopened.session
    obtain ⟨-, t, ht, hfinds⟩ := discover_finds (l := { session := m.session }) hs rfl
      options.complete.finders (u.requestOf options.complete m)
    have hsearch := discover_rewired u options.complete.finders { session := m.session } m.session
      (u.requestOf options.complete m)
    simp only [discoverFor]
    cases hdiscover : u.discover options.complete.finders { session := m.session } m.session
        (u.requestOf options.complete m) with
    | mk found x =>
      rw [hdiscover] at ht hfinds hsearch
      obtain ⟨outcome, reported, hends, hsettles⟩ :=
        settleModule_settles (w := x.emit m.emitter Metrics.evalEnd) hopened.outcome
          (show Finds m.name found t.status from hfinds) options.complete loadError
      refine ⟨m, t, x.emit m.emitter Metrics.evalEnd, outcome, reported, hopened.named, hopened.number,
        ?_, ?_, hopened.named ▸ hends, hsettles⟩
      · rw [emit_eq]
        exact hsearch.modules.trans hopened.kept.modules
      · rw [emit_eq]
        exact ht

theorem onLoad_settled (w : World) (options : BridgeOptions) (loadError : Option Text)
    {name : Text} (hname : name ≠ []) (base : Text) :
    (w.onLoad options loadError name base).2.Settled name
      (w.onLoad options loadError name base).1.module
      (w.onLoad options loadError name base).1.failure := by
  obtain ⟨m, s, u, outcome, reported, rfl, -, -, hs, hends, hsettles⟩ :=
    onLoad_settles w options loadError hname base
  exact hsettles.settled hs hends

/-! ## Starting a module -/

/-- What is reported of bridging a module is taken as handled. -/
theorem Ends.handled {module : Text} {f : Failure} {outcome : BridgeOutcome} {status : Status}
    (h : Ends module (some f) outcome status) :
    (f.isConnectionRefused || f.isPluginAbsent) = true := by
  cases h <;> rfl

/-- A start in dev mode never fails. -/
theorem bootDev_settled (w : World) {name : Text} (hname : name ≠ []) (o : BootOptions) {r : Booted}
    (hr : r.handled = none) :
    ∃ r', (w.bootDev name o r).1 = .ok r' ∧ (w.bootDev name o r).2.Settled name r'.dev r'.handled := by
  unfold bootDev bootDevOn
  obtain ⟨loadError, base, u⟩ := w.lookAround name o
  have hsettled := onLoad_settled u.plugIn { o.bridge with sinks := o.sinks ++ o.bridge.sinks } loadError
    hname base
  simp only
  cases hload : u.plugIn.onLoad { o.bridge with sinks := o.sinks ++ o.bridge.sinks } loadError name base with
  | mk bridged v =>
    simp only [hload] at hsettled
    cases hfailure : bridged.failure with
    | none =>
      rw [hfailure, ← hr] at hsettled
      exact ⟨_, rfl, hsettled⟩
    | some f =>
      rw [hfailure] at hsettled
      have hhandled : (f.isConnectionRefused || f.isPluginAbsent) = true := by
        obtain ⟨_, _, _, -, -, -, -, hends⟩ := hsettled
        exact hends.handled
      simp only [hhandled, if_true]
      exact ⟨_, rfl, hsettled⟩

theorem settleMode_eq_none_iff {w : World} {n : Nat} :
    w.settleMode n = none ↔ BootMode.ofNat? n = none := by
  unfold settleMode
  split
  · rename_i h
    simp [h]
  · rfl

theorem settleMode_ne_auto (w : World) (n : Nat) : w.settleMode n ≠ some .auto := by
  unfold settleMode
  split
  · unfold BootMode.detect
    split <;> simp
  · assumption

section

variable {π : Type} {make : ModuleDef π → MetaSettings → π → Option (Binding.Provider World)}
  {w : World} {m : ModuleDef π} {o : BootOptions}

theorem bootstrapBy_dev (hpage : o.hasPage = true) (hstate : o.hasState = true) (hname : m.name ≠ [])
    (hmode : w.settleMode o.mode = some .dev) :
    ∃ r, (w.bootstrapBy make (some m) o).1 = .ok r ∧
      (w.bootstrapBy make (some m) o).2.Settled m.name r.dev r.handled := by
  simp only [bootstrapBy, bootstrapOn, hpage, hstate, hmode, Option.filter_some, List.isEmpty_eq_false_iff.mpr hname,
    Bool.not_true, Bool.not_false, Bool.false_eq_true, if_false, if_true]
  generalize w.workAround m.name (some .dev) o.workarounds = start
  obtain ⟨applied, u⟩ := start
  obtain ⟨r, hok, hsettled⟩ := bootDev_settled u hname o
    (r := { mode := .dev, workarounds := applied }) rfl
  cases hboot : u.bootDev m.name o { mode := .dev, workarounds := applied } with
  | mk result v =>
    simp only [hboot] at hok hsettled
    subst hok
    refine ⟨r, rfl, ?_⟩
    -- what is said of a handshake that did not come about changes nothing
    simp only
    split <;> exact hsettled

theorem bootstrapBy_compiled (hpage : o.hasPage = true) (hstate : o.hasState = true)
    (hname : m.name ≠ []) (hmode : w.settleMode o.mode = some .compiled) :
    (∃ f, (w.bootstrapBy make (some m) o).1 = .error f) ↔
      (w.workAround m.name (some .compiled) o.workarounds).2.Lacks (make m) m o.selection := by
  rw [← selectBy_fails_iff hname]
  simp only [bootstrapBy, bootstrapOn, hpage, hstate, hmode, Option.filter_some, List.isEmpty_eq_false_iff.mpr hname,
    Bool.not_true, Bool.not_false, Bool.false_eq_true, if_false, if_true]
  generalize w.workAround m.name (some .compiled) o.workarounds = start
  cases hselect : start.2.selectBy (make m) m o.selection with
  | mk result v => cases result <;> simp

theorem bootstrapBy_unknown (hpage : o.hasPage = true) (hstate : o.hasState = true)
    (hname : m.name ≠ []) (hmode : w.settleMode o.mode = none) :
    (w.bootstrapBy make (some m) o).1 = .error (unknownMode o.mode) := by
  simp only [bootstrapBy, bootstrapOn, hpage, hstate, hmode, Option.filter_some, List.isEmpty_eq_false_iff.mpr hname]
  rfl

/-- A start with all that it needs fails exactly if there is no such mode, or if the module is
started as compiled and lacks something. -/
theorem bootstrapBy_fails_of_named (hpage : o.hasPage = true) (hstate : o.hasState = true)
    (hname : m.name ≠ []) :
    (∃ f, (w.bootstrapBy make (some m) o).1 = .error f) ↔
      BootMode.ofNat? o.mode = none ∨ w.settleMode o.mode = some .compiled ∧
        (w.workAround m.name (some .compiled) o.workarounds).2.Lacks (make m) m o.selection := by
  rw [← settleMode_eq_none_iff (w := w)]
  cases hmode : w.settleMode o.mode with
  | none => simp [bootstrapBy_unknown hpage hstate hname hmode]
  | some mode =>
    cases mode with
    | auto => exact absurd hmode (settleMode_ne_auto w o.mode)
    | compiled => simpa using bootstrapBy_compiled hpage hstate hname hmode
    | dev =>
      obtain ⟨r, hok, -⟩ : ∃ r, (w.bootstrapBy make (some m) o).1 = .ok r ∧ _ :=
        bootstrapBy_dev hpage hstate hname hmode
      simp [hok]

end

/-- **When a start fails.** Starting a module fails exactly without a page or its state, without a
module that has a name, in a mode that there is not, and as compiled if the module does not build or
has no variant for values that are all legal. In dev mode it never does: the module is bridged, its
session takes all the steps that it is told to, and what is reported is nothing, that there is no
connector, or a refusal. -/
theorem bootstrapBy_fails_iff {π : Type}
    (make : ModuleDef π → MetaSettings → π → Option (Binding.Provider World)) (w : World)
    (module : Option (ModuleDef π)) (o : BootOptions) :
    ((∃ f, (w.bootstrapBy make module o).1 = .error f) ↔
      o.hasPage = false ∨ o.hasState = false ∨ (∀ m, module = some m → m.name = []) ∨
        BootMode.ofNat? o.mode = none ∨
        ∃ m, module = some m ∧ w.settleMode o.mode = some .compiled ∧
          (w.workAround m.name (some .compiled) o.workarounds).2.Lacks (make m) m o.selection) ∧
      (∀ m, module = some m → m.name ≠ [] → o.hasPage = true → o.hasState = true →
        w.settleMode o.mode = some .dev →
        ∃ r, (w.bootstrapBy make module o).1 = .ok r ∧
          (w.bootstrapBy make module o).2.Settled m.name r.dev r.handled) ∧
      ∀ (u : World) (l : Listener) (s : Session ConnectorId Recovery),
        u.sessions[l.session]? = some s → s.status = .idle →
        ∀ finders r, u.Smooth finders l r := by
  refine ⟨?_, ?_, fun u l s hs hidle finders r => (discover_finds hs hidle finders r).1⟩
  · cases hpage : o.hasPage with
    | false => simp [bootstrapBy, bootstrapOn, hpage]
    | true =>
      cases hstate : o.hasState with
      | false => simp [bootstrapBy, bootstrapOn, hpage, hstate]
      | true =>
        cases module with
        | none => simp [bootstrapBy, bootstrapOn, hpage, hstate]
        | some m =>
          by_cases hname : m.name = []
          · simp [bootstrapBy, bootstrapOn, hpage, hstate, hname, Option.filter_some]
          · simpa [hname] using bootstrapBy_fails_of_named hpage hstate hname
  · rintro m rfl hname hpage hstate hmode
    exact bootstrapBy_dev hpage hstate hname hmode

end PageBoot.World
