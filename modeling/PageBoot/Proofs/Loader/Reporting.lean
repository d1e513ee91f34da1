import PageBoot.Proofs.Loader.Starting
import PageBoot.Proofs.World.Aftermath
import PageBoot.Proofs.World.Reports

/-!
What a load makes known of how it ended, and what comes of its session. Each outcome is reported in
one way (`LoadReport.of`), and only by the load itself. Later the session has one overlay shown if it
was connected and lost its connection, be it while the candidates were tried, and otherwise none.
`onLoad_reports` says both for every page, handler and connector.
-/

namespace PageBoot

open Page Connector Loader

/-- What is made known of how a load ended: what the user is told, the frames that the page is covered
with, and the calls of a handler. -/
structure LoadReport where
  alerts : List Text := []
  frames : List Text := []
  calls : List Note := []

/-- The report of a load that ended with an outcome. A refusal is left to the handler if there is one. -/
def LoadReport.of (o : BridgeOptions) (loadError : Option Text) (module server : Text) :
    BridgeOutcome → LoadReport
  | .connected => {}
  | .absent => { frames := [o.missingPluginUrl] }
  | .refused =>
    match loadError with
    | some handler => { calls := [.loadError handler module] }
    | none => {
        alerts := ["Plugin failed to connect to hosted mode server at " ++ server]
        frames := [o.troubleshootingUrl] }

namespace World

/-- From `w` to `u` a report was made, and nothing else was made known. -/
structure Tells (r : LoadReport) (w u : World) : Prop where
  alerts : u.page.alerts = w.page.alerts ++ r.alerts
  frames : u.page.frames = w.page.frames ++ r.frames
  calls : u.reports = w.reports ++ r.calls

/-! ## The search -/

/-- What the candidates that were tried came to. -/
def Rules (ts : List Trial) : Decision Finder ConnectorId → Prop
  | .absent => ∀ t ∈ ts, t.outcome = .absent
  | .refused f => ∃ t ∈ ts, t.finder = f ∧ t.outcome = .refused
  | .connected f c => ∃ t ∈ ts, t.finder = f ∧ t.outcome = .connected c

theorem probe_rules (l : Listener) (r : Connector.Request) (identity : Text) (fs : List Finder)
    (w : World) :
    Rules (trials l r identity fs w) (probe (tryFinder l r identity) fs w).1 := by
  induction fs generalizing w with
  | nil => exact fun t ht => nomatch ht
  | cons f fs ih =>
    cases ht : tryFinder l r identity f w with
    | mk outcome u =>
      simp only [probe, trials, ht]
      cases outcome with
      | refused => exact ⟨_, List.mem_singleton_self _, rfl, rfl⟩
      | connected c => exact ⟨_, List.mem_singleton_self _, rfl, rfl⟩
      | absent =>
        have hrest := ih u
        cases hd : (probe (tryFinder l r identity) fs u).1 with
        | absent =>
          rw [hd] at hrest
          exact List.forall_mem_cons.mpr ⟨rfl, hrest⟩
        | refused g =>
          rw [hd] at hrest
          obtain ⟨t, ht, hrest⟩ := hrest
          exact ⟨t, List.mem_cons_of_mem _ ht, hrest⟩
        | connected g c =>
          rw [hd] at hrest
          obtain ⟨t, ht, hrest⟩ := hrest
          exact ⟨t, List.mem_cons_of_mem _ ht, hrest⟩

/-- How a search ends for session `i`, with the candidates `ts`. A connection is lost at once if a
candidate signalled. -/
inductive Ended (w : World) (i : Nat) (r : Connector.Request) (ts : List Trial) :
    Except Failure ConnectorId → World → Prop where
  | absent {v : World} (nobody : ∀ t ∈ ts, t.outcome = .absent) (page : v.page = w.page)
      (session : v.Over i) : Ended w i r ts (.error (.pluginAbsent r.module)) v
  | refused {t : Trial} {v : World} (tried : t ∈ ts) (refuses : t.outcome = .refused)
      (page : v.page = w.page) (session : v.Over i) :
      Ended w i r ts (.error (.refused r.codeServer r.module t.finder.kind.name none)) v
  | connected {t : Trial} {c : ConnectorId} {v : World} (tried : t ∈ ts)
      (accepts : t.outcome = .connected c) (silent : ts.any (0 < ·.signals) = false)
      (page : v.page = w.page) (session : v.Linked i c) : Ended w i r ts (.ok c) v
  | lost {t : Trial} {c : ConnectorId} {v : World} (tried : t ∈ ts)
      (accepts : t.outcome = .connected c) (heard : ts.any (0 < ·.signals) = true)
      (page : v.page = { w.page with loop := w.page.loop.setTimeout .overlay overlayDelay })
      (session : v.Over i) : Ended w i r ts (.ok c) v

section Search

variable {w : World} {l : Listener} {s : Session ConnectorId Recovery}

/-- A session gives up its search. -/
theorem gives_up_over {v : World} {i : Nat} (hs : v.sessions[i]? = some s)
    (hprobing : s.status = .probing) (hhandle : s.handle = none) :
    (v.transition i .failed).2.Over i ∧ (v.transition i .failed).2.page = v.page := by
  rw [transition_of_probing hs hprobing]
  exact ⟨⟨_, getElem?_setSession hs, .inl rfl, hhandle⟩, rfl⟩

theorem discover_ended (finders : List Finder) (r : Connector.Request)
    (hs : w.sessions[l.session]? = some s) (hidle : s.status = .idle) (hfresh : s.pending = false)
    (hrecovery : s.recovery = some .overlay) (hhandle : s.handle = none) :
    Ended w l.session r (w.tried finders l l.session r) (w.discover finders l l.session r).1
      (w.discover finders l l.session r).2 := by
  let u := (w.transition l.session .probing).2
  have hu : u.sessions[l.session]? = some { s with status := .probing } := sessions_of_idle hs hidle
  have hpage : u.page = w.page := by simp [u, transition_of_idle hs hidle, World.log, setSession]
  have htried : w.tried finders l l.session r = trials l (r.filled s.id) s.id finders u := by
    simp [tried, u, hu]
  have hrules := probe_rules l (r.filled s.id) s.id finders u
  have hheard := probe_heard (r.filled s.id) s.id finders (l := l) ⟨_, hu, rfl⟩
  rw [← htried] at hrules hheard
  cases hprobe : probe (tryFinder l (r.filled s.id) s.id) finders u with
  | mk decision v =>
    rw [hprobe] at hrules hheard
    have hv : v.sessions[l.session]? = some (Session.hear
        ((w.tried finders l l.session r).any (0 < ·.signals)) { s with status := .probing }) := by
      rw [hheard.session, hu]
      rfl
    have hstill : v.page = w.page := hheard.page.trans hpage
    rw [discover_of_idle hs hidle hprobe ⟨_, hv, rfl⟩]
    cases decision with
    | absent =>
      obtain ⟨hover, hsame⟩ := gives_up_over hv rfl hhandle
      exact .absent hrules (hsame.trans hstill) hover
    | refused f =>
      obtain ⟨t, ht, rfl, hrefuses⟩ := hrules
      obtain ⟨hover, hsame⟩ := gives_up_over (v := v.remark (r.filled s.id) s.id t.finder .warn
        "connector refused connection") hv rfl hhandle
      exact .refused ht hrefuses (hsame.trans hstill) hover
    | connected f c =>
      obtain ⟨t, ht, rfl, haccepts⟩ := hrules
      obtain ⟨-, hattached⟩ := attach_of_probing hv rfl t.finder.kind.name c
      simp only [Session.hear, hfresh, Bool.false_or, hrecovery] at hattached
      split at hattached
      next hsignals =>
        obtain ⟨hsession, hoverlay, -⟩ := hattached
        refine .lost ht haccepts hsignals ?_ ⟨_, hsession, .inr rfl, rfl⟩
        rw [← hstill]
        exact hoverlay
      next hsilent =>
        obtain ⟨hsession, hsame, -⟩ := hattached
        exact .connected ht haccepts (Bool.not_eq_true _ ▸ hsilent) (hsame.trans hstill)
          ⟨_, hsession, rfl, rfl, rfl⟩

end Search

/-! ## Taking in what was found -/

/-- A report was made, and overlays were neither shown nor queued. -/
structure Reports (r : LoadReport) (w u : World) : Prop extends Tells r w u where
  overlays : u.page.overlays = w.page.overlays
  loop : u.page.loop = w.page.loop

theorem Reports.trans {r : LoadReport} {w u v : World} (h : Reports {} w u) (h' : Reports r u v) :
    Reports r w v where
  alerts := by rw [h'.alerts, h.alerts, List.append_nil]
  frames := by rw [h'.frames, h.frames, List.append_nil]
  calls := by rw [h'.calls, h.calls, List.append_nil]
  overlays := h'.overlays.trans h.overlays
  loop := h'.loop.trans h.loop

/-- Where nothing is reported, the page may change otherwise. -/
theorem reports_nothing {w u : World} (halerts : u.page.alerts = w.page.alerts)
    (hframes : u.page.frames = w.page.frames) (hoverlays : u.page.overlays = w.page.overlays)
    (hloop : u.page.loop = w.page.loop) (hreports : u.reports = w.reports) : Reports {} w u :=
  ⟨⟨by simpa using halerts, by simpa using hframes, by simpa using hreports⟩, hoverlays, hloop⟩

theorem reports_of_page {w u : World} (hpage : u.page = w.page) (hreports : u.reports = w.reports) :
    Reports {} w u :=
  reports_nothing (by rw [hpage]) (by rw [hpage]) (by rw [hpage]) (by rw [hpage]) hreports

section Settling

variable (w : World) (o : BridgeOptions) (loadError : Option Text) (m : DevModule)

theorem settleModule_ok_reports (c : ConnectorId) :
    Reports {} w (w.settleModule o loadError m (.ok c)).2 := by
  let u := w.newTable.2.bindTable c w.tables.length
  have hbound : Reports {} w u := reports_of_page (bindTable_page w.newTable.2 c w.tables.length)
    (reports_bindTable w.newTable.2 c w.tables.length)
  exact hbound.trans (reports_nothing rfl rfl rfl rfl rfl)

theorem settleModule_absent_reports :
    Reports (.of o loadError m.name m.codeServer .absent) w
      (w.settleModule o loadError m (.error (.pluginAbsent m.name))).2 := by
  have hrefused : (Failure.pluginAbsent m.name).isConnectionRefused = false := rfl
  have habsent : (Failure.pluginAbsent m.name).isPluginAbsent = true := rfl
  simp only [settleModule, hrefused, habsent, if_true]
  exact ⟨⟨(List.append_nil _).symm, rfl, (List.append_nil _).symm⟩, rfl, rfl⟩

theorem settleModule_refused_reports (kind : Text) :
    Reports (.of o loadError m.name m.codeServer .refused) w
      (w.settleModule o loadError m (.error (.refused m.codeServer m.name kind none))).2 := by
  have hrefused : (Failure.refused m.codeServer m.name kind none).isConnectionRefused = true := rfl
  simp only [settleModule, hrefused, if_true]
  cases loadError with
  | none => exact ⟨⟨rfl, rfl, (List.append_nil _).symm⟩, rfl, rfl⟩
  | some handler =>
    exact ⟨⟨(List.append_nil _).symm, (List.append_nil _).symm, reports_note_of_report rfl⟩, rfl, rfl⟩

end Settling

/-! ## The whole load -/

/-- Opening a module reports nothing. -/
theorem openModule_reports (w : World) (o : BridgeOptions) (name base : Text) :
    Reports {} w (w.openModule o name base).2 := by
  obtain ⟨id, heq⟩ := openModule_eq w o name base
  have hidentity (u : World) : u.identity.2.reports = u.reports := by rw [identity_eq]; rfl
  refine reports_of_page (by rw [heq]) ?_
  simp only [openModule, newSession, onDisconnected]
  split <;> exact (hidentity _).trans (reports_emit _ _ _)

/-- The candidates that are tried when a module is loaded. -/
def triedOnLoad (w : World) (options : BridgeOptions) (name base : Text) : List Trial :=
  let o := options.complete
  let (m, u) := w.openModule o name base
  u.tried o.finders { session := m.session } m.session (u.requestOf o m)

/-- A connector that a search ends with reports to the session of the search. -/
theorem discover_heardBy {w : World} {finders : List Finder} {l : Listener} {i : Nat}
    {r : Connector.Request} {c : ConnectorId} (h : (w.discover finders l i r).1 = .ok c) :
    (w.discover finders l i r).2.HeardBy c l.session := by
  intro y hy
  rw [(discover_rewired w finders l i r).wiring] at hy
  obtain ⟨x, -, rfl⟩ := Option.map_eq_some_iff.mp hy
  exact ⟨l, by simp [mem_askedFor h], rfl⟩

/-- It still does when it is given a table. -/
theorem settleModule_heardBy {w : World} {c : ConnectorId} {i : Nat} (h : w.HeardBy c i)
    (o : BridgeOptions) (loadError : Option Text) (m : DevModule) :
    (w.settleModule o loadError m (.ok c)).2.HeardBy c i := by
  intro y hy
  have hbind : (w.settleModule o loadError m (.ok c)).2.wiring? c = (w.wiring? c).map fun x =>
      if c = c ∧ x.isGuest = true then { x with table := some w.tables.length } else x :=
    bindTable_wiring? w.newTable.2 c w.tables.length c
  rw [hbind] at hy
  obtain ⟨x, hx, rfl⟩ := Option.map_eq_some_iff.mp hy
  obtain ⟨l, hl, hsession⟩ := h x hx
  refine ⟨l, ?_, hsession⟩
  split <;> exact hl

/-- Why a load ended as it did, with the candidates `ts` tried for session `i`. A connector that
accepted reports to the session ever after. -/
def Earned (ts : List Trial) (i : Nat) (u : World) : BridgeOutcome → Prop
  | .connected => ∃ t ∈ ts, ∃ c, t.outcome = .connected c ∧ ∀ xs, (u.sequels i xs).HeardBy c i
  | .refused => ∃ t ∈ ts, t.outcome = .refused
  | .absent => ∀ t ∈ ts, t.outcome = .absent

/-- The overlays that are owed to a session: one if it was connected and its loss was signalled, at
once or later. -/
def owedOverlays (ts : List Trial) (xs : List Sequel) (outcome : BridgeOutcome) : Nat :=
  if outcome = .connected ∧ (ts.any (0 < ·.signals) = true ∨ Sequel.heard xs = true) then 1 else 0

/-- What a search and what was made of it leave. -/
structure Comes (w : World) (r : LoadReport) (ts : List Trial) (i : Nat) (outcome : BridgeOutcome)
    (u : World) : Prop where
  earned : Earned ts i u outcome
  tells : Tells r w u
  overlays : u.page.overlays = w.page.overlays
  later : ∀ xs, (u.sequels i xs).Overlaid w.page.overlays
    (w.page.loop.overlays + owedOverlays ts xs outcome)

section Coming

variable {w x u : World} {r : LoadReport} {ts : List Trial} {i : Nat}

/-- Nothing was lost so far: what waits did so before. -/
theorem Reports.overlaid (h : Reports r w u) : u.Overlaid w.page.overlays w.page.loop.overlays :=
  ⟨0, by simp [h.overlays], by simp [h.loop]⟩

theorem Reports.comes_over (h : Reports r w u) (hover : u.Over i) {outcome : BridgeOutcome}
    (hearned : Earned ts i u outcome) (houtcome : outcome ≠ .connected) : Comes w r ts i outcome u where
  earned := hearned
  tells := h.toTells
  overlays := h.overlays
  later xs := by
    have hfate : Fate w.page.overlays i w.page.loop.overlays false u := ⟨h.overlaid, hover⟩
    simpa [owedOverlays, houtcome] using hfate.sequels xs

theorem Reports.comes_live (h : Reports r w u) (hlive : u.Live i)
    (hearned : Earned ts i u .connected) (hsilent : ts.any (0 < ·.signals) = false) :
    Comes w r ts i .connected u where
  earned := hearned
  tells := h.toTells
  overlays := h.overlays
  later xs := by
    have hfate : Fate w.page.overlays i w.page.loop.overlays true u := ⟨h.overlaid, hlive⟩
    simpa [owedOverlays, hsilent] using hfate.sequels xs

/-- The loss came before the report. -/
theorem Reports.comes_lost (h : Reports r x u) (hreports : x.reports = w.reports)
    (hpage : x.page = { w.page with loop := w.page.loop.setTimeout .overlay overlayDelay })
    (hover : u.Over i) (hearned : Earned ts i u .connected)
    (hheard : ts.any (0 < ·.signals) = true) : Comes w r ts i .connected u where
  earned := hearned
  tells := ⟨by rw [h.alerts, hpage], by rw [h.frames, hpage], by rw [h.calls, hreports]⟩
  overlays := by rw [h.overlays, hpage]
  later xs := by
    have hwaiting : u.page.loop.overlays = w.page.loop.overlays + 1 := by
      rw [h.loop, hpage]
      exact EventLoop.overlays_setTimeout w.page.loop .overlay overlayDelay
    have hfate : Fate w.page.overlays i (w.page.loop.overlays + 1) false u :=
      ⟨⟨0, by simp [h.overlays, hpage], by omega⟩, hover⟩
    simpa [owedOverlays, hheard] using hfate.sequels xs

/-- What was done before without a report does not count. -/
theorem Comes.of_quiet {v : World} {outcome : BridgeOutcome} (h : Comes u r ts i outcome v)
    (hquiet : Reports {} w u) : Comes w r ts i outcome v where
  earned := h.earned
  tells := by
    obtain ⟨halerts, hframes, hcalls⟩ := hquiet.toTells
    exact ⟨by simpa [halerts] using h.tells.alerts, by simpa [hframes] using h.tells.frames,
      by simpa [hcalls] using h.tells.calls⟩
  overlays := h.overlays.trans hquiet.overlays
  later xs := by
    rw [← hquiet.overlays, ← hquiet.loop]
    exact h.later xs

end Coming

/-- How a search ends is told from the page and the sessions. -/
theorem Ended.of_eq {w v v' : World} {i : Nat} {r : Connector.Request} {ts : List Trial}
    {found : Except Failure ConnectorId} (h : Ended w i r ts found v) (hpage : v'.page = v.page)
    (hsessions : v'.sessions = v.sessions) : Ended w i r ts found v' := by
  cases h with
  | absent nobody page session => exact .absent nobody (hpage.trans page) (session.of_eq hsessions)
  | refused tried refuses page session =>
    exact .refused tried refuses (hpage.trans page) (session.of_eq hsessions)
  | connected tried accepts silent page session =>
    exact .connected tried accepts silent (hpage.trans page) (session.of_eq hsessions)
  | lost tried accepts heard page session =>
    exact .lost tried accepts heard (hpage.trans page) (session.of_eq hsessions)

/-- Taking in the end of a search, for a module that was just opened. -/
theorem Ended.comes {w x : World} {i : Nat} {r : Connector.Request} {ts : List Trial}
    {found : Except Failure ConnectorId} {m : DevModule} (h : Ended w i r ts found x)
    (hreports : x.reports = w.reports) (hheard : ∀ c, found = .ok c → x.HeardBy c i)
    (hmodule : r.module = m.name) (hserver : r.codeServer = m.codeServer)
    (hm : m.outcome = .connected) (o : BridgeOptions) (loadError : Option Text) :
    ∃ outcome reported, Settles m outcome reported x (x.settleModule o loadError m found).1
        (x.settleModule o loadError m found).2 ∧
      Comes w (.of o loadError m.name m.codeServer outcome) ts i outcome
        (x.settleModule o loadError m found).2 := by
  cases h with
  | absent nobody page session =>
    rw [hmodule]
    have hsettles := settleModule_absent x o loadError m
    exact ⟨_, _, hsettles, ((reports_of_page page hreports).trans
      (settleModule_absent_reports x o loadError m)).comes_over (session.of_eq hsettles.sessions)
        nobody nofun⟩
  | @refused t _ tried refuses page session =>
    rw [hmodule, hserver]
    have hsettles := settleModule_refused x o loadError m m.codeServer t.finder.kind.name
    exact ⟨_, _, hsettles, ((reports_of_page page hreports).trans
      (settleModule_refused_reports x o loadError m t.finder.kind.name)).comes_over
        (session.of_eq hsettles.sessions) ⟨t, tried, refuses⟩ nofun⟩
  | @connected t c _ tried accepts silent page session =>
    have hsettles := settleModule_ok x o loadError m c
    have hstays := settleModule_heardBy (hheard c rfl) o loadError m
    rw [hm] at hsettles
    exact ⟨_, _, hsettles, ((reports_of_page page hreports).trans
      (settleModule_ok_reports x o loadError m c)).comes_live
        ⟨c, session.of_eq hsettles.sessions, hstays⟩ ⟨t, tried, c, accepts, hstays.sequels i⟩ silent⟩
  | @lost t c _ tried accepts heard page session =>
    have hsettles := settleModule_ok x o loadError m c
    have hstays := settleModule_heardBy (hheard c rfl) o loadError m
    rw [hm] at hsettles
    exact ⟨_, _, hsettles, (settleModule_ok_reports x o loadError m c).comes_lost hreports page
      (session.of_eq hsettles.sessions) ⟨t, tried, c, accepts, hstays.sequels i⟩ heard⟩

/-- What comes of the search for a module that was just opened. -/
theorem discoverFor_comes {w : World} {m : DevModule} {id name : Text}
    (hs : w.sessions[m.session]? = some { id, module := name, recovery := some .overlay })
    (hm : m.outcome = .connected) (o : BridgeOptions) (loadError : Option Text) :
    let x := (w.discoverFor o m).2.emit m.emitter Metrics.evalEnd
    let settled := x.settleModule o loadError m (w.discoverFor o m).1
    let ts := w.tried o.finders { session := m.session } m.session (w.requestOf o m)
    x.modules = w.modules ∧ ∃ outcome reported, Settles m outcome reported x settled.1 settled.2 ∧
      Comes w (.of o loadError m.name m.codeServer outcome) ts m.session outcome settled.2 := by
  let l : Listener := { session := m.session }
  let r := w.requestOf o m
  have hended := discover_ended (l := l) o.finders r hs rfl rfl rfl rfl
  have hreports := w.reports_discover o.finders l m.session r
  have hmodules := (discover_rewired w o.finders l m.session r).modules
  have hheard : ∀ c, (w.discover o.finders l m.session r).1 = .ok c →
      (w.discover o.finders l m.session r).2.HeardBy c m.session := fun c => discover_heardBy
  unfold discoverFor
  cases hdiscover : w.discover o.finders l m.session r with
  | mk found v =>
    rw [hdiscover] at hended hreports hmodules hheard
    intro x settled ts
    have hsame : x.page = v.page ∧ x.sessions = v.sessions ∧ x.connectors = v.connectors ∧
        x.modules = v.modules := by
      simp only [x]
      rw [emit_eq]
      exact ⟨rfl, rfl, rfl, rfl⟩
    obtain ⟨hpage, hsessions, hconnectors, hkept⟩ := hsame
    refine ⟨hkept.trans hmodules, (hended.of_eq hpage hsessions).comes
      ((reports_emit v _ _).trans hreports) (fun c hc => ?_) rfl rfl hm o loadError⟩
    exact (hheard c hc).of_wiring (by rw [wiring?, hconnectors, wiring?])

/-- **Each load makes one report, of its outcome.** Overlays come later, and from the loop: none for a
load that failed, and one for a module whose connection was lost. A connector counts with all that it
signals, while the candidates are tried or later, until the session is closed. -/
theorem onLoad_reports (w : World) (options : BridgeOptions) (loadError : Option Text) {name : Text}
    (hname : name ≠ []) (base : Text) :
    let u := (w.onLoad options loadError name base).2
    let i := w.sessions.length
    let ts := w.triedOnLoad options name base
    let server := Url.codeServer w.page.search
    ∃ m, u.modules = w.modules ++ [m] ∧
      (w.onLoad options loadError name base).1.module = some w.modules.length ∧
      m.name = name ∧ m.session = i ∧ Earned ts i u m.outcome ∧
      Tells (.of options.complete loadError name server m.outcome) w u ∧
      u.page.overlays = w.page.overlays ∧
      ∀ xs, let v := u.sequels i xs
        let n := w.page.loop.overlays + owedOverlays ts xs m.outcome
        (v.disconnected i).2.page.overlays = v.page.overlays ∧ v.Overlaid w.page.overlays n ∧
          v.drain.2.page.overlays = w.page.overlays ++ List.replicate n disconnectOverlay := by
  unfold onLoad triedOnLoad
  simp only [List.isEmpty_iff, hname, if_false]
  have hopened := openModule_opened w options.complete name base
  have hquiet := openModule_reports w options.complete name base
  cases hopen : w.openModule options.complete name base with
  | mk m u =>
    rw [hopen] at hopened hquiet
    obtain ⟨id, hs⟩ := hopened.session
    obtain ⟨hsearch, outcome, reported, hsettles, hcomes⟩ :=
      discoverFor_comes hs hopened.outcome options.complete loadError
    obtain ⟨⟨m', hadded, hname', -, hsession, rfl⟩, -, hplace, -⟩ := hsettles
    have hcomes := hcomes.of_quiet hquiet
    rw [hopened.named, hopened.server] at hcomes
    rw [hsearch, hopened.kept.modules] at hadded hplace
    rw [← hopened.place]
    refine ⟨m', hadded, hplace, hname'.trans hopened.named, hsession, ?_⟩
    refine ⟨hcomes.earned, hcomes.tells, hcomes.overlays, fun xs => ?_⟩
    exact ⟨overlays_disconnected _ _, hcomes.later xs, (hcomes.later xs).drained⟩

/-- A page with three connectors under the globals `a` to `c`: one that declines, one that accepts and
signals meanwhile, and one that accepts. -/
def wharf : World :=
  .start {
    dom := {
      document := .tree 1 (.element "html" []) (.tree 2 (.element "head" []) ++ .tree 3 (.element "body" []))
      next := 4 }
    head := 2, body := 3, location := {}
    globals := [([97], .connector 0), ([98], .connector 1), ([99], .connector 2)] } []
    [{ name := "a", init := .no }, { name := "b", connectSignals := 1 }, { name := "c" }]

/-- The connection that is lost while it is made has its overlay shown, also if the session is closed
before that; and nothing else is reported of it. A load that meets no connector ends with a frame. -/
theorem onLoad_reports_wharf :
    let lost := (wharf.onLoad { finders := [.global [97], .global [98], .global [99]] } none [77] []).2
    let absent := (wharf.onLoad { finders := [.global [97]] } (some [104]) [77] []).2
    ([77] : Text) ≠ [] ∧ lost.page.alerts = [] ∧ lost.page.frames = [] ∧ lost.page.overlays = [] ∧
      (lost.sequels 0 [.close, .signal]).drain.2.page.overlays = [disconnectOverlay] ∧
      absent.page.frames = [missingPluginUrl] ∧ absent.reports = [] ∧
      (absent.sequels 0 [.signal, .turn, .signal]).drain.2.page.overlays = [] := by
  intro lost absent
  have hname : ([77] : Text) ≠ [] := by decide
  obtain ⟨m, hlost, -, -, -, -, ⟨halerts, hframes, -⟩, hoverlays, hlater⟩ :=
    onLoad_reports wharf { finders := [.global [97], .global [98], .global [99]] } none hname []
  obtain ⟨m', habsent, -, -, -, -, ⟨-, hframes', hcalls'⟩, -, hlater'⟩ :=
    onLoad_reports wharf { finders := [.global [97]] } (some [104]) hname []
  have hconnected : lost.modules.map (·.outcome) = [.connected] := by decide +kernel
  have hmissed : absent.modules.map (·.outcome) = [.absent] := by decide +kernel
  have hm : m.outcome = .connected := by
    rw [hlost] at hconnected
    exact List.head_eq_of_cons_eq hconnected
  have hm' : m'.outcome = .absent := by
    rw [habsent] at hmissed
    exact List.head_eq_of_cons_eq hmissed
  have hsignalled : (wharf.triedOnLoad { finders := [.global [97], .global [98], .global [99]] }
      [77] []).any (0 < ·.signals) = true := by decide +kernel
  have hshown := (hlater [.close, .signal]).2.2
  have hshown' := (hlater' [.signal, .turn, .signal]).2.2
  rw [hm] at halerts hframes hshown
  rw [hm'] at hframes' hcalls' hshown'
  rw [owedOverlays, if_pos ⟨rfl, .inl hsignalled⟩] at hshown
  exact ⟨hname, halerts, hframes, hoverlays, hshown, hframes', hcalls', hshown'⟩

end World

end PageBoot
