import PageBoot.Proofs.Loader.Injecting
import PageBoot.Proofs.World.Lasting
import PageBoot.Proofs.World.Reports

/-!
Runs that choose no variant. Whether a module does not build, lacks the variant for its values or has
a property with an illegal value, its run ends where the preparation of the page and the providers
left the world: nothing is injected, no resource is marked and no observer hears of anything
(`selectBy_declines`). On top of that an illegal value is reported, once, to the one listener that is
in charge of it.
-/

namespace PageBoot

open Binding

/-! ## Providers that only look -/

namespace Loader

variable {π σ : Type} {make : π → Option (Provider σ)}

/-- The providers change nothing when they are asked. -/
def Looking (make : π → Option (Provider σ)) : Prop :=
  ∀ rule f, make rule = some f → ∀ s, (f s).2 = s

namespace Looking

variable {p : PropertyDef π} {ps : List (PropertyDef π)} {f : Provider σ} {s t : σ} {v : Text}
  {vs : List Text}

theorem eq_of_value (h : Looking make) (provider : p.provider.bind make = some f)
    (value : f s = (v, t)) : t = s := by
  obtain ⟨rule, -, hrule⟩ := Option.bind_eq_some_iff.mp provider
  rw [← h rule f hrule s, value]

theorem eq_of_evaluates (h : Looking make) (hall : ModuleDef.Evaluates make ps s vs t) : t = s := by
  induction hall with
  | nil => rfl
  | cons provider value _ _ ih => exact ih.trans (h.eq_of_value provider value)

theorem eq_of_strays (h : Looking make) (hstrays : ModuleDef.Strays make ps s p v t) : t = s := by
  induction hstrays with
  | here provider value _ => exact h.eq_of_value provider value
  | later provider value _ _ ih => exact ih.trans (h.eq_of_value provider value)

end Looking

/-! ## Reports of illegal values -/

namespace PropertyListener

/-- The page as the user sees it after an illegal value. -/
def shown (l : PropertyListener) (name : Text) (allowed : List Text) (value : Text) (p : Page) : Page :=
  match l with
  | .user => p.alert (bannerText name allowed value)
  | _ => p

/-- What a handler is told of an illegal value. -/
def told (l : PropertyListener) (name : Text) (allowed : List Text) (value : Text) : List Note :=
  match l with
  | .labelled h => [.propertyError h name allowed value]
  | _ => []

end PropertyListener

end Loader

namespace World

open Loader

/-! ## What is only said -/

/-- From `w` to `u` sinks were told of moments and the journal was written, and that was all. -/
def Said (w u : World) : Prop :=
  ∃ moments : List (Text × Metrics.Event), ∃ entries : List Journal.Entry,
    u = { w with
      notes := w.notes ++ moments.map fun x => .metric x.1 x.2
      journal := w.journal ++ entries }

namespace Said

variable {w u v : World}

theorem refl (w : World) : Said w w := ⟨[], [], by simp⟩

theorem trans (h : Said w u) (h' : Said u v) : Said w v := by
  obtain ⟨moments, entries, rfl⟩ := h
  obtain ⟨moments', entries', rfl⟩ := h'
  exact ⟨moments ++ moments', entries ++ entries', by simp⟩

theorem logAll (w : World) (es : List Journal.Entry) : Said w (w.logAll es) :=
  ⟨[], es, by simp [World.logAll]⟩

theorem log (w : World) (e : Journal.Entry) : Said w (w.log e) := logAll w [e]

theorem foldl {α : Type} {f : World → α → World} (h : ∀ w a, Said w (f w a)) (w : World)
    (as : List α) : Said w (as.foldl f w) := by
  induction as generalizing w with
  | nil => exact .refl w
  | cons a as ih => exact (h w a).trans (ih (f w a))

theorem emit (w : World) (e : Metrics.Emitter Text) (m : Metrics.Moment) : Said w (w.emit e m) :=
  foldl (fun _ sink => ⟨[(sink, e.stamp m 0)], [], by simp [note]⟩) w e.sinks

theorem page (h : Said w u) : u.page = w.page := by
  obtain ⟨moments, entries, rfl⟩ := h
  rfl

theorem state (h : Said w u) : u.state = w.state := by
  obtain ⟨moments, entries, rfl⟩ := h
  rfl

theorem reports (h : Said w u) : u.reports = w.reports := by
  obtain ⟨moments, entries, rfl⟩ := h
  have hmoments : (moments.map fun x => Note.metric x.1 x.2).filter Note.isReport = [] := by
    refine List.filter_eq_nil_iff.mpr fun n hn => ?_
    obtain ⟨x, -, rfl⟩ := List.mem_map.mp hn
    exact Bool.false_ne_true
  simp [World.reports, hmoments]

end Said

/-! ## The preparation of the page -/

theorem state_write (w : World) (markup : Text) : (w.write markup).state = w.state := by
  have hfactories (u : World) (waiting : List (Html.NodeId × Page.Factory)) :
      (u.runFactories waiting).state = u.state := by
    induction waiting generalizing u with
    | nil => rfl
    | cons x waiting ih => exact (ih _).trans (u.runFactory_apart x.1 x.2).state
  exact hfactories _ _

/-- What is known of a page before the providers of a module are asked. -/
structure Readied where
  base : Text
  settings : MetaSettings
  world : World

/-- Finds the script base and then reads the metas. -/
def readied (w : World) (module : Text) (o : SelectionOptions) : Readied :=
  let (base, u) := (w.emit (w.selectionEmitter module o) Metrics.bootstrapStart).scriptBase module
  let (settings, v) := u.readMetas o.handlers
  { base, settings, world := v }

/-- From `w` to `u` nothing was marked, and neither observers nor handlers were told of anything. -/
structure Untold (w u : World) : Prop where
  state : u.state = w.state
  reports : u.reports = w.reports

namespace Untold

variable {w u v : World}

theorem refl (w : World) : Untold w w := ⟨rfl, rfl⟩

theorem trans (h : Untold w u) (h' : Untold u v) : Untold w v :=
  ⟨h'.state.trans h.state, h'.reports.trans h.reports⟩

theorem onPage (w : World) (f : Page → Page) : Untold w (w.onPage f) := ⟨rfl, rfl⟩

theorem write (w : World) (markup : Text) : Untold w (w.write markup) :=
  ⟨w.state_write markup, w.reports_write markup⟩

end Untold

theorem Said.untold {w u : World} (h : Said w u) : Untold w u := ⟨h.state, h.reports⟩

theorem untold_scriptBase (w : World) (module : Text) : Untold w (w.scriptBase module).2 := by
  unfold scriptBase
  simp only
  split
  · dsimp only
    exact .write w _
  · dsimp only
    exact (Untold.write w _).trans (.onPage _ _)

theorem untold_readMetas (w : World) (table : HandlerTable) : Untold w (w.readMetas table).2 := by
  have halerts (w : World) (alerts : List Text) :
      Untold w (alerts.foldl (fun w a => w.onPage (·.alert a)) w) := by
    induction alerts generalizing w with
    | nil => exact .refl w
    | cons a alerts ih => exact (Untold.onPage w _).trans (ih _)
  exact halerts w _

/-- The preparation marks nothing and tells no handler. -/
theorem untold_readied (w : World) (module : Text) (o : SelectionOptions) :
    Untold w (w.readied module o).world := by
  have hbase := (Said.emit w (w.selectionEmitter module o) Metrics.bootstrapStart).untold.trans
    (untold_scriptBase _ module)
  unfold readied
  cases hscript : (w.emit (w.selectionEmitter module o) Metrics.bootstrapStart).scriptBase module with
  | mk base u =>
    rw [hscript] at hbase
    exact hbase.trans (u.untold_readMetas o.handlers)

/-- A run prepares the page, and says what it ignores. -/
theorem prepare_eq (w : World) (module : Text) (o : SelectionOptions) :
    ∃ u, (w.emit (w.selectionEmitter module o) Metrics.bootstrapStart).prepare module o.handlers =
        ((w.readied module o).base, (w.readied module o).settings, u) ∧
      Said (w.readied module o).world u := by
  unfold prepare readied
  cases (w.emit (w.selectionEmitter module o) Metrics.bootstrapStart).scriptBase module with
  | mk base u =>
    simp only
    cases u.readMetas o.handlers with
    | mk settings v => exact ⟨_, rfl, .foldl (fun w _ => .log w _) v _⟩

/-! ## Reports of illegal values -/

section Reports

variable (l : PropertyListener) (name : Text) (allowed : List Text) (value : Text) (w : World)

theorem reportIllegal_page :
    (reportIllegal l name allowed value w).page = l.shown name allowed value w.page := by
  cases l <;> rfl

theorem reportIllegal_state : (reportIllegal l name allowed value w).state = w.state := by
  cases l <;> rfl

theorem reportIllegal_reports :
    (reportIllegal l name allowed value w).reports = w.reports ++ l.told name allowed value := by
  cases l with
  | labelled h => exact reports_note_of_report rfl
  | _ => exact (List.append_nil _).symm

end Reports

/-! ## Choosing no variant -/

variable {π : Type} {make : MetaSettings → π → Option (Provider World)} {w : World} {m : ModuleDef π}
  {o : SelectionOptions}

/-- The providers are asked in the world that the preparation leaves. -/
theorem asking_eq (make : MetaSettings → π → Option (Provider World)) (w : World) (m : ModuleDef π)
    (o : SelectionOptions) : (w.asking make m o).1 = (w.readied m.name o).settings ∧
      Said (w.readied m.name o).world (w.asking make m o).2 := by
  obtain ⟨u, heq, hsaid⟩ := w.prepare_eq m.name o
  unfold asking
  simp only [heq, true_and]
  exact (hsaid.trans (.logAll u _)).trans (.emit _ _ _)

/-- How a run ends that chooses no variant, and what it leaves, if its page was readied as `u` says
and its providers are asked in the world `asked`. -/
inductive Declines (make : MetaSettings → π → Option (Provider World)) (m : ModuleDef π)
    (o : SelectionOptions) (u : Readied) (asked : World) : Except Failure Selected → World → Prop where
  | malformed {f : Failure} {x : World} (fails : (m.build (make u.settings)).1 = .error f)
      (left : Said u.world x) : Declines make m o u asked (.error f) x
  | incomplete {vs : List Text} {x : World}
      (values : ModuleDef.Evaluates (make u.settings) m.properties asked vs x)
      (missing : ∀ v ∈ m.permutations, v.values ≠ vs) :
      Declines make m o u asked (.error (.incompleteTable vs)) x
  | aborted {p : PropertyDef π} {v : Text} {t x : World}
      (value : ModuleDef.Strays (make u.settings) m.properties asked p v t)
      (left : Said (reportIllegal (o.listener u.settings) p.name (Text.sort (Text.dedup p.values)) v t)
        x) :
      Declines make m o u asked (.ok { base := u.base, settings := u.settings, aborted := true }) x

namespace Declines

variable {u : Readied} {asked x : World} {reply : Except Failure Selected} {r : Selected}

/-- Where providers only look, a run that fails leaves the page as it was readied. -/
theorem of_error {f : Failure} (h : Declines make m o u asked (.error f) x)
    (hasked : Said u.world asked) (hlooking : Looking (make u.settings)) : Said u.world x := by
  cases h with
  | malformed _ hleft => exact hleft
  | incomplete hall _ =>
    rw [hlooking.eq_of_evaluates hall]
    exact hasked

theorem of_ok (h : Declines make m o u asked (.ok r) x) :
    r = { base := u.base, settings := u.settings, aborted := true
          strong := [], scriptUrl := [], scripts := [], styles := [] } := by
  cases h
  rfl

/-- Where providers only look, a run that is aborted leaves a report beside. -/
theorem exists_report (h : Declines make m o u asked (.ok r) x)
    (hlooking : Looking (make u.settings)) :
    ∃ p v, ModuleDef.Strays (make u.settings) m.properties asked p v asked ∧
      Said (reportIllegal (o.listener u.settings) p.name (Text.sort (Text.dedup p.values)) v asked)
        x := by
  cases h with
  | aborted hstrays hleft =>
    have ht := hlooking.eq_of_strays hstrays
    rw [ht] at hstrays hleft
    exact ⟨_, _, hstrays, hleft⟩

end Declines

theorem selectBy_ends (make : MetaSettings → π → Option (Provider World)) (w : World)
    (o : SelectionOptions) (hname : m.name ≠ []) :
    (∃ r, (w.selectBy make m o).1 = .ok r ∧ r.aborted = false) ∨
      Declines make m o (w.readied m.name o) (w.asking make m o).2 (w.selectBy make m o).1
        (w.selectBy make m o).2 := by
  obtain ⟨readied, hprepared, hsaid⟩ := w.prepare_eq m.name o
  have hasked {e : Engine World} {base : Text} {settings : MetaSettings} {s : World}
      (hpoised : Poised make m o w base settings e s) : base = (w.readied m.name o).base ∧
        settings = (w.readied m.name o).settings ∧ s = (w.asking make m o).2 := by
    obtain ⟨u, hprepare, -⟩ := hpoised.prepared
    obtain ⟨hbase, hrest⟩ := Prod.mk.inj (hprepared.symm.trans hprepare)
    exact ⟨hbase.symm, (Prod.mk.inj hrest).1.symm, by rw [hpoised.asking_eq]⟩
  have hcourse := selectBy_course make w m o
  generalize w.selectBy make m o = run at hcourse ⊢
  cases hcourse with
  | nameless h => exact absurd h hname
  | malformed _ hprepare hbuild =>
    obtain ⟨-, hrest⟩ := Prod.mk.inj (hprepared.symm.trans hprepare)
    obtain ⟨hsettings, hworld⟩ := Prod.mk.inj hrest
    rw [← hsettings] at hbuild
    rw [← hsettings, ← hworld]
    exact .inr (.malformed hbuild (hsaid.trans (.logAll readied _)))
  | incomplete _ hpoised hall hmissing _ =>
    obtain ⟨-, hsettings, hworld⟩ := hasked hpoised
    rw [hsettings, hworld] at hall
    exact .inr (.incomplete hall hmissing)
  | aborted _ hpoised hstrays _ =>
    obtain ⟨hbase, hsettings, hworld⟩ := hasked hpoised
    rw [hsettings, hworld] at hstrays
    rw [hpoised.listener, ModuleDef.report, Option.elim_some, hbase, hsettings]
    have hleft (x : World) (f : Failure) : Said x (x.saySelection m.name .info
        "permutation selection aborted" [("error", .text f.message)]) := .log x _
    exact .inr (.aborted hstrays (hleft _ _))
  | chosen => exact .inl ⟨_, rfl, rfl⟩

/-- **A run that chooses no variant puts nothing on the page.** Before the providers of a module are
asked, the page is prepared, which marks nothing and tells nobody. A run that fails, because the module
does not build or has no variant for its values, ends in the world that the providers leave; so does a
run that is aborted for an illegal value, but for one report of it to the listener in charge. Where
providers only look, the page is thus the prepared one, with at most a banner, the shared state is as
it was, and no more than the one handler was told anything. -/
theorem selectBy_declines (make : MetaSettings → π → Option (Provider World)) (w : World)
    (o : SelectionOptions) {m : ModuleDef π} (hname : m.name ≠ []) :
    let u := w.readied m.name o
    let asked := (w.asking make m o).2
    let reply := (w.selectBy make m o).1
    let x := (w.selectBy make m o).2
    Untold w u.world ∧ Said u.world asked ∧
    (∀ f, reply = .error f → Declines make m o u asked reply x ∧
      (Looking (make u.settings) → x.page = u.world.page ∧ Untold w x)) ∧
    ∀ r, reply = .ok r → r.aborted = true → Declines make m o u asked reply x ∧
      r = { base := u.base, settings := u.settings, aborted := true
            strong := [], scriptUrl := [], scripts := [], styles := [] } ∧
      (Looking (make u.settings) → ∃ p v,
        ModuleDef.Strays (make u.settings) m.properties asked p v asked ∧
        let allowed := Text.sort (Text.dedup p.values)
        x.page = (o.listener u.settings).shown p.name allowed v u.world.page ∧
        x.state = w.state ∧
        x.reports = w.reports ++ (o.listener u.settings).told p.name allowed v) := by
  have hreadied := w.untold_readied m.name o
  have hasked := (asking_eq make w m o).2
  have hends := selectBy_ends make w o hname
  generalize w.selectBy make m o = run at hends ⊢
  obtain ⟨reply, x⟩ := run
  refine ⟨hreadied, hasked, ?_, ?_⟩
  · rintro f rfl
    obtain ⟨r, hr, -⟩ | hdeclines := hends
    · cases hr
    refine ⟨hdeclines, fun hlooking => ?_⟩
    have hsaid := hdeclines.of_error hasked hlooking
    exact ⟨hsaid.page, hreadied.trans hsaid.untold⟩
  · rintro r rfl haborted
    obtain ⟨r', hr', hchosen⟩ | hdeclines := hends
    · obtain rfl := Except.ok.inj hr'
      rw [haborted] at hchosen
      cases hchosen
    refine ⟨hdeclines, hdeclines.of_ok, fun hlooking => ?_⟩
    obtain ⟨p, v, hstrays, hleft⟩ := hdeclines.exists_report hlooking
    refine ⟨p, v, hstrays, ?_, ?_, ?_⟩
    · rw [hleft.page, reportIllegal_page, hasked.page]
    · rw [hleft.state, reportIllegal_state, hasked.state, hreadied.state]
    · rw [hleft.reports, reportIllegal_reports, hasked.reports, hreadied.reports]

/-- Described providers only look. -/
theorem looking_provider (m : ModuleDef ValueRule) (settings : MetaSettings) :
    Looking (provider m settings) := by
  intro rule f hf s
  obtain rfl := Option.some.inj hf
  rfl

/-- A page whose meta names a handler of illegal values. -/
def parlour : World :=
  .start {
    dom := {
      document := .tree 1 (.element "html" [])
        (.tree 2 (.element "head" [])
            (.tree 6 (.element "meta" [("name", "gwt:onPropertyErrorFn"), ("content", "tell")]) .nil) ++
          .tree 3 (.element "body" []) (.tree 4 (Page.scriptLabel "m.nocache.js") .nil))
      next := 7 }
    head := 2, body := 3, location := {}, current := some 4 } [] []

/-- The first property is legal, and the theme is not. -/
def misthemed : ModuleDef ValueRule where
  name := "m"
  properties := [{ name := "locale", values := ["en", "de"], provider := some (.constant "en") },
    { name := "theme", values := ["dark"], provider := some (.constant "neon") }]
  permutations := [{ values := ["en", "dark"], strong := "AA" }]
  scripts := ["u.js"]
  styles := ["x.css"]

/-- The page's handler goes before the caller's. -/
def hosting : SelectionOptions where
  handlers := { property := ["tell"] }
  propertyError := some "log"

theorem strays_misthemed {settings : MetaSettings} {s t : World} {p : PropertyDef ValueRule} {v : Text}
    (h : ModuleDef.Strays (provider misthemed settings) misthemed.properties s p v t) :
    p.name = "theme" ∧ p.values = ([ "dark" ] : List Text) ∧ v = "neon" := by
  cases h with
  | here provider value illegal =>
    obtain rfl := Option.some.inj provider
    obtain ⟨rfl, -⟩ := Prod.mk.inj value
    exact absurd List.mem_cons_self illegal
  | later _ _ _ rest =>
    cases rest with
    | here provider value illegal =>
      obtain rfl := Option.some.inj provider
      obtain ⟨rfl, -⟩ := Prod.mk.inj value
      exact ⟨rfl, rfl, rfl⟩
    | later _ _ _ rest => cases rest

theorem selectBy_declines_parlour :
    misthemed.name ≠ [] ∧
      let x := (parlour.selectBy (provider misthemed) misthemed hosting).2
      (∃ r, (parlour.selectBy (provider misthemed) misthemed hosting).1 = .ok r ∧ r.aborted = true ∧
          r.strong = []) ∧
        x.page = (parlour.readied misthemed.name hosting).world.page ∧ x.state = parlour.state ∧
        x.reports = [.propertyError "tell" "theme" ["dark"] "neon"] := by
  have hname : misthemed.name ≠ [] := by decide
  have hlistener : hosting.listener (parlour.readied misthemed.name hosting).settings =
      .labelled "tell" := by decide +kernel
  have haborts : (parlour.selectBy (provider misthemed) misthemed hosting).1.toOption.map (·.aborted) =
      some true := by decide +kernel
  have hallowed : Text.sort (Text.dedup ["dark"]) = ([ "dark"] : List Text) := by
    simp [Text.sort, Text.dedup, List.eraseDups_cons]
  obtain ⟨r, hreply, haborted⟩ : ∃ r,
      (parlour.selectBy (provider misthemed) misthemed hosting).1 = .ok r ∧ r.aborted = true := by
    cases hreply : (parlour.selectBy (provider misthemed) misthemed hosting).1 with
    | error f =>
      rw [hreply] at haborts
      cases haborts
    | ok r =>
      rw [hreply] at haborts
      exact ⟨r, rfl, Option.some.inj haborts⟩
  obtain ⟨-, -, -, hall⟩ := selectBy_declines (provider misthemed) parlour hosting hname
  obtain ⟨-, hempty, hlooks⟩ := hall r hreply haborted
  obtain ⟨p, v, hstrays, hpage, hstate, hreports⟩ := hlooks (looking_provider misthemed _)
  obtain ⟨htheme, hvalues, rfl⟩ := strays_misthemed hstrays
  rw [hlistener] at hpage hreports
  rw [htheme, hvalues, hallowed] at hreports
  exact ⟨hname, ⟨r, hreply, haborted, by rw [hempty]⟩, hpage, hstate, hreports⟩

end World

end PageBoot
