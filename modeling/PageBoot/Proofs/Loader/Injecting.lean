import Mathlib.Data.List.Nodup
import PageBoot.Proofs.Loader.Choosing
import PageBoot.Proofs.World.Resources

/-!
Which resources the modules of a page bring in. A run that chooses a variant adds the resources that
its module lists and that were not loaded before, each once and in order; any other run adds none
(`selectBy_cases`). So of all runs on a page the first that lists a resource is the one that adds it
(`visits_inject_once`), whatever else happens in between, as long as nobody else marks resources.
-/

namespace PageBoot

open Html Page Loader

namespace Loader

def ModuleDef.listed {π : Type} (m : ModuleDef π) : ResourceKind → List Text
  | .script => m.scripts
  | .style => m.styles

/-- The addresses of the resources that were added. -/
def Selected.urls (r : Selected) : ResourceKind → List Text
  | .script => r.scripts
  | .style => r.styles

/-- The listed names that are not loaded, each once and in the order of their first mention. -/
def unloaded (loaded listed : List Text) : List Text := Text.dedup (listed.filter (!loaded.contains ·))

theorem unloaded_cons_of_mem {loaded : List Text} {name : Text} (h : name ∈ loaded) (rest : List Text) :
    unloaded loaded (name :: rest) = unloaded loaded rest := by
  rw [unloaded, List.filter_cons_of_neg (by simpa using h), unloaded]

theorem unloaded_cons_of_not_mem {loaded : List Text} {name : Text} (h : name ∉ loaded)
    (rest : List Text) :
    unloaded loaded (name :: rest) = name :: unloaded (loaded ++ [name]) rest := by
  rw [unloaded, List.filter_cons_of_pos (by simpa using h), Text.dedup, List.eraseDups_cons,
    List.filter_filter, unloaded, Text.dedup]
  congr 3
  funext n
  by_cases hn : n = name <;> simp [hn]

theorem mem_unloaded {loaded listed : List Text} {name : Text} :
    name ∈ unloaded loaded listed ↔ name ∈ listed ∧ name ∉ loaded := by
  simp [unloaded, Text.dedup, List.mem_eraseDups]

theorem nodup_unloaded (loaded listed : List Text) : (unloaded loaded listed).Nodup :=
  Text.nodup_dedup _

end Loader

namespace World

variable {π : Type}

/-! ## Loading what is not loaded -/

/-- What loading some names leaves, of which `new` were not loaded. -/
structure Loads (kind : ResourceKind) (base : Text) (add : Page → Text → Page) (w : World)
    (new : List Text) (r : List Text × World) : Prop where
  urls : r.1 = new.map (Url.resolve base)
  loaded : r.2.loaded kind = w.loaded kind ++ new
  others : ∀ k, k ≠ kind → r.2.loaded k = w.loaded k
  quiet : r.2.Quiet
  page : r.2.page = addAll add w.page r.1

theorem loadNew_loads {w : World} (h : w.Quiet) (kind : ResourceKind) (base : Text)
    (add : Page → Text → Page) (names : List Text) :
    Loads kind base add w (unloaded (w.loaded kind) names) (loadNew kind base add names w) := by
  induction names generalizing w with
  | nil => exact ⟨rfl, (List.append_nil _).symm, fun _ _ => rfl, h, rfl⟩
  | cons name rest ih =>
    rcases mark_cases h kind name with ⟨hmem, hmark⟩ | ⟨hnew, u, hmark, hmarked⟩
    · rw [unloaded_cons_of_mem hmem]
      simpa only [loadNew, hmark] using ih h
    · have hquiet : (u.onPage fun p => add p (Url.resolve base name)).Quiet := hmarked.quiet
      have hloaded (k : ResourceKind) :
          (u.onPage fun p => add p (Url.resolve base name)).loaded k = u.loaded k := rfl
      have hrest := ih hquiet
      rw [hloaded, hmarked.loaded] at hrest
      rw [unloaded_cons_of_not_mem hnew]
      simp only [loadNew, hmark]
      refine ⟨?_, ?_, fun k hk => ?_, hrest.quiet, ?_⟩
      · rw [hrest.urls, List.map_cons]
      · rw [hrest.loaded, hloaded, hmarked.loaded, List.append_assoc, List.singleton_append]
      · rw [hrest.others k hk, hloaded, hmarked.others k hk]
      · rw [hrest.page, onPage, hmarked.page, addAll, addAll, List.foldl_cons]

/-! ## Putting a variant on the page -/

/-- Stylesheets went to the end of the head, and then scripts to the place of writing with the script
of the variant right behind them. -/
def Injected (p : Page) (r : Selected) (p' : Page) : Prop :=
  let q := addAll addStylesheet p r.styles
  (∃ links, links.map (·.2) = r.styles.map stylesheetLabel ∧
    Joins (some p.head) (p.dom.kids (some p.head)) [] links p.dom q.dom) ∧
  ∃ P front back scripts, Slot P front back q ∧
    scripts.map (·.2) = (r.scripts ++ [r.scriptUrl]).map scriptLabel ∧
    Joins P front back scripts q.dom p'.dom

/-- What a run leaves that puts its variant on the page. -/
structure Injects (m : ModuleDef π) (w : World) (r : Selected) (u : World) : Prop where
  urls : ∀ kind, r.urls kind = (unloaded (w.loaded kind) (m.listed kind)).map (Url.resolve r.base)
  loaded : ∀ kind, u.loaded kind = w.loaded kind ++ unloaded (w.loaded kind) (m.listed kind)
  quiet : u.Quiet
  page : Injected w.page r u.page
  framed : u.page.Framed

/-- The styles and then the scripts that a module lacks. -/
def loadAll (w : World) (m : ModuleDef π) (base : Text) : List Text × List Text × World :=
  let (styles, w) := loadNew .style base addStylesheet m.styles w
  let (scripts, w) := loadNew .script base addScript m.scripts w
  (styles, scripts, w)

theorem inject_eq (w : World) (m : ModuleDef π) (emitter : Metrics.Emitter Text) (base : Text)
    (settings : MetaSettings) (resolved : Binding.Resolved) :
    let u := w.say "permutation" .debug "permutation selected"
      [("values", .texts resolved.values), ("strong_name", .text resolved.strong)]
    let (styles, scripts, v) := u.loadAll m base
    let scriptUrl := base ++ resolved.strong ++ cacheSuffix
    let (r, x) := w.inject m emitter base settings resolved
    r = { base, strong := resolved.strong, scriptUrl, scripts, styles, settings } ∧
      x.state = v.state ∧ x.page = addScript v.page scriptUrl :=
  have hemit := emit_same _ emitter Metrics.bootstrapEnd
  ⟨rfl, hemit.1, hemit.2⟩

theorem inject_injects {w : World} (hquiet : w.Quiet) (hframed : w.page.Framed) (m : ModuleDef π)
    (emitter : Metrics.Emitter Text) (base : Text) (settings : MetaSettings)
    (resolved : Binding.Resolved) :
    (w.inject m emitter base settings resolved).1.aborted = false ∧
      Injects m w (w.inject m emitter base settings resolved).1
        (w.inject m emitter base settings resolved).2 := by
  have heq := w.inject_eq m emitter base settings resolved
  cases hinject : w.inject m emitter base settings resolved with
  | mk r x =>
    let u := w.say "permutation" .debug "permutation selected"
      [("values", .texts resolved.values), ("strong_name", .text resolved.strong)]
    let styled := loadNew .style base addStylesheet m.styles u
    let scripted := loadNew .script base addScript m.scripts styled.2
    have hstyles : Loads .style base addStylesheet u (unloaded (w.loaded .style) m.styles) styled :=
      loadNew_loads (w := u) hquiet _ _ _ _
    have hother : styled.2.loaded .script = w.loaded .script := hstyles.others .script (by decide)
    have hscripts : Loads .script base addScript styled.2 (unloaded (w.loaded .script) m.scripts)
        scripted := hother ▸ loadNew_loads hstyles.quiet _ _ _ _
    rw [hinject] at heq
    obtain ⟨rfl, hstate, hpage⟩ := heq
    change x.state = scripted.2.state at hstate
    change x.page = addScript scripted.2.page _ at hpage
    have hloaded (k : ResourceKind) : x.loaded k = scripted.2.loaded k := by
      rw [loaded, hstate, loaded]
    have hall : x.page = addAll addScript (addAll addStylesheet w.page styled.1)
        (scripted.1 ++ [base ++ resolved.strong ++ cacheSuffix]) := by
      rw [hpage, hscripts.page, hstyles.page, addAll, addAll, addAll, List.foldl_append]
      rfl
    obtain ⟨hstyled, hlinks⟩ := joins_stylesheets hframed styled.1
    obtain ⟨P, front, back, hslot⟩ := exists_slot hstyled.toSound
    obtain ⟨hframed', scripts, hlabels, hjoins⟩ :=
      hslot.writeAll hstyled (scripted.1 ++ [base ++ resolved.strong ++ cacheSuffix])
    rw [← hall] at hframed' hjoins
    refine ⟨rfl, fun k => ?_, fun k => ?_, fun k o ho => ?_,
      ⟨hlinks, P, front, back, scripts, hslot, hlabels, hjoins⟩, hframed'⟩
    · cases k with
      | script => exact hscripts.urls
      | style => exact hstyles.urls
    · cases k with
      | script => rw [hloaded, hscripts.loaded, hother]; rfl
      | style => rw [hloaded, hscripts.others .style (by decide), hstyles.loaded]; rfl
    · rw [hstate] at ho
      exact hscripts.quiet k o ho

/-! ## Choosing a variant -/

/-- Whatever a provider does, it marks no resources. -/
def Modest (f : World → World) : Prop := ∀ w, Respects w (f w)

theorem respects_scriptBase (w : World) (module : Text) : Respects w (w.scriptBase module).2 := by
  have hwrite (markup : Text) : Respects w (w.write markup) := w.respects_act (.write markup)
  unfold scriptBase
  simp only
  split
  · dsimp only
    exact hwrite _
  · dsimp only
    exact (hwrite _).trans (respects_act _ (.remove _))

theorem respects_readMetas (w : World) (table : HandlerTable) : Respects w (w.readMetas table).2 :=
  .foldl respects_alert w _

theorem respects_prepare (w : World) (module : Text) (table : HandlerTable) :
    Respects w (w.prepare module table).2.2 := by
  have hbase := w.respects_scriptBase module
  cases hscript : w.scriptBase module with
  | mk base u =>
    have hmetas := u.respects_readMetas table
    cases hread : u.readMetas table with
    | mk settings v =>
      rw [hscript] at hbase
      rw [hread] at hmetas
      simp only [prepare, hscript, hread]
      have hsay (w : World) (f : Failure) : Respects w
          (w.saySelection module .warn "ignoring meta entry" [("error", .text f.message)]) :=
        w.respects_log _
      exact (hbase.trans hmetas).trans (.foldl hsay v settings.warnings)

theorem respects_reportIllegal (listener : PropertyListener) (name : Text) (allowed : List Text)
    (value : Text) (w : World) : Respects w (reportIllegal listener name allowed value w) := by
  unfold reportIllegal
  cases listener with
  | labelled h => exact (w.respects_log _).trans (respects_note _ _)
  | user => exact (w.respects_log _).trans (respects_alert _ _)
  | nobody => exact w.respects_log _

/-- A module's engine marks nothing if the providers that it was made of do not. -/
theorem resolve_modest {make : π → Option (Binding.Provider World)} {m : ModuleDef π}
    {e : Binding.Engine World} (h : m.Serves make e)
    (hmake : ∀ rule f, make rule = some f → Modest fun w => (f w).2) {listener : PropertyListener}
    (hlistener : e.onError = some (reportIllegal listener)) : Modest fun w => (e.resolve w).2 := by
  have hleads : e.Leads Respects := by
    refine ⟨.refl, .trans, fun q hq w => ?_, fun report hreport name allowed value w => ?_⟩
    · obtain ⟨rule, hrule⟩ := h.exists_rule hq
      exact hmake rule q.provider hrule w
    · rw [hlistener] at hreport
      obtain rfl := Option.some.inj hreport
      exact respects_reportIllegal listener name allowed value w
  exact hleads.resolve

/-- All that can come of a run. It chooses a variant, and puts it on the page as the providers leave
it, or it does not and nothing is marked. -/
theorem selectBy_cases {make : MetaSettings → π → Option (Binding.Provider World)}
    (hmake : ∀ settings spec f, make settings spec = some f → Modest fun w => (f w).2) {w : World}
    (hquiet : w.Quiet) (hframed : w.page.Framed) (m : ModuleDef π) (o : SelectionOptions) :
    (∃ r vs u, (w.selectBy make m o).1 = .ok r ∧ r.aborted = false ∧ Respects w u ∧
        ModuleDef.Evaluates (make (w.asking make m o).1) m.properties (w.asking make m o).2 vs u ∧
        Injects m u r (w.selectBy make m o).2) ∨
      (∀ r, (w.selectBy make m o).1 = .ok r → r.aborted = true ∧ r.styles = [] ∧ r.scripts = []) ∧
        Respects w (w.selectBy make m o).2 := by
  have hprepared := (w.respects_emit (w.selectionEmitter m.name o) Metrics.bootstrapStart).trans
    (respects_prepare _ m.name o.handlers)
  have hasked {e : Binding.Engine World} {base : Text} {settings : MetaSettings} {u : World}
      (hpoised : Poised make m o w base settings e u) : Respects w u := by
    obtain ⟨v, hprepare, rfl⟩ := hpoised.prepared
    rw [hprepare] at hprepared
    exact (hprepared.trans (respects_logAll _ _)).trans (respects_emit _ _ _)
  have hresolved {e : Binding.Engine World} {base : Text} {settings : MetaSettings} {u : World}
      (hpoised : Poised make m o w base settings e u) : Respects w (e.resolve u).2 :=
    (hasked hpoised).trans (resolve_modest hpoised.serves (hmake settings) hpoised.listener u)
  have hcourse := selectBy_course make w m o
  generalize w.selectBy make m o = run at hcourse ⊢
  cases hcourse with
  | nameless => exact .inr ⟨fun _ hr => (nomatch hr), .refl w⟩
  | malformed _ hprepare _ =>
    rw [hprepare] at hprepared
    exact .inr ⟨fun _ hr => (nomatch hr), hprepared.trans (respects_logAll _ _)⟩
  | incomplete _ hpoised _ _ hresolve =>
    have hleft := hresolved hpoised
    rw [hresolve] at hleft
    exact .inr ⟨fun _ hr => (nomatch hr), hleft⟩
  | aborted _ hpoised _ hresolve =>
    have hleft := hresolved hpoised
    rw [hresolve] at hleft
    refine .inr ⟨fun r hr => ?_, hleft.trans (respects_log _ _)⟩
    obtain rfl := Except.ok.inj hr
    exact ⟨rfl, rfl, rfl⟩
  | chosen _ hpoised hall _ hresolve =>
    have hleft := hresolved hpoised
    rw [hresolve] at hleft
    obtain ⟨haborted, hinjects⟩ := inject_injects (hleft.quiet hquiet) (hleft.framed hframed) m
      (w.selectionEmitter m.name o) _ _ _
    rw [hpoised.asking_eq]
    exact .inl ⟨_, _, _, rfl, haborted, hleft, hall, hinjects⟩

/-! ## Runs one after another -/

/-- A run, after something else happened. -/
structure Visit (π : Type) where
  between : World → World := id
  make : MetaSettings → π → Option (Binding.Provider World)
  module : ModuleDef π
  options : SelectionOptions := {}

/-- Nothing that belongs to the visit marks resources but the run itself. -/
structure Visit.IsModest (v : Visit π) : Prop where
  between : Modest v.between
  make : ∀ settings spec f, v.make settings spec = some f → Modest fun w => (f w).2

/-- What came of a visit. -/
structure Outcome (π : Type) where
  visit : Visit π
  before : World
  reply : Except Failure Selected
  after : World

def visit (w : World) (v : Visit π) : Outcome π :=
  let u := v.between w
  let (reply, x) := u.selectBy v.make v.module v.options
  { visit := v, before := u, reply, after := x }

def visits : World → List (Visit π) → List (Outcome π)
  | _, [] => []
  | w, v :: vs => w.visit v :: (w.visit v).after.visits vs

/-- The world after some visits. -/
def afterAll (w : World) (vs : List (Visit π)) : World := vs.foldl (fun w v => (w.visit v).after) w

namespace Outcome

/-- A variant was chosen. -/
def succeeded (o : Outcome π) : Bool :=
  match o.reply with
  | .ok r => !r.aborted
  | .error _ => false

/-- What the module lists, if its run chose a variant. -/
def listed (o : Outcome π) (kind : ResourceKind) : List Text :=
  if o.succeeded then o.visit.module.listed kind else []

/-- The names that the run added. -/
def injected (o : Outcome π) (kind : ResourceKind) : List Text :=
  unloaded (o.before.loaded kind) (o.listed kind)

/-- A run adds what it should, and says so. -/
structure IsRight (o : Outcome π) : Prop where
  loaded : ∀ kind, o.after.loaded kind = o.before.loaded kind ++ o.injected kind
  urls : ∀ r, o.reply = .ok r → ∀ kind, r.urls kind = (o.injected kind).map (Url.resolve r.base)
  page : ∀ r, o.reply = .ok r → r.aborted = false →
    ∃ vs u, ModuleDef.Evaluates (o.visit.make (o.before.asking o.visit.make o.visit.module
      o.visit.options).1) o.visit.module.properties
        (o.before.asking o.visit.make o.visit.module o.visit.options).2 vs u ∧
      Injected u.page r o.after.page

end Outcome

/-- A world in which only runs mark resources, with a page that has its head and body. -/
structure Orderly (w : World) : Prop where
  quiet : w.Quiet
  framed : w.page.Framed

theorem Respects.orderly {w u : World} (h : Respects w u) (hw : w.Orderly) : u.Orderly :=
  ⟨h.quiet hw.quiet, h.framed hw.framed⟩

/-- A page that was just opened is in order. -/
theorem orderly_start {markup location userAgent compatMode : Text} {p : Page}
    (h : open? markup location userAgent compatMode = .ok p) (draws : List Int)
    (connectors : List Connector.Script) : (start p draws connectors).Orderly := by
  refine ⟨fun kind o ho => ?_, framed_open? h⟩
  cases kind <;> cases ho

/-- Described providers change nothing at all. -/
theorem provider_modest (m : ModuleDef ValueRule) (settings : MetaSettings) (rule : ValueRule)
    (f : Binding.Provider World) (h : provider m settings rule = some f) : Modest fun w => (f w).2 := by
  obtain rfl := Option.some.inj h
  exact .refl

/-- One visit, and what the next one finds. -/
theorem Orderly.visit {w : World} (h : w.Orderly) {v : Visit π} (hv : v.IsModest) :
    (w.visit v).after.Orderly ∧ (∀ kind, (w.visit v).before.loaded kind = w.loaded kind) ∧
      (w.visit v).IsRight := by
  have hbetween := hv.between w
  have hbefore := hbetween.orderly h
  rcases selectBy_cases hv.make hbefore.quiet hbefore.framed v.module v.options with
    ⟨r, vs, u, hreply, hchosen, hasked, hvalues, hinjects⟩ | ⟨hnothing, hsame⟩
  · have hsucceeded : (w.visit v).succeeded = true := by
      show (match ((v.between w).selectBy v.make v.module v.options).1 with
        | .ok r => !r.aborted
        | .error _ => false) = true
      rw [hreply]
      simp [hchosen]
    have hinjected (kind : ResourceKind) : (w.visit v).injected kind =
        unloaded (u.loaded kind) (v.module.listed kind) := by
      rw [Outcome.injected, Outcome.listed, hsucceeded, if_pos rfl, hasked.loaded]
      rfl
    refine ⟨⟨hinjects.quiet, hinjects.framed⟩, hbetween.loaded, ?_, ?_, ?_⟩
    · intro kind
      rw [hinjected]
      exact (hinjects.loaded kind).trans (by rw [hasked.loaded]; rfl)
    · intro r' hr' kind
      obtain rfl := Except.ok.inj (hreply.symm.trans hr')
      rw [hinjected]
      exact hinjects.urls kind
    · intro r' hr' _
      obtain rfl := Except.ok.inj (hreply.symm.trans hr')
      exact ⟨vs, u, hvalues, hinjects.page⟩
  · have hsucceeded : (w.visit v).succeeded = false := by
      show (match ((v.between w).selectBy v.make v.module v.options).1 with
        | .ok r => !r.aborted
        | .error _ => false) = false
      split
      · next r hr => rw [(hnothing r hr).1]; rfl
      · rfl
    have hinjected (kind : ResourceKind) : (w.visit v).injected kind = [] := by
      rw [Outcome.injected, Outcome.listed, hsucceeded]
      rfl
    refine ⟨hsame.orderly hbefore, hbetween.loaded, ?_, ?_, ?_⟩
    · intro kind
      rw [hinjected, List.append_nil]
      exact hsame.loaded kind
    · intro r hr kind
      obtain ⟨-, hstyles, hscripts⟩ := hnothing r hr
      rw [hinjected]
      cases kind
      · exact hscripts
      · exact hstyles
    · intro r hr hchosen
      have haborted := (hnothing r hr).1
      rw [hchosen] at haborted
      cases haborted

section Visits

variable {w : World} {vs : List (Visit π)}

theorem Orderly.visits_right (h : w.Orderly) (hvs : ∀ v ∈ vs, v.IsModest) :
    ∀ o ∈ w.visits vs, o.IsRight := by
  induction vs generalizing w with
  | nil => exact fun o ho => nomatch ho
  | cons v vs ih =>
    obtain ⟨hv, hrest⟩ := List.forall_mem_cons.mp hvs
    obtain ⟨hafter, -, hright⟩ := h.visit hv
    exact List.forall_mem_cons.mpr ⟨hright, ih hafter hrest⟩

/-- What is loaded after some visits. -/
theorem Orderly.visits_loaded (h : w.Orderly) (hvs : ∀ v ∈ vs, v.IsModest) (kind : ResourceKind) :
    (w.afterAll vs).loaded kind = w.loaded kind ++ (w.visits vs).flatMap (·.injected kind) := by
  induction vs generalizing w with
  | nil => exact (List.append_nil _).symm
  | cons v vs ih =>
    obtain ⟨hv, hrest⟩ := List.forall_mem_cons.mp hvs
    obtain ⟨hafter, hbefore, hright⟩ := h.visit hv
    calc (w.afterAll (v :: vs)).loaded kind
        = ((w.visit v).after.afterAll vs).loaded kind := rfl
      _ = (w.visit v).after.loaded kind ++ ((w.visit v).after.visits vs).flatMap (·.injected kind) :=
          ih hafter hrest
      _ = _ := by
          rw [hright.loaded, hbefore, List.append_assoc]
          rfl

/-- A name is added by the first visit that lists it, and not at all if it was loaded before. -/
theorem Orderly.mem_injected_iff (h : w.Orderly) (hvs : ∀ v ∈ vs, v.IsModest) {kind : ResourceKind}
    {name : Text} {front back : List (Outcome π)} {o : Outcome π}
    (ho : w.visits vs = front ++ o :: back) :
    name ∈ o.injected kind ↔
      name ∈ o.listed kind ∧ name ∉ w.loaded kind ∧ ∀ o' ∈ front, name ∉ o'.listed kind := by
  induction vs generalizing w front with
  | nil => simp [visits] at ho
  | cons v vs ih =>
    obtain ⟨hv, hrest⟩ := List.forall_mem_cons.mp hvs
    obtain ⟨hafter, hbefore, hright⟩ := h.visit hv
    have hinjected : name ∈ (w.visit v).injected kind ↔
        name ∈ (w.visit v).listed kind ∧ name ∉ w.loaded kind := by
      rw [Outcome.injected, mem_unloaded, hbefore]
    cases front with
    | nil =>
      obtain ⟨rfl, -⟩ := List.cons.inj ho
      simpa using hinjected
    | cons first front =>
      obtain ⟨rfl, hothers⟩ := List.cons.inj ho
      rw [ih hafter hrest hothers, hright.loaded, hbefore, List.mem_append, List.forall_mem_cons]
      tauto

/-- No name is added twice, and none that was loaded before. -/
theorem Orderly.nodup_injected (h : w.Orderly) (hvs : ∀ v ∈ vs, v.IsModest) (kind : ResourceKind) :
    ((w.visits vs).flatMap (·.injected kind)).Nodup ∧
      ∀ name ∈ (w.visits vs).flatMap (·.injected kind), name ∉ w.loaded kind := by
  induction vs generalizing w with
  | nil => exact ⟨List.nodup_nil, fun _ h => nomatch h⟩
  | cons v vs ih =>
    obtain ⟨hv, hrest⟩ := List.forall_mem_cons.mp hvs
    obtain ⟨hafter, hbefore, hright⟩ := h.visit hv
    obtain ⟨hnodup, hnew⟩ := ih hafter hrest
    have hlater (name : Text) (hname : name ∈ ((w.visit v).after.visits vs).flatMap (·.injected kind)) :
        name ∉ w.loaded kind ∧ name ∉ (w.visit v).injected kind := by
      have hnot := hnew name hname
      rwa [hright.loaded, hbefore, List.mem_append, not_or] at hnot
    rw [visits, List.flatMap_cons]
    refine ⟨List.nodup_append'.mpr ⟨nodup_unloaded _ _, hnodup, ?_⟩, fun name hname => ?_⟩
    · exact fun name hone hrest => (hlater name hrest).2 hone
    · rcases List.mem_append.mp hname with hname | hname
      · rw [Outcome.injected, mem_unloaded, hbefore] at hname
        exact hname.2
      · exact (hlater name hname).1

/-- **Every resource is injected once.** Where only runs mark resources, each name is added by the
first run that lists it and chooses a variant, and by no other. Such a run adds what its module lists
and what was not loaded, each once and in order, at the addresses that it gives: stylesheets at the end
of the head, scripts at the place of writing, and its variant's script right behind them. What is
loaded in the end is what was loaded before and then what the runs added, in order. -/
theorem visits_inject_once (h : w.Orderly) (hvs : ∀ v ∈ vs, v.IsModest) :
    (∀ o ∈ w.visits vs, o.IsRight) ∧
      ∀ kind, (w.afterAll vs).loaded kind = w.loaded kind ++ (w.visits vs).flatMap (·.injected kind) ∧
        ((w.visits vs).flatMap (·.injected kind)).Nodup ∧
        ∀ name front o back, w.visits vs = front ++ o :: back →
          (name ∈ o.injected kind ↔
            name ∈ o.listed kind ∧ name ∉ w.loaded kind ∧ ∀ o' ∈ front, name ∉ o'.listed kind) :=
  ⟨h.visits_right hvs, fun kind => ⟨h.visits_loaded hvs kind, (h.nodup_injected hvs kind).1,
    fun _ _ _ _ ho => h.mem_injected_iff hvs ho⟩⟩

end Visits

/-- A page on which a loader script runs. -/
def lobby : World :=
  .start {
    dom := {
      document := .tree 1 (.element "html" [])
        (.tree 2 (.element "head" []) ++
          .tree 3 (.element "body" []) (.tree 4 (scriptLabel "m.nocache.js") ++ .tree 5 (.element "p" [])))
      next := 6 }
    head := 2, body := 3, location := {}, current := some 4 } [] []

/-- A visit of a module with one property, which has one value. -/
def visitor (name : Text) (styles scripts : List Text) (strong : Text) : Visit ValueRule :=
  let m : ModuleDef ValueRule := {
    name, scripts, styles
    properties := [{ name := "locale", values := ["en"], provider := some (.constant "en") }]
    permutations := [{ values := ["en"], strong }] }
  { make := provider m, module := m }

/-- The variant of the second module has no name, and the third one needs what the first one did. -/
def visitors : List (Visit ValueRule) :=
  [visitor "a" ["x.css"] ["u.js", "v.js", "u.js"] "AA", visitor "b" ["y.css"] ["w.js"] "",
    visitor "c" ["x.css"] ["v.js", "w.js"] "CC"]

theorem visits_inject_once_lobby :
    lobby.Orderly ∧ (∀ v ∈ visitors, v.IsModest) ∧
      (lobby.afterAll visitors).loaded .script = ([ "u.js", "v.js", "w.js"] : List Text) ∧
      (lobby.afterAll visitors).page.scripts =
        ([ "m.nocache.js", "u.js", "v.js", "AA.cache.js", "w.js", "CC.cache.js"] : List Text) := by
  have horderly : lobby.Orderly := by
    refine ⟨fun kind o ho => ?_, ⟨⟨by decide, by decide⟩, by decide⟩, by decide⟩
    cases kind <;> cases ho
  have hmodest : ∀ v ∈ visitors, v.IsModest := by
    have hone (name : Text) (styles scripts : List Text) (strong : Text) :
        (visitor name styles scripts strong).IsModest := ⟨.refl, provider_modest _⟩
    simp [visitors, hone]
  obtain ⟨-, hall⟩ := visits_inject_once horderly hmodest
  have hinjected : (lobby.visits visitors).flatMap (·.injected .script) =
      ([ "u.js", "v.js", "w.js"] : List Text) := by decide +kernel
  refine ⟨horderly, hmodest, ?_, by decide +kernel⟩
  rw [(hall .script).1, hinjected]
  rfl

end World

end PageBoot
