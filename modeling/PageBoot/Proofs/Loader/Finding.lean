import PageBoot.Proofs.Loader.Injecting
import PageBoot.Proofs.Loader.Launching
import PageBoot.Proofs.Loader.Marking

/-!
What the loader leaves at the place of writing. The marker by which it finds its directory goes behind
what stands last there, and is taken back (`scriptBase_of_stands`). A variant that is chosen puts its
script last, in the directory that was found (`selectBy_based`). A start in dev mode puts the elements
for connectors last if it writes them, and covers the page without touching the place of writing
otherwise (`bootDev_stands`).
-/

namespace PageBoot

open Html Page Loader Connector

/-! ## The marker -/

namespace Page

variable {p q : Page} {s module : Text}

/-- The marker of a module is what is found by its id. -/
structure Finds (p : Page) (module : Text) : Prop where
  unquoted : 34 ∉ module
  verbatim : readQuoted (markerId module) = markerId module
  first : ∀ x ∈ (p.marked module).ahead p.dom.next, x.2.attr "id" ≠ markerId module

theorem Alike.finds (h : Alike p q) (hp : p.Finds module) : q.Finds module where
  unquoted := hp.unquoted
  verbatim := hp.verbatim
  first := by
    have hmarked : Alike (p.marked module) (q.marked module) := h.write _
    rw [ahead, hmarked.dom, h.dom]
    exact hp.first

theorem Stands.finds (h : p.Stands s) (hquote : 34 ∉ module) (hreference : 38 ∉ module)
    (hline : 13 ∉ module) (hfree : p.elementById? (markerId module) = none) : p.Finds module :=
  ⟨hquote, World.readQuoted_markerId hreference hline,
    World.ahead_marked h.settled h.reaches hquote hfree⟩

/-- What stands last stands before markup of a single tree. -/
theorem Stands.attr_previous?_write (h : p.Stands s) {markup : Text} {i : NodeId} {l : Label} {c : Forest}
    (hread : (parseContents "body" p.dom.next markup).forest = .tree i l c) :
    ((p.write markup).2.dom.previous? i).map ((p.write markup).2.dom.attr · "src") = some s := by
  obtain ⟨hsettled, hfits⟩ := h.settled.read markup
  rw [hread] at hfits
  rw [write_eq_insertAll, hread]
  exact (h.usedUp hsettled).attr_previous? hfits

end Page

namespace World

variable {w u : World} {s module : Text}

/-- The directory is that of what stands last, which is the same afterwards. -/
theorem scriptBase_of_stands (h : w.page.Stands s) (hfinds : w.page.Finds module) :
    (w.scriptBase module).1 = s.uptoLast 47 ∧ (w.scriptBase module).2.page.Stands s := by
  have hrestored := (restored_scriptBase_of_reaches h.settled hfinds.unquoted h.reaches).mpr
    ⟨hfinds.verbatim, hfinds.first⟩
  have hfound := (elementById?_marked_iff h.settled h.reaches hfinds.unquoted).mpr
    ⟨hfinds.verbatim, hfinds.first⟩
  have hread := markerTrees_of_not_mem hfinds.unquoted w.page
  unfold Page.marked at hfound
  unfold Page.markerTrees at hread
  have halike := w.alike_baseBefore (scriptTag (markerId module)) (markerId module)
  rw [scriptBase_eq] at hrestored ⊢
  generalize scriptTag (markerId module) = markup at hfound hread halike hrestored ⊢
  have hsource := h.attr_previous?_write hread
  have hwrite : Alike (w.page.write markup).2 (w.write markup).page := w.alike_act (.write markup)
  refine ⟨?_, h.restored (halike.settled ?_) hrestored⟩
  · rw [← hwrite.dom] at hsource
    have hfound' : (w.write markup).page.elementById? (markerId module) = some w.page.dom.next := by
      rw [elementById?, hwrite.dom]
      exact hfound
    simp only [baseBefore, hfound', hsource, Option.getD_some]
  · rw [without, hfound]
    exact (h.settled.act (.write markup)).remove _

/-! ## What is written and taken out -/

/-- From `p` to `q` something was written or taken out, and only what comes of that changed. -/
def Rewritten (p q : Page) : Prop :=
  q = { p with
    dom := q.dom, cursor := q.cursor, loop := q.loop, capabilities := q.capabilities, owned := q.owned }

theorem Rewritten.trans {p q r : Page} (h : Rewritten p q) (h' : Rewritten q r) : Rewritten p r := by
  unfold Rewritten at *
  rw [h', h]

theorem Rewritten.head {p q : Page} (h : Rewritten p q) : q.head = p.head := by rw [h]

theorem Rewritten.globals {p q : Page} (h : Rewritten p q) : q.globals = p.globals := by rw [h]

theorem rewritten_runFactories (w : World) (waiting : List (NodeId × Factory)) :
    Rewritten w.page (w.runFactories waiting).page := by
  induction waiting generalizing w with
  | nil => rfl
  | cons x waiting ih =>
    have hfirst : Rewritten w.page (w.runFactory x.1 x.2).page := by
      obtain ⟨added, heq⟩ := w.produce_eq x.2
      rw [runFactory_eq, heq]
      cases (w.produce x.2).1 <;> rfl
    exact hfirst.trans (ih _)

theorem rewritten_write (w : World) (markup : Text) : Rewritten w.page (w.write markup).page := by
  have hwritten : Rewritten w.page (w.page.write markup).2 := by
    obtain ⟨dom, cursor, heq⟩ := w.page.write_eq markup
    rw [heq]
    rfl
  exact hwritten.trans (rewritten_runFactories { w with page := (w.page.write markup).2 } _)

theorem rewritten_scriptBase (w : World) (module : Text) :
    Rewritten w.page (w.scriptBase module).2.page := by
  have hremove (p : Page) (x : NodeId) : Rewritten p (p.remove x) := by
    unfold Page.remove
    split <;> rfl
  rw [scriptBase_eq]
  unfold baseBefore
  generalize scriptTag (markerId module) = markup
  simp only
  split
  next => exact w.rewritten_write markup
  next marker _ => exact (w.rewritten_write markup).trans (hremove (w.write markup).page marker)

/-! ## What leaves the page alone -/

/-- From `w` to `u` what stands last stays. -/
def Steady (w u : World) : Prop := ∀ s, w.page.Stands s → u.page.Stands s

theorem Steady.trans {v : World} (h : Steady w u) (h' : Steady u v) : Steady w v :=
  fun s hs => h' s (h s hs)

theorem steady_of_alike (h : Alike w.page u.page) : Steady w u := fun _ => h.stands

theorem alike_foldl {α : Type} {f : World → α → World} (h : ∀ w a, Alike w.page (f w a).page)
    (w : World) (as : List α) : Alike w.page (as.foldl f w).page := by
  induction as generalizing w with
  | nil => exact .refl _
  | cons a as ih => exact (h w a).trans (ih (f w a))

theorem alike_readMetas (w : World) (table : HandlerTable) :
    Alike w.page (w.readMetas table).2.page :=
  alike_foldl (f := fun w a => w.onPage (·.alert a)) (fun _ _ => ⟨rfl, rfl, rfl, rfl⟩) w _

theorem alike_emit (w : World) (e : Metrics.Emitter Text) (m : Metrics.Moment) :
    Alike w.page (w.emit e m).page := by
  rw [(w.emit_same e m).2]
  exact .refl _

/-- What a caller brings in touches neither nodes nor the place of writing. -/
def Tactful (f : World → World) : Prop := ∀ w, Alike w.page (f w).page

/-! ## Choosing a variant -/

theorem page_tell {mark : ResourceKind → Text → World → Bool × World}
    (hmark : ∀ kind name w, (mark kind name w).2.page = w.page) (kind : ResourceKind) (name : Text)
    (w : World) (observer : Nat × Watcher) : (tell mark kind name w observer).page = w.page := by
  have hcancel (w : World) (label : Text) : (w.cancel label).page = w.page := by
    unfold cancel
    split <;> rfl
  have hsubscribe (w : World) (label : Text) : (w.subscribe kind { label }).page = w.page := rfl
  have hnote (w : World) (n : Note) : (w.note n).page = w.page := rfl
  obtain ⟨n, o⟩ := observer
  unfold tell
  simp only
  cases o.reaction with
  | none => rfl
  | some r =>
    simp only
    split
    · rfl
    · cases r.subscribe <;> cases r.cancel <;> cases r.mark <;>
        simp only [hsubscribe, hcancel, hnote, hmark]

/-- Watchers hear of a mark and do nothing to the page. -/
theorem page_markWithin (depth : Nat) (kind : ResourceKind) (name : Text) (w : World) :
    (markWithin depth kind name w).2.page = w.page := by
  induction depth generalizing kind name w with
  | zero => rfl
  | succ depth ih =>
    unfold markWithin
    split
    · rfl
    next observers r _ =>
      have htold (w : World) (os : List (Nat × Watcher)) :
          (os.foldl (tell (markWithin depth) kind name) w).page = w.page := by
        induction os generalizing w with
        | nil => rfl
        | cons o os hos => exact (hos _).trans (page_tell ih kind name w o)
      exact htold _ observers

/-- Loading adds what is new to the page, and nothing else. -/
theorem page_loadNew (kind : ResourceKind) (base : Text) (add : Page → Text → Page) (names : List Text)
    (w : World) : (loadNew kind base add names w).2.page =
      addAll add w.page (loadNew kind base add names w).1 := by
  induction names generalizing w with
  | nil => rfl
  | cons name rest ih =>
    have hmark : (w.mark kind name).2.page = w.page := page_markWithin _ kind name w
    unfold loadNew
    cases h : w.mark kind name with
    | mk first u =>
      rw [h] at hmark
      cases first with
      | false => rw [← hmark]; exact ih u
      | true =>
        rw [← hmark]
        exact ih (u.onPage fun p => add p (Url.resolve base name))

theorem stands_stylesheets {p : Page} (h : p.Stands s) (hrefs : List Text) :
    (addAll addStylesheet p hrefs).Stands s := by
  induction hrefs generalizing p with
  | nil => exact h
  | cons href hrefs ih => exact ih (h.appendStylesheet href)

theorem stands_scripts {p : Page} (h : p.Stands s) (srcs : List Text) :
    ∃ t, (addAll addScript p srcs).Stands t := by
  induction srcs generalizing p s with
  | nil => exact ⟨s, h⟩
  | cons src srcs ih => exact ih (h.writeScript src)

/-- Finding the directory and reading the settings leaves what stands last. -/
theorem prepare_of_stands (h : w.page.Stands s) (hfinds : w.page.Finds module) (table : HandlerTable) :
    (w.prepare module table).1 = s.uptoLast 47 ∧ (w.prepare module table).2.2.page.Stands s := by
  have hscript := scriptBase_of_stands h hfinds
  cases hbase : w.scriptBase module with
  | mk base u =>
    have hread := u.alike_readMetas table
    cases hmetas : u.readMetas table with
    | mk settings v =>
      rw [hbase] at hscript
      rw [hmetas] at hread
      simp only [prepare, hbase, hmetas]
      have hsaid := alike_foldl (f := fun w (f : Failure) =>
        w.saySelection module .warn "ignoring meta entry" [("error", .text f.message)])
        (fun _ _ => .refl _) v settings.warnings
      exact ⟨hscript.1, hsaid.stands (hread.stands hscript.2)⟩

theorem alike_resolve {π : Type} {make : π → Option (Binding.Provider World)} {m : ModuleDef π}
    {e : Binding.Engine World} (h : m.Serves make e)
    (hmake : ∀ rule f, make rule = some f → Tactful fun w => (f w).2) {listener : PropertyListener}
    (hlistener : e.onError = some (reportIllegal listener)) (w : World) :
    Alike w.page (e.resolve w).2.page := by
  have hleads : e.Leads fun w u => Alike w.page u.page := by
    refine ⟨fun w => .refl w.page, fun h h' => h.trans h', fun q hq w => ?_, fun report hreport => ?_⟩
    · obtain ⟨rule, hrule⟩ := h.exists_rule hq
      exact hmake rule q.provider hrule w
    · rw [hlistener] at hreport
      obtain rfl := Option.some.inj hreport
      intro name allowed value w
      cases listener <;> exact ⟨rfl, rfl, rfl, rfl⟩
  exact hleads.resolve w

/-- The variant that a run put on the page. -/
def putOn? (reply : Except Failure Selected) : Option Selected := reply.toOption.filter (!·.aborted)

/-- What a run leaves that found `s` standing last. -/
structure Based (s : Text) (chosen : Option Selected) (p : Page) : Prop where
  stands : p.Stands (chosen.elim s (·.scriptUrl))
  script : ∀ r ∈ chosen, r.scriptUrl = s.uptoLast 47 ++ r.strong ++ cacheSuffix

theorem based_of_none {p : Page} (h : p.Stands s) : Based s none p := ⟨h, nofun⟩

/-- A variant is put on the page with its stylesheets first and its own script last. -/
theorem page_inject {π : Type} (w : World) (m : ModuleDef π) (emitter : Metrics.Emitter Text)
    (base : Text) (settings : MetaSettings) (resolved : Binding.Resolved) :
    (w.inject m emitter base settings resolved).2.page =
      addAll addScript (addAll addStylesheet w.page (w.inject m emitter base settings resolved).1.styles)
        ((w.inject m emitter base settings resolved).1.scripts ++
          [(w.inject m emitter base settings resolved).1.scriptUrl]) := by
  have heq := w.inject_eq m emitter base settings resolved
  cases hinject : w.inject m emitter base settings resolved with
  | mk r x =>
    let u := w.say "permutation" .debug "permutation selected"
      [("values", .texts resolved.values), ("strong_name", .text resolved.strong)]
    let styled := loadNew .style base addStylesheet m.styles u
    let scripted := loadNew .script base addScript m.scripts styled.2
    have hstyled : styled.2.page = addAll addStylesheet w.page styled.1 := page_loadNew _ _ _ _ u
    have hscripted : scripted.2.page = addAll addScript styled.2.page scripted.1 :=
      page_loadNew _ _ _ _ styled.2
    rw [hinject] at heq
    obtain ⟨rfl, -, hpage⟩ := heq
    change x.page = addScript scripted.2.page _ at hpage
    rw [hscripted, hstyled] at hpage
    rw [hpage, addAll, addAll, addAll, List.foldl_append]
    rfl

/-- The script of the variant is written last. -/
theorem inject_based {π : Type} (h : w.page.Stands s) (m : ModuleDef π)
    (emitter : Metrics.Emitter Text) (settings : MetaSettings) (resolved : Binding.Resolved) :
    Based s (putOn? (.ok (w.inject m emitter (s.uptoLast 47) settings resolved).1))
      (w.inject m emitter (s.uptoLast 47) settings resolved).2.page := by
  refine ⟨?_, fun r hr => ?_⟩
  · obtain ⟨t, hscripts⟩ := stands_scripts (stands_stylesheets h
      (w.inject m emitter (s.uptoLast 47) settings resolved).1.styles)
      (w.inject m emitter (s.uptoLast 47) settings resolved).1.scripts
    rw [page_inject, addAll, List.foldl_append]
    exact hscripts.writeScript _
  · obtain rfl := Option.some.inj hr
    rfl

section Runs

variable {π : Type} {make : MetaSettings → π → Option (Binding.Provider World)} {m : ModuleDef π}
  {o : SelectionOptions} {base : Text} {settings : MetaSettings} {e : Binding.Engine World}

/-- What stands last when the providers are asked, and the directory that was found. -/
theorem Poised.stands (hpoised : Poised make m o w base settings e u) (h : w.page.Stands s)
    (hfinds : w.page.Finds m.name) : base = s.uptoLast 47 ∧ u.page.Stands s := by
  obtain ⟨v, hprepare, rfl⟩ := hpoised.prepared
  have hstarted := w.alike_emit (w.selectionEmitter m.name o) Metrics.bootstrapStart
  have hprepared := prepare_of_stands (hstarted.stands h) (hstarted.finds hfinds) o.handlers
  rw [hprepare] at hprepared
  exact ⟨hprepared.1, (alike_emit _ _ _).stands hprepared.2⟩

theorem selectBy_based (hmake : ∀ settings rule f, make settings rule = some f → Tactful fun w => (f w).2)
    (h : w.page.Stands s) (hfinds : w.page.Finds m.name) (o : SelectionOptions) :
    Based s (putOn? (w.selectBy make m o).1) (w.selectBy make m o).2.page := by
  have hresolved {e : Binding.Engine World} {base : Text} {settings : MetaSettings} {u : World}
      (hpoised : Poised make m o w base settings e u) : (e.resolve u).2.page.Stands s :=
    (alike_resolve hpoised.serves (hmake settings) hpoised.listener u).stands (hpoised.stands h hfinds).2
  have hcourse := selectBy_course make w m o
  generalize w.selectBy make m o = run at hcourse ⊢
  cases hcourse with
  | nameless => exact based_of_none h
  | malformed _ hprepare _ =>
    have hstarted := w.alike_emit (w.selectionEmitter m.name o) Metrics.bootstrapStart
    have hprepared := prepare_of_stands (hstarted.stands h) (hstarted.finds hfinds) o.handlers
    rw [hprepare] at hprepared
    exact based_of_none hprepared.2
  | incomplete _ hpoised _ _ hresolve =>
    have hstands := hresolved hpoised
    rw [hresolve] at hstands
    exact based_of_none hstands
  | aborted _ hpoised _ hresolve =>
    have hstands := hresolved hpoised
    rw [hresolve] at hstands
    exact based_of_none hstands
  | chosen _ hpoised _ _ hresolve =>
    have hstands := hresolved hpoised
    rw [hresolve] at hstands
    rw [(hpoised.stands h hfinds).1]
    exact inject_based hstands m _ _ _

end Runs

/-! ## Starting a module -/

theorem standard_tactful :
    ∀ q ∈ Workaround.standard, ∀ f, q.apply = some f → Tactful f := by
  refine List.forall_mem_cons.mpr ⟨?_, List.forall_mem_cons.mpr ⟨?_, List.forall_mem_singleton.mpr ?_⟩⟩
  all_goals
    rintro f h
    obtain rfl := Option.some.inj h
    exact fun _ => ⟨rfl, rfl, rfl, rfl⟩

theorem alike_applyAll {qs : List Workaround}
    (hqs : ∀ q ∈ qs, ∀ f, q.apply = some f → Tactful f) (w : World) :
    Alike w.page (Workaround.applyAll qs w).2.page := by
  induction qs generalizing w with
  | nil => exact .refl _
  | cons q qs ih =>
    obtain ⟨hq, hrest⟩ := List.forall_mem_cons.mp hqs
    unfold Workaround.applyAll
    split
    next applies apply _ happly =>
      split
      · exact (hq apply happly w).trans (ih hrest (apply w))
      · exact ih hrest w
    · exact ih hrest w

theorem alike_workAround {workarounds : Option (List Workaround)}
    (htactful : ∀ qs, workarounds = some qs → ∀ q ∈ qs, ∀ f, q.apply = some f → Tactful f) (w : World)
    (module : Text) (mode : Option BootMode) :
    Alike w.page (w.workAround module mode workarounds).2.page := by
  have htable : ∀ q ∈ workarounds.getD Workaround.standard, ∀ f, q.apply = some f → Tactful f := by
    cases workarounds with
    | none => exact standard_tactful
    | some qs => exact htactful qs rfl
  rw [workAround_eq]
  unfold workAroundIf
  split
  · have happlied := alike_applyAll htable (w.claim workaroundsClaim).2
    simp only
    split <;> exact happlied
  · exact ⟨rfl, rfl, rfl, rfl⟩

/-- Starting in dev mode would write the elements for connectors: nobody did so before, and no
connector is built in. -/
def plugsIn (w : World) : Bool :=
  !w.books.plugged && (w.page.global? Finder.nativeGlobal).isNone

theorem source_objectMarkup (n : NodeId) (s : Text) :
    (parseContents "body" n objectMarkup).forest.source s = [] := by
  have hlast : ((Builder.atBody.read objectMarkup).tree.children 0).last?.map (·.2.attr "src") =
      some [] := by
    decide +kernel
  rw [parseContents_body, Forest.source_ofForest, Forest.source, hlast, Option.getD_some]

theorem plugInIf_stands (h : w.page.Stands s) :
    (w.plugInIf (!w.books.plugged)).page.Stands (if w.plugsIn then [] else s) := by
  unfold plugInIf plugsIn
  have hpage : (w.claim pluginsClaim).2.page = w.page := rfl
  simp only [hpage]
  split
  · have hwrite {v : World} {t : Text} (hv : v.page.Stands t) (markup : Text) :
        (v.write markup).page.Stands ((parseContents "body" v.page.dom.next markup).forest.source t) :=
      (v.alike_act (.write markup)).stands (hv.write markup)
    have hembed := hwrite (v := (w.claim pluginsClaim).2) h embedMarkup
    have hobject := hwrite hembed objectMarkup
    rwa [source_objectMarkup] at hobject
  · exact h

theorem globals_readMetas (w : World) (table : HandlerTable) :
    (w.readMetas table).2.page.globals = w.page.globals := by
  have halerts (w : World) (as : List Text) :
      (as.foldl (fun w a => w.onPage (·.alert a)) w).page.globals = w.page.globals := by
    induction as generalizing w with
    | nil => rfl
    | cons a as ih => exact ih _
  exact halerts w _

/-- What a start in dev mode looks up leaves what stands last, and decides nothing about plugins. -/
theorem lookAround_of_stands (h : w.page.Stands s) {o : BootOptions}
    (hfinds : o.base = [] → w.page.Finds module) :
    (w.lookAround module o).2.2.page.Stands s ∧ (w.lookAround module o).2.2.plugsIn = w.plugsIn := by
  have hplugs (hglobals : (w.lookAround module o).2.2.page.globals = w.page.globals) :
      (w.lookAround module o).2.2.plugsIn = w.plugsIn := by
    rw [plugsIn, plugsIn, books_lookAround, global?, global?, hglobals]
  suffices hlooked : (w.lookAround module o).2.2.page.Stands s ∧
      (w.lookAround module o).2.2.page.globals = w.page.globals from ⟨hlooked.1, hplugs hlooked.2⟩
  have hbase {u : World} (hu : Alike w.page u.page) (hglobals : u.page.globals = w.page.globals) :
      (if o.base.isEmpty then u.scriptBase module else (o.base, u)).2.page.Stands s ∧
        (if o.base.isEmpty then u.scriptBase module else (o.base, u)).2.page.globals =
          w.page.globals := by
    split
    next hempty =>
      have hfound := hu.finds (hfinds (List.isEmpty_iff.mp hempty))
      exact ⟨(scriptBase_of_stands (hu.stands h) hfound).2,
        (u.rewritten_scriptBase module).globals.trans hglobals⟩
    next => exact ⟨hu.stands h, hglobals⟩
  unfold lookAround
  cases o.loadError with
  | some handler => exact hbase (.refl _) rfl
  | none => exact hbase (w.alike_readMetas o.handlers) (w.globals_readMetas o.handlers)

theorem alike_of_busier {p q : Page} (h : Busier p q) : Alike p q :=
  ⟨congrArg (·.dom) h, congrArg (·.body) h, congrArg (·.current) h, congrArg (·.cursor) h⟩

/-- A module that is bridged may cover the page with a frame. -/
theorem steady_settleModule (w : World) (o : BridgeOptions) (loadError : Option Text) (m : DevModule)
    (found : Except Failure ConnectorId) : Steady w (w.settleModule o loadError m found).2 := by
  intro s h
  cases found with
  | ok c =>
    have hbound : (w.newTable.2.bindTable c w.newTable.1).page = w.page := bindTable_page _ _ _
    have hpage : (w.settleModule o loadError m (.ok c)).2.page =
        (w.newTable.2.bindTable c w.newTable.1).page.onUnload
          (.module (w.newTable.2.bindTable c w.newTable.1).modules.length) := rfl
    have hlisten (f : Farewell) : Alike w.page (w.page.onUnload f) := ⟨rfl, rfl, rfl, rfl⟩
    rw [hpage, hbound]
    exact (hlisten _).stands h
  | error f =>
    have halert (message : Text) : Alike w.page (w.page.alert message) := ⟨rfl, rfl, rfl, rfl⟩
    unfold settleModule
    simp only
    split
    · cases loadError with
      | some handler => exact h
      | none => exact ((halert _).stands h).loadFrame _
    · split
      · exact Stands.loadFrame h _
      · exact h

theorem steady_onLoad (w : World) (options : BridgeOptions) (loadError : Option Text) (name base : Text) :
    Steady w (w.onLoad options loadError name base).2 := by
  unfold onLoad
  split
  · exact fun _ => id
  · have hopened := alike_of_busier (w.openModule_kept options.complete name base).page
    let m := (w.openModule options.complete name base).1
    let u := (w.openModule options.complete name base).2
    have hsearched := alike_of_busier (discover_rewired u options.complete.finders
      { session := m.session } m.session (u.requestOf options.complete m)).page
    have hemitted := (u.discoverFor options.complete m).2.alike_emit m.emitter Metrics.evalEnd
    exact (steady_of_alike ((hopened.trans hsearched).trans hemitted)).trans (steady_settleModule _ _ _ _ _)

/-- Only the elements for connectors come to stand last. -/
theorem bootDev_stands (h : w.page.Stands s) {o : BootOptions}
    (hfinds : o.base = [] → w.page.Finds module) (r : Booted) :
    (w.bootDev module o r).2.page.Stands (if w.plugsIn then [] else s) := by
  obtain ⟨hlooked, hplugs⟩ := lookAround_of_stands h hfinds
  have hplugged := plugInIf_stands hlooked
  rw [hplugs, books_lookAround] at hplugged
  rw [bootDev_eq]
  unfold bootDevIf bootDevOn
  generalize w.lookAround module o = looked at hplugged ⊢
  obtain ⟨loadError, base, u⟩ := looked
  simp only at hplugged ⊢
  generalize { o.bridge with sinks := o.sinks ++ o.bridge.sinks } = options
  have hloaded := steady_onLoad _ options loadError module base _ hplugged
  cases hload : (u.plugInIf (!w.books.plugged)).onLoad options loadError module base with
  | mk bridged v =>
    rw [hload] at hloaded
    simp only
    split
    · exact hloaded
    · split <;> exact hloaded

/-- Starts in dev mode choose no variant. -/
theorem selection_of_bootDev {o : BootOptions} {r r' : Booted} (h : (w.bootDev module o r).1 = .ok r') :
    r'.selection = r.selection := by
  unfold bootDev bootDevOn at h
  simp only at h
  split at h
  · cases h
    rfl
  · split at h
    · cases h
      rfl
    · cases h

end World

end PageBoot
