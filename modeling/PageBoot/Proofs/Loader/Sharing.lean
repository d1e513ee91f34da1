import PageBoot.Proofs.Loader.Finding
import PageBoot.Proofs.Page.Showing

/-!
What is on a page that several modules share. A run that finds its directory adds the elements for what
it says it brought in, and changes nothing else in the document (`selectBy_grows`), so that what a page
shows is what it showed before the first run and what the runs brought in since (`visits_shown`). A
resource is known by its name as the module lists it, but it is loaded from an address in the directory
of the module whose run comes first. So a later module finds it at its own address only if that is the
same one, or if something else was loaded from there (`shown_iff_brought`).
-/

namespace PageBoot

open Html Page Loader

namespace Loader.Selected

/-- The addresses of a kind that a variant brings in, its own script included. -/
def brought (r : Selected) : ResourceKind → List Text
  | .script => r.scripts ++ [r.scriptUrl]
  | .style => r.styles

/-- The labels of the elements for them. -/
def labels (r : Selected) : List Label :=
  r.styles.map stylesheetLabel ++ (r.scripts ++ [r.scriptUrl]).map scriptLabel

theorem filterMap_labels (r : Selected) (kind : ResourceKind) :
    r.labels.filterMap (address? kind) = r.brought kind := by
  cases kind <;> simp [labels, brought]

end Loader.Selected

namespace World

variable {w u : World} {s module : Text}

/-! ## What leaves the document alone -/

/-- What a caller brings in touches neither nodes nor the place of writing, nor which node is the head. -/
def Polite (f : World → World) : Prop := Tactful f ∧ ∀ w, (f w).page.head = w.page.head

theorem unaltered_foldl {α : Type} {f : World → α → World}
    (h : ∀ w a, Unaltered w.page (f w a).page) (w : World) (as : List α) :
    Unaltered w.page (as.foldl f w).page := by
  induction as generalizing w with
  | nil => exact .refl _
  | cons a as ih => exact (h w a).trans (ih (f w a))

/-- Finding the directory and reading the settings. -/
theorem unaltered_prepare (h : w.page.Stands s) (hfinds : w.page.Finds module) (table : HandlerTable) :
    Unaltered w.page (w.prepare module table).2.2.page := by
  have hrestored := (restored_scriptBase_of_reaches h.settled hfinds.unquoted h.reaches).mpr
    ⟨hfinds.verbatim, hfinds.first⟩
  have hbase : Unaltered w.page (w.scriptBase module).2.page :=
    ⟨hrestored.document, (w.rewritten_scriptBase module).head⟩
  cases hscript : w.scriptBase module with
  | mk base u =>
    rw [hscript] at hbase
    have hmetas : Unaltered u.page (u.readMetas table).2.page :=
      unaltered_foldl (f := fun w a => w.onPage (·.alert a)) (fun _ _ => ⟨rfl, rfl⟩) u _
    cases hread : u.readMetas table with
    | mk settings v =>
      rw [hread] at hmetas
      simp only [prepare, hscript, hread]
      exact (hbase.trans hmetas).trans (unaltered_foldl (f := fun w (f : Failure) =>
        w.saySelection module .warn "ignoring meta entry" [("error", .text f.message)])
        (fun _ _ => .refl _) v settings.warnings)

theorem unaltered_resolve {π : Type} {make : π → Option (Binding.Provider World)} {m : ModuleDef π}
    {e : Binding.Engine World} (h : m.Serves make e)
    (hmake : ∀ rule f, make rule = some f → Polite fun w => (f w).2) {listener : PropertyListener}
    (hlistener : e.onError = some (reportIllegal listener)) (w : World) :
    Unaltered w.page (e.resolve w).2.page := by
  have hleads : e.Leads fun w u => u.page.head = w.page.head := by
    refine ⟨fun _ => rfl, fun h h' => h'.trans h, fun q hq w => ?_, fun report hreport => ?_⟩
    · obtain ⟨rule, hrule⟩ := h.exists_rule hq
      exact (hmake rule q.provider hrule).2 w
    · rw [hlistener] at hreport
      obtain rfl := Option.some.inj hreport
      intro name allowed value w
      cases listener <;> rfl
  have halike := alike_resolve h (fun rule f hf => (hmake rule f hf).1) hlistener w
  exact ⟨by rw [halike.dom], hleads.resolve w⟩

/-! ## Runs -/

section Runs

variable {π : Type} {make : MetaSettings → π → Option (Binding.Provider World)} {m : ModuleDef π}
  {o : SelectionOptions} {base : Text} {settings : MetaSettings} {e : Binding.Engine World}

theorem Poised.unaltered (hpoised : Poised make m o w base settings e u) (h : w.page.Stands s)
    (hfinds : w.page.Finds m.name) : Unaltered w.page u.page := by
  obtain ⟨v, hprepare, rfl⟩ := hpoised.prepared
  have hstarted := w.alike_emit (w.selectionEmitter m.name o) Metrics.bootstrapStart
  have hprepared := unaltered_prepare (hstarted.stands h) (hstarted.finds hfinds) o.handlers
  rw [hprepare, (w.emit_same _ _).2] at hprepared
  rw [(emit_same _ _ _).2]
  exact hprepared

/-- A variant that is put on the page adds its elements. -/
theorem inject_grows (h : w.page.Stands s) (hhoused : w.page.Housed) (m : ModuleDef π)
    (emitter : Metrics.Emitter Text) (base : Text) (settings : MetaSettings)
    (resolved : Binding.Resolved) :
    Grows (w.inject m emitter base settings resolved).1.labels w.page
      (w.inject m emitter base settings resolved).2.page := by
  have hstyles := grows_stylesheets h.settled.sound hhoused
    (w.inject m emitter base settings resolved).1.styles
  rw [page_inject]
  exact hstyles.trans (grows_scripts (stands_stylesheets h _) _)

/-- **What a run does to the document.** The elements for the variant that it puts there come in, and
nothing does if it chooses none. -/
theorem selectBy_grows (hmake : ∀ settings rule f, make settings rule = some f → Polite fun w => (f w).2)
    (h : w.page.Stands s) (hhoused : w.page.Housed) (hfinds : w.page.Finds m.name)
    (o : SelectionOptions) :
    Grows ((putOn? (w.selectBy make m o).1).elim [] Selected.labels) w.page
      (w.selectBy make m o).2.page := by
  have hstarted := w.alike_emit (w.selectionEmitter m.name o) Metrics.bootstrapStart
  have hresolved {e : Binding.Engine World} {base : Text} {settings : MetaSettings} {u : World}
      (hpoised : Poised make m o w base settings e u) :
      Unaltered w.page (e.resolve u).2.page ∧ (e.resolve u).2.page.Stands s :=
    ⟨(hpoised.unaltered h hfinds).trans
        (unaltered_resolve hpoised.serves (hmake settings) hpoised.listener u),
      (alike_resolve hpoised.serves (fun rule f hf => (hmake settings rule f hf).1) hpoised.listener
        u).stands (hpoised.stands h hfinds).2⟩
  have hcourse := selectBy_course make w m o
  generalize w.selectBy make m o = run at hcourse ⊢
  cases hcourse with
  | nameless => exact (Unaltered.refl _).grows
  | malformed _ hprepare _ =>
    have hprepared := unaltered_prepare (hstarted.stands h) (hstarted.finds hfinds) o.handlers
    rw [hprepare, (w.emit_same _ _).2] at hprepared
    exact hprepared.grows
  | incomplete _ hpoised _ _ hresolve =>
    have hleft := (hresolved hpoised).1
    rw [hresolve] at hleft
    exact hleft.grows
  | aborted _ hpoised _ hresolve =>
    have hleft := (hresolved hpoised).1
    rw [hresolve] at hleft
    exact hleft.grows
  | @chosen base settings e s v vs strong _ hpoised _ _ hresolve =>
    have hleft := hresolved hpoised
    rw [hresolve] at hleft
    exact hleft.1.grows.trans (inject_grows hleft.2 (hleft.1.grows.housed hhoused) m
      (w.selectionEmitter m.name o) base settings { values := vs, strong })

end Runs

/-! ## Runs one after another -/

section Visits

variable {π : Type} {vs : List (Visit π)} {v : Visit π} {kind : ResourceKind}

/-- Nobody but the run itself touches the document. -/
structure Visit.IsPolite (v : Visit π) : Prop where
  between : ∀ w, Unaltered w.page (v.between w).page
  make : ∀ settings spec f, v.make settings spec = some f → Polite fun w => (f w).2

namespace Outcome

/-- The run finds its directory: something of the document stands at the place of writing, and the
marker of the module is found. -/
structure IsLed (o : Outcome π) : Prop where
  stands : ∃ s, o.before.page.Stands s
  finds : o.before.page.Finds o.visit.module.name

/-- The addresses that the run brought in. -/
def brought (o : Outcome π) (kind : ResourceKind) : List Text := (putOn? o.reply).elim [] (·.brought kind)

/-- The run loaded something from the address `a`: a resource that it added, or the script of its
variant. -/
def Brings (o : Outcome π) (kind : ResourceKind) (a : Text) : Prop :=
  ∃ r ∈ putOn? o.reply, (∃ name ∈ o.injected kind, Url.resolve r.base name = a) ∨
    kind = .script ∧ r.scriptUrl = a

variable {o : Outcome π} {r : Selected} {a d : Text}

theorem mem_putOn?_iff {reply : Except Failure Selected} :
    r ∈ putOn? reply ↔ reply = .ok r ∧ r.aborted = false := by
  cases reply <;> simp [putOn?, Except.toOption, Option.filter_eq_some_iff]

theorem succeeded_iff : o.succeeded = true ↔ ∃ r, r ∈ putOn? o.reply := by
  simp only [mem_putOn?_iff, succeeded]
  cases o.reply with
  | error f => simp
  | ok r => simp

theorem mem_listed_iff :
    d ∈ o.listed kind ↔ (∃ r, r ∈ putOn? o.reply) ∧ d ∈ o.visit.module.listed kind := by
  rw [listed, ← succeeded_iff]
  split <;> simp_all

/-- What a run brought in is what it added, in its directory, and the script of its variant. -/
theorem IsRight.mem_brought_iff (h : o.IsRight) : a ∈ o.brought kind ↔ o.Brings kind a := by
  unfold brought Brings
  cases hr : putOn? o.reply with
  | none => simp
  | some r =>
    have hurls := h.urls r (mem_putOn?_iff.mp hr).1 kind
    cases kind with
    | script =>
      have hscripts : r.scripts = _ := hurls
      simp [Selected.brought, hscripts, eq_comm]
    | style =>
      have hstyles : r.styles = _ := hurls
      simp [Selected.brought, hstyles]

end Outcome

/-- What a visit does to the document. -/
theorem visit_grows (hhoused : w.page.Housed) (hv : v.IsPolite) (hled : (w.visit v).IsLed) :
    Grows ((putOn? (w.visit v).reply).elim [] Selected.labels) w.page (w.visit v).after.page := by
  obtain ⟨s, hstands⟩ := hled.stands
  have hbetween := (hv.between w).grows
  have hrun := selectBy_grows (w := v.between w) hv.make hstands (hbetween.housed hhoused)
    (m := v.module) hled.finds v.options
  exact hbetween.trans hrun

/-- What the page shows after a visit. -/
theorem visit_shown (hhoused : w.page.Housed) (hv : v.IsPolite) (hled : (w.visit v).IsLed)
    (kind : ResourceKind) :
    ((w.visit v).after.page.shown kind).Perm (w.page.shown kind ++ (w.visit v).brought kind) := by
  have hgrown := (visit_grows hhoused hv hled).shown kind
  rw [Outcome.brought]
  cases hr : putOn? (w.visit v).reply with
  | none => rwa [hr] at hgrown
  | some r => rwa [hr, Option.elim_some, Selected.filterMap_labels] at hgrown

/-- What the page shows after all visits up to one. -/
theorem visits_shown (hhoused : w.page.Housed) (hvs : ∀ v ∈ vs, v.IsPolite)
    (hled : ∀ o ∈ w.visits vs, o.IsLed) {front back : List (Outcome π)} {o : Outcome π}
    (ho : w.visits vs = front ++ o :: back) :
    (o.after.page.shown kind).Perm
      (w.page.shown kind ++ (front ++ [o]).flatMap (·.brought kind)) := by
  induction vs generalizing w front with
  | nil => simp [visits] at ho
  | cons v vs ih =>
    obtain ⟨hv, hrest⟩ := List.forall_mem_cons.mp hvs
    obtain ⟨hfirst, hothers⟩ := List.forall_mem_cons.mp hled
    have hshown := visit_shown hhoused hv hfirst kind
    cases front with
    | nil =>
      obtain ⟨rfl, -⟩ := List.cons.inj ho
      simpa using hshown
    | cons first front =>
      obtain ⟨rfl, hafter⟩ := List.cons.inj ho
      have hall := ih ((visit_grows hhoused hv hfirst).housed hhoused) hrest hothers hafter
      rw [List.cons_append, List.flatMap_cons, ← List.append_assoc]
      exact hall.trans (hshown.append_right _)

/-- The first of some runs that lists a name adds it, if it was not loaded before. -/
theorem Orderly.exists_first (h : w.Orderly) (hvs : ∀ v ∈ vs, v.IsModest) {d : Text}
    (hd : d ∉ w.loaded kind) {front back : List (Outcome π)} {o : Outcome π}
    (ho : w.visits vs = front ++ o :: back) (hlisted : d ∈ o.listed kind) :
    ∃ before first after, front ++ [o] = before ++ first :: after ∧
      (∀ o' ∈ before, d ∉ o'.listed kind) ∧ d ∈ first.injected kind := by
  have hmem : o ∈ front ++ [o] := List.mem_append_right _ List.mem_cons_self
  cases hfound : (front ++ [o]).find? fun o' => decide (d ∈ o'.listed kind) with
  | none => exact absurd hlisted (by simpa using List.find?_eq_none.mp hfound o hmem)
  | some first =>
    obtain ⟨hfirst, before, after, heq, hbefore⟩ := List.find?_eq_some_iff_append.mp hfound
    have hnone : ∀ o' ∈ before, d ∉ o'.listed kind := fun o' ho' => by simpa using hbefore o' ho'
    have hsplit : w.visits vs = before ++ first :: (after ++ back) := by
      rw [ho, ← List.singleton_append, ← List.append_assoc, heq]
      simp
    exact ⟨before, first, after, heq, hnone,
      (h.mem_injected_iff hvs hsplit).mpr ⟨by simpa using hfirst, hd, hnone⟩⟩

/-- **Where a module finds what it shares.** Modules run on one page, each behind something of the
document, and only the runs touch the document and mark resources. When a run lists a resource that was
not loaded before them all, the first run that listed it added it, and the page shows it at its address
in the directory of that run. The page shows it at the address in the run's own directory exactly if it
did so before them all, or if this run or one before loaded something from there. -/
theorem shown_iff_brought (h : w.Orderly) (hhoused : w.page.Housed)
    (hvs : ∀ v ∈ vs, v.IsModest ∧ v.IsPolite) (hled : ∀ o ∈ w.visits vs, o.IsLed)
    {front back : List (Outcome π)} {o : Outcome π} (ho : w.visits vs = front ++ o :: back)
    {r : Selected} (hr : r ∈ putOn? o.reply) {d : Text} (hd : d ∈ o.visit.module.listed kind) :
    (d ∉ w.loaded kind → ∃ before first after, front ++ [o] = before ++ first :: after ∧
      (∀ o' ∈ before, d ∉ o'.listed kind) ∧ d ∈ first.injected kind ∧
      ∃ r' ∈ putOn? first.reply, Url.resolve r'.base d ∈ o.after.page.shown kind) ∧
    (Url.resolve r.base d ∈ o.after.page.shown kind ↔
      Url.resolve r.base d ∈ w.page.shown kind ∨
        ∃ o' ∈ front ++ [o], o'.Brings kind (Url.resolve r.base d)) := by
  have hmodest : ∀ v ∈ vs, v.IsModest := fun v hv => (hvs v hv).1
  have hright : ∀ o' ∈ front ++ [o], o'.IsRight := by
    intro o' ho'
    refine h.visits_right hmodest o' ?_
    rw [ho, ← List.singleton_append, ← List.append_assoc]
    exact List.mem_append_left _ ho'
  have hshown (a : Text) : a ∈ o.after.page.shown kind ↔
      a ∈ w.page.shown kind ∨ ∃ o' ∈ front ++ [o], o'.Brings kind a := by
    rw [(visits_shown hhoused (fun v hv => (hvs v hv).2) hled ho).mem_iff, List.mem_append,
      List.mem_flatMap]
    exact or_congr_right (exists_congr fun o' => and_congr_right fun ho' =>
      (hright o' ho').mem_brought_iff)
  refine ⟨fun hnew => ?_, hshown _⟩
  obtain ⟨before, first, after, heq, hbefore, hadds⟩ :=
    h.exists_first hmodest hnew ho (Outcome.mem_listed_iff.mpr ⟨⟨r, hr⟩, hd⟩)
  obtain ⟨r', hr'⟩ := (Outcome.mem_listed_iff.mp (mem_unloaded.mp hadds).1).1
  refine ⟨before, first, after, heq, hbefore, hadds, r', hr', (hshown _).mpr (.inr ⟨first, ?_, ?_⟩)⟩
  · simp [heq]
  · exact ⟨r', hr', .inl ⟨d, hadds, rfl⟩⟩

/-! ## Scripts of the page that start to run -/

/-- At the visit a script of the page starts to run, for a module whose marker is nowhere on the page
and reads as it is written. -/
structure Visit.StartsOn (v : Visit π) (p : Page) : Prop where
  running : ∃ c l, v.between = (fun w => w.onPage (·.setCurrentScript (some c))) ∧
    (c, l) ∈ p.dom.document.nodes
  quote : 34 ∉ v.module.name
  reference : 38 ∉ v.module.name
  line : 13 ∉ v.module.name
  free : p.elementById? (markerId v.module.name) = none

theorem Visit.StartsOn.grows {p q : Page} {new : List Label} (h : v.StartsOn p) (hgrown : Grows new p q)
    (hnew : ∀ l ∈ new, l.attr "id" = []) : v.StartsOn q := by
  obtain ⟨c, l, hbetween, hnode⟩ := h.running
  refine ⟨⟨c, l, hbetween, hgrown.mem_nodes hnode⟩, h.quote, h.reference, h.line,
    hgrown.elementById?_eq_none (fun k hk => ?_) h.free⟩
  rw [hnew k hk]
  exact List.cons_ne_nil _ _ |>.symm

theorem Visit.StartsOn.isLed (hw : w.page.Sound) (h : v.StartsOn w.page) : (w.visit v).IsLed := by
  obtain ⟨c, l, hbetween, hnode⟩ := h.running
  have hstands : (w.visit v).before.page.Stands (l.attr "src") := by
    show (v.between w).page.Stands _
    rw [hbetween]
    exact stands_setCurrentScript hw hnode
  refine ⟨⟨_, hstands⟩, hstands.finds h.quote h.reference h.line ?_⟩
  show (v.between w).page.elementById? _ = none
  rw [hbetween]
  exact h.free

theorem labels_attr_id (r : Selected) : ∀ l ∈ r.labels, l.attr "id" = [] := by
  have hstyle (href : Text) : (stylesheetLabel href).attr "id" = [] := rfl
  have hscript (src : Text) : (scriptLabel src).attr "id" = [] := rfl
  intro l hl
  simp only [Selected.labels, List.mem_append, List.mem_map] at hl
  rcases hl with ⟨href, -, rfl⟩ | ⟨src, -, rfl⟩
  · exact hstyle href
  · exact hscript src

/-- Runs of scripts that are on the page from the start find their directories. -/
theorem visits_led (hw : w.page.Sound) (hhoused : w.page.Housed)
    (hvs : ∀ v ∈ vs, v.IsPolite ∧ v.StartsOn w.page) : ∀ o ∈ w.visits vs, o.IsLed := by
  induction vs generalizing w with
  | nil => exact fun o ho => nomatch ho
  | cons v vs ih =>
    obtain ⟨⟨hpolite, hstarts⟩, hrest⟩ := List.forall_mem_cons.mp hvs
    have hled := hstarts.isLed hw
    have hgrown := visit_grows hhoused hpolite hled
    obtain ⟨s, hstands⟩ := hled.stands
    have hbased := selectBy_based (w := v.between w) (m := v.module)
      (fun settings rule f hf => (hpolite.make settings rule f hf).1) hstands hled.finds v.options
    have hsound : (w.visit v).after.page.Sound := hbased.stands.settled.sound
    refine List.forall_mem_cons.mpr ⟨hled, ih hsound (hgrown.housed hhoused) fun u hu => ?_⟩
    refine ⟨(hrest u hu).1, (hrest u hu).2.grows hgrown ?_⟩
    cases putOn? (w.visit v).reply with
    | none => exact nofun
    | some r => exact labels_attr_id r

end Visits

/-- A page with scripts of two directories. -/
def terrace : World :=
  .start {
    dom := {
      document := .tree 1 (.element "html" [])
        (.tree 2 (.element "head" []) ++ .tree 3 (.element "body" [])
          (.tree 4 (scriptLabel "a/m.nocache.js") ++ .tree 5 (scriptLabel "b/n.nocache.js")))
      next := 6 }
    head := 2, body := 3, location := {} } [] []

/-- A script starts to run for a module that lists the one script. -/
def lodger (c : NodeId) (name strong : Text) : Visit ValueRule :=
  { visitor name [] ["x.js"] strong with between := fun w => w.onPage (·.setCurrentScript (some c)) }

/-- The scripts of the first and of the last module are in one directory. -/
def lodgers : List (Visit ValueRule) := [lodger 4 "a" "AA", lodger 5 "b" "BB", lodger 4 "c" "CC"]

def firstLodger : Outcome ValueRule := terrace.visit (lodger 4 "a" "AA")

def secondLodger : Outcome ValueRule := firstLodger.after.visit (lodger 5 "b" "BB")

def lastLodger : Outcome ValueRule := secondLodger.after.visit (lodger 4 "c" "CC")

theorem visits_lodgers :
    terrace.visits lodgers = [firstLodger, secondLodger] ++ lastLodger :: [] := rfl

theorem orderly_terrace : terrace.Orderly := by
  refine ⟨fun kind o ho => ?_, ⟨⟨by decide, by decide⟩, by decide⟩, by decide⟩
  cases kind <;> cases ho

theorem lodger_courteous (c : NodeId) (name strong : Text) :
    (lodger c name strong).IsModest ∧ (lodger c name strong).IsPolite := by
  refine ⟨⟨fun w => .of_eq rfl fun h => ⟨⟨h.dom, h.body⟩, h.head⟩, provider_modest _⟩,
    ⟨fun _ => ⟨rfl, rfl⟩, fun settings rule f hf => ?_⟩⟩
  obtain rfl := Option.some.inj hf
  exact ⟨fun _ => .refl _, fun _ => rfl⟩

theorem lodger_startsOn {c : NodeId} {l : Label} {name : Text}
    (hnode : (c, l) ∈ terrace.page.dom.document.nodes)
    (hplain : 34 ∉ name ∧ 38 ∉ name ∧ 13 ∉ name)
    (hfree : terrace.page.elementById? (markerId name) = none) (strong : Text) :
    (lodger c name strong).StartsOn terrace.page :=
  ⟨⟨c, l, rfl, hnode⟩, hplain.1, hplain.2.1, hplain.2.2, hfree⟩

/-- The last module is in the directory of the first one, and finds the script. -/
theorem shown_iff_brought_terrace :
    terrace.Orderly ∧ terrace.page.Housed ∧ (∀ v ∈ lodgers, v.IsModest ∧ v.IsPolite) ∧
      (∀ o ∈ terrace.visits lodgers, o.IsLed) ∧ (putOn? lastLodger.reply).map (·.base) = some "a/" ∧
      ("a/x.js" : Text) ∈ lastLodger.after.page.shown .script := by
  have hhoused : terrace.page.Housed := by
    show 2 ∈ terrace.page.dom.document.ids
    decide
  have hcourteous : ∀ v ∈ lodgers, v.IsModest ∧ v.IsPolite := by
    simp [lodgers, lodger_courteous]
  have hfront : (4, scriptLabel "a/m.nocache.js") ∈ terrace.page.dom.document.nodes := by decide
  have hback : (5, scriptLabel "b/n.nocache.js") ∈ terrace.page.dom.document.nodes := by decide
  have hstarts : ∀ v ∈ lodgers, v.StartsOn terrace.page :=
    List.forall_mem_cons.mpr ⟨lodger_startsOn hfront (by decide) (by decide) _,
      List.forall_mem_cons.mpr ⟨lodger_startsOn hback (by decide) (by decide) _,
        List.forall_mem_singleton.mpr (lodger_startsOn hfront (by decide) (by decide) _)⟩⟩
  have hled : ∀ o ∈ terrace.visits lodgers, o.IsLed :=
    visits_led orderly_terrace.framed.toSound hhoused fun v hv => ⟨(hcourteous v hv).2, hstarts v hv⟩
  have hbase : (putOn? lastLodger.reply).map (·.base) = some "a/" := by decide +kernel
  have hfirst : (putOn? firstLodger.reply).map (·.base) = some "a/" := by decide +kernel
  obtain ⟨r, hr, hdir⟩ := Option.map_eq_some_iff.mp hbase
  obtain ⟨r', hr', hdir'⟩ := Option.map_eq_some_iff.mp hfirst
  have hadds : ("x.js" : Text) ∈ firstLodger.injected .script := by decide +kernel
  have haddress : Url.resolve "a/" "x.js" = "a/x.js" := by decide
  have hlisted : ("x.js" : Text) ∈ lastLodger.visit.module.listed .script := List.mem_cons_self
  have hshown :=
    (shown_iff_brought orderly_terrace hhoused hcourteous hled visits_lodgers hr hlisted).2
  rw [hdir, haddress] at hshown
  exact ⟨orderly_terrace, hhoused, hcourteous, hled, hbase, hshown.mpr (.inr ⟨firstLodger,
    List.mem_cons_self, r', hr', .inl ⟨"x.js", hadds, hdir'.symm ▸ haddress⟩⟩)⟩

/-- The second module is in another directory, from which nothing is loaded but its variant. -/
theorem missing_on_terrace :
    secondLodger ∈ terrace.visits lodgers ∧ secondLodger.succeeded = true ∧
      secondLodger.visit.module.scripts = ["x.js"] ∧
      (putOn? secondLodger.reply).map (·.base) = some "b/" ∧ Url.resolve "b/" "x.js" = "b/x.js" ∧
      ("b/x.js" : Text) ∉ secondLodger.after.page.shown .script := by
  refine ⟨by simp [visits_lodgers], ?_⟩
  decide +kernel

end World

end PageBoot
