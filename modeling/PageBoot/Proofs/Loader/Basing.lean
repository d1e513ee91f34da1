import Mathlib.Data.List.DropRight
import PageBoot.Proofs.Loader.Finding

/-!
Which directory the loader finds while a script runs. The marker goes behind what was written last, so
that the directory is that of the last node written since the script started, and that of the script
itself only until something is written (`scriptBase_after`). Choosing variants keeps the directory, as
each puts a script of that directory last. The elements for connectors have no source, and after the
first start in dev mode no directory is found (`directory_lost`).
-/

namespace PageBoot

open Html Page Loader

namespace World

variable {w : World} {s : Text}

/-! ## Errands -/

/-- What goes on while a script runs. `make` gives a provider its meaning. -/
inductive Errand (π : Type) where
  | write (markup : Text)
  | writeScript (src : Text)
  | select (make : MetaSettings → π → Option (Binding.Provider World)) (module : ModuleDef π)
      (options : SelectionOptions)
  | start (make : ModuleDef π → MetaSettings → π → Option (Binding.Provider World))
      (module : Option (ModuleDef π)) (options : BootOptions)

/-- Providers and workarounds of the caller's own touch neither nodes nor the place of writing. -/
def Errand.IsTactful {π : Type} : Errand π → Prop
  | .write _ | .writeScript _ => True
  | .select make _ _ => ∀ settings rule f, make settings rule = some f → Tactful fun w => (f w).2
  | .start make _ o =>
    (∀ m settings rule f, make m settings rule = some f → Tactful fun w => (f w).2) ∧
      ∀ qs, o.workarounds = some qs → ∀ q ∈ qs, ∀ f, q.apply = some f → Tactful f

section Errands

variable {π : Type}

def errand (w : World) : Errand π → World
  | .write markup => w.write markup
  | .writeScript src => w.onPage fun p => (p.writeScript src).2
  | .select make m o => (w.selectBy make m o).2
  | .start make m o => (w.bootstrapBy make m o).2

def errands (w : World) (es : List (Errand π)) : World := es.foldl errand w

/-- Modules whose markers an errand writes. -/
def marks (w : World) : Errand π → List Text
  | .write _ | .writeScript _ => []
  | .select _ m _ => [m.name]
  | .start _ m o =>
    if w.settleMode o.mode = some .dev ∧ o.base ≠ [] then [] else (m.map (·.name)).toList

/-- The page of a start once workarounds are applied. -/
def eased (w : World) (m : Option (ModuleDef π)) (o : BootOptions) : World :=
  m.elim w fun m => (w.workAround m.name (w.settleMode o.mode) o.workarounds).2

/-- The variant that an errand puts on the page. -/
def chosen? (w : World) : Errand π → Option Selected
  | .write _ | .writeScript _ => none
  | .select make m o => putOn? (w.selectBy make m o).1
  | .start make m o =>
    ((w.bootstrapBy make m o).1.toOption.bind (·.selection)).bind fun r => putOn? (.ok r)

/-- The errand is a start in dev mode that writes the elements for connectors. -/
def plugs (w : World) : Errand π → Bool
  | .start make m o =>
    (w.bootstrapBy make m o).1.toOption.any (·.selection.isNone) && (w.eased m o).plugsIn
  | _ => false

/-- What stands last after an errand that finds `s` standing last. -/
def lastAfter (w : World) (s : Text) : Errand π → Text
  | .write markup => (parseContents "body" w.page.dom.next markup).forest.source s
  | .writeScript src => src
  | e@(.select ..) | e@(.start ..) => (w.chosen? e).elim (if w.plugs e then [] else s) (·.scriptUrl)

/-- What stands last after errands. -/
def lastAfterAll : World → Text → List (Errand π) → Text
  | _, s, [] => s
  | w, s, e :: es => lastAfterAll (w.errand e) (w.lastAfter s e) es

/-- A condition on errands holds whenever the turn of one comes. -/
def Throughout (C : World → Errand π → Prop) : World → List (Errand π) → Prop
  | _, [] => True
  | w, e :: es => C w e ∧ Throughout C (w.errand e) es

/-- An errand finds the markers that it writes. -/
def FindsMarks (w : World) (e : Errand π) : Prop := ∀ module ∈ w.marks e, w.page.Finds module

section Starts

variable {make : ModuleDef π → MetaSettings → π → Option (Binding.Provider World)} {m : ModuleDef π}
  {o : BootOptions}

theorem finds_of_marks (hfinds : w.FindsMarks (.start make (some m) o))
    (hmarks : w.settleMode o.mode = some .dev → o.base = []) : w.page.Finds m.name := by
  refine hfinds m.name ?_
  rw [marks, if_neg fun hboth => hboth.2 (hmarks hboth.1)]
  exact List.mem_singleton.mpr rfl

/-- What an errand leaves that finds `s` standing last. -/
structure Yields (w : World) (s : Text) (e : Errand π) : Prop where
  stands : (w.errand e).page.Stands (w.lastAfter s e)
  script : ∀ r ∈ w.chosen? e, r.scriptUrl = s.uptoLast 47 ++ r.strong ++ cacheSuffix

/-- A start in dev mode chooses no variant, and what it may put last are the elements for connectors. -/
theorem start_dev_chooses (hpage : o.hasPage = true) (hstate : o.hasState = true) (hname : m.name ≠ [])
    (hmode : w.settleMode o.mode = some .dev) :
    w.chosen? (.start make (some m) o) = none ∧
      w.plugs (.start make (some m) o) = (w.eased (some m) o).plugsIn := by
  suffices hbooted : ∃ r, (w.bootstrapBy make (some m) o).1 = .ok r ∧ r.selection = none by
    obtain ⟨r, hok, hnone⟩ := hbooted
    have hreply : (w.bootstrapBy make (some m) o).1.toOption = some r := congrArg Except.toOption hok
    simp [chosen?, plugs, hreply, hnone]
  simp only [bootstrapBy, bootstrapOn, hpage, hstate, hmode, Option.filter_some, List.isEmpty_eq_false_iff.mpr hname,
    Bool.not_true, Bool.not_false, Bool.false_eq_true, if_false, if_true]
  generalize w.workAround m.name (some .dev) o.workarounds = start
  obtain ⟨applied, u⟩ := start
  obtain ⟨r, hok, -⟩ := bootDev_settled u hname o (r := { mode := .dev, workarounds := applied }) rfl
  cases hboot : u.bootDev m.name o { mode := .dev, workarounds := applied } with
  | mk reply v =>
    rw [hboot] at hok
    obtain rfl : reply = .ok r := hok
    exact ⟨r, rfl, selection_of_bootDev (congrArg Prod.fst hboot)⟩

theorem lastAfter_start_dev (hpage : o.hasPage = true) (hstate : o.hasState = true)
    (hname : m.name ≠ []) (hmode : w.settleMode o.mode = some .dev) (s : Text) :
    w.lastAfter s (.start make (some m) o) = if (w.eased (some m) o).plugsIn then [] else s := by
  obtain ⟨hchosen, hplugs⟩ : w.chosen? (.start make (some m) o) = none ∧ _ :=
    start_dev_chooses hpage hstate hname hmode
  rw [lastAfter, hchosen, hplugs, Option.elim_none]

theorem start_dev_yields (h : w.page.Stands s) (he : (Errand.start make (some m) o).IsTactful)
    (hfinds : w.FindsMarks (.start make (some m) o)) (hpage : o.hasPage = true)
    (hstate : o.hasState = true) (hname : m.name ≠ []) (hmode : w.settleMode o.mode = some .dev) :
    w.Yields s (.start make (some m) o) := by
  obtain ⟨hchosen, -⟩ : w.chosen? (.start make (some m) o) = none ∧ _ :=
    start_dev_chooses hpage hstate hname hmode
  refine ⟨?_, fun r hr => by simp [hchosen] at hr⟩
  rw [lastAfter_start_dev hpage hstate hname hmode]
  have heased := w.alike_workAround he.2 m.name (some .dev)
  simp only [errand, bootstrapBy, bootstrapOn, eased, hpage, hstate, hmode, Option.filter_some,
    List.isEmpty_eq_false_iff.mpr hname, Bool.not_true, Bool.not_false, Bool.false_eq_true, if_false,
    if_true, Option.elim_some]
  generalize w.workAround m.name (some .dev) o.workarounds = start at heased ⊢
  obtain ⟨applied, u⟩ := start
  have hbooted := bootDev_stands (heased.stands h) (o := o)
    (fun hbase => heased.finds (finds_of_marks hfinds fun _ => hbase)) { mode := .dev, workarounds := applied }
  cases hboot : u.bootDev m.name o { mode := .dev, workarounds := applied } with
  | mk reply v =>
    rw [hboot] at hbooted
    cases reply with
    | error f => exact hbooted
    | ok r =>
      simp only
      split <;> exact hbooted

theorem start_compiled_yields (h : w.page.Stands s) (he : (Errand.start make (some m) o).IsTactful)
    (hfinds : w.FindsMarks (.start make (some m) o)) (hpage : o.hasPage = true)
    (hstate : o.hasState = true) (hname : m.name ≠ [])
    (hmode : w.settleMode o.mode = some .compiled) : w.Yields s (.start make (some m) o) := by
  have heased := w.alike_workAround he.2 m.name (some .compiled)
  have hfound : w.page.Finds m.name := finds_of_marks hfinds fun hdev => by
    rw [hmode] at hdev
    cases hdev
  suffices hstarted : Based s (w.chosen? (.start make (some m) o)) (w.bootstrapBy make (some m) o).2.page ∧
      w.plugs (.start make (some m) o) = false by
    obtain ⟨hbased, hplugs⟩ := hstarted
    refine ⟨?_, hbased.script⟩
    rw [lastAfter, hplugs]
    exact hbased.stands
  simp only [chosen?, plugs, bootstrapBy, bootstrapOn, hpage, hstate, hmode, Option.filter_some,
    List.isEmpty_eq_false_iff.mpr hname, Bool.not_true, Bool.not_false, Bool.false_eq_true, if_false,
    if_true]
  generalize w.workAround m.name (some .compiled) o.workarounds = start at heased ⊢
  obtain ⟨applied, u⟩ := start
  have hbased := selectBy_based (he.1 m) (heased.stands h) (heased.finds hfound) o.selection
  cases hselect : u.selectBy (make m) m o.selection with
  | mk reply v =>
    rw [hselect] at hbased
    cases reply <;> exact ⟨hbased, rfl⟩

/-- A start that is refused. -/
theorem yields_of_refused {m : Option (ModuleDef π)} {f : Failure} {u : World} (hu : Alike w.page u.page)
    (h : w.page.Stands s) (hrefused : w.bootstrapBy make m o = (.error f, u)) :
    w.Yields s (.start make m o) := by
  have hchosen : w.chosen? (.start make m o) = none := by
    rw [chosen?, hrefused]
    rfl
  have hplugs : w.plugs (.start make m o) = false := by
    rw [plugs, hrefused]
    rfl
  refine ⟨?_, fun r hr => by simp [hchosen] at hr⟩
  rw [lastAfter, hchosen, hplugs, errand, hrefused]
  exact hu.stands h

theorem start_unfit_yields (h : w.page.Stands s) {m : Option (ModuleDef π)}
    (hunfit : ¬ (o.hasPage = true ∧ o.hasState = true ∧ ∃ n, m = some n ∧ n.name ≠ [])) :
    w.Yields s (.start make m o) := by
  have hrefused : ∃ f, w.bootstrapBy make m o = (.error f, w) := by
    unfold bootstrapBy bootstrapOn
    cases hpage : o.hasPage with
    | false => exact ⟨_, rfl⟩
    | true =>
      cases hstate : o.hasState with
      | false => exact ⟨_, rfl⟩
      | true =>
        have hnone : (m.filter fun m => !m.name.isEmpty) = none := by
          refine Option.filter_eq_none_iff.mpr fun n hn hname => hunfit ⟨hpage, hstate, n, hn, ?_⟩
          simpa using hname
        rw [hnone]
        exact ⟨_, rfl⟩
  obtain ⟨f, hrefused⟩ := hrefused
  exact yields_of_refused (.refl _) h hrefused

theorem start_unknown_yields (h : w.page.Stands s) (he : (Errand.start make (some m) o).IsTactful)
    (hpage : o.hasPage = true) (hstate : o.hasState = true) (hname : m.name ≠ [])
    (hmode : w.settleMode o.mode = none) : w.Yields s (.start make (some m) o) := by
  refine yields_of_refused (w.alike_workAround he.2 m.name none) h (f := unknownMode o.mode) ?_
  simp only [bootstrapBy, bootstrapOn, hpage, hstate, hmode, Option.filter_some,
    List.isEmpty_eq_false_iff.mpr hname, Bool.not_true, Bool.not_false, Bool.false_eq_true, if_false,
    if_true]

theorem start_yields {m : Option (ModuleDef π)} (h : w.page.Stands s)
    (he : (Errand.start make m o).IsTactful) (hfinds : w.FindsMarks (.start make m o)) :
    w.Yields s (.start make m o) := by
  by_cases hfit : o.hasPage = true ∧ o.hasState = true ∧ ∃ n, m = some n ∧ n.name ≠ []
  · obtain ⟨hpage, hstate, n, rfl, hname⟩ := hfit
    cases hmode : w.settleMode o.mode with
    | none => exact start_unknown_yields h he hpage hstate hname hmode
    | some mode =>
      cases mode with
      | auto => exact absurd hmode (settleMode_ne_auto w o.mode)
      | compiled => exact start_compiled_yields h he hfinds hpage hstate hname hmode
      | dev => exact start_dev_yields h he hfinds hpage hstate hname hmode
  · exact start_unfit_yields h hfit

end Starts

/-- **What an errand leaves.** -/
theorem errand_yields {e : Errand π} (h : w.page.Stands s) (he : e.IsTactful) (hfinds : w.FindsMarks e) :
    w.Yields s e := by
  cases e with
  | write markup => exact ⟨(w.alike_act (.write markup)).stands (h.write markup), nofun⟩
  | writeScript src => exact ⟨h.writeScript src, nofun⟩
  | select make m o =>
    have hbased := selectBy_based he h (hfinds m.name (List.mem_singleton.mpr rfl)) o
    exact ⟨hbased.stands, hbased.script⟩
  | start make m o => exact start_yields h he hfinds

theorem errands_stand {es : List (Errand π)} (h : w.page.Stands s) (hes : ∀ e ∈ es, e.IsTactful)
    (hfinds : Throughout FindsMarks w es) : (w.errands es).page.Stands (w.lastAfterAll s es) := by
  induction es generalizing w s with
  | nil => exact h
  | cons e es ih =>
    obtain ⟨he, hrest⟩ := List.forall_mem_cons.mp hes
    exact ih (errand_yields h he hfinds.1).stands hrest hfinds.2

/-! ## One directory -/

/-- What the errand puts last is of the directory `dir`. -/
def Keeps (dir : Text) (w : World) : Errand π → Prop
  | .write markup => ∀ n ∈ (parseContents "body" w.page.dom.next markup).forest.last?,
      (n.2.attr "src").uptoLast 47 = dir
  | .writeScript src => src.uptoLast 47 = dir
  | e@(.select ..) | e@(.start ..) =>
    (∀ r ∈ w.chosen? e, 47 ∉ r.strong) ∧ (w.plugs e = true → dir = [])

theorem uptoLast_append {sep : UInt8} {t : Text} (ht : sep ∉ t) (s : Text) :
    (s.uptoLast sep ++ t).uptoLast sep = s.uptoLast sep := by
  have hdrop : (t.reverse ++ s.reverse.dropWhile (· != sep)).dropWhile (· != sep) =
      s.reverse.dropWhile (· != sep) := by
    rw [List.dropWhile_append_of_pos, List.dropWhile_idempotent]
    intro b hb
    simp only [bne_iff_ne]
    rintro rfl
    exact ht (List.mem_reverse.mp hb)
  simp only [Text.uptoLast, List.reverse_append, List.reverse_reverse]
  rw [hdrop]

/-- Scripts of variants are in the directory that was found. -/
theorem Yields.keeps {e : Errand π} (h : w.Yields s e) (hkeeps : Keeps (s.uptoLast 47) w e) :
    (w.lastAfter s e).uptoLast 47 = s.uptoLast 47 := by
  have hvariant {e : Errand π} (h : w.Yields s e) (hstrong : ∀ r ∈ w.chosen? e, 47 ∉ r.strong)
      (hplugs : w.plugs e = true → s.uptoLast 47 = []) :
      Text.uptoLast 47 ((w.chosen? e).elim (if w.plugs e then [] else s) (·.scriptUrl)) =
        s.uptoLast 47 := by
    cases hchosen : w.chosen? e with
    | none =>
      rw [Option.elim_none]
      split
      next hp => exact (hplugs hp).symm
      next => rfl
    | some r =>
      have hname : 47 ∉ r.strong ++ cacheSuffix := by
        rw [List.mem_append, not_or]
        exact ⟨hstrong r hchosen, by decide⟩
      rw [Option.elim_some, h.script r hchosen, List.append_assoc]
      exact uptoLast_append hname s
  cases e with
  | write markup =>
    simp only [lastAfter, Forest.source]
    cases hlast : (parseContents "body" w.page.dom.next markup).forest.last? with
    | none => rfl
    | some n => exact hkeeps n hlast
  | writeScript src => exact hkeeps
  | select make m o => exact hvariant h hkeeps.1 hkeeps.2
  | start make m o => exact hvariant h hkeeps.1 hkeeps.2

theorem errands_keep {es : List (Errand π)} (h : w.page.Stands s) (hes : ∀ e ∈ es, e.IsTactful)
    (hfinds : Throughout FindsMarks w es) (hkeeps : Throughout (Keeps (s.uptoLast 47)) w es) :
    (w.lastAfterAll s es).uptoLast 47 = s.uptoLast 47 := by
  induction es generalizing w s with
  | nil => rfl
  | cons e es ih =>
    obtain ⟨he, hrest⟩ := List.forall_mem_cons.mp hes
    have hyields := errand_yields h he hfinds.1
    have hsame := hyields.keeps hkeeps.1
    rw [lastAfterAll, ← hsame]
    exact ih hyields.stands hrest hfinds.2 (hsame ▸ hkeeps.2)

/-- **Which directory is found while a script runs.** A script `c` of the document runs, and markup is
written and modules are chosen and started, with markers that are found. The directory that is found
for the next module is that of what stands last then: the last node written, the script of the last
variant chosen, nothing once the elements for connectors are written, and `c` only as long as none of
these came about. It is the directory of `c` if each of these keeps it, as variants do whose names have
no slash, and as starts in dev mode do unless they write those elements. -/
theorem scriptBase_after {w : World} (hw : w.page.Sound) {c : NodeId} {l : Label}
    (hc : (c, l) ∈ w.page.dom.document.nodes) {es : List (Errand π)} (hes : ∀ e ∈ es, e.IsTactful) :
    let v := w.onPage (·.setCurrentScript (some c))
    let source := l.attr "src"
    Throughout FindsMarks v es → ∀ module, (v.errands es).page.Finds module →
      ((v.errands es).scriptBase module).1 = (v.lastAfterAll source es).uptoLast 47 ∧
      (Throughout (Keeps (source.uptoLast 47)) v es →
        ((v.errands es).scriptBase module).1 = source.uptoLast 47) := by
  intro v source hfinds module hmodule
  have hstart : v.page.Stands source := stands_setCurrentScript hw hc
  have hbase := (scriptBase_of_stands (errands_stand hstart hes hfinds) hmodule).1
  refine ⟨hbase, fun hkeeps => ?_⟩
  rw [hbase]
  exact errands_keep hstart hes hfinds hkeeps

end Errands

/-- A page with a script of the directory `d`. -/
def wing : World :=
  .start {
    dom := {
      document := .tree 1 (.element "html" [])
        (.tree 2 (.element "head" []) ++ .tree 3 (.element "body" []) (.tree 4 (scriptLabel "d/m.js")))
      next := 5 }
    head := 2, body := 3, location := {} } [] []

/-- The script of `wing` runs. -/
def openWing : World := wing.onPage (·.setCurrentScript (some 4))

/-- A module with one property, which has one value, and a script of its own. -/
def tenant (name strong : Text) : ModuleDef ValueRule where
  name
  scripts := ["u.js"]
  properties := [{ name := "locale", values := ["en"], provider := some (.constant "en") }]
  permutations := [{ values := ["en"], strong }]

theorem sound_wing : wing.page.Sound := ⟨⟨by decide, by decide⟩, by decide⟩

theorem provider_tactful (m : ModuleDef ValueRule) (settings : MetaSettings) (rule : ValueRule)
    (f : Binding.Provider World) (hf : provider m settings rule = some f) :
    Tactful fun w => (f w).2 := by
  obtain rfl := Option.some.inj hf
  exact fun _ => .refl _

/-- A module is chosen and another one started as compiled. -/
def wingErrands : List (Errand ValueRule) :=
  [.select (provider (tenant "a" "AA")) (tenant "a" "AA") {},
    .start provider (some (tenant "b" "BB")) { mode := 1 }]

theorem scriptBase_after_wing :
    (∀ e ∈ wingErrands, e.IsTactful) ∧ Throughout FindsMarks openWing wingErrands ∧
      Throughout (Keeps "d/") openWing wingErrands ∧ (openWing.errands wingErrands).page.Finds "c" ∧
      ((openWing.errands wingErrands).scriptBase "c").1 = "d/" := by
  have hnode : (4, scriptLabel "d/m.js") ∈ wing.page.dom.document.nodes := by decide
  have htactful : ∀ e ∈ wingErrands, e.IsTactful :=
    List.forall_mem_cons.mpr ⟨provider_tactful _, List.forall_mem_singleton.mpr ⟨provider_tactful, nofun⟩⟩
  have hstart : openWing.page.Stands "d/m.js" := stands_setCurrentScript sound_wing hnode
  have hfirst : openWing.FindsMarks (wingErrands.head (List.cons_ne_nil _ _)) :=
    List.forall_mem_singleton.mpr
      (hstart.finds (by decide) (by decide) (by decide) (by decide +kernel))
  have hchosen := (errand_yields hstart (htactful _ List.mem_cons_self) hfirst).stands
  have hfinds : Throughout FindsMarks openWing wingErrands :=
    ⟨hfirst, List.forall_mem_singleton.mpr
      (hchosen.finds (by decide) (by decide) (by decide) (by decide +kernel)), trivial⟩
  have hkeeps : Throughout (Keeps "d/") openWing wingErrands :=
    ⟨⟨by decide +kernel, by decide +kernel⟩, ⟨by decide +kernel, by decide +kernel⟩, trivial⟩
  have hlast : (openWing.errands wingErrands).page.Finds "c" :=
    (errands_stand hstart htactful hfinds).finds (by decide) (by decide) (by decide) (by decide +kernel)
  have hsource : Text.uptoLast 47 ((scriptLabel "d/m.js").attr "src") = "d/" := by decide
  refine ⟨htactful, hfinds, hkeeps, hlast, ?_⟩
  rw [← hsource] at hkeeps ⊢
  exact (scriptBase_after sound_wing hnode htactful hfinds "c" hlast).2 hkeeps

/-- The first start in dev mode leaves no directory to be found. -/
theorem directory_lost :
    ¬ ∀ (w : World) (c : NodeId) (l : Label) (es : List (Errand ValueRule)) (module : Text),
      w.page.Sound → (c, l) ∈ w.page.dom.document.nodes → (∀ e ∈ es, e.IsTactful) →
        let v := w.onPage (·.setCurrentScript (some c))
        Throughout FindsMarks v es → (v.errands es).page.Finds module →
          ((v.errands es).scriptBase module).1 = (l.attr "src").uptoLast 47 := by
  intro h
  let start : Errand ValueRule := .start provider (some (tenant "a" "AA")) { mode := 2 }
  have hnode : (4, scriptLabel "d/m.js") ∈ wing.page.dom.document.nodes := by decide
  have htactful : ∀ e ∈ [start], e.IsTactful := List.forall_mem_singleton.mpr ⟨provider_tactful, nofun⟩
  have hstart : openWing.page.Stands "d/m.js" := stands_setCurrentScript sound_wing hnode
  have hfinds : Throughout FindsMarks openWing [start] :=
    ⟨List.forall_mem_singleton.mpr
      (hstart.finds (by decide) (by decide) (by decide) (by decide +kernel)), trivial⟩
  have hlast := errands_stand hstart htactful hfinds
  have hmarker : (openWing.errands [start]).page.Finds "b" :=
    hlast.finds (by decide) (by decide) (by decide) (by decide +kernel)
  have hfound := h wing 4 _ [start] "b" sound_wing hnode htactful hfinds hmarker
  have hplugs : (openWing.eased (some (tenant "a" "AA")) { mode := 2 }).plugsIn = true := by decide +kernel
  have hnothing : openWing.lastAfter "d/m.js" start = [] := by
    rw [lastAfter_start_dev rfl rfl (by decide) (by decide +kernel), if_pos hplugs]
  have hbase := (scriptBase_of_stands hlast hmarker).1
  rw [lastAfterAll, lastAfterAll, hnothing] at hbase
  exact absurd (hbase.symm.trans hfound) (by decide)

end World

end PageBoot
