import PageBoot.Proofs.Page.Capabilities
import PageBoot.Proofs.Page.Standing
import PageBoot.Proofs.World.Owing

/-!
Which plugin elements are filled, and when. Elements wait for their factory on two ways: they are
written when it is there already, or they are there when it is registered. Whatever the order, a factory
that succeeds for an element is the last one that is run for it (`Retired`), and once everything is
written and registered the same elements are filled (`Served`).
-/

namespace PageBoot

/-- The factory returns something. -/
def Page.Factory.works (f : Page.Factory) : Bool :=
  match f.make with
  | .failing | .thing (.value .null) => false
  | .thing _ => true
  | .guest name bytes => (Wasm.Plugin.load name bytes).isOk

theorem Page.Alike.reaches {p q : Page} (h : Page.Alike p q) (hp : p.Reaches) : q.Reaches := by
  simpa only [Page.Reaches, Page.place?, h.dom, h.body, h.cursor, h.current] using hp

namespace World

open Html Page

/-! ## Calls -/

/-- Calls that plugin elements depend on. -/
inductive Call where
  | write (markup : Text)
  | registerPlugin (f : Factory)
  | bindCapability (id : Text) (t : Thing)
  | remove (id : NodeId)

def Call.deed : Call → Deed
  | .write markup => .act (.write markup)
  | .registerPlugin f => .registerPlugin f
  | .bindCapability id t => .bindCapability id t
  | .remove id => .act (.remove id)

/-- Whether a call may fill elements. -/
def Call.fills : Call → Bool
  | .write _ | .registerPlugin _ => true
  | _ => false

def calls (w : World) (xs : List Call) : World := w.deeds (xs.map Call.deed)

/-- A factory that is run for an element, and what it returned. -/
structure Run where
  element : NodeId
  factory : Factory
  made : Option Thing

/-- Factories that are run one after another. -/
def runs : World → List (NodeId × Factory) → List Run
  | _, [] => []
  | w, (id, f) :: waiting => ⟨id, f, (w.produce f).1⟩ :: runs (w.runFactory id f) waiting

/-- The elements that a call has factories run for, and the page as it is by then. -/
def Call.asks (p : Page) : Call → List (NodeId × Factory) × Page
  | .write markup => p.write markup
  | .registerPlugin f => p.registerPlugin f
  | .bindCapability id t => ([], (p.bindCapability id t).toOption.getD p)
  | .remove id => ([], p.remove id)

/-- The world when a call asks for factories. -/
def called (w : World) (c : Call) : World := { w with page := (c.asks w.page).2 }

def Call.runs (w : World) (c : Call) : List Run := World.runs (w.called c) (c.asks w.page).1

/-- Factories that are run for calls, one after another. -/
def allRuns : World → List Call → List Run
  | _, [] => []
  | w, c :: cs => c.runs w ++ allRuns (w.deed c.deed) cs

theorem map_element_runs (w : World) (waiting : List (NodeId × Factory)) :
    (runs w waiting).map (·.element) = waiting.map (·.1) := by
  induction waiting generalizing w with
  | nil => rfl
  | cons x waiting ih => rw [runs, List.map_cons, ih, List.map_cons]

theorem deed_eq (w : World) (c : Call) :
    w.deed c.deed = (w.called c).runFactories (c.asks w.page).1 := by
  cases c <;> rfl

theorem mem_asks_of_runs {w : World} {c : Call} {r : Run} (hr : r ∈ c.runs w) :
    r.element ∈ (c.asks w.page).1.map (·.1) := by
  rw [← map_element_runs (w.called c)]
  exact List.mem_map_of_mem hr

/-! ## What elements hold -/

/-- What an element of the page holds. -/
def holds? (w : World) (i : NodeId) : Option Thing := w.page.capabilityOf? i

theorem holds?_runFactory (w : World) (i j : NodeId) (f : Factory) :
    (w.runFactory i f).holds? j = if i = j then (w.produce f).1.or (w.holds? j) else w.holds? j := by
  obtain ⟨added, heq⟩ := w.produce_eq f
  have hsame : (w.produce f).2.holds? j = w.holds? j := by rw [heq]; rfl
  rw [runFactory_eq]
  cases (w.produce f).1 with
  | none => simpa using hsame
  | some t =>
    refine ((w.produce f).2.page.capabilityOf?_setCapability i j t).trans ?_
    rw [Option.some_or, ← hsame]
    rfl

theorem holds?_runFactories_of_not_mem {w : World} {waiting : List (NodeId × Factory)} {j : NodeId}
    (hj : j ∉ waiting.map (·.1)) : (w.runFactories waiting).holds? j = w.holds? j := by
  induction waiting generalizing w with
  | nil => rfl
  | cons x waiting ih =>
    obtain ⟨hx, hrest⟩ := not_or.mp (List.mem_cons.not.mp hj)
    refine (ih (w := w.runFactory x.1 x.2) hrest).trans ?_
    rw [holds?_runFactory, if_neg (Ne.symm hx)]

/-- After factories were run an element holds something if it did before or one succeeded for it. -/
theorem isSome_holds?_runFactories (w : World) (waiting : List (NodeId × Factory)) (j : NodeId) :
    ((w.runFactories waiting).holds? j).isSome ↔
      (w.holds? j).isSome ∨ ∃ r ∈ runs w waiting, r.element = j ∧ r.made.isSome := by
  induction waiting generalizing w with
  | nil => simp [runFactories, runs]
  | cons x waiting ih =>
    have hone := holds?_runFactory w x.1 j x.2
    refine (ih (w.runFactory x.1 x.2)).trans ?_
    rw [hone, runs]
    by_cases hx : x.1 = j
    · simp [hx]
      tauto
    · simp [hx]

/-- Elements that hold something do not wait. -/
theorem holds?_of_asks {w : World} {c : Call} {i : NodeId} (hi : i ∈ (c.asks w.page).1.map (·.1)) :
    w.holds? i = none := by
  obtain ⟨⟨i, f⟩, hx, rfl⟩ := List.mem_map.mp hi
  cases c with
  | write markup =>
    obtain ⟨l, -, -, hnone, -⟩ := mem_waiting.mp hx
    exact (capabilityOf?_write w.page markup i).symm.trans hnone
  | registerPlugin f =>
    obtain ⟨l, -, -, hnone, -⟩ := mem_waiting.mp hx
    exact hnone
  | bindCapability id t => simp [Call.asks] at hx
  | remove id => simp [Call.asks] at hx

theorem holds?_called (w : World) {c : Call} (h : c.fills) (j : NodeId) :
    (w.called c).holds? j = w.holds? j := by
  cases c with
  | write markup => exact capabilityOf?_write w.page markup j
  | registerPlugin f => rfl
  | bindCapability id t => cases h
  | remove id => cases h

/-- What holds something is not filled again. -/
theorem holds?_deed {w : World} {c : Call} (h : c.fills) {j : NodeId} {t : Thing}
    (hj : w.holds? j = some t) :
    (w.deed c.deed).holds? j = some t ∧ ∀ r ∈ c.runs w, r.element ≠ j := by
  have hasks : j ∉ (c.asks w.page).1.map (·.1) := fun hmem => by
    rw [holds?_of_asks hmem] at hj
    cases hj
  refine ⟨?_, fun r hr heq => hasks (heq ▸ mem_asks_of_runs hr)⟩
  rw [deed_eq, holds?_runFactories_of_not_mem hasks, holds?_called w h, hj]

/-! ## One success each -/

theorem alike_bindCapability (p : Page) (id : Text) (t : Thing) :
    Alike p ((p.bindCapability id t).toOption.getD p) := by
  unfold bindCapability
  cases p.dom.byId? id <;> exact ⟨rfl, rfl, rfl, rfl⟩

theorem settled_deed {w : World} (hw : w.page.Settled) (c : Call) : (w.deed c.deed).page.Settled := by
  have hcalled : (w.called c).page.Settled := by
    cases c with
    | write markup => exact hw.act (.write markup)
    | registerPlugin f =>
      have hsame : Alike w.page (w.page.registerPlugin f).2 := ⟨rfl, rfl, rfl, rfl⟩
      exact hsame.settled hw
    | bindCapability id t => exact (alike_bindCapability w.page id t).settled hw
    | remove id => exact hw.remove id
  rw [deed_eq]
  exact (alike_runFactories (w.called c) _).settled hcalled

/-- The element has been there, and it holds something or is not in the document any more. -/
def Retired (w : World) (e : NodeId) : Prop :=
  e < w.page.dom.next ∧ ((w.holds? e).isSome ∨ e ∉ w.page.dom.document.ids)

/-- No factory is run for it any more. -/
theorem Retired.runs {w : World} {e : NodeId} (he : w.Retired e) (c : Call) :
    ∀ r ∈ c.runs w, r.element ≠ e := by
  rintro r hr rfl
  have hmem := mem_asks_of_runs hr
  have hgone : r.element ∉ w.page.dom.document.ids :=
    he.2.resolve_left fun hholds => by simp [holds?_of_asks hmem] at hholds
  obtain ⟨⟨i, f⟩, hx, hi⟩ := List.mem_map.mp hmem
  obtain rfl : r.element = i := hi.symm
  cases c with
  | write markup =>
    obtain ⟨l, hl, -⟩ := mem_waiting.mp hx
    have hnew := (written_bounds w.page.dom.next markup (mem_ids_of_nodes hl)).1
    exact Nat.not_lt.mpr hnew he.1
  | registerPlugin f =>
    obtain ⟨l, hl, -⟩ := mem_waiting.mp hx
    exact hgone (mem_ids_of_nodes hl)
  | bindCapability id t => simp [Call.asks] at hx
  | remove id => simp [Call.asks] at hx

theorem Retired.called {w : World} (hw : w.page.Settled) {e : NodeId} (he : w.Retired e) (c : Call) :
    (w.called c).Retired e := by
  cases c with
  | write markup =>
    obtain ⟨hread, hfits⟩ := hw.read markup
    refine ⟨?_, he.2.imp (fun hholds => ?_) fun hgone hin => ?_⟩
    · exact (hw.next_write markup).symm ▸ Nat.lt_of_lt_of_le he.1 (next_le_parse _ markup)
    · rwa [holds?_called w rfl]
    · refine (hw.document_write markup hin).elim hgone fun hnew => ?_
      exact Nat.not_lt.mpr (written_bounds w.page.dom.next markup hnew).1 he.1
  | registerPlugin f => exact he
  | bindCapability id t =>
    have hdom := (alike_bindCapability w.page id t).dom
    simp only [Retired, World.called, Call.asks, hdom]
    refine ⟨he.1, he.2.imp_left fun hholds => ?_⟩
    simp only [holds?, bindCapability]
    cases w.page.dom.byId? id with
    | none => exact hholds
    | some i =>
      refine (congrArg Option.isSome (w.page.capabilityOf?_setCapability i e t)).trans ?_
      split
      · rfl
      · exact hholds
  | remove id =>
    have hnext : (w.page.remove id).dom.next = w.page.dom.next := by
      unfold Page.remove
      split
      · exact Dom.next_detach w.page.dom id
      · rfl
    refine ⟨hnext.symm ▸ he.1, ?_⟩
    by_cases hin : e ∈ (w.page.remove id).dom.document.ids
    · obtain ⟨hold, hother⟩ := hw.sound.document_remove hin
      refine .inl ?_
      have hholds : (w.holds? e).isSome := he.2.resolve_right fun hgone => hgone hold
      refine (congrArg Option.isSome (w.page.capabilityOf?_remove id e)).trans ?_
      rw [if_neg fun h => hother h.1 h.2.symm]
      exact hholds
    · exact .inr hin

theorem Retired.deed {w : World} (hw : w.page.Settled) {e : NodeId} (he : w.Retired e) (c : Call) :
    (w.deed c.deed).Retired e := by
  obtain ⟨hpage, hholds⟩ := he.called hw c
  have hdom := (alike_runFactories (w.called c) (c.asks w.page).1).dom
  rw [Retired, deed_eq, hdom]
  refine ⟨hpage, hholds.imp_left fun hholds => ?_⟩
  exact (isSome_holds?_runFactories _ _ e).mpr (.inl hholds)

/-- An element that a factory succeeded for is retired. -/
theorem retired_of_made {w : World} (hw : w.page.Settled) {c : Call} {r : Run} (hr : r ∈ c.runs w)
    (hmade : r.made.isSome) : (w.deed c.deed).Retired r.element := by
  have hdom := (alike_runFactories (w.called c) (c.asks w.page).1).dom
  rw [Retired, deed_eq, hdom]
  refine ⟨?_, .inl ((isSome_holds?_runFactories _ _ _).mpr (.inr ⟨r, hr, rfl, hmade⟩))⟩
  obtain ⟨⟨i, f⟩, hx, hi⟩ := List.mem_map.mp (mem_asks_of_runs hr)
  obtain rfl : r.element = i := hi.symm
  cases c with
  | write markup =>
    obtain ⟨l, hl, -⟩ := mem_waiting.mp hx
    exact (hw.next_write markup).symm ▸ (written_bounds _ markup (mem_ids_of_nodes hl)).2
  | registerPlugin f =>
    obtain ⟨l, hl, -⟩ := mem_waiting.mp hx
    exact hw.sound.dom.bounded _ (Dom.ids_subset (document_mem _) (mem_ids_of_nodes hl))
  | bindCapability id t => simp [Call.asks] at hx
  | remove id => simp [Call.asks] at hx

theorem Retired.allRuns {w : World} (hw : w.page.Settled) {e : NodeId} (he : w.Retired e)
    (cs : List Call) : ∀ r ∈ w.allRuns cs, r.element ≠ e := by
  induction cs generalizing w with
  | nil => exact fun r hr => absurd hr List.not_mem_nil
  | cons c cs ih =>
    intro r hr
    rcases List.mem_append.mp hr with hr | hr
    · exact he.runs c r hr
    · exact ih (settled_deed hw c) (he.deed hw c) r hr

/-- A call asks for one factory for each element. -/
theorem nodup_asks {p : Page} (hp : p.Settled) (c : Call) : ((c.asks p).1.map (·.1)).Nodup := by
  cases c with
  | write markup => exact nodup_waiting (hp.read markup).2.nodup
  | registerPlugin f => exact nodup_waiting (hp.sound.dom.nodup_of_mem (document_mem _))
  | bindCapability id t => exact List.nodup_nil
  | remove id => exact List.nodup_nil

/-- Once a factory succeeded for an element, none is run for it again. -/
theorem pairwise_allRuns {w : World} (hw : w.page.Settled) (cs : List Call) :
    (w.allRuns cs).Pairwise fun r r' => r.made.isSome → r.element ≠ r'.element := by
  induction cs generalizing w with
  | nil => exact .nil
  | cons c cs ih =>
    refine List.pairwise_append.mpr ⟨?_, ih (settled_deed hw c), fun r hr r' hr' hmade heq => ?_⟩
    · have hnodup := nodup_asks hw c
      rw [← map_element_runs (w.called c)] at hnodup
      refine (List.pairwise_map.mp hnodup).imp ?_
      exact fun hne _ => hne
    · exact (retired_of_made hw hr hmade).allRuns (settled_deed hw c) cs r' hr' heq.symm

/-! ## The same elements in every order -/

theorem isSome_produce (w : World) (f : Factory) : (w.produce f).1.isSome = f.works := by
  obtain ⟨key, make⟩ := f
  cases make with
  | failing => rfl
  | thing t =>
    cases t with
    | value v => cases v <;> rfl
    | connector c => rfl
  | guest name bytes =>
    simp only [produce, Factory.works]
    cases Wasm.Plugin.load name bytes <;> rfl

theorem isSome_holds?_of_works (w : World) {waiting : List (NodeId × Factory)}
    (hwaiting : ∀ x ∈ waiting, x.2.works) (j : NodeId) :
    ((w.runFactories waiting).holds? j).isSome ↔
      (w.holds? j).isSome ∨ j ∈ waiting.map (·.1) := by
  have hmade : ∀ r ∈ runs w waiting, r.made.isSome := by
    induction waiting generalizing w with
    | nil => exact fun r hr => absurd hr List.not_mem_nil
    | cons x waiting ih =>
      obtain ⟨hx, hrest⟩ := List.forall_mem_cons.mp hwaiting
      refine List.forall_mem_cons.mpr ⟨?_, ih _ hrest⟩
      exact (w.isSome_produce x.2).trans hx
  rw [isSome_holds?_runFactories, ← map_element_runs w, List.mem_map]
  exact or_congr_right ⟨fun ⟨r, hr, heq, _⟩ => ⟨r, hr, heq⟩, fun ⟨r, hr, heq⟩ => ⟨r, hr, heq, hmade r hr⟩⟩

/-- The element `i` of the document wants a factory that is registered. -/
def Wants (p : Page) (i : NodeId) : Prop :=
  ∃ l, (i, l) ∈ p.dom.document.nodes ∧ l.isPlugin ∧ (p.factories.get? l.pluginKey).isSome

/-- Whatever is written gets into the document, and the elements that ask for a registered factory are
those that hold something. -/
structure Served (w : World) : Prop where
  settled : w.page.Settled
  reaches : w.page.Reaches
  works : ∀ k f, w.page.factories.get? k = some f → f.works
  held : ∀ i, (w.holds? i).isSome ↔ Wants w.page i

/-- The elements of `g` that wait are run factories for, and no others of the document have to. -/
theorem Served.filled {w : World} {g : Forest} (hsettled : w.page.Settled) (hreach : w.page.Reaches)
    (hworks : ∀ k f, w.page.factories.get? k = some f → f.works)
    (hheld : ∀ i, (w.holds? i).isSome → Wants w.page i)
    (hg : ∀ x ∈ g.nodes, x ∈ w.page.dom.document.nodes)
    (hothers : ∀ i l, (i, l) ∈ w.page.dom.document.nodes → l.isPlugin →
      (w.page.factories.get? l.pluginKey).isSome → (i, l) ∈ g.nodes ∨ (w.holds? i).isSome) :
    (w.runFactories (w.page.waiting g)).Served := by
  have hsame := alike_runFactories w (w.page.waiting g)
  have hfactories := (runFactories_kept w (w.page.waiting g)).2
  have hwaiting : ∀ x ∈ w.page.waiting g, x.2.works := by
    rintro ⟨i, f⟩ hx
    obtain ⟨l, -, -, -, hf⟩ := mem_waiting.mp hx
    exact hworks _ f hf
  refine ⟨hsame.settled hsettled, hsame.reaches hreach, by rwa [hfactories], fun i => ?_⟩
  rw [isSome_holds?_of_works w hwaiting, Wants, hsame.dom, hfactories]
  constructor
  · rintro (hholds | hmem)
    · exact hheld i hholds
    · obtain ⟨⟨i, f⟩, hx, rfl⟩ := List.mem_map.mp hmem
      obtain ⟨l, hl, hplugin, -, hf⟩ := mem_waiting.mp hx
      exact ⟨l, hg _ hl, hplugin, Option.isSome_of_eq_some hf⟩
  · rintro ⟨l, hl, hplugin, hf⟩
    by_cases hholds : (w.holds? i).isSome
    · exact .inl hholds
    · obtain ⟨f, hf⟩ := Option.isSome_iff_exists.mp hf
      have hin := (hothers i l hl hplugin (Option.isSome_of_eq_some hf)).resolve_right hholds
      have hnone : w.page.capabilityOf? i = none := Option.not_isSome_iff_eq_none.mp hholds
      exact .inr (List.mem_map_of_mem (f := (·.1)) (mem_waiting.mpr ⟨l, hin, hplugin, hnone, hf⟩))

theorem Served.write {w : World} (hw : w.Served) (markup : Text) :
    (w.deed (.act (.write markup))).Served := by
  obtain ⟨hread, hfits⟩ := hw.settled.read markup
  obtain ⟨hreach, hnodes⟩ := (hread.put hfits).1.reaches hw.reaches
  obtain ⟨dom, cursor, heq⟩ := w.page.write_eq markup
  have hfactories : (w.page.write markup).2.factories = w.page.factories := by rw [heq]
  have hold (i : NodeId) : ({ w with page := (w.page.write markup).2 }).holds? i = w.holds? i :=
    capabilityOf?_write w.page markup i
  refine Served.filled (w := { w with page := (w.page.write markup).2 }) (hw.settled.act (.write markup))
    hreach (by rw [hfactories]; exact hw.works) (fun i hholds => ?_) (fun x hx => ?_)
    fun i l hl hplugin hf => ?_
  · rw [hold] at hholds
    obtain ⟨l, hl, hplugin, hf⟩ := (hw.held i).mp hholds
    exact ⟨l, hnodes.mem_iff.mpr (List.mem_append_left _ hl), hplugin, by rwa [hfactories]⟩
  · exact hnodes.mem_iff.mpr (List.mem_append_right _ hx)
  · rw [hfactories] at hf
    rw [hold]
    rcases List.mem_append.mp (hnodes.mem_iff.mp hl) with hl | hl
    · exact .inr ((hw.held i).mpr ⟨l, hl, hplugin, hf⟩)
    · exact .inl hl

theorem Served.registerPlugin {w : World} (hw : w.Served) {f : Factory} (hf : f.works) :
    (w.deed (.registerPlugin f)).Served := by
  have hsame : Alike w.page (w.page.registerPlugin f).2 := ⟨rfl, rfl, rfl, rfl⟩
  have hget (k : Text) : (w.page.registerPlugin f).2.factories.get? k =
      if Text.toLower f.key = k then some f else w.page.factories.get? k :=
    Dict.get?_set _ _ _ _
  refine Served.filled (w := { w with page := (w.page.registerPlugin f).2 }) (hsame.settled hw.settled)
    (hsame.reaches hw.reaches) (fun k g hg => ?_) (fun i hholds => ?_) (fun x hx => hx)
    fun i l hl _ _ => .inl hl
  · rw [hget] at hg
    split at hg
    · cases hg
      exact hf
    · exact hw.works k g hg
  · obtain ⟨l, hl, hplugin, hfactory⟩ := (hw.held i).mp hholds
    refine ⟨l, hl, hplugin, ?_⟩
    rw [hget]
    split
    · rfl
    · exact hfactory

/-- The calls are some writes and some registrations, each in their order. -/
inductive Mixes : List Text → List Factory → List Call → Prop where
  | nil : Mixes [] [] []
  | write {ms fs xs} (markup : Text) (h : Mixes ms fs xs) :
    Mixes (markup :: ms) fs (.write markup :: xs)
  | registerPlugin {ms fs xs} (f : Factory) (h : Mixes ms fs xs) :
    Mixes ms (f :: fs) (.registerPlugin f :: xs)

/-- Registrations do not change what is written where. -/
theorem Mixes.alike {ms : List Text} {fs : List Factory} {xs : List Call} (h : Mixes ms fs xs)
    {w v : World} (hpage : Alike w.page v.page) :
    Alike (w.calls (ms.map .write)).page (v.calls xs).page := by
  induction h generalizing w v with
  | nil => exact hpage
  | write markup _ ih =>
    refine ih ?_
    have hwritten := alike_runFactories { w with page := (w.page.write markup).2 } (w.page.write markup).1
    have hwritten' :=
      alike_runFactories { v with page := (v.page.write markup).2 } (v.page.write markup).1
    exact (hwritten.symm.trans (hpage.write markup)).trans hwritten'
  | registerPlugin f _ ih =>
    refine ih (hpage.trans ?_)
    have hasked : Alike v.page (v.page.registerPlugin f).2 := ⟨rfl, rfl, rfl, rfl⟩
    exact hasked.trans (alike_runFactories { v with page := (v.page.registerPlugin f).2 } _)

theorem Mixes.served {ms : List Text} {fs : List Factory} {xs : List Call} (h : Mixes ms fs xs)
    (hfs : ∀ f ∈ fs, f.works) {w : World} (hw : w.Served) : (w.calls xs).Served := by
  induction h generalizing w with
  | nil => exact hw
  | write markup _ ih => exact ih hfs (hw.write markup)
  | registerPlugin f _ ih =>
    obtain ⟨hf, hfs⟩ := List.forall_mem_cons.mp hfs
    exact ih hfs (hw.registerPlugin hf)

theorem Mixes.registered {ms : List Text} {fs : List Factory} {xs : List Call} (h : Mixes ms fs xs)
    (w : World) (k : Text) : ((w.calls xs).page.factories.get? k).isSome ↔
      k ∈ fs.map (Text.toLower ·.key) ∨ (w.page.factories.get? k).isSome := by
  induction h generalizing w with
  | nil => simp [calls, deeds]
  | write markup _ ih =>
    have hsame : (w.deed (.act (.write markup))).page.factories = w.page.factories := by
      obtain ⟨dom, cursor, heq⟩ := w.page.write_eq markup
      refine (runFactories_kept { w with page := (w.page.write markup).2 } _).2.trans ?_
      rw [heq]
    exact (ih (w.deed (.act (.write markup)))).trans (by rw [hsame])
  | registerPlugin f _ ih =>
    have hget : (w.deed (.registerPlugin f)).page.factories.get? k =
        if Text.toLower f.key = k then some f else w.page.factories.get? k := by
      rw [← Dict.get?_set]
      exact congrArg (·.get? k)
        (runFactories_kept { w with page := (w.page.registerPlugin f).2 } _).2
    refine (ih (w.deed (.registerPlugin f))).trans ?_
    rw [hget, List.map_cons, List.mem_cons]
    by_cases hk : Text.toLower f.key = k
    · simp [hk]
    · simp [hk, Ne.symm hk]

/-- **Plugin elements are filled once.** Once a factory succeeded for an element, none is run for it
again, and no write or registration changes what an element holds. On a page where nothing is registered
or filled yet, the elements that are filled by writes and by registrations that work are those of the
document whose type, or else class, is registered, in whatever order they are mixed. -/
theorem plugins_filled_once {w : World} (hw : w.page.Settled) :
    (∀ cs : List Call, (w.allRuns cs).Pairwise fun r r' => r.made.isSome → r.element ≠ r'.element) ∧
    (∀ (cs : List Call) (c : Call), c.fills → ∀ i t, (w.calls cs).holds? i = some t →
      ((w.calls cs).deed c.deed).holds? i = some t ∧ ∀ r ∈ c.runs (w.calls cs), r.element ≠ i) ∧
    (w.page.Reaches → w.page.capabilities = [] → w.page.factories = [] →
      ∀ ms fs xs, (∀ f ∈ fs, f.works) → Mixes ms fs xs →
        Alike (w.calls (ms.map .write)).page (w.calls xs).page ∧
        ∀ i, ((w.calls xs).holds? i).isSome ↔
          ∃ l, (i, l) ∈ (w.calls (ms.map .write)).page.dom.document.nodes ∧ l.isPlugin ∧
            l.pluginKey ∈ fs.map (Text.toLower ·.key)) := by
  refine ⟨pairwise_allRuns hw, fun cs c hc i t => holds?_deed hc, ?_⟩
  intro hreach hempty hnone ms fs xs hfs hmixes
  have hstart : w.Served :=
    ⟨hw, hreach, by simp [hnone, Dict.get?], by
      simp [holds?, capabilityOf?, hempty, Wants, hnone, Dict.get?]⟩
  have hsame := hmixes.alike (Alike.refl w.page)
  refine ⟨hsame, fun i => ?_⟩
  rw [(hmixes.served hfs hstart).held, Wants, hsame.dom]
  refine exists_congr fun l => and_congr_right fun _ => and_congr_right fun _ => ?_
  rw [hmixes.registered, hnone]
  simp [Dict.get?]

/-- The factory for `x`, registered between two elements that ask for it. -/
def deskFactory : Factory := { key := "X", make := .thing (.value (.bool true)) }

def deskCalls : List Call :=
  [.write "<embed type=x>", .registerPlugin deskFactory, .write "<object classid=X>"]

theorem plugins_filled_once_desk :
    desk.page.Settled ∧ desk.page.Reaches ∧ deskFactory.works ∧
      Mixes ["<embed type=x>", "<object classid=X>"] [deskFactory] deskCalls ∧
      ((desk.calls deskCalls).holds? 7).isSome ∧ ((desk.calls deskCalls).holds? 8).isSome := by
  have hsettled : desk.page.Settled :=
    ⟨⟨⟨by decide, by decide⟩, by decide⟩, by decide, by decide, by decide⟩
  have hreach : desk.page.Reaches := by decide
  have hmixes : Mixes ["<embed type=x>", "<object classid=X>"] [deskFactory] deskCalls :=
    .write _ (.registerPlugin _ (.write _ .nil))
  obtain ⟨-, -, hfilled⟩ := plugins_filled_once hsettled
  obtain ⟨-, hheld⟩ := hfilled hreach rfl rfl _ _ _ (by decide) hmixes
  have hwritten : [((7 : NodeId), Label.element "embed" [("type", "x")]),
      (8, .element "object" [("classid", "X")])] ⊆
      (desk.calls ((["<embed type=x>", "<object classid=X>"] : List Text).map .write)
        ).page.dom.document.nodes := by
    decide +kernel
  refine ⟨hsettled, hreach, by decide, hmixes, (hheld 7).mpr ?_, (hheld 8).mpr ?_⟩
  · exact ⟨_, hwritten List.mem_cons_self, by decide, by decide⟩
  · exact ⟨_, hwritten (List.mem_cons_of_mem _ List.mem_cons_self), by decide, by decide⟩

end World

end PageBoot
