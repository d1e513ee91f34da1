import PageBoot.Loader.Selection
import PageBoot.Proofs.Html.ScriptTag
import PageBoot.Proofs.Page.Standing

/-!
What looking for the script's directory does to a page. A marker is written whose id has the name of
the module in it, is looked up by that id, and is taken out again. `scriptBase_restores` says when
this leaves the page as it was, for every name and every settled page: if the name's markup reads as one
element, that element gets into the document, and it is the first there with the id. A name with a
reference in it, or an id that is there already, keeps the marker on the page.
-/

namespace PageBoot

open Html Loader

namespace Page

/-- The page without the first element that has an id. -/
def without (p : Page) (id : Text) : Page :=
  match p.elementById? id with
  | none => p
  | some e => p.remove e

/-- What the marker of a module reads as. -/
def markerTrees (p : Page) (module : Text) : Forest :=
  (parseContents "body" p.dom.next (scriptTag (markerId module))).forest

/-- The page with the marker of a module. -/
def marked (p : Page) (module : Text) : Page := (p.write (scriptTag (markerId module))).2

/-! ## Marked pages -/

section Marked

variable {p : Page} {module : Text}

theorem byId?_mem {d : Dom} {id : Text} {e : NodeId} (h : d.byId? id = some e) :
    e ∈ d.document.ids ∧ ∃ l, (e, l) ∈ d.document.nodes ∧ l.isElement = true ∧ l.attr "id" = id := by
  simp only [Dom.byId?, Option.map_eq_some_iff] at h
  obtain ⟨⟨i, l⟩, hfound, rfl⟩ := h
  have hmem := List.mem_filter.mp (List.mem_of_find?_eq_some hfound)
  have hid := List.find?_some hfound
  refine ⟨?_, l, hmem.1, hmem.2, by simpa using hid⟩
  rw [← Forest.map_nodes]
  exact List.mem_map_of_mem (f := (·.1)) hmem.1

theorem place_usedUp (p : Page) (n : NodeId) : (p.usedUp n).place? = p.place? := rfl

theorem reaches_usedUp_iff (p : Page) (n : NodeId) : (p.usedUp n).Reaches ↔ p.Reaches := Iff.rfl

theorem restored_usedUp_iff {q : Page} (n : NodeId) : Restored (p.usedUp n) q ↔ Restored p q :=
  ⟨fun h => ⟨h.document, h.current, h.cursor⟩, fun h => ⟨h.document, h.current, h.cursor⟩⟩

/-- Some nodes are written, and the first element with an id is taken out. -/
theorem restored_without_iff {n : NodeId} {f : Forest} (hp : (p.usedUp n).Settled)
    (hf : Dom.Fits f (p.usedUp n).dom) (id : Text) :
    Restored p (((p.usedUp n).insertAll f).without id) ↔
      match ((p.usedUp n).insertAll f).elementById? id with
      | none => f.roots = [] ∨ p.place? = none ∧ ¬ p.Reaches
      | some e => p.Reaches ∧ f.roots = [e] := by
  rw [← restored_usedUp_iff n, ← place_usedUp p n, ← reaches_usedUp_iff p n, without]
  cases hfound : ((p.usedUp n).insertAll f).elementById? id with
  | none => exact hp.restored_insertAll_iff hf
  | some e => exact hp.restored_remove_iff hf (byId?_mem hfound).1

/-- **Markup is written, and the first element with an id is taken out.** -/
theorem Settled.restored_write_iff (hp : p.Settled) (markup id : Text) :
    Restored p ((p.write markup).2.without id) ↔
      match (p.write markup).2.elementById? id with
      | none =>
        (parseContents "body" p.dom.next markup).forest.roots = [] ∨ p.place? = none ∧ ¬ p.Reaches
      | some e => p.Reaches ∧ (parseContents "body" p.dom.next markup).forest.roots = [e] := by
  obtain ⟨hread, hfits⟩ := hp.read markup
  rw [write_eq_insertAll]
  exact restored_without_iff hread hfits id

/-- The nodes of the document once markup is written. -/
theorem Settled.nodes_write (hp : p.Settled) (hreach : p.Reaches) (markup : Text) :
    (p.write markup).2.dom.document.nodes.Perm
      (p.dom.document.nodes ++ (parseContents "body" p.dom.next markup).forest.nodes) := by
  obtain ⟨hread, hfits⟩ := hp.read markup
  exact ((hread.put hfits).1.reaches hreach).2

/-- Elements in front of one. -/
def ahead (p : Page) (e : NodeId) : List (NodeId × Label) :=
  p.dom.document.elements.takeWhile (·.1 ≠ e)

theorem mem_ahead {q : Page} {e : NodeId} {x : NodeId × Label} (h : x ∈ q.ahead e) :
    x ∈ q.dom.document.nodes ∧ x.2.isElement = true ∧ x.1 ≠ e := by
  have hfront := List.mem_takeWhile_imp h
  obtain ⟨hnode, helement⟩ := List.mem_filter.mp ((List.takeWhile_sublist _).subset h)
  exact ⟨hnode, helement, by simpa using hfront⟩

theorem find?_eq_some_iff {es : List (NodeId × Label)} (hes : (es.map (·.1)).Nodup) {e : NodeId}
    {l : Label} (he : (e, l) ∈ es) (id : Text) :
    (es.find? fun (_, k) => k.attr "id" == id).map (·.1) = some e ↔
      l.attr "id" = id ∧ ∀ x ∈ es.takeWhile (·.1 ≠ e), x.2.attr "id" ≠ id := by
  induction es with
  | nil => cases he
  | cons x es ih =>
    obtain ⟨i, k⟩ := x
    obtain ⟨hi, hrest⟩ := List.nodup_cons.mp hes
    by_cases hie : i = e
    · subst hie
      have hlabel : k = l := by
        rcases List.mem_cons.mp he with heq | he
        · exact (Prod.mk.inj heq).2.symm
        · exact (hi (List.mem_map_of_mem (f := (·.1)) he)).elim
      subst hlabel
      by_cases hid : k.attr "id" = id
      · simp [hid]
      · have hother : (es.find? fun (_, k) => k.attr "id" == id).map (·.1) ≠ some i := by
          intro h
          obtain ⟨y, hy, rfl⟩ := Option.map_eq_some_iff.mp h
          exact hi (List.mem_map_of_mem (f := (·.1)) (List.mem_of_find?_eq_some (a := y) hy))
        simpa [hid] using hother
    · have he : (e, l) ∈ es := by
        rcases List.mem_cons.mp he with heq | he
        · exact (hie (Prod.mk.inj heq).1.symm).elim
        · exact he
      by_cases hid : k.attr "id" = id
      · simp [hid, hie]
      · rw [List.find?_cons_of_neg (by simpa using hid), ih hrest he,
          List.takeWhile_cons_of_pos (by simpa using hie), List.forall_mem_cons]
        simp [hid]

/-- The first element with an id is a given one if that has the id and none in front of it does. -/
theorem elementById?_eq_some_iff {q : Page} (hq : q.Sound) {e : NodeId} {l : Label}
    (he : (e, l) ∈ q.dom.document.nodes) (hl : l.isElement = true) (id : Text) :
    q.elementById? id = some e ↔ l.attr "id" = id ∧ ∀ x ∈ q.ahead e, x.2.attr "id" ≠ id := by
  have hnodup : (q.dom.document.elements.map (·.1)).Nodup := by
    have hids := hq.dom.nodup_of_mem (document_mem q.dom)
    rw [← Forest.map_nodes] at hids
    exact hids.sublist (List.filter_sublist.map _)
  exact find?_eq_some_iff hnodup (List.mem_filter.mpr ⟨he, hl⟩) id

theorem elementById?_eq_none {q : Page} {id : Text} (h : q.elementById? id = none) {e : NodeId}
    {l : Label} (he : (e, l) ∈ q.dom.document.nodes) (hl : l.isElement = true) : l.attr "id" ≠ id := by
  simp only [elementById?, Dom.byId?, Option.map_eq_none_iff, List.find?_eq_none] at h
  simpa using h (e, l) (List.mem_filter.mpr ⟨he, hl⟩)

end Marked

end Page

namespace World

/-- Writes markup and finds the directory of what stands before the first element with an id, which is
taken out. -/
def baseBefore (w : World) (markup id : Text) : Text × World :=
  let w := w.write markup
  match w.page.elementById? id with
  | none => ([], w)
  | some marker =>
    let source := ((w.page.dom.previous? marker).map fun p => w.page.dom.attr p "src").getD []
    (source.uptoLast 47, w.onPage (·.remove marker))

theorem scriptBase_eq (w : World) (module : Text) :
    w.scriptBase module = w.baseBefore (scriptTag (markerId module)) (markerId module) := by
  have hmarkup : "<script id=\"" ++ markerId module ++ "\"></script>" = scriptTag (markerId module) := rfl
  generalize scriptTag (markerId module) = markup at hmarkup ⊢
  unfold scriptBase baseBefore
  cases hfound : (w.write markup).page.elementById? (markerId module) <;> simp only [hmarkup, hfound]

theorem alike_baseBefore (w : World) (markup id : Text) :
    Page.Alike ((w.page.write markup).2.without id) (w.baseBefore markup id).2.page := by
  have hwrite : Page.Alike (w.page.write markup).2 (w.write markup).page := w.alike_act (.write markup)
  have hfound : (w.write markup).page.elementById? id = (w.page.write markup).2.elementById? id := by
    rw [Page.elementById?, Page.elementById?, hwrite.dom]
  rw [Page.without, ← hfound, baseBefore]
  cases (w.write markup).page.elementById? id with
  | none => exact hwrite
  | some e => exact hwrite.remove e

theorem not_mem_markerId {b : UInt8} {module : Text} (hfront : b ∉ Text.ofString "__gwt_marker_")
    (hmodule : b ∉ module) : b ∉ markerId module := by
  intro h
  rcases List.mem_append.mp h with h | h
  · exact hfront h
  · exact hmodule h

theorem restored_scriptBase_iff {w : World} (hw : w.page.Settled) (module : Text) :
    Page.Restored w.page (w.scriptBase module).2.page ↔
      match (w.page.marked module).elementById? (markerId module) with
      | none => (w.page.markerTrees module).roots = [] ∨ w.page.place? = none ∧ ¬ w.page.Reaches
      | some e => w.page.Reaches ∧ (w.page.markerTrees module).roots = [e] := by
  have halike := w.alike_baseBefore (scriptTag (markerId module)) (markerId module)
  rw [scriptBase_eq, halike.restored_iff]
  unfold Page.marked Page.markerTrees
  exact hw.restored_write_iff (scriptTag (markerId module)) (markerId module)

/-- The element that the marker of a module is if its name has no quotes. -/
def markerLabel (module : Text) : Label := .element "script" [("id", readQuoted (markerId module))]

theorem markerTrees_of_not_mem {module : Text} (hquote : 34 ∉ module) (p : Page) :
    p.markerTrees module = .tree p.dom.next (markerLabel module) := by
  rw [Page.markerTrees, parseContents_scriptTag (not_mem_markerId (by decide) hquote), markerLabel]

theorem readQuoted_markerId {module : Text} (hreference : 38 ∉ module) (hline : 13 ∉ module) :
    readQuoted (markerId module) = markerId module :=
  readQuoted_eq_self (not_mem_markerId (by decide) hreference) (not_mem_markerId (by decide) hline)

section Marked

variable {p : Page} {module : Text}

theorem nodes_marked (hp : p.Settled) (hreach : p.Reaches) (hquote : 34 ∉ module) :
    (p.marked module).dom.document.nodes.Perm
      (p.dom.document.nodes ++ [(p.dom.next, markerLabel module)]) := by
  have hnodes := hp.nodes_write hreach (scriptTag (markerId module))
  have htrees := markerTrees_of_not_mem hquote p
  unfold Page.markerTrees at htrees
  rw [htrees] at hnodes
  unfold Page.marked
  exact hnodes

theorem sound_marked (hp : p.Sound) (module : Text) : (p.marked module).Sound :=
  hp.act (.write (scriptTag (markerId module)))

/-- The marker is found by its id if that reads as it was written and nothing in front has it. -/
theorem elementById?_marked_iff (hp : p.Settled) (hreach : p.Reaches) (hquote : 34 ∉ module) :
    (p.marked module).elementById? (markerId module) = some p.dom.next ↔
      readQuoted (markerId module) = markerId module ∧
        ∀ x ∈ (p.marked module).ahead p.dom.next, x.2.attr "id" ≠ markerId module := by
  have hmarker := (nodes_marked hp hreach hquote).mem_iff.mpr
    (List.mem_append_right _ List.mem_cons_self)
  exact Page.elementById?_eq_some_iff (sound_marked hp.sound module) hmarker rfl (markerId module)

/-- On a page without the marker's id nothing in front of the marker has it. -/
theorem ahead_marked (hp : p.Settled) (hreach : p.Reaches) (hquote : 34 ∉ module)
    (hfree : p.elementById? (markerId module) = none) :
    ∀ x ∈ (p.marked module).ahead p.dom.next, x.2.attr "id" ≠ markerId module := by
  intro x hx
  obtain ⟨hnode, hlabel, hother⟩ := Page.mem_ahead hx
  rcases List.mem_append.mp ((nodes_marked hp hreach hquote).mem_iff.mp hnode) with hold | hnew
  · exact Page.elementById?_eq_none hfree hold hlabel
  · rw [List.mem_singleton.mp hnew] at hother
    exact (hother rfl).elim

end Marked

/-- Under a name without quotes, and with a place of writing in the document. -/
theorem restored_scriptBase_of_reaches {w : World} (hw : w.page.Settled) {module : Text}
    (hquote : 34 ∉ module) (hreach : w.page.Reaches) :
    Page.Restored w.page (w.scriptBase module).2.page ↔
      readQuoted (markerId module) = markerId module ∧
        ∀ x ∈ (w.page.marked module).ahead w.page.dom.next, x.2.attr "id" ≠ markerId module := by
  have hroots : (w.page.markerTrees module).roots = [w.page.dom.next] := by
    rw [markerTrees_of_not_mem hquote]
    rfl
  rw [restored_scriptBase_iff hw, ← elementById?_marked_iff hw hreach hquote, hroots]
  cases (w.page.marked module).elementById? (markerId module) with
  | none => simp [hreach]
  | some e => simp [hreach, eq_comm]

/-- **When looking for the directory leaves the page as it was.** Nothing with the marker's id is found
and nothing can be told from what was written, or what is found is in the document and all that was
written. Under a name without quotes, and with a place of writing in the document, this is so exactly if
the id reads as it was written and no element in front of the marker has it. So it is for names without
quotes, references and line ends, if the page has no element with the id before. -/
theorem scriptBase_restores {w : World} (hw : w.page.Settled) (module : Text) :
    (Page.Restored w.page (w.scriptBase module).2.page ↔
      match (w.page.marked module).elementById? (markerId module) with
      | none => (w.page.markerTrees module).roots = [] ∨ w.page.place? = none ∧ ¬ w.page.Reaches
      | some e => w.page.Reaches ∧ (w.page.markerTrees module).roots = [e]) ∧
    (34 ∉ module → w.page.Reaches →
      (Page.Restored w.page (w.scriptBase module).2.page ↔
        readQuoted (markerId module) = markerId module ∧
          ∀ x ∈ (w.page.marked module).ahead w.page.dom.next, x.2.attr "id" ≠ markerId module)) ∧
    (34 ∉ module → 38 ∉ module → 13 ∉ module → w.page.Reaches →
      w.page.elementById? (markerId module) = none →
        Page.Restored w.page (w.scriptBase module).2.page) := by
  refine ⟨restored_scriptBase_iff hw module, restored_scriptBase_of_reaches hw,
    fun hquote hreference hline hreach hfree => ?_⟩
  rw [restored_scriptBase_of_reaches hw hquote hreach]
  exact ⟨readQuoted_markerId hreference hline, ahead_marked hw hreach hquote hfree⟩

/-- The script of `desk` runs. -/
def runningDesk : World := desk.onPage (·.setCurrentScript (some 5))

theorem settled_runningDesk : runningDesk.page.Settled :=
  ⟨⟨⟨by decide, by decide⟩, by decide⟩, by decide, by decide, by decide⟩

theorem scriptBase_restores_desk :
    Page.Restored runningDesk.page (runningDesk.scriptBase "app").2.page :=
  (scriptBase_restores settled_runningDesk "app").2.2 (by decide) (by decide) (by decide)
    (by decide) (by decide)

/-- The marker of a module whose name has a reference in it is not found, and stays on the page. -/
theorem marker_stays :
    ¬ ∀ (w : World) (module : Text), w.page.Settled → module ≠ [] →
      Page.Restored w.page (w.scriptBase module).2.page := by
  intro h
  have hrestored := h runningDesk "&#65;" settled_runningDesk (by decide)
  have hread := ((restored_scriptBase_of_reaches settled_runningDesk (by decide) (by decide)).mp
    hrestored).1
  revert hread
  decide

end World

end PageBoot
