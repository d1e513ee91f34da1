import PageBoot.Proofs.Page.Labels
import PageBoot.Proofs.Page.Restoring
import PageBoot.Proofs.World.Siblings

/-!
What stands at the place of writing. While a script of the document runs, some node of the document is
the one behind which the next is written: the script itself, or what was written last. `Page.Stands`
gives the source of that node. Writing replaces it; frames, stylesheets, and markers that are taken back
do not.
-/

namespace PageBoot

open Html Page

/-! ## Labels that stay -/

namespace Text

theorem equalFold_congr {s t : Text} (h : s.equalFold t = true) (u : Text) :
    s.equalFold u = t.equalFold u := by
  rw [equalFold, eq_of_beq h, equalFold]

end Text

namespace Html

theorem Label.attr_setAttr {key other : Text} (h : key.equalFold other = false) (l : Label) (value : Text) :
    (l.setAttr key value).attr other = l.attr other := by
  obtain ⟨content, attrs⟩ := l
  have hfind : ((Label.setAttr.go key value attrs).find? (·.key.equalFold other)).map (·.value) =
      (attrs.find? (·.key.equalFold other)).map (·.value) := by
    induction attrs with
    | nil => simp [Label.setAttr.go, h]
    | cons a as ih =>
      rw [Label.setAttr.go]
      split
      next hkey =>
        have ha : a.key.equalFold other = false := (Text.equalFold_congr hkey other).trans h
        simp [ha]
      next =>
        by_cases ha : a.key.equalFold other = true
        · simp [ha]
        · simp only [List.find?_cons, ha]
          exact ih
  exact congrArg (·.getD []) hfind

namespace Forest

/-- A node keeps its label, or gets the new one. -/
theorem mem_nodes_relabel {f : Forest} {y : NodeId} {l : Label} (h : (y, l) ∈ f.nodes) (x : NodeId)
    (k : Label → Label) : (y, l) ∈ (f.relabel x k).nodes ∨ (y, k l) ∈ (f.relabel x k).nodes := by
  induction f with
  | nil => cases h
  | node i m c r ihc ihr =>
    rw [relabel]
    split
    · rcases List.mem_cons.mp h with heq | h
      · cases heq
        exact .inr List.mem_cons_self
      · exact .inl (List.mem_cons_of_mem _ h)
    · rcases List.mem_cons.mp h with heq | h
      · cases heq
        exact .inl List.mem_cons_self
      · simp only [nodes, List.mem_cons, List.mem_append]
        rcases List.mem_append.mp h with h | h
        · exact (ihc h).imp (fun h => .inr (.inl h)) fun h => .inr (.inl h)
        · exact (ihr h).imp (fun h => .inr (.inr h)) fun h => .inr (.inr h)

theorem mem_nodes_replaceChildren {f : Forest} {n : NodeId × Label} (h : n ∈ f.nodes) (x : NodeId)
    {g : Forest → Forest} (hg : ∀ c : Forest, n ∈ c.nodes → n ∈ (g c).nodes) :
    n ∈ (f.replaceChildren x g).nodes := by
  induction f with
  | nil => cases h
  | node i l c r ihc ihr =>
    simp only [nodes, List.mem_cons, List.mem_append] at h
    rw [replaceChildren]
    split <;> simp only [nodes, List.mem_cons, List.mem_append]
    · exact h.imp_right (Or.imp_left (hg c))
    · exact h.imp_right (Or.imp ihc ihr)

/-- The last of the top-level nodes. -/
def last? : Forest → Option (NodeId × Label)
  | .nil => none
  | .node i l _ r => some (r.last?.getD (i, l))

theorem last?_eq_none {f : Forest} (h : f.last? = none) : f.roots.getLast? = none := by
  cases f with
  | nil => rfl
  | node => cases h

theorem last?_eq_some {f : Forest} {n : NodeId × Label} (h : f.last? = some n) :
    f.roots.getLast? = some n.1 ∧ n ∈ f.nodes := by
  induction f with
  | nil => cases h
  | node i l c r _ ih =>
    rw [last?] at h
    rw [roots, List.getLast?_cons]
    cases hr : r.last? with
    | none =>
      obtain rfl : (i, l) = n := by simpa [hr] using h
      rw [last?_eq_none hr]
      exact ⟨rfl, List.mem_cons_self⟩
    | some m =>
      obtain rfl : m = n := by simpa [hr] using h
      obtain ⟨hlast, hmem⟩ := ih hr
      rw [hlast]
      exact ⟨rfl, List.mem_cons_of_mem _ (List.mem_append_right _ hmem)⟩

/-- The source of the last top-level node, or else `s`. -/
def source (f : Forest) (s : Text) : Text := (f.last?.map fun n => n.2.attr "src").getD s

/-- Identities do not matter. -/
theorem source_ofForest (n : NodeId) (f : Forest) (s : Text) :
    (Parsed.ofForest n f).forest.source s = f.source s := by
  have hlast : (f.number n).1.last?.map (·.2) = f.last?.map (·.2) := by
    induction f generalizing n with
    | nil => rfl
    | node i l c r _ ih =>
      have hrest := ih (c.number (n + 1)).2
      simp only [number, last?, Option.map_some]
      cases hr : r.last? <;> cases hnumbered : (r.number (c.number (n + 1)).2).1.last? <;>
        simp_all
  have hsource (g : Forest) : g.source s = ((g.last?.map (·.2)).map (·.attr "src")).getD s := by
    rw [Option.map_map]
    rfl
  rw [hsource, hsource f, ← hlast]
  rfl

end Forest

end Html

namespace Page

open Forest

theorem Dom.Sound.attr_of_mem {d : Dom} (hd : d.Sound) {x : NodeId} {l : Label}
    (h : (x, l) ∈ d.document.nodes) (key : Text) : d.attr x key = l.attr key := by
  have hnode : (x, l) ∈ d.nodes := List.mem_flatMap.mpr ⟨d.document, document_mem d, h⟩
  rw [Dom.attr, hd.label?_of_mem hnode]
  rfl

/-! ## Pages that are alike -/

section Alike

variable {p q q' : Page}

theorem Alike.symm (h : Alike q q') : Alike q' q := ⟨h.dom.symm, h.body.symm, h.current.symm, h.cursor.symm⟩

theorem Alike.remove (h : Alike q q') (e : NodeId) : Alike (q.remove e) (q'.remove e) := by
  unfold Page.remove
  rw [h.dom]
  split
  · refine ⟨rfl, h.body, h.current, ?_⟩
    simp only [h.cursor, h.current]
  · exact h

theorem Alike.settled (h : Alike q q') (hq : q.Settled) : q'.Settled where
  sound := h.sound hq.sound
  current x hx := h.dom ▸ hq.current x (h.current ▸ hx)
  cursor x hx := h.dom ▸ hq.cursor x (h.cursor ▸ hx)
  apart x hx := by
    rw [h.current]
    exact hq.apart x (h.cursor ▸ hx)

theorem Alike.restored (h : Alike q q') (hq : Restored p q) : Restored p q' :=
  ⟨h.dom ▸ hq.document, h.current.trans hq.current, h.cursor.trans hq.cursor⟩

theorem Alike.restored_iff (h : Alike q q') : Restored p q' ↔ Restored p q :=
  ⟨h.symm.restored, h.restored⟩

theorem Alike.insertWritten (h : Alike q q') (id : NodeId) (t : Forest) :
    Alike (q.insertWritten id t) (q'.insertWritten id t) := by
  simp only [Page.insertWritten, h.dom, h.body, h.current, h.cursor]
  split <;> exact ⟨rfl, rfl, rfl, rfl⟩

theorem Alike.insertAll (h : Alike q q') (f : Forest) : Alike (q.insertAll f) (q'.insertAll f) := by
  induction f generalizing q q' with
  | nil => exact h
  | node i l c r _ ih =>
    rw [insertAll_node, insertAll_node]
    exact ih (h.insertWritten i _)

theorem Alike.write (h : Alike q q') (markup : Text) : Alike (q.write markup).2 (q'.write markup).2 := by
  have hread : Alike
      { q with dom := { q.dom with next := (parseContents "body" q.dom.next markup).next } }
      { q' with dom := { q'.dom with next := (parseContents "body" q'.dom.next markup).next } } := by
    rw [h.dom]
    exact ⟨rfl, h.body, h.current, h.cursor⟩
  have hall := hread.insertAll (parseContents "body" q.dom.next markup).forest
  simp only [Page.write]
  rw [h.dom] at hall ⊢
  exact hall

end Alike

/-! ## What stands last -/

/-- The node behind which the next one is written is in the document and has the source `s`. -/
structure Stands (p : Page) (s : Text) : Prop where
  settled : p.Settled
  node : ∃ x l, p.cursor.or p.current = some x ∧ (x, l) ∈ p.dom.document.nodes ∧ l.attr "src" = s

section Stands

variable {p q : Page} {s : Text}

theorem mem_ids_of_nodes {f : Forest} {x : NodeId} {l : Label} (h : (x, l) ∈ f.nodes) : x ∈ f.ids := by
  rw [← f.map_nodes]
  exact List.mem_map_of_mem (f := (·.1)) h

theorem place?_of_mem {x : NodeId} {l : Label} (hx : p.cursor.or p.current = some x)
    (h : (x, l) ∈ p.dom.document.nodes) : p.place? = some x :=
  place_of_parent hx (hasParent_of_attached (mem_ids_of_nodes h))

theorem Stands.reaches (h : p.Stands s) : p.Reaches := by
  obtain ⟨x, l, hx, hnode, -⟩ := h.node
  rw [Reaches, place?_of_mem hx hnode]
  exact mem_ids_of_nodes hnode

/-- A script of the document starts to run. -/
theorem stands_setCurrentScript (hp : p.Sound) {c : NodeId} {l : Label}
    (hc : (c, l) ∈ p.dom.document.nodes) : (p.setCurrentScript (some c)).Stands (l.attr "src") where
  settled := by
    refine settled_setCurrentScript hp fun x hx => ?_
    obtain rfl : c = x := Option.some.inj hx
    exact Dom.ids_subset (document_mem _) (mem_ids_of_nodes hc)
  node := ⟨c, l, rfl, hc, rfl⟩

/-- The place of writing stays, and so do the sources of nodes. -/
theorem Stands.keep (h : p.Stands s) (hq : q.Settled) (hcurrent : q.current = p.current)
    (hcursor : q.cursor = p.cursor)
    (hnodes : ∀ x l, (x, l) ∈ p.dom.document.nodes →
      ∃ k, (x, k) ∈ q.dom.document.nodes ∧ k.attr "src" = l.attr "src") : q.Stands s := by
  obtain ⟨x, l, hx, hnode, hsource⟩ := h.node
  obtain ⟨k, hk, hattr⟩ := hnodes x l hnode
  exact ⟨hq, x, k, by rw [hcursor, hcurrent, hx], hk, hattr.trans hsource⟩

theorem Alike.stands (h : Alike p q) (hp : p.Stands s) : q.Stands s := by
  exact hp.keep (h.settled hp.settled) h.current h.cursor fun x l hnode => ⟨l, h.dom ▸ hnode, rfl⟩

theorem Stands.restored (h : p.Stands s) (hq : q.Settled) (hback : Restored p q) : q.Stands s :=
  h.keep hq hback.current hback.cursor fun _ l hnode => ⟨l, hback.document ▸ hnode, rfl⟩

/-! ## What leaves it -/

theorem Stands.appendStylesheet (h : p.Stands s) (href : Text) : (p.appendStylesheet href).2.Stands s :=
  h.keep (h.settled.act (.appendStylesheet href)) rfl rfl fun _ l hnode =>
    ⟨l, mem_nodes_replaceChildren hnode _ fun c hc => by simp [hc], rfl⟩

/-- A frame changes the style of the body, which may be where the script runs, and no source. -/
theorem Stands.loadFrame (h : p.Stands s) (url : Text) : (p.loadFrame url).Stands s := by
  refine h.keep (h.settled.act (.loadFrame url)) rfl rfl fun x l hnode => ?_
  let look : Text := Style.print ((Style.parse (p.dom.attr p.body "style")).override
    [("margin", "0"), ("height", "100%"), ("overflow", "hidden")])
  have hin {k : Label} (hk : (x, k) ∈ (p.dom.document.relabel p.body (·.setAttr "style" look)).nodes) :
      (x, k) ∈ (p.loadFrame url).dom.document.nodes :=
    mem_nodes_replaceChildren hk p.body fun c hc => by simp [hc]
  rcases mem_nodes_relabel hnode p.body (·.setAttr "style" look) with hsame | hstyled
  · exact ⟨l, hin hsame, rfl⟩
  · exact ⟨_, hin hstyled, Label.attr_setAttr (by decide) l look⟩

/-! ## What replaces it -/

/-- What was written last stands last. -/
theorem Stands.put {f : Forest} (h : p.Stands s) (hput : Put f p q) (hq : q.Settled) :
    q.Stands (f.source s) := by
  obtain ⟨x, l, hx, hnode, hsource⟩ := h.node
  obtain ⟨-, hnodes⟩ := hput.reaches h.reaches
  have hcursor := hput.cursor
  rw [place?_of_mem hx hnode, Option.isSome_some, if_pos rfl] at hcursor
  cases hlast : f.last? with
  | none =>
    rw [last?_eq_none hlast, Option.none_or] at hcursor
    refine ⟨hq, x, l, by rw [hcursor, hput.current, hx], ?_, ?_⟩
    · exact hnodes.mem_iff.mpr (List.mem_append_left _ hnode)
    · rw [source, hlast, Option.map_none, Option.getD_none, hsource]
  | some n =>
    obtain ⟨hroot, hmem⟩ := last?_eq_some hlast
    rw [hroot, Option.some_or] at hcursor
    refine ⟨hq, n.1, n.2, by rw [hcursor, Option.some_or], ?_, ?_⟩
    · exact hnodes.mem_iff.mpr (List.mem_append_right _ hmem)
    · rw [source, hlast, Option.map_some, Option.getD_some]

theorem Stands.usedUp (h : p.Stands s) {n : NodeId} (hq : (p.usedUp n).Settled) :
    (p.usedUp n).Stands s :=
  h.keep hq rfl rfl fun _ l hnode => ⟨l, hnode, rfl⟩

theorem Stands.write (h : p.Stands s) (markup : Text) :
    (p.write markup).2.Stands ((parseContents "body" p.dom.next markup).forest.source s) := by
  obtain ⟨hread, hfits⟩ := h.settled.read markup
  obtain ⟨hput, hsettled⟩ := hread.put hfits
  exact (h.usedUp hread).put hput hsettled

theorem Stands.writeScript (h : p.Stands s) (src : Text) : (p.writeScript src).2.Stands src := by
  have hfresh : (p.usedUp (p.dom.next + 1)).Settled :=
    h.settled.stays (stays_fresh h.settled.sound.dom none (scriptLabel src))
  have hfits := h.settled.sound.dom.fits_fresh (scriptLabel src)
  exact (h.usedUp hfresh).put (hfresh.put_tree hfits) (hfresh.insertWritten hfits)

/-- What stands last stands before a tree that is written. -/
theorem Stands.attr_previous? {i : NodeId} {l : Label} {c : Forest} (h : p.Stands s)
    (ht : Dom.Fits (tree i l c) p.dom) :
    ((p.insertWritten i (tree i l c)).dom.previous? i).map
      ((p.insertWritten i (tree i l c)).dom.attr · "src") = some s := by
  obtain ⟨x, k, hx, hnode, hsource⟩ := h.node
  have hput := h.settled.put_tree ht
  have hin : (x, k) ∈ (p.insertWritten i (tree i l c)).dom.document.nodes :=
    (hput.reaches h.reaches).2.mem_iff.mpr (List.mem_append_left _ hnode)
  rw [previous?_insertWritten h.settled.sound ht (place?_of_mem hx hnode), Option.map_some,
    hput.sound.dom.attr_of_mem hin, hsource]

end Stands

end Page

end PageBoot
