import PageBoot.Proofs.Page.Restoring

/-!
What plugin elements hold. An element waits for a factory while it holds nothing (`waitsFor?_eq`).
Nothing that is written or taken out of the page brings a node back into the document that was not
there any more (`Settled.document_write`, `Sound.document_remove`), so that an element that was filled is
looked at again only while it still holds something.
-/

namespace PageBoot

open Html Html.Forest Page

namespace Html.Label

/-- Elements that a factory may fill. -/
def isPlugin (l : Label) : Bool := l.isElementNamed "embed" || l.isElementNamed "object"

/-- What an element asks for: its type, or its class if it has no type. -/
def pluginKey (l : Label) : Text :=
  Text.toLower (if (l.attr "type").isEmpty then l.attr "classid" else l.attr "type")

end Html.Label

namespace Page

/-! ## Capabilities -/

section
variable (p : Page) (i j : NodeId)

theorem capabilityOf?_dropCapability :
    (p.dropCapability i).capabilityOf? j = if i = j then none else p.capabilityOf? j := by
  simp only [capabilityOf?, dropCapability, List.find?_filter]
  by_cases h : i = j
  · subst h
    simp
  · rw [if_neg h]
    congr 2
    funext x
    by_cases hx : x.1 = j <;> simp [hx, Ne.symm h]

theorem capabilityOf?_setCapability (t : Thing) :
    (p.setCapability i t).capabilityOf? j = if i = j then some t else p.capabilityOf? j := by
  have hdrop := p.capabilityOf?_dropCapability i j
  simp only [capabilityOf?, setCapability, List.find?_append] at hdrop ⊢
  by_cases h : i = j
  · simp only [h, if_true, Option.map_eq_none_iff] at hdrop ⊢
    simp [hdrop]
  · simp [h, hdrop]

theorem capabilityOf?_remove :
    (p.remove i).capabilityOf? j =
      if p.dom.hasParent i ∧ i = j then none else p.capabilityOf? j := by
  unfold remove
  by_cases h : p.dom.hasParent i = true
  · rw [if_pos h]
    refine (p.capabilityOf?_dropCapability i j).trans ?_
    simp [h]
  · rw [if_neg h, if_neg (fun h' => h h'.1)]

end

theorem capabilityOf?_write (p : Page) (markup : Text) (j : NodeId) :
    (p.write markup).2.capabilityOf? j = p.capabilityOf? j := by
  obtain ⟨dom, cursor, heq⟩ := p.write_eq markup
  rw [heq]
  rfl

/-! ## Who waits -/

theorem waitsFor?_eq (p : Page) (i : NodeId) (l : Label) :
    p.waitsFor? i l =
      if l.isPlugin ∧ p.capabilityOf? i = none then p.factories.get? l.pluginKey else none := by
  simp [waitsFor?, Label.isPlugin, Label.pluginKey, Option.isNone_iff_eq_none]

theorem mem_waiting {p : Page} {f : Forest} {i : NodeId} {factory : Factory} :
    (i, factory) ∈ p.waiting f ↔ ∃ l, (i, l) ∈ f.nodes ∧ l.isPlugin ∧ p.capabilityOf? i = none ∧
      p.factories.get? l.pluginKey = some factory := by
  simp only [waiting, List.mem_filterMap, Prod.exists, Option.map_eq_some_iff, Prod.mk.injEq,
    waitsFor?_eq, Option.ite_none_right_eq_some]
  grind

/-- Every element waits once. -/
theorem nodup_waiting {p : Page} {f : Forest} (hf : f.ids.Nodup) :
    ((p.waiting f).map (·.1)).Nodup := by
  refine hf.sublist ?_
  rw [← f.map_nodes]
  unfold waiting
  induction f.nodes with
  | nil => exact .slnil
  | cons x nodes ih =>
    cases h : p.waitsFor? x.1 x.2 with
    | none => simpa [h] using ih.cons _
    | some factory => simpa [h] using ih.cons_cons x.1

/-! ## The document -/

/-- What is read from markup has the identities that are free from `n` on. -/
theorem written_bounds (n : NodeId) (markup : Text) {i : NodeId}
    (hi : i ∈ (parseContents "body" n markup).forest.ids) :
    n ≤ i ∧ i < (parseContents "body" n markup).next := by
  obtain ⟨-, -, hbounds⟩ := number_ids _ n
  exact hbounds i hi

theorem next_le_parse (n : NodeId) (markup : Text) : n ≤ (parseContents "body" n markup).next := by
  obtain ⟨hle, -, -⟩ := number_ids _ n
  exact hle

theorem Settled.next_write {p : Page} (hp : p.Settled) (markup : Text) :
    (p.write markup).2.dom.next = (parseContents "body" p.dom.next markup).next := by
  obtain ⟨hread, hfits⟩ := hp.read markup
  exact (hread.put hfits).1.grown.next

/-- What is in the document after a write was there before or was written. -/
theorem Settled.document_write {p : Page} (hp : p.Settled) (markup : Text) {i : NodeId}
    (hi : i ∈ (p.write markup).2.dom.document.ids) :
    i ∈ p.dom.document.ids ∨ i ∈ (parseContents "body" p.dom.next markup).forest.ids := by
  obtain ⟨hread, hfits⟩ := hp.read markup
  obtain ⟨hput, -⟩ := hread.put hfits
  by_cases hreach : (p.usedUp (parseContents "body" p.dom.next markup).next).Reaches
  · exact List.mem_append.mp ((hput.ids hreach).mem_iff.mp hi)
  · exact .inl ((hput.misses hreach).2 ▸ hi)

/-- A node that is taken out is not in the document, and nothing comes in. -/
theorem Sound.document_remove {p : Page} (hp : p.Sound) {e i : NodeId}
    (hi : i ∈ (p.remove e).dom.document.ids) :
    i ∈ p.dom.document.ids ∧ (p.dom.hasParent e → i ≠ e) := by
  by_cases he : e ∈ p.dom.document.ids
  · obtain ⟨t, ht⟩ := Option.isSome_iff_exists.mp ((isSome_find? _ _).mpr he)
    have hdocument := hp.dom.nodup_of_mem (document_mem _)
    have hperm := ids_remove hdocument ht
    rw [Page.document_remove he] at hi
    refine ⟨hperm.mem_iff.mp (List.mem_append_left _ hi), fun _ heq => ?_⟩
    exact (List.nodup_append'.mp (hperm.nodup_iff.mpr hdocument)).2.2 hi
      (heq ▸ (ids_subset_of_find? ht).1)
  · have hsame : (p.remove e).dom.document = p.dom.document := by
      unfold remove
      split
      · next hparent => simp [Dom.detach, hparent, Dom.map, (seeks_remove e).missing he]
      · rfl
    rw [hsame] at hi
    exact ⟨hi, fun _ heq => he (heq ▸ hi)⟩

end Page

end PageBoot
