import PageBoot.Proofs.Page.Writing

/-!
The labels of a page's nodes. The label of a node is that of its first occurrence (`Dom.label?_eq`),
and on a sound page there is no other. Trees that come in or are taken out change no label of the nodes
that are there (`Dom.Retains`), and what comes in inside the first element with a tag leaves it the
first (`findTag?_appendTo`).
-/

namespace PageBoot

open Html Page

/-! ## Labels in a forest -/

namespace Html.Forest

/-- Where the tree is that is found. -/
theorem exists_of_find? {f t : Forest} {x : NodeId} (h : f.find? x = some t) :
    ∃ l c front back, t = tree x l c ∧ f.nodes = front ++ (x, l) :: (c.nodes ++ back) ∧
      x ∉ front.map (·.1) := by
  induction f with
  | nil => cases h
  | node i k c r ihc ihr =>
    rw [find?] at h
    split at h
    next hi =>
      cases h
      exact ⟨k, c, [], r.nodes, by rw [hi], by simp [nodes, hi], List.not_mem_nil⟩
    next hi =>
      rcases Option.or_eq_some_iff.mp h with h | ⟨hnone, h⟩
      · obtain ⟨l, c', front, back, rfl, hnodes, hfront⟩ := ihc h
        exact ⟨l, c', (i, k) :: front, back ++ r.nodes, rfl, by simp [nodes, hnodes], by
          simpa [Ne.symm hi] using hfront⟩
      · obtain ⟨l, c', front, back, rfl, hnodes, hfront⟩ := ihr h
        have hc : x ∉ c.ids := by
          rw [← isSome_find?, hnone]
          exact Bool.false_ne_true
        rw [← c.map_nodes] at hc
        refine ⟨l, c', (i, k) :: (c.nodes ++ front), back, rfl, by simp [nodes, hnodes], ?_⟩
        simp only [List.map_cons, List.map_append, List.mem_cons, List.mem_append, not_or]
        exact ⟨Ne.symm hi, hc, hfront⟩

theorem find?_eq_none_of_not_mem {ns : List (NodeId × Label)} {y : NodeId} (h : y ∉ ns.map (·.1)) :
    ns.find? (·.1 == y) = none := by
  rw [List.find?_eq_none]
  intro n hn hny
  exact h (eq_of_beq hny ▸ List.mem_map_of_mem hn)

variable (f g : Forest) (x y : NodeId)

theorem label?_eq : f.label? y = (f.nodes.find? (·.1 == y)).map (·.2) := by
  rw [label?]
  cases h : f.find? y with
  | none =>
    have hy : y ∉ f.nodes.map (·.1) := by
      rw [f.map_nodes, ← isSome_find?, h]
      exact Bool.false_ne_true
    rw [find?_eq_none_of_not_mem hy]
    rfl
  | some t =>
    obtain ⟨l, c, front, back, rfl, hnodes, hfront⟩ := exists_of_find? h
    simp [hnodes, find?_eq_none_of_not_mem hfront, tree]

theorem label?_node (i : NodeId) (l : Label) (c r : Forest) :
    (node i l c r).label? y = if i = y then some l else (c.label? y).or (r.label? y) := by
  simp only [label?_eq, nodes, List.find?_cons, List.find?_append]
  by_cases hi : i = y
  · simp [hi]
  · simp [hi, beq_eq_false_iff_ne.mpr hi, Option.map_or]

theorem label?_append : (f ++ g).label? y = (f.label? y).or (g.label? y) := by
  simp only [label?_eq, nodes_append, List.find?_append, Option.map_or]

variable {f g y}

theorem label?_of_not_mem (h : y ∉ f.ids) : f.label? y = none := by
  rw [label?, find?_of_not_mem h]

theorem label?_relabel (k : Label → Label) :
    (f.relabel x k).label? y = (f.label? y).map (if y = x then k else id) := by
  induction f with
  | nil => rfl
  | node i l c r ihc ihr =>
    rw [relabel]
    by_cases hi : i = x
    · rw [if_pos hi, label?_node, label?_node]
      by_cases hy : i = y
      · simp [hy, hy ▸ hi]
      · simp [hy, hi ▸ Ne.symm hy]
    · rw [if_neg hi, label?_node, label?_node, ihc, ihr]
      by_cases hy : i = y
      · simp [hy, hy ▸ hi]
      · simp [hy, Option.map_or]

theorem label?_replaceChildren {k : Forest → Forest} (h : ∀ c, (k c).label? y = c.label? y) :
    (f.replaceChildren x k).label? y = f.label? y := by
  induction f with
  | nil => rfl
  | node i l c r ihc ihr =>
    rw [replaceChildren]
    split
    · rw [label?_node, label?_node, h]
    · rw [label?_node, label?_node, ihc, ihr]

theorem label?_appendTo {t : Forest} (h : y ∉ t.ids) : (f.appendTo x t).label? y = f.label? y :=
  label?_replaceChildren x fun c => by rw [label?_append, label?_of_not_mem h, Option.or_none]

theorem label?_prependTo {t : Forest} (h : y ∉ t.ids) : (f.prependTo x t).label? y = f.label? y :=
  label?_replaceChildren x fun c => by rw [label?_append, label?_of_not_mem h, Option.none_or]

theorem relabel_relabel (k k' : Label → Label) :
    (f.relabel x k).relabel x k' = f.relabel x (k' ∘ k) := by
  induction f with
  | nil => rfl
  | node i l c r ihc ihr =>
    by_cases hi : i = x
    · simp [relabel, hi]
    · simp [relabel, hi, ihc, ihr]

theorem ids_of_find? {t : Forest} (h : f.find? x = some t) (hy : y ∈ t.ids) : y ∈ f.ids := by
  obtain ⟨l, c, front, back, rfl, hnodes, -⟩ := exists_of_find? h
  rw [← f.map_nodes, hnodes]
  have hbelow : y = x ∨ y ∈ c.ids := by simpa [tree, ids] using hy
  rcases hbelow with rfl | hbelow
  · simp
  · rw [← c.map_nodes] at hbelow
    simp only [List.map_append, List.map_cons, List.mem_append, List.mem_cons]
    exact .inr (.inr (.inl hbelow))

theorem findTag?_node (i : NodeId) (l : Label) (c r : Forest) (tag : Text) :
    (node i l c r).findTag? tag =
      if l.isElementNamed tag then some i else (c.findTag? tag).or (r.findTag? tag) := by
  simp only [findTag?, nodes, List.find?_cons, List.find?_append]
  by_cases hl : l.isElementNamed tag = true
  · simp [hl]
  · simp [hl, Option.map_or]

/-- What is added inside the first element with a tag comes behind its beginning. -/
theorem findTag?_appendTo {root : NodeId} {tree tag} (hf : f.ids.Nodup)
    (hroot : f.findTag? tag = some root) (htree : f.find? root = some tree) (hy : y ∈ tree.ids)
    (t : Forest) :
    (f.appendTo y t).findTag? tag = some root := by
  induction f with
  | nil => cases hroot
  | node i l c r ihc ihr =>
    obtain ⟨hic, hir, hc, hr, hdisjoint⟩ := nodup_node hf
    rw [findTag?_node] at hroot
    by_cases hl : l.isElementNamed tag = true
    · rw [if_pos hl] at hroot
      simp only [appendTo, replaceChildren]
      split <;> rw [findTag?_node, if_pos hl, hroot]
    rw [if_neg hl] at hroot
    rcases Option.or_eq_some_iff.mp hroot with hroot | ⟨hnone, hroot⟩
    · have hin : root ∈ c.ids := ids_of_findTag? hroot
      have hother : i ≠ root := fun hi => hic (hi ▸ hin)
      rw [find?, if_neg hother, find?_of_not_mem (hdisjoint root hin), Option.or_none] at htree
      have hi : i ≠ y := fun hi => hic (hi ▸ ids_of_find? root htree hy)
      have hcontents := ihc hc hroot htree
      rw [appendTo] at hcontents ⊢
      rw [replaceChildren, if_neg hi, findTag?_node, if_neg hl, hcontents, Option.some_or]
    · have hin : root ∈ r.ids := ids_of_findTag? hroot
      have hother : i ≠ root := fun hi => hir (hi ▸ hin)
      have hout : root ∉ c.ids := fun hc => hdisjoint root hc hin
      rw [find?, if_neg hother, find?_of_not_mem hout, Option.none_or] at htree
      have hyr : y ∈ r.ids := ids_of_find? root htree hy
      have hi : i ≠ y := fun hi => hir (hi ▸ hyr)
      have hyc : y ∉ c.ids := fun hc => hdisjoint y hc hyr
      have hrest := ihr hr hroot htree
      rw [appendTo] at hrest ⊢
      rw [replaceChildren, if_neg hi, findTag?_node, if_neg hl, (seeks_replaceChildren y _).missing hyc,
        hnone, Option.none_or, hrest]

end Html.Forest

/-! ## Labels of a page -/

namespace Page.Dom

open Forest

variable {d d' d'' : Dom} {x y : NodeId} {l : Label} {t : Forest}

theorem label?_eq (d : Dom) (y : NodeId) : d.label? y = (d.nodes.find? (·.1 == y)).map (·.2) := by
  rw [label?, nodes, List.find?_flatMap, List.map_findSome?]
  exact findSome?_congr fun f _ => f.label?_eq y

theorem mem_of_label? (h : d.label? y = some l) : (y, l) ∈ d.nodes := by
  rw [label?_eq, Option.map_eq_some_iff] at h
  obtain ⟨n, hn, rfl⟩ := h
  have hy : n.1 = y := by simpa using List.find?_some hn
  exact hy ▸ List.mem_of_find?_eq_some hn

theorem mem_ids_of_label? (h : d.label? y = some l) : y ∈ d.ids := by
  rw [← map_nodes]
  exact List.mem_map_of_mem (mem_of_label? h)

theorem Sound.label?_of_mem (hd : d.Sound) (h : (y, l) ∈ d.nodes) : d.label? y = some l := by
  rw [label?_eq]
  cases hfound : d.nodes.find? (·.1 == y) with
  | none => exact absurd (beq_self_eq_true y) (List.find?_eq_none.mp hfound _ h)
  | some n =>
    have hnodup := hd.nodup
    rw [← map_nodes] at hnodup
    have hy : n.1 = y := by simpa using List.find?_some hfound
    have hn : n = (y, l) := List.inj_on_of_nodup_map hnodup (List.mem_of_find?_eq_some hfound) h hy
    rw [hn]
    rfl

theorem label?_relabel (k : Label → Label) :
    (d.relabel x k).label? y = (d.label? y).map (if y = x then k else id) := by
  have hforests : (d.relabel x k).forests = d.forests.map (·.relabel x k) := rfl
  rw [label?, hforests, List.findSome?_map, label?, List.map_findSome?]
  exact findSome?_congr fun f _ => Forest.label?_relabel x k

theorem relabel_relabel (k k' : Label → Label) : (d.relabel x k).relabel x k' = d.relabel x (k' ∘ k) := by
  simp [relabel, map, Forest.relabel_relabel]

/-- The nodes of `d` are those of `d'`, with the labels that they have there. -/
def Retains (d d' : Dom) : Prop := ∀ y l, d.label? y = some l → d'.label? y = some l

theorem Retains.refl (d : Dom) : Retains d d := fun _ _ h => h

theorem Retains.trans (h : Retains d d') (h' : Retains d' d'') : Retains d d'' :=
  fun y l hl => h' y l (h y l hl)

/-- New nodes beside them change no label. -/
theorem retains_map {g : Forest → Forest} (hnew : ∀ i ∈ t.ids, i ∉ d.ids)
    (h : ∀ (f : Forest) (y : NodeId), y ∉ t.ids → (g f).label? y = f.label? y) : Retains d (d.map g) := by
  intro y l hl
  have hy : y ∉ t.ids := fun hy => hnew y hy (mem_ids_of_label? hl)
  have hforests : (d.map g).forests = d.forests.map g := rfl
  rw [label?, hforests, List.findSome?_map, ← hl]
  exact findSome?_congr fun f _ => h f y hy

theorem Fits.retains_appendTo (ht : Fits t d) (x : NodeId) : Retains d (d.appendTo x t) :=
  retains_map ht.new fun _ _ hy => label?_appendTo x hy

theorem Fits.retains_prependTo (ht : Fits t d) (x : NodeId) : Retains d (d.prependTo x t) :=
  retains_map ht.new fun _ _ hy => label?_prependTo x hy

theorem Sound.retains_clear (hd : d.Sound) (x : NodeId) : Retains d (d.clear x) := by
  obtain ⟨hsound, hperm, -⟩ := hd.clear x
  exact fun y l hl => hsound.label?_of_mem (hperm.mem_iff.mpr (mem_of_label? hl))

theorem Sound.retains_fresh (hd : d.Sound) (l : Label) (x : NodeId) :
    Retains d ((d.fresh l).2.appendTo x (d.fresh l).1) :=
  (hd.fits_fresh l).retains_appendTo x

end Page.Dom

end PageBoot
