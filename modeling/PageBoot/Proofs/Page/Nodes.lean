import PageBoot.Page.Dom
import PageBoot.Proofs.Html.Families

/-!
The nodes of a page as lists of children: of the document (`none`) and of every node. Where each
identity is there once (`Sound`), a change of the nodes changes one of these lists in the way that its
name says, and taking a tree out changes no other list, also not one that goes with the tree.
-/

namespace PageBoot.Page.Dom

open Html Forest

/-! ## Identities -/

def ids (d : Dom) : List NodeId := d.forests.flatMap Forest.ids

/-- Identities and labels. -/
def nodes (d : Dom) : List (NodeId × Label) := d.forests.flatMap Forest.nodes

theorem map_flatMap_nodes (fs : List Forest) :
    (fs.flatMap Forest.nodes).map (·.1) = fs.flatMap Forest.ids := by
  rw [List.map_flatMap]
  exact List.flatMap_congr fun f _ => f.map_nodes

/-- Every identity is there once and is not free. -/
structure Sound (d : Dom) : Prop where
  nodup : d.ids.Nodup
  bounded : ∀ i : Nat, i ∈ d.ids → i < d.next

theorem map_nodes (d : Dom) : d.nodes.map (·.1) = d.ids := map_flatMap_nodes d.forests

theorem ids_subset {d : Dom} {f : Forest} (hf : f ∈ d.forests) {i : NodeId} (hi : i ∈ f.ids) :
    i ∈ d.ids := List.mem_flatMap.mpr ⟨f, hf, hi⟩

theorem Sound.nodup_of_mem {d : Dom} (hd : d.Sound) {f : Forest} (hf : f ∈ d.forests) : f.ids.Nodup :=
  (List.nodup_flatMap.mp hd.nodup).1 f hf

/-- What is looked for by an identity is found in the one forest that has it. -/
theorem findSome?_of_holder {α : Type} {k : Forest → Option α} {fs : List Forest}
    (hnodup : (fs.flatMap Forest.ids).Nodup) {f : Forest} (hf : f ∈ fs) {y : NodeId} (hy : y ∈ f.ids)
    (hk : ∀ g, y ∉ g.ids → k g = none) : fs.findSome? k = k f := by
  induction fs with
  | nil => cases hf
  | cons g fs ih =>
    obtain ⟨-, hrest, hdisjoint⟩ := List.nodup_append'.mp hnodup
    rcases List.mem_cons.mp hf with rfl | hf
    · have hnone : fs.findSome? k = none := by
        rw [List.findSome?_eq_none_iff]
        intro g hg
        exact hk g fun hyg => hdisjoint hy (List.mem_flatMap.mpr ⟨g, hg, hyg⟩)
      rw [List.findSome?_cons, hnone]
      cases k f <;> rfl
    · have hnone : k g = none := hk g fun hyg => hdisjoint hyg (List.mem_flatMap.mpr ⟨f, hf, hy⟩)
      rw [List.findSome?_cons, hnone]
      exact ih hrest hf

theorem findSome?_congr {α : Type} {k k' : Forest → Option α} {fs : List Forest}
    (h : ∀ f ∈ fs, k f = k' f) : fs.findSome? k = fs.findSome? k' := by
  induction fs with
  | nil => rfl
  | cons f fs ih =>
    rw [List.findSome?_cons, List.findSome?_cons, h f List.mem_cons_self,
      ih fun g hg => h g (List.mem_cons_of_mem f hg)]

/-! ## Children -/

/-- The children of a node, or of the document. -/
def kids (d : Dom) : Option NodeId → List NodeId
  | none => d.document.roots
  | some x => (d.children x).roots

theorem kids_some (d : Dom) (x : NodeId) :
    d.kids (some x) = (d.forests.findSome? (kids? x)).getD [] := by
  have hkids : kids? x = Option.map (fun t => (t.children x).roots) ∘ find? x :=
    funext fun f => kids?_eq f x
  rw [hkids, ← List.map_findSome?]
  simp only [kids, children, subtree]
  cases d.forests.findSome? (find? x) <;> rfl

/-- The one forest that a node's children are in. -/
theorem exists_of_kid {d : Dom} {x y : NodeId} (hy : y ∈ d.kids (some x)) :
    ∃ f ∈ d.forests, f.kids? x = some (d.kids (some x)) := by
  rw [kids_some] at hy ⊢
  cases hfound : d.forests.findSome? (kids? x) with
  | none => simp [hfound] at hy
  | some xs =>
    obtain ⟨f, hf, hk⟩ := List.exists_of_findSome?_eq_some hfound
    exact ⟨f, hf, hk⟩

theorem Sound.nodup_kids {d : Dom} (hd : d.Sound) (P : Option NodeId) : (d.kids P).Nodup := by
  cases P with
  | none => exact (hd.nodup_of_mem (by simp [forests])).sublist d.document.roots_sublist
  | some x =>
    rw [kids_some]
    cases hfound : d.forests.findSome? (kids? x) with
    | none => exact List.nodup_nil
    | some xs =>
      obtain ⟨f, hf, hk⟩ := List.exists_of_findSome?_eq_some hfound
      exact (hd.nodup_of_mem hf).sublist (kids?_sublist hk)

theorem Sound.not_before {d : Dom} (hd : d.Sound) {P : Option NodeId} {x : NodeId}
    {front back : List NodeId} (h : d.kids P = front ++ x :: back) : x ∉ front := by
  have hnodup := hd.nodup_kids P
  rw [h] at hnodup
  exact fun hx => (List.nodup_append'.mp hnodup).2.2 hx List.mem_cons_self

/-- The parent is there. -/
def Has (d : Dom) : Option NodeId → Prop
  | none => True
  | some x => x ∈ d.ids

theorem ids_of_kids {d : Dom} {P : Option NodeId} {y : NodeId} (hy : y ∈ d.kids P) :
    y ∈ d.ids ∧ d.Has P := by
  cases P with
  | none => exact ⟨ids_subset (by simp [forests]) (ids_of_roots hy), trivial⟩
  | some x =>
    obtain ⟨f, hf, hk⟩ := exists_of_kid hy
    exact ⟨ids_subset hf (ids_of_kids? hk hy),
      ids_subset hf ((isSome_kids? f x).mp (by rw [hk]; rfl))⟩

/-- Nobody is a child of two parents. -/
theorem Sound.parent_unique {d : Dom} (hd : d.Sound) {P Q : Option NodeId} {y : NodeId}
    (hP : y ∈ d.kids P) (hQ : y ∈ d.kids Q) : P = Q := by
  have hroot {x : NodeId} (hroots : y ∈ d.document.roots) (hx : y ∈ d.kids (some x)) : False := by
    obtain ⟨f, hf, hk⟩ := exists_of_kid hx
    rcases List.mem_cons.mp hf with rfl | hdetached
    · exact not_root_of_kid (hd.nodup_of_mem hf) hk hx hroots
    · exact (List.nodup_append'.mp hd.nodup).2.2 (ids_of_roots hroots)
        (List.mem_flatMap.mpr ⟨f, hdetached, ids_of_kids? hk hx⟩)
  cases P with
  | none =>
    cases Q with
    | none => rfl
    | some x => exact (hroot hP hQ).elim
  | some x =>
    cases Q with
    | none => exact (hroot hQ hP).elim
    | some x' =>
      obtain ⟨f, hf, hk⟩ := exists_of_kid hP
      obtain ⟨f', hf', hk'⟩ := exists_of_kid hQ
      rw [← parent?_of_kid (hd.nodup_of_mem hf) hk hP, ← parent?_of_kid (hd.nodup_of_mem hf') hk' hQ,
        ← findSome?_of_holder hd.nodup hf (ids_of_kids? hk hP) fun _ => parent?_of_not_mem,
        ← findSome?_of_holder hd.nodup hf' (ids_of_kids? hk' hQ) fun _ => parent?_of_not_mem]

theorem Sound.hasParent_of_kid {d : Dom} (hd : d.Sound) {P : Option NodeId} {y : NodeId}
    (hy : y ∈ d.kids P) : d.hasParent y = true := by
  have hattached (h : y ∈ d.document.ids) : d.hasParent y = true := by
    simp [hasParent, isAttached, contains, (isSome_find? _ _).mpr h]
  cases P with
  | none => exact hattached (ids_of_roots hy)
  | some x =>
    obtain ⟨f, hf, hk⟩ := exists_of_kid hy
    rcases List.mem_cons.mp hf with rfl | hdetached
    · exact hattached (ids_of_kids? hk hy)
    · have hparent := parent?_of_kid (hd.nodup_of_mem hf) hk hy
      simp only [hasParent, Bool.or_eq_true, List.any_eq_true]
      exact .inr ⟨f, hdetached, by rw [hparent]; rfl⟩

/-- The children of a node in the forest that it is in. -/
theorem Sound.kids_of_mem {d : Dom} (hd : d.Sound) {f : Forest} (hf : f ∈ d.forests) {x : NodeId}
    {xs : List NodeId} (h : f.kids? x = some xs) : d.kids (some x) = xs := by
  have hx : x ∈ f.ids := (isSome_kids? f x).mp (by rw [h]; rfl)
  rw [kids_some, findSome?_of_holder hd.nodup hf hx fun _ => kids?_of_not_mem, h]
  rfl

theorem Sound.hasParent_iff {d : Dom} (hd : d.Sound) {y : NodeId} :
    d.hasParent y = true ↔ ∃ P, y ∈ d.kids P := by
  refine ⟨fun h => ?_, fun ⟨P, hy⟩ => hd.hasParent_of_kid hy⟩
  simp only [hasParent, isAttached, contains, Bool.or_eq_true, isSome_find?, List.any_eq_true] at h
  rcases h with h | ⟨f, hf, h⟩
  · have hdocument : d.document ∈ d.forests := by simp [forests]
    rcases root_or_kid (hd.nodup_of_mem hdocument) h with hroot | ⟨x, xs, hk, hy⟩
    · exact ⟨none, hroot⟩
    · exact ⟨some x, by rwa [hd.kids_of_mem hdocument hk]⟩
  · have hforest : f ∈ d.forests := by simp [forests, hf]
    obtain ⟨x, hx⟩ := Option.isSome_iff_exists.mp h
    obtain ⟨xs, hk, hy⟩ := kid_of_parent? (hd.nodup_of_mem hforest) hx
    exact ⟨some x, by rwa [hd.kids_of_mem hforest hk]⟩

theorem Sound.previous?_of_kid {d : Dom} (hd : d.Sound) {P : Option NodeId} {y : NodeId}
    (hy : y ∈ d.kids P) : d.previous? y = precedingIn y (d.kids P) := by
  cases P with
  | none =>
    have hdocument : d.document ∈ d.forests := by simp [forests]
    rw [previous?, findSome?_of_holder hd.nodup hdocument (ids_of_roots hy) fun _ =>
      previous?_of_not_mem, previous?_of_root (hd.nodup_of_mem hdocument) hy]
    rfl
  | some x =>
    obtain ⟨f, hf, hk⟩ := exists_of_kid hy
    rw [previous?, findSome?_of_holder hd.nodup hf (ids_of_kids? hk hy) fun _ => previous?_of_not_mem,
      Forest.previous?_of_kid (hd.nodup_of_mem hf) hk hy]

/-! ## Adding trees -/

/-- A change that does to the children of `x` what `k` does, in every forest. -/
theorem kids_map {d : Dom} {x : NodeId} (hx : x ∈ d.ids) {g : Forest → Forest}
    {k : List NodeId → List NodeId}
    (h : ∀ f ∈ d.forests, (g f).kids? x = (f.kids? x).map k) :
    (d.map g).kids (some x) = k (d.kids (some x)) := by
  have hforests : (d.map g).forests = d.forests.map g := rfl
  rw [kids_some, kids_some, hforests, List.findSome?_map]
  have hmap : d.forests.findSome? (kids? x ∘ g) = (d.forests.findSome? (kids? x)).map k := by
    rw [List.map_findSome?]
    exact findSome?_congr h
  rw [hmap]
  obtain ⟨f, hf, hxf⟩ := List.mem_flatMap.mp hx
  cases hfound : d.forests.findSome? (kids? x) with
  | none =>
    have hnone := List.findSome?_eq_none_iff.mp hfound f hf
    rw [← isSome_kids?, hnone] at hxf
    cases hxf
  | some xs => rfl

theorem kids_appendTo {d : Dom} {P : Option NodeId} (hP : d.Has P) {t : Forest}
    (ht : ∀ x, P = some x → x ∉ t.ids) (y : NodeId) :
    (d.appendTo y t).kids P = if P = some y then d.kids P ++ t.roots else d.kids P := by
  cases P with
  | none => simp [kids, appendTo, map, Forest.appendTo]
  | some x =>
    rw [appendTo, kids_map hP fun f _ => kids?_appendTo (ht x rfl) f y]
    by_cases hxy : x = y <;> simp [hxy]

theorem kids_prependTo {d : Dom} {P : Option NodeId} (hP : d.Has P) {t : Forest}
    (ht : ∀ x, P = some x → x ∉ t.ids) (y : NodeId) :
    (d.prependTo y t).kids P = if P = some y then t.roots ++ d.kids P else d.kids P := by
  cases P with
  | none => simp [kids, prependTo, map, Forest.prependTo]
  | some x =>
    rw [prependTo, kids_map hP fun f _ => kids?_prependTo (ht x rfl) f y]
    by_cases hxy : x = y <;> simp [hxy]

theorem Sound.kids_insertAfter {d : Dom} (hd : d.Sound) {P : Option NodeId} (hP : d.Has P)
    {t : Forest} (ht : ∀ x, P = some x → x ∉ t.ids) (y : NodeId) :
    (d.insertAfter y t).kids P = behind y t.roots (d.kids P) := by
  cases P with
  | none => exact roots_insertAfter d.document y t
  | some x => exact kids_map hP fun f hf => kids?_insertAfter (hd.nodup_of_mem hf) y (ht x rfl)

theorem kids_relabel (d : Dom) (P : Option NodeId) (y : NodeId) (k : Label → Label) :
    (d.relabel y k).kids P = d.kids P := by
  cases P with
  | none => exact roots_relabel d.document y k
  | some x =>
    have hforests : (d.relabel y k).forests = d.forests.map (·.relabel y k) := rfl
    have hsame : kids? x ∘ (·.relabel y k) = kids? x := funext fun f => kids?_relabel f y k x
    rw [kids_some, kids_some, hforests, List.findSome?_map, hsame]

theorem ids_relabel (d : Dom) (y : NodeId) (k : Label → Label) : (d.relabel y k).ids = d.ids := by
  have hforests : (d.relabel y k).forests = d.forests.map (·.relabel y k) := rfl
  rw [ids, ids, hforests, List.flatMap_map]
  exact List.flatMap_congr fun f _ => Forest.ids_relabel f y k

/-- A tree whose identities are new to the page. -/
structure Fits (t : Forest) (d : Dom) : Prop where
  nodup : t.ids.Nodup
  new : ∀ i ∈ t.ids, i ∉ d.ids
  bounded : ∀ i : Nat, i ∈ t.ids → i < d.next

/-- From `d` to `d'` at most the identities of `t` came in. -/
structure Grown (t : Forest) (d d' : Dom) : Prop where
  sound : d'.Sound
  kept : ∀ i ∈ d.ids, i ∈ d'.ids
  new : ∀ i ∈ d'.ids, i ∈ d.ids ∨ i ∈ t.ids
  next : d'.next = d.next

theorem flatMap_nodes_perm {x : NodeId} {t : Forest} {g : Forest → Forest} (hg : Seeks x g)
    (hgraft : ∀ f : Forest, f.ids.Nodup → x ∈ f.ids → (g f).nodes.Perm (f.nodes ++ t.nodes))
    {fs : List Forest} (hnodup : (fs.flatMap Forest.ids).Nodup) (hx : x ∈ fs.flatMap Forest.ids) :
    ((fs.map g).flatMap Forest.nodes).Perm (fs.flatMap Forest.nodes ++ t.nodes) := by
  induction fs with
  | nil => cases hx
  | cons f fs ih =>
    obtain ⟨hf, hrest, hdisjoint⟩ := List.nodup_append'.mp hnodup
    simp only [List.map_cons, List.flatMap_cons]
    by_cases hxf : x ∈ f.ids
    · have hsame : fs.map g = fs :=
        (List.map_congr_left fun h hh => hg.missing fun hxh =>
          hdisjoint hxf (List.mem_flatMap.mpr ⟨h, hh, hxh⟩)).trans (List.map_id fs)
      rw [hsame]
      refine ((hgraft f hf hxf).append_right _).trans ?_
      simp only [List.append_assoc]
      exact List.Perm.append_left _ List.perm_append_comm
    · rw [hg.missing hxf, List.append_assoc]
      exact (ih hrest ((List.mem_append.mp hx).resolve_left hxf)).append_left _

theorem Sound.grown {d : Dom} (hd : d.Sound) {t : Forest} (ht : Fits t d) {x : NodeId}
    {g : Forest → Forest} (hg : Seeks x g)
    (hgraft : ∀ f : Forest, f.ids.Nodup → x ∈ f.ids → (g f).nodes.Perm (f.nodes ++ t.nodes)) :
    Grown t d (d.map g) := by
  by_cases hx : x ∈ d.ids
  · have hperm : (d.map g).ids.Perm (d.ids ++ t.ids) := by
      have hnodes := (flatMap_nodes_perm hg hgraft hd.nodup hx).map (·.1)
      rwa [List.map_append, map_flatMap_nodes, map_flatMap_nodes, t.map_nodes] at hnodes
    refine ⟨⟨?_, ?_⟩, ?_, ?_, rfl⟩
    · refine hperm.nodup_iff.mpr (List.nodup_append'.mpr ⟨hd.nodup, ht.nodup, ?_⟩)
      exact fun i hi hit => ht.new i hit hi
    · intro i hi
      rcases List.mem_append.mp (hperm.mem_iff.mp hi) with hi | hi
      · exact hd.bounded i hi
      · exact ht.bounded i hi
    · exact fun i hi => hperm.mem_iff.mpr (List.mem_append_left _ hi)
    · exact fun i hi => List.mem_append.mp (hperm.mem_iff.mp hi)
  · have hsame {f : Forest} (hf : f ∈ d.forests) : g f = f :=
      hg.missing fun hxf => hx (ids_subset hf hxf)
    have hmap : d.map g = d := by
      have hdetached : d.detached.map g = d.detached :=
        (List.map_congr_left fun f hf => hsame (by simp [forests, hf])).trans (List.map_id _)
      rw [map, hsame (by simp [forests]), hdetached]
    rw [hmap]
    exact ⟨hd, fun _ hi => hi, fun _ hi => .inl hi, rfl⟩

theorem Sound.appendTo {d : Dom} (hd : d.Sound) {t : Forest} (ht : Fits t d) (x : NodeId) :
    Grown t d (d.appendTo x t) :=
  hd.grown ht (seeks_replaceChildren x (· ++ t)) fun _ hf hx => nodes_appendTo hf hx t

theorem Sound.prependTo {d : Dom} (hd : d.Sound) {t : Forest} (ht : Fits t d) (x : NodeId) :
    Grown t d (d.prependTo x t) :=
  hd.grown ht (seeks_replaceChildren x (t ++ ·)) fun _ hf hx => nodes_prependTo hf hx t

theorem Sound.insertAfter {d : Dom} (hd : d.Sound) {t : Forest} (ht : Fits t d) (x : NodeId) :
    Grown t d (d.insertAfter x t) :=
  hd.grown ht (seeks_insertAfter x t) fun _ hf hx => nodes_insertAfter hf hx t

/-- New nodes are those of the tree that comes in. -/
theorem Sound.nodes_appendTo {d : Dom} (hd : d.Sound) {x : NodeId} (hx : x ∈ d.ids) (t : Forest) :
    (d.appendTo x t).nodes.Perm (d.nodes ++ t.nodes) :=
  flatMap_nodes_perm (seeks_replaceChildren x (· ++ t))
    (fun _ hf hx => Forest.nodes_appendTo hf hx t) hd.nodup hx

theorem Sound.nodes_insertAfter {d : Dom} (hd : d.Sound) {x : NodeId} (hx : x ∈ d.ids) (t : Forest) :
    (d.insertAfter x t).nodes.Perm (d.nodes ++ t.nodes) :=
  flatMap_nodes_perm (seeks_insertAfter x t) (fun _ hf hx => Forest.nodes_insertAfter hf hx t)
    hd.nodup hx

/-- The children of a new node are those that it came in with. -/
theorem Sound.kids_new {d : Dom} (hd : d.Sound) {x y : NodeId} {g : Forest → Forest} {xs : List NodeId}
    (hd' : (d.map g).Sound) (hx : x ∈ d.ids) (hy : y ∉ d.ids)
    (hnew : ∀ f : Forest, f.ids.Nodup → x ∈ f.ids → y ∉ f.ids → (g f).kids? y = some xs) :
    (d.map g).kids (some y) = xs := by
  obtain ⟨f, hf, hxf⟩ := List.mem_flatMap.mp hx
  have hyf : y ∉ f.ids := fun h => hy (ids_subset hf h)
  have hforest : g f ∈ (d.map g).forests := List.mem_map_of_mem (f := g) hf
  exact hd'.kids_of_mem hforest (hnew f (hd.nodup_of_mem hf) hxf hyf)

theorem Sound.relabel {d : Dom} (hd : d.Sound) (x : NodeId) (k : Label → Label) :
    (d.relabel x k).Sound := by
  refine ⟨?_, ?_⟩
  · rw [ids_relabel]
    exact hd.nodup
  · rw [ids_relabel]
    exact hd.bounded

theorem Fits.relabel {t : Forest} {d : Dom} (ht : Fits t d) (x : NodeId) (k : Label → Label) :
    Fits t (d.relabel x k) where
  nodup := ht.nodup
  new i hi := by
    rw [ids_relabel]
    exact ht.new i hi
  bounded := ht.bounded

/-- The first tree of a forest that fits, and the rest once that tree is in. -/
theorem Fits.node {d : Dom} {i : NodeId} {l : Label} {c r : Forest} (h : Fits (.node i l c r) d) :
    Fits (.tree i l c) d ∧ ∀ d', Grown (.tree i l c) d d' → Fits r d' := by
  obtain ⟨hic, hir, hc, hr, hdisjoint⟩ := nodup_node h.nodup
  have hids : (tree i l c).ids = i :: c.ids := by simp [tree, Forest.ids]
  have hfirst {y : NodeId} (hy : y ∈ (tree i l c).ids) : y ∈ (Forest.node i l c r).ids := by
    rw [hids] at hy
    simpa [Forest.ids, or_assoc] using Or.inl hy
  have hrest {y : NodeId} (hy : y ∈ r.ids) : y ∈ (Forest.node i l c r).ids := by
    simp [Forest.ids, hy]
  refine ⟨⟨?_, fun y hy => h.new y (hfirst hy), fun y hy => h.bounded y (hfirst hy)⟩, fun d' hd' => ?_⟩
  · rw [hids]
    exact List.nodup_cons.mpr ⟨hic, hc⟩
  · refine ⟨hr, fun y hy hyd => ?_, fun y hy => hd'.next ▸ h.bounded y (hrest hy)⟩
    rcases hd'.new y hyd with hyd | hyt
    · exact h.new y (hrest hy) hyd
    · rw [hids] at hyt
      rcases List.mem_cons.mp hyt with rfl | hyc
      · exact hir hy
      · exact hdisjoint y hyc hy

/-! ## Taking trees out -/

theorem flatMap_nodes_remove {fs : List Forest} (hnodup : (fs.flatMap Forest.ids).Nodup) {x : NodeId}
    {t : Forest} (h : fs.findSome? (find? x) = some t) :
    ((fs.map (remove x)).flatMap Forest.nodes ++ t.nodes).Perm (fs.flatMap Forest.nodes) := by
  induction fs with
  | nil => cases h
  | cons f fs ih =>
    obtain ⟨hf, hrest, hdisjoint⟩ := List.nodup_append'.mp hnodup
    simp only [List.map_cons, List.flatMap_cons]
    rw [List.findSome?_cons] at h
    cases hfound : f.find? x with
    | some t' =>
      simp only [hfound, Option.some.injEq] at h
      subst h
      have hxf : x ∈ f.ids := (isSome_find? f x).mp (by rw [hfound]; rfl)
      have hsame : fs.map (remove x) = fs :=
        (List.map_congr_left fun h hh => (seeks_remove x).missing fun hxh =>
          hdisjoint hxf (List.mem_flatMap.mpr ⟨h, hh, hxh⟩)).trans (List.map_id fs)
      rw [hsame, List.append_assoc]
      refine (List.Perm.append_left _ List.perm_append_comm).trans ?_
      rw [← List.append_assoc]
      exact (nodes_remove hf hfound).append_right _
    | none =>
      simp only [hfound] at h
      have hxf : x ∉ f.ids := fun hxf => by
        rw [← isSome_find?, hfound] at hxf
        cases hxf
      rw [(seeks_remove x).missing hxf, List.append_assoc]
      exact (ih hrest h).append_left _

theorem ids_of_hasParent {d : Dom} {x : NodeId} (h : d.hasParent x = true) : x ∈ d.ids := by
  simp only [hasParent, Bool.or_eq_true, List.any_eq_true] at h
  rcases h with h | ⟨f, hf, h⟩
  · exact ids_subset (by simp [forests]) ((isSome_find? _ _).mp h)
  · refine ids_subset (f := f) (by simp [forests, hf]) ?_
    by_contra hx
    rw [parent?_of_not_mem hx] at h
    cases h

theorem findSome?_find? {d : Dom} {x : NodeId} (hx : x ∈ d.ids) :
    d.forests.findSome? (find? x) = some (d.subtree x) := by
  obtain ⟨f, hf, hxf⟩ := List.mem_flatMap.mp hx
  cases hfound : d.forests.findSome? (find? x) with
  | none =>
    have hnone := List.findSome?_eq_none_iff.mp hfound f hf
    rw [← isSome_find?, hnone] at hxf
    cases hxf
  | some t => rw [subtree, hfound, Option.getD_some]

theorem forests_detach {d : Dom} {x : NodeId} (h : d.hasParent x = true) :
    (d.detach x).forests = d.forests.map (remove x) ++ [d.subtree x] := by
  simp [detach, h, forests, map]

/-- Taking out a tree keeps all nodes. -/
theorem Sound.nodes_detach {d : Dom} (hd : d.Sound) (x : NodeId) : (d.detach x).nodes.Perm d.nodes := by
  by_cases h : d.hasParent x = true
  · rw [nodes, forests_detach h, List.flatMap_append, List.flatMap_singleton]
    exact flatMap_nodes_remove hd.nodup (findSome?_find? (ids_of_hasParent h))
  · rw [Dom.detach, if_neg h]

theorem Sound.ids_detach {d : Dom} (hd : d.Sound) (x : NodeId) : (d.detach x).ids.Perm d.ids := by
  have hids := (hd.nodes_detach x).map (·.1)
  rwa [map_nodes, map_nodes] at hids

theorem next_detach (d : Dom) (x : NodeId) : (d.detach x).next = d.next := by
  unfold detach
  split <;> rfl

theorem Sound.detach {d : Dom} (hd : d.Sound) (x : NodeId) : (d.detach x).Sound := by
  refine ⟨(hd.ids_detach x).nodup_iff.mpr hd.nodup, fun i hi => ?_⟩
  rw [next_detach]
  exact hd.bounded i ((hd.ids_detach x).mem_iff.mp hi)

/-- A list of forests loses the tree below `x`, and no node loses a child but `x`. -/
theorem findSome?_kids?_remove {fs : List Forest} (hnodup : (fs.flatMap Forest.ids).Nodup)
    {x : NodeId} {t : Forest} (h : fs.findSome? (find? x) = some t) (y : NodeId) :
    (fs.findSome? (kids? y ∘ remove x)).or (t.kids? y) =
      (fs.findSome? (kids? y)).map (·.filter (· ≠ x)) := by
  have hsame {f : Forest} (hf : x ∉ f.ids) : (f.kids? y).map (·.filter (· ≠ x)) = f.kids? y :=
    kids?_map_of_not_mem hf (fun _ => filter_ne_of_not_mem) y
  induction fs with
  | nil => cases h
  | cons f fs ih =>
    obtain ⟨hf, hrest, hdisjoint⟩ := List.nodup_append'.mp hnodup
    have hone := kids?_remove hf x y
    have hcons (k : Forest → Option (List NodeId)) :
        (f :: fs).findSome? k = (k f).or (fs.findSome? k) := by
      rw [List.findSome?_cons]
      cases k f <;> rfl
    rw [hcons, hcons, Option.map_or, Function.comp_apply]
    cases hfound : f.find? x with
    | some t' =>
      rw [List.findSome?_cons, hfound] at h
      obtain rfl : t' = t := Option.some.inj h
      rw [hfound, Option.bind_some] at hone
      have hxf : x ∈ f.ids := (isSome_find? f x).mp (by rw [hfound]; rfl)
      have hx {g : Forest} (hg : g ∈ fs) : x ∉ g.ids := fun hxg =>
        hdisjoint hxf (List.mem_flatMap.mpr ⟨g, hg, hxg⟩)
      have hremove : fs.findSome? (kids? y ∘ remove x) = fs.findSome? (kids? y) :=
        findSome?_congr fun g hg => congrArg (kids? y) ((seeks_remove x).missing (hx hg))
      have hfilter : (fs.findSome? (kids? y)).map (·.filter (· ≠ x)) = fs.findSome? (kids? y) := by
        rw [List.map_findSome?]
        exact findSome?_congr fun g hg => hsame (hx hg)
      rw [hremove, hfilter, ← hone]
      -- `y` is in this forest or in another one, so that the order does not matter
      by_cases hy : y ∈ f.ids
      · have hnone : fs.findSome? (kids? y) = none := by
          rw [List.findSome?_eq_none_iff]
          intro g hg
          exact kids?_of_not_mem fun hyg => hdisjoint hy (List.mem_flatMap.mpr ⟨g, hg, hyg⟩)
        simp [hnone]
      · rw [kids?_of_not_mem hy, Option.map_none, Option.or_eq_none_iff] at hone
        simp [hone.1, hone.2]
    | none =>
      rw [List.findSome?_cons, hfound] at h
      have hxf : x ∉ f.ids := fun hxf => by
        rw [← isSome_find?, hfound] at hxf
        cases hxf
      rw [(seeks_remove x).missing hxf, hsame hxf, Option.or_assoc, ih hrest h]

/-- Taking out a tree takes its root from among its siblings and changes nothing else, whether a node
stays or goes with the tree. -/
theorem Sound.kids_detach {d : Dom} (hd : d.Sound) (x : NodeId) (P : Option NodeId) :
    (d.detach x).kids P = (d.kids P).filter (· ≠ x) := by
  by_cases h : d.hasParent x = true
  · cases P with
    | none =>
      simp only [Dom.detach, h, if_true, kids, map]
      exact roots_remove (hd.nodup_of_mem (by simp [forests])) x
    | some y =>
      rw [kids_some, kids_some, forests_detach h, List.findSome?_append, List.findSome?_map,
        List.findSome?_singleton,
        findSome?_kids?_remove hd.nodup (findSome?_find? (ids_of_hasParent h))]
      cases d.forests.findSome? (kids? y) <;> rfl
  · rw [Dom.detach, if_neg h, filter_ne_of_not_mem fun hx => h (hd.hasParent_of_kid hx)]

theorem Sound.detachAll {d : Dom} (hd : d.Sound) (xs : List NodeId) :
    (xs.foldl Dom.detach d).Sound ∧ (xs.foldl Dom.detach d).nodes.Perm d.nodes ∧
      ∀ P, (xs.foldl Dom.detach d).kids P = (d.kids P).filter (· ∉ xs) := by
  induction xs generalizing d with
  | nil => exact ⟨hd, .refl _, fun P => by simp⟩
  | cons x xs ih =>
    obtain ⟨hsound, hperm, hkids⟩ := ih (hd.detach x)
    refine ⟨hsound, hperm.trans (hd.nodes_detach x), fun P => ?_⟩
    rw [List.foldl_cons, hkids P, hd.kids_detach, List.filter_filter]
    refine List.filter_congr fun y _ => ?_
    simp [Bool.and_comm]

/-- Taking out all children of a node changes nothing but that node's children. -/
theorem Sound.clear {d : Dom} (hd : d.Sound) (x : NodeId) :
    (d.clear x).Sound ∧ (d.clear x).nodes.Perm d.nodes ∧
      ∀ P, P ≠ some x → (d.clear x).kids P = d.kids P := by
  obtain ⟨hsound, hperm, hkids⟩ := hd.detachAll (d.kids (some x))
  refine ⟨hsound, hperm, fun P hP => (hkids P).trans (List.filter_eq_self.mpr fun y hy => ?_)⟩
  have hother : y ∉ d.kids (some x) := fun hx => hP (hd.parent_unique hy hx)
  simpa using hother

/-! ## New nodes -/

theorem Sound.later {d : Dom} (hd : d.Sound) {n : Nat} (hn : d.next ≤ n) :
    ({ d with next := n } : Dom).Sound :=
  ⟨hd.nodup, fun i hi => Nat.lt_of_lt_of_le (hd.bounded i hi) hn⟩

theorem Sound.fits_fresh {d : Dom} (hd : d.Sound) (l : Label) : Fits (d.fresh l).1 (d.fresh l).2 where
  nodup := List.nodup_singleton _
  new i hi := by
    obtain rfl := List.mem_singleton.mp hi
    exact fun h => Nat.lt_irrefl _ (hd.bounded _ h)
  bounded i hi := by
    obtain rfl := List.mem_singleton.mp hi
    exact Nat.lt_succ_self d.next

theorem Sound.fits_ofForest {d : Dom} (hd : d.Sound) (f : Forest) :
    d.next ≤ (Parsed.ofForest d.next f).next ∧
      Fits (Parsed.ofForest d.next f).forest { d with next := (Parsed.ofForest d.next f).next } := by
  obtain ⟨hle, hnodup, hbounds⟩ := number_ids f d.next
  refine ⟨hle, hnodup, fun i hi hid => ?_, fun i hi => (hbounds i hi).2⟩
  exact Nat.lt_irrefl i (Nat.lt_of_lt_of_le (hd.bounded i hid) (hbounds i hi).1)

/-! ## Children at both ends -/

/-- The parent `P` gets the children `xs` in front of its own and `ys` behind them. -/
structure Flanked (P : Option NodeId) (xs ys : List NodeId) (d d' : Dom) : Prop where
  sound : d'.Sound
  kept : ∀ i ∈ d.ids, i ∈ d'.ids
  kids : d'.kids P = xs ++ d.kids P ++ ys

section Flanked

variable {P : Option NodeId} {xs ys xs' ys' : List NodeId} {d d' d'' : Dom}

theorem Flanked.has (h : Flanked P xs ys d d') (hP : d.Has P) : d'.Has P := by
  cases P with
  | none => trivial
  | some x => exact h.kept x hP

theorem Flanked.trans (h : Flanked P xs ys d d') (h' : Flanked P xs' ys' d' d'') :
    Flanked P (xs' ++ xs) (ys ++ ys') d d'' where
  sound := h'.sound
  kept i hi := h'.kept i (h.kept i hi)
  kids := by rw [h'.kids, h.kids]; simp only [List.append_assoc]

theorem Flanked.after (h' : Flanked P xs ys d' d'') (h : Flanked P [] [] d d') :
    Flanked P xs ys d d'' := by simpa using h.trans h'

theorem Fits.not_parent {t : Forest} (ht : Fits t d) (hP : d.Has P) (x : NodeId) (hx : P = some x) :
    x ∉ t.ids := by
  subst hx
  exact fun hxt => ht.new x hxt hP

theorem Sound.flanked_appendTo (hd : d.Sound) (hP : d.Has P) {t : Forest} (ht : Fits t d) (y : NodeId) :
    Flanked P [] (if P = some y then t.roots else []) d (d.appendTo y t) where
  sound := (hd.appendTo ht y).sound
  kept := (hd.appendTo ht y).kept
  kids := by
    rw [kids_appendTo hP (ht.not_parent hP)]
    split <;> simp

theorem Sound.flanked_prependTo (hd : d.Sound) (hP : d.Has P) {t : Forest} (ht : Fits t d)
    (y : NodeId) : Flanked P (if P = some y then t.roots else []) [] d (d.prependTo y t) where
  sound := (hd.prependTo ht y).sound
  kept := (hd.prependTo ht y).kept
  kids := by
    rw [kids_prependTo hP (ht.not_parent hP)]
    split <;> simp

theorem Sound.flanked_relabel (hd : d.Sound) (x : NodeId) (k : Label → Label) :
    Flanked P [] [] d (d.relabel x k) where
  sound := hd.relabel x k
  kept i hi := by rwa [ids_relabel]
  kids := by simp [kids_relabel]

theorem Sound.flanked_later (hd : d.Sound) {n : Nat} (hn : d.next ≤ n) :
    Flanked P [] [] d { d with next := n } where
  sound := hd.later hn
  kept _ hi := hi
  kids := by cases P <;> simp [Dom.kids, Dom.children, Dom.subtree, Dom.forests]

theorem Sound.flanked_clear (hd : d.Sound) {x : NodeId} (hP : P ≠ some x) :
    Flanked P [] [] d (d.clear x) where
  sound := (hd.clear x).1
  kept i hi := by
    have hids := (hd.clear x).2.1.map (·.1)
    rw [map_nodes, map_nodes] at hids
    exact hids.mem_iff.mpr hi
  kids := by simp [(hd.clear x).2.2 P hP]

/-- A new node goes to the end of the children of `y`. -/
theorem Sound.flanked_fresh (hd : d.Sound) (hP : d.Has P) (l : Label) (y : NodeId) :
    Flanked P [] (if P = some y then [d.next] else []) d ((d.fresh l).2.appendTo y (d.fresh l).1) := by
  have hlater : Flanked P [] [] d (d.fresh l).2 := hd.flanked_later (Nat.le_succ d.next)
  exact (hlater.sound.flanked_appendTo (hlater.has hP) (hd.fits_fresh l) y).after hlater

end Flanked

end PageBoot.Page.Dom
