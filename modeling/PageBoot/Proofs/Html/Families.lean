import Mathlib.Data.List.Nodup
import PageBoot.Html.Parse

/-!
Who stands below whom in a forest. `kids?` is the view of a forest as the list of children of each
of its nodes. A change of the tree changes the list of one node and leaves all others as they are:
`kids?_appendTo`, `kids?_insertAfter` and `kids?_remove` say which, for a forest in which every
identity is there once.
-/

namespace PageBoot.Html.Forest

/-! ## Identities -/

/-- Identities in document order. -/
def ids : Forest → List NodeId
  | .nil => []
  | .node i _ c r => i :: (c.ids ++ r.ids)

theorem map_nodes (f : Forest) : f.nodes.map (·.1) = f.ids := by
  induction f with
  | nil => rfl
  | node i l c r ihc ihr => simp [nodes, ids, ihc, ihr]

@[simp] theorem nil_append (g : Forest) : nil ++ g = g := rfl

@[simp] theorem node_append (i : NodeId) (l : Label) (c r g : Forest) :
    node i l c r ++ g = node i l c (r ++ g) := rfl

@[simp] theorem nodes_append (f g : Forest) : (f ++ g).nodes = f.nodes ++ g.nodes := by
  induction f with
  | nil => rfl
  | node i l c r _ ih => simp [nodes, ih]

@[simp] theorem ids_append (f g : Forest) : (f ++ g).ids = f.ids ++ g.ids := by
  induction f with
  | nil => rfl
  | node i l c r _ ih => simp [ids, ih]

@[simp] theorem roots_append (f g : Forest) : (f ++ g).roots = f.roots ++ g.roots := by
  induction f with
  | nil => rfl
  | node i l c r _ ih => simp [roots, ih]

theorem roots_sublist (f : Forest) : f.roots.Sublist f.ids := by
  induction f with
  | nil => exact List.Sublist.refl _
  | node i l c r _ ih => exact (ih.trans (List.sublist_append_right _ _)).cons_cons i

theorem ids_of_roots {f : Forest} {x : NodeId} (h : x ∈ f.roots) : x ∈ f.ids := f.roots_sublist.subset h

/-- A forest whose identities differ: those of its first root, of what is below it and of what is
beside it. -/
theorem nodup_node {i : NodeId} {l : Label} {c r : Forest} (h : (node i l c r).ids.Nodup) :
    i ∉ c.ids ∧ i ∉ r.ids ∧ c.ids.Nodup ∧ r.ids.Nodup ∧ ∀ x ∈ c.ids, x ∉ r.ids := by
  simp only [ids, List.nodup_cons, List.mem_append, not_or, List.nodup_append'] at h
  exact ⟨h.1.1, h.1.2, h.2.1, h.2.2.1, h.2.2.2⟩

theorem isSome_find? (f : Forest) (x : NodeId) : (f.find? x).isSome = true ↔ x ∈ f.ids := by
  induction f with
  | nil => simp [find?, ids]
  | node i l c r ihc ihr =>
    by_cases hi : i = x
    · simp [find?, ids, hi]
    · have hi' : ¬ x = i := fun h => hi h.symm
      simp [find?, ids, hi, hi', ihc, ihr, Option.isSome_or]

theorem find?_of_not_mem {f : Forest} {x : NodeId} (h : x ∉ f.ids) : f.find? x = none := by
  rw [← isSome_find?] at h
  simpa using h

/-- Numbering gives every node an identity of its own. -/
theorem number_ids (f : Forest) (first : Nat) :
    first ≤ (f.number first).2 ∧ (f.number first).1.ids.Nodup ∧
      ∀ x : Nat, x ∈ (f.number first).1.ids → first ≤ x ∧ x < (f.number first).2 := by
  induction f generalizing first with
  | nil => simp [number, ids]
  | node i l c r ihc ihr =>
    obtain ⟨hc, hcnodup, hcbounds⟩ := ihc (first + 1)
    obtain ⟨hr, hrnodup, hrbounds⟩ := ihr (c.number (first + 1)).2
    simp only [number, ids, List.nodup_cons, List.mem_append, List.nodup_append', List.mem_cons]
    refine ⟨by omega, ⟨?_, hcnodup, hrnodup, ?_⟩, ?_⟩
    · rintro (h | h)
      · have := (hcbounds first h).1
        omega
      · have := (hrbounds first h).1
        omega
    · intro x hx hx'
      have := (hcbounds x hx).2
      have := (hrbounds x hx').1
      omega
    · rintro x (rfl | h | h)
      · omega
      · have := hcbounds x h
        omega
      · have := hrbounds x h
        omega

/-! ## Children -/

/-- The children of a node, if the node is there. -/
def kids? (x : NodeId) : Forest → Option (List NodeId)
  | .nil => none
  | .node i _ c r => if i = x then some c.roots else (kids? x c).or (kids? x r)

theorem kids?_self (i : NodeId) (l : Label) (c r : Forest) :
    (node i l c r).kids? i = some c.roots := by rw [kids?, if_pos rfl]

theorem kids?_of_ne {i x : NodeId} (h : i ≠ x) (l : Label) (c r : Forest) :
    (node i l c r).kids? x = (c.kids? x).or (r.kids? x) := by rw [kids?, if_neg h]

theorem kids?_eq (f : Forest) (x : NodeId) :
    f.kids? x = (f.find? x).map fun t => (t.children x).roots := by
  induction f with
  | nil => rfl
  | node i l c r ihc ihr =>
    by_cases hi : i = x
    · simp [kids?, find?, hi, children, tree]
    · simp only [kids?, find?, if_neg hi, ihc, ihr]
      cases c.find? x <;> simp

theorem isSome_kids? (f : Forest) (x : NodeId) : (f.kids? x).isSome = true ↔ x ∈ f.ids := by
  rw [kids?_eq, Option.isSome_map, isSome_find?]

theorem kids?_of_not_mem {f : Forest} {x : NodeId} (h : x ∉ f.ids) : f.kids? x = none := by
  rw [kids?_eq, find?_of_not_mem h, Option.map_none]

theorem kids?_append (f g : Forest) (x : NodeId) : (f ++ g).kids? x = (f.kids? x).or (g.kids? x) := by
  induction f with
  | nil => rfl
  | node i l c r _ ih =>
    simp only [node_append, kids?, ih]
    split
    · rfl
    · rw [Option.or_assoc]

theorem kids?_sublist {f : Forest} {x : NodeId} {xs : List NodeId} (h : f.kids? x = some xs) :
    xs.Sublist f.ids := by
  induction f with
  | nil => cases h
  | node i l c r ihc ihr =>
    have hsub : (c.ids ++ r.ids).Sublist (node i l c r).ids := List.sublist_cons_self _ _
    simp only [kids?] at h
    split at h
    · cases h
      exact (c.roots_sublist.trans (List.sublist_append_left _ _)).trans hsub
    · rcases Option.or_eq_some_iff.mp h with h | ⟨-, h⟩
      · exact ((ihc h).trans (List.sublist_append_left _ _)).trans hsub
      · exact ((ihr h).trans (List.sublist_append_right _ _)).trans hsub

theorem ids_of_kids? {f : Forest} {x y : NodeId} {xs : List NodeId} (h : f.kids? x = some xs)
    (hy : y ∈ xs) : y ∈ f.ids := (kids?_sublist h).subset hy

/-- Children are as they were where a change is one of lists with `x` and `x` is not there. -/
theorem kids?_map_of_not_mem {f : Forest} {x : NodeId} (hx : x ∉ f.ids)
    {k : List NodeId → List NodeId} (hk : ∀ xs, x ∉ xs → k xs = xs) (y : NodeId) :
    (f.kids? y).map k = f.kids? y := by
  cases h : f.kids? y with
  | none => rfl
  | some xs => rw [Option.map_some, hk xs fun hxs => hx (ids_of_kids? h hxs)]

/-- A child is not a root. -/
theorem not_root_of_kid {f : Forest} (hf : f.ids.Nodup) {x y : NodeId} {xs : List NodeId}
    (h : f.kids? x = some xs) (hy : y ∈ xs) : y ∉ f.roots := by
  induction f with
  | nil => cases h
  | node i l c r ihc ihr =>
    obtain ⟨hic, hir, hc, hr, hdisjoint⟩ := nodup_node hf
    simp only [roots, List.mem_cons, not_or]
    simp only [kids?] at h
    split at h
    · cases h
      have hyc := ids_of_roots hy
      exact ⟨fun he => hic (he ▸ hyc), fun hyr => hdisjoint y hyc (ids_of_roots hyr)⟩
    · rcases Option.or_eq_some_iff.mp h with h | ⟨-, h⟩
      · have hyc := ids_of_kids? h hy
        exact ⟨fun he => hic (he ▸ hyc), fun hyr => hdisjoint y hyc (ids_of_roots hyr)⟩
      · exact ⟨fun he => hir (he ▸ ids_of_kids? h hy), ihr hr h⟩

/-! ## Changes at one node -/

/-- A change at the node `x` looks for it everywhere and changes nothing on the way. -/
structure Seeks (x : NodeId) (g : Forest → Forest) : Prop where
  nil : g nil = nil
  node : ∀ i l c r, i ≠ x → g (node i l c r) = node i l (g c) (g r)

theorem Seeks.missing {x : NodeId} {g : Forest → Forest} (hg : Seeks x g) {f : Forest}
    (h : x ∉ f.ids) : g f = f := by
  induction f with
  | nil => exact hg.nil
  | node i l c r ihc ihr =>
    simp only [ids, List.mem_cons, List.mem_append, not_or] at h
    rw [hg.node i l c r (Ne.symm h.1), ihc h.2.1, ihr h.2.2]

theorem seeks_replaceChildren (x : NodeId) (k : Forest → Forest) : Seeks x (replaceChildren x k) :=
  ⟨rfl, fun i l c r hi => by rw [replaceChildren, if_neg hi]⟩

theorem seeks_insertAfter (x : NodeId) (t : Forest) : Seeks x (·.insertAfter x t) :=
  ⟨rfl, fun i l c r hi => by rw [insertAfter, if_neg hi]⟩

theorem seeks_remove (x : NodeId) : Seeks x (remove x) :=
  ⟨rfl, fun i l c r hi => by rw [remove, if_neg hi]⟩

/-- A change that puts the nodes of `t` in where `x` is, does so in every forest that has `x`. -/
theorem Seeks.grafts {x : NodeId} {t : Forest} {g : Forest → Forest} (hg : Seeks x g)
    (hhere : ∀ l c r, (g (.node x l c r)).nodes.Perm ((Forest.node x l c r).nodes ++ t.nodes))
    {f : Forest} (hf : f.ids.Nodup) (hx : x ∈ f.ids) : (g f).nodes.Perm (f.nodes ++ t.nodes) := by
  induction f with
  | nil => cases hx
  | node i l c r ihc ihr =>
    obtain ⟨-, -, hc, hr, hdisjoint⟩ := nodup_node hf
    by_cases hi : i = x
    · exact hi ▸ hhere l c r
    · rw [hg.node i l c r hi]
      simp only [nodes, List.cons_append]
      refine List.Perm.cons (i, l) ?_
      simp only [ids, List.mem_cons, Ne.symm hi, false_or, List.mem_append] at hx
      rcases hx with hx | hx
      · rw [hg.missing (hdisjoint x hx)]
        refine ((ihc hc hx).append_right _).trans ?_
        simp only [List.append_assoc]
        exact List.Perm.append_left _ List.perm_append_comm
      · rw [hg.missing fun h => hdisjoint x h hx, List.append_assoc]
        exact List.Perm.append_left _ (ihr hr hx)

/-! ## Adding children -/

@[simp] theorem roots_replaceChildren (f : Forest) (x : NodeId) (g : Forest → Forest) :
    (f.replaceChildren x g).roots = f.roots := by
  induction f with
  | nil => rfl
  | node i l c r _ ih =>
    rw [replaceChildren]
    split
    · rfl
    · rw [roots, ih, roots]

/-- Only the node itself has other children, namely those that `g` makes of the old ones. -/
theorem kids?_replaceChildren {x y : NodeId} {g : Forest → Forest} {k : List NodeId → List NodeId}
    (hroots : ∀ c, (g c).roots = k c.roots) (hkids : ∀ c, (g c).kids? y = c.kids? y) (f : Forest) :
    (f.replaceChildren x g).kids? y = (f.kids? y).map (if y = x then k else id) := by
  induction f with
  | nil => rfl
  | node i l c r ihc ihr =>
    by_cases hi : i = x
    · rw [replaceChildren, if_pos hi, kids?, kids?]
      by_cases hy : i = y
      · simp [← hi, hy, hroots]
      · have hyx : ¬ y = x := fun h => hy (hi.trans h.symm)
        simp [if_neg hy, hkids, hyx]
    · rw [replaceChildren, if_neg hi, kids?, kids?]
      by_cases hy : i = y
      · have hyx : ¬ y = x := fun h => hi (hy.trans h)
        simp [hy, hyx]
      · rw [if_neg hy, if_neg hy, ihc, ihr]
        cases c.kids? y <;> simp

theorem kids?_appendTo {t : Forest} {y : NodeId} (hy : y ∉ t.ids) (f : Forest) (x : NodeId) :
    (f.appendTo x t).kids? y = (f.kids? y).map (if y = x then (· ++ t.roots) else id) :=
  kids?_replaceChildren (fun c => roots_append c t)
    (fun c => by rw [kids?_append, kids?_of_not_mem hy, Option.or_none]) f

theorem kids?_prependTo {t : Forest} {y : NodeId} (hy : y ∉ t.ids) (f : Forest) (x : NodeId) :
    (f.prependTo x t).kids? y = (f.kids? y).map (if y = x then (t.roots ++ ·) else id) :=
  kids?_replaceChildren (fun c => roots_append t c)
    (fun c => by rw [kids?_append, kids?_of_not_mem hy, Option.none_or]) f

/-! ## Adding siblings -/

/-- A list with others put in behind `x`. -/
def behind (x : NodeId) (ys : List NodeId) : List NodeId → List NodeId
  | [] => []
  | z :: zs => if z = x then z :: (ys ++ zs) else z :: behind x ys zs

theorem behind_of_not_mem {x : NodeId} {zs : List NodeId} (h : x ∉ zs) (ys : List NodeId) :
    behind x ys zs = zs := by
  induction zs with
  | nil => rfl
  | cons z zs ih =>
    simp only [List.mem_cons, not_or] at h
    rw [behind, if_neg (Ne.symm h.1), ih h.2]

theorem behind_append {x : NodeId} {zs : List NodeId} (h : x ∉ zs) (ys ws : List NodeId) :
    behind x ys (zs ++ x :: ws) = zs ++ x :: (ys ++ ws) := by
  induction zs with
  | nil => simp [behind]
  | cons z zs ih =>
    simp only [List.mem_cons, not_or] at h
    rw [List.cons_append, behind, if_neg (Ne.symm h.1), ih h.2, List.cons_append]

theorem roots_insertAfter (f : Forest) (x : NodeId) (t : Forest) :
    (f.insertAfter x t).roots = behind x t.roots f.roots := by
  induction f with
  | nil => rfl
  | node i l c r _ ih =>
    rw [insertAfter, roots, behind]
    split
    · rw [roots, roots_append]
    · rw [roots, ih]

/-- The node's siblings are joined by others, and no other children are. -/
theorem kids?_insertAfter {f t : Forest} (hf : f.ids.Nodup) (x : NodeId) {y : NodeId}
    (hy : y ∉ t.ids) : (f.insertAfter x t).kids? y = (f.kids? y).map (behind x t.roots) := by
  induction f with
  | nil => rfl
  | node i l c r ihc ihr =>
    obtain ⟨hic, hir, hc, hr, -⟩ := nodup_node hf
    by_cases hi : i = x
    · subst hi
      rw [insertAfter, if_pos rfl, kids?, kids?]
      by_cases hiy : i = y
      · rw [if_pos hiy, if_pos hiy, Option.map_some,
          behind_of_not_mem (fun h => hic (ids_of_roots h))]
      · rw [if_neg hiy, if_neg hiy, kids?_append, kids?_of_not_mem hy, Option.none_or]
        have hsame {g : Forest} (hg : i ∉ g.ids) : (g.kids? y).map (behind i t.roots) = g.kids? y :=
          kids?_map_of_not_mem hg (fun _ h => behind_of_not_mem h _) y
        rw [Option.map_or, hsame hic, hsame hir]
    · rw [insertAfter, if_neg hi, kids?, kids?]
      by_cases hiy : i = y
      · rw [if_pos hiy, if_pos hiy, Option.map_some, roots_insertAfter]
      · rw [if_neg hiy, if_neg hiy, ihc hc, ihr hr, Option.map_or]

/-! ## New nodes -/

theorem nodes_appendTo {f : Forest} (hf : f.ids.Nodup) {x : NodeId} (hx : x ∈ f.ids) (t : Forest) :
    (f.appendTo x t).nodes.Perm (f.nodes ++ t.nodes) := by
  refine (seeks_replaceChildren x (· ++ t)).grafts (fun l c r => ?_) hf hx
  simp only [replaceChildren, if_true, nodes, nodes_append, List.cons_append, List.append_assoc]
  exact List.Perm.cons _ (List.Perm.append_left _ List.perm_append_comm)

theorem nodes_prependTo {f : Forest} (hf : f.ids.Nodup) {x : NodeId} (hx : x ∈ f.ids) (t : Forest) :
    (f.prependTo x t).nodes.Perm (f.nodes ++ t.nodes) := by
  refine (seeks_replaceChildren x (t ++ ·)).grafts (fun l c r => ?_) hf hx
  simp only [replaceChildren, if_true, nodes, nodes_append, List.cons_append, List.append_assoc]
  refine List.Perm.cons _ ?_
  rw [← List.append_assoc c.nodes]
  exact List.perm_append_comm

theorem nodes_insertAfter {f : Forest} (hf : f.ids.Nodup) {x : NodeId} (hx : x ∈ f.ids) (t : Forest) :
    (f.insertAfter x t).nodes.Perm (f.nodes ++ t.nodes) := by
  refine (seeks_insertAfter x t).grafts (fun l c r => ?_) hf hx
  simp only [insertAfter, if_true, nodes, nodes_append, List.cons_append, List.append_assoc]
  exact List.Perm.cons _ (List.Perm.append_left _ List.perm_append_comm)

/-- The children of a new node are those that it came in with. -/
theorem Seeks.kids?_new {x y : NodeId} {t : Forest} {g : Forest → Forest} (hg : Seeks x g)
    (hhere : ∀ l c r, x ≠ y → y ∉ c.ids → y ∉ r.ids → (g (.node x l c r)).kids? y = t.kids? y)
    {f : Forest} (hf : f.ids.Nodup) (hx : x ∈ f.ids) (hy : y ∉ f.ids) :
    (g f).kids? y = t.kids? y := by
  induction f with
  | nil => cases hx
  | node i l c r ihc ihr =>
    obtain ⟨-, -, hc, hr, hdisjoint⟩ := nodup_node hf
    simp only [ids, List.mem_cons, List.mem_append, not_or] at hx hy
    obtain ⟨hyi, hyc, hyr⟩ := hy
    by_cases hi : i = x
    · subst hi
      exact hhere l c r (Ne.symm hyi) hyc hyr
    · rw [hg.node i l c r hi, kids?_of_ne (Ne.symm hyi)]
      rcases hx with hx | hx | hx
      · exact absurd hx.symm hi
      · rw [ihc hc hx hyc, hg.missing (hdisjoint x hx), kids?_of_not_mem hyr, Option.or_none]
      · rw [hg.missing fun h => hdisjoint x h hx, kids?_of_not_mem hyc, Option.none_or, ihr hr hx hyr]

theorem kids?_appendTo_new {f : Forest} (hf : f.ids.Nodup) {x y : NodeId} (hx : x ∈ f.ids)
    (hy : y ∉ f.ids) (t : Forest) : (f.appendTo x t).kids? y = t.kids? y := by
  refine (seeks_replaceChildren x (· ++ t)).kids?_new (fun l c r hne hc hr => ?_) hf hx hy
  rw [replaceChildren, if_pos rfl, kids?_of_ne hne, kids?_append, kids?_of_not_mem hc,
    kids?_of_not_mem hr, Option.none_or, Option.or_none]

theorem kids?_insertAfter_new {f : Forest} (hf : f.ids.Nodup) {x y : NodeId} (hx : x ∈ f.ids)
    (hy : y ∉ f.ids) (t : Forest) : (f.insertAfter x t).kids? y = t.kids? y := by
  refine (seeks_insertAfter x t).kids?_new (fun l c r hne hc hr => ?_) hf hx hy
  rw [insertAfter, if_pos rfl, kids?_of_ne hne, kids?_append, kids?_of_not_mem hc,
    kids?_of_not_mem hr, Option.none_or, Option.or_none]

/-! ## Taking out trees -/

theorem filter_ne_of_not_mem {x : NodeId} {zs : List NodeId} (h : x ∉ zs) : zs.filter (· ≠ x) = zs := by
  rw [List.filter_eq_self]
  intro z hz
  have hzx : z ≠ x := fun hzx => h (hzx ▸ hz)
  simpa using hzx

theorem roots_remove {f : Forest} (hf : f.ids.Nodup) (x : NodeId) :
    (f.remove x).roots = f.roots.filter (· ≠ x) := by
  induction f with
  | nil => rfl
  | node i l c r _ ih =>
    obtain ⟨-, hir, -, hr, -⟩ := nodup_node hf
    by_cases hi : i = x
    · subst hi
      rw [remove, if_pos rfl, roots, List.filter_cons_of_neg (by simp),
        filter_ne_of_not_mem fun h => hir (ids_of_roots h)]
    · rw [remove, if_neg hi, roots, roots, List.filter_cons_of_pos (by simpa using hi), ih hr]

/-- The tree that is taken out and the rest have the nodes of the forest between them. -/
theorem nodes_remove {f t : Forest} (hf : f.ids.Nodup) {x : NodeId} (h : f.find? x = some t) :
    ((f.remove x).nodes ++ t.nodes).Perm f.nodes := by
  induction f with
  | nil => cases h
  | node i l c r ihc ihr =>
    obtain ⟨-, -, hc, hr, hdisjoint⟩ := nodup_node hf
    by_cases hi : i = x
    · rw [find?, if_pos hi] at h
      cases h
      rw [remove, if_pos hi]
      simp only [tree, nodes, List.append_nil]
      exact List.perm_middle.trans (List.Perm.cons (i, l) List.perm_append_comm)
    · rw [find?, if_neg hi] at h
      rw [remove, if_neg hi]
      simp only [nodes, List.cons_append]
      refine List.Perm.cons (i, l) ?_
      rcases Option.or_eq_some_iff.mp h with h | ⟨-, h⟩
      · have hx : x ∈ c.ids := (isSome_find? c x).mp (by rw [h]; rfl)
        rw [(seeks_remove x).missing (hdisjoint x hx), List.append_assoc]
        refine (List.Perm.append_left _ List.perm_append_comm).trans ?_
        rw [← List.append_assoc]
        exact (ihc hc h).append_right _
      · have hx : x ∈ r.ids := (isSome_find? r x).mp (by rw [h]; rfl)
        rw [(seeks_remove x).missing fun hxc => hdisjoint x hxc hx, List.append_assoc]
        exact (ihr hr h).append_left _

theorem ids_remove {f t : Forest} (hf : f.ids.Nodup) {x : NodeId} (h : f.find? x = some t) :
    ((f.remove x).ids ++ t.ids).Perm f.ids := by
  have hids := (nodes_remove hf h).map (·.1)
  rwa [List.map_append, map_nodes, map_nodes, map_nodes] at hids

/-- The children of a node are those that it had but for the one that was taken out, whether the node
stays or goes with the tree. -/
theorem kids?_remove {f : Forest} (hf : f.ids.Nodup) (x y : NodeId) :
    ((f.remove x).kids? y).or ((f.find? x).bind (kids? y)) = (f.kids? y).map (·.filter (· ≠ x)) := by
  induction f with
  | nil => rfl
  | node i l c r ihc ihr =>
    obtain ⟨hic, hir, hc, hr, hdisjoint⟩ := nodup_node hf
    have hsame {g : Forest} (hg : x ∉ g.ids) : (g.kids? y).map (·.filter (· ≠ x)) = g.kids? y :=
      kids?_map_of_not_mem hg (fun _ => filter_ne_of_not_mem) y
    by_cases hi : i = x
    · subst hi
      rw [remove, if_pos rfl, find?, if_pos rfl, Option.bind_some, tree]
      by_cases hiy : i = y
      · subst hiy
        rw [kids?_self, kids?_self, kids?_of_not_mem hir, Option.none_or, Option.map_some,
          filter_ne_of_not_mem fun h => hic (ids_of_roots h)]
      · rw [kids?_of_ne hiy, kids?_of_ne hiy, Option.map_or, hsame hic, hsame hir]
        -- `y` is on one side only, so that the order does not matter
        by_cases hy : y ∈ c.ids
        · simp [kids?, kids?_of_not_mem (hdisjoint y hy)]
        · simp [kids?, kids?_of_not_mem hy]
    · rw [remove, if_neg hi, find?, if_neg hi]
      by_cases hiy : i = y
      · subst hiy
        rw [kids?_self, kids?_self, Option.some_or, Option.map_some, roots_remove hc]
      · rw [kids?_of_ne hiy, kids?_of_ne hiy, Option.map_or]
        by_cases hx : x ∈ c.ids
        · have hxr := hdisjoint x hx
          rw [find?_of_not_mem hxr, (seeks_remove x).missing hxr, Option.or_none, hsame hxr]
          by_cases hy : y ∈ r.ids
          · have hnone := ihc hc
            rw [kids?_of_not_mem fun h => hdisjoint y h hy, Option.map_none,
              Option.or_eq_none_iff] at hnone
            simp [hnone.1, hnone.2, kids?_of_not_mem fun h => hdisjoint y h hy]
          · rw [kids?_of_not_mem hy, Option.or_none, Option.or_none, ihc hc]
        · rw [find?_of_not_mem hx, (seeks_remove x).missing hx, Option.none_or, hsame hx,
            Option.or_assoc, ihr hr]

/-! ## Labels -/

theorem roots_relabel (f : Forest) (x : NodeId) (k : Label → Label) : (f.relabel x k).roots = f.roots := by
  induction f with
  | nil => rfl
  | node i l c r _ ih =>
    rw [relabel]
    split
    · rfl
    · rw [roots, ih, roots]

theorem ids_relabel (f : Forest) (x : NodeId) (k : Label → Label) : (f.relabel x k).ids = f.ids := by
  induction f with
  | nil => rfl
  | node i l c r ihc ihr =>
    rw [relabel]
    split
    · rfl
    · rw [ids, ihc, ihr, ids]

theorem kids?_relabel (f : Forest) (x : NodeId) (k : Label → Label) (y : NodeId) :
    (f.relabel x k).kids? y = f.kids? y := by
  induction f with
  | nil => rfl
  | node i l c r ihc ihr =>
    rw [relabel]
    split
    · rfl
    · rw [kids?, ihc, ihr, roots_relabel, kids?]

/-! ## Parents and siblings -/

theorem parent?_of_not_mem {f : Forest} {y : NodeId} (h : y ∉ f.ids) : f.parent? y = none := by
  induction f with
  | nil => rfl
  | node i l c r ihc ihr =>
    simp only [ids, List.mem_cons, List.mem_append, not_or] at h
    have hroots : y ∉ c.roots := fun hy => h.2.1 (ids_of_roots hy)
    simp [parent?, hroots, ihc h.2.1, ihr h.2.2]

/-- A child's parent is the node that it is a child of. -/
theorem parent?_of_kid {f : Forest} (hf : f.ids.Nodup) {x y : NodeId} {xs : List NodeId}
    (h : f.kids? x = some xs) (hy : y ∈ xs) : f.parent? y = some x := by
  induction f with
  | nil => cases h
  | node i l c r ihc ihr =>
    obtain ⟨-, -, hc, hr, hdisjoint⟩ := nodup_node hf
    by_cases hi : i = x
    · rw [hi, kids?_self] at h
      cases h
      simp [parent?, hy, hi]
    · rw [kids?_of_ne hi] at h
      rcases Option.or_eq_some_iff.mp h with h | ⟨-, h⟩
      · simp [parent?, not_root_of_kid hc h hy, ihc hc h]
      · have hyc : y ∉ c.ids := fun hyc => hdisjoint y hyc (ids_of_kids? h hy)
        have hroots : y ∉ c.roots := fun hy => hyc (ids_of_roots hy)
        simp [parent?, hroots, parent?_of_not_mem hyc, ihr hr h]

/-- Children below the first root are found there, and others beside it. -/
theorem kids?_node {i x : NodeId} {l : Label} {c r : Forest} {xs : List NodeId}
    (hf : (node i l c r).ids.Nodup) (h : c.kids? x = some xs ∨ r.kids? x = some xs) :
    (node i l c r).kids? x = some xs := by
  obtain ⟨hic, hir, -, -, hdisjoint⟩ := nodup_node hf
  rcases h with h | h
  · have hx : x ∈ c.ids := (isSome_kids? c x).mp (by rw [h]; rfl)
    have hne : i ≠ x := by
      rintro rfl
      exact hic hx
    rw [kids?_of_ne hne, h, Option.some_or]
  · have hx : x ∈ r.ids := (isSome_kids? r x).mp (by rw [h]; rfl)
    have hne : i ≠ x := by
      rintro rfl
      exact hir hx
    rw [kids?_of_ne hne, kids?_of_not_mem fun hxc => hdisjoint x hxc hx, h, Option.none_or]

/-- A node is a root or somebody's child. -/
theorem root_or_kid {f : Forest} (hf : f.ids.Nodup) {y : NodeId} (hy : y ∈ f.ids) :
    y ∈ f.roots ∨ ∃ x xs, f.kids? x = some xs ∧ y ∈ xs := by
  induction f with
  | nil => cases hy
  | node i l c r ihc ihr =>
    obtain ⟨-, -, hc, hr, -⟩ := nodup_node hf
    simp only [ids, List.mem_cons, List.mem_append] at hy
    rcases hy with rfl | hy | hy
    · exact .inl List.mem_cons_self
    · rcases ihc hc hy with hroot | ⟨x, xs, hk, hx⟩
      · exact .inr ⟨i, c.roots, kids?_self i l c r, hroot⟩
      · exact .inr ⟨x, xs, kids?_node hf (.inl hk), hx⟩
    · rcases ihr hr hy with hroot | ⟨x, xs, hk, hx⟩
      · exact .inl (List.mem_cons_of_mem i hroot)
      · exact .inr ⟨x, xs, kids?_node hf (.inr hk), hx⟩

/-- What is found above a node is its parent. -/
theorem kid_of_parent? {f : Forest} (hf : f.ids.Nodup) {x y : NodeId} (h : f.parent? y = some x) :
    ∃ xs, f.kids? x = some xs ∧ y ∈ xs := by
  induction f with
  | nil => cases h
  | node i l c r ihc ihr =>
    obtain ⟨-, -, hc, hr, -⟩ := nodup_node hf
    rw [parent?] at h
    split at h
    · next hroot =>
      cases h
      exact ⟨c.roots, kids?_self _ l c r, by simpa using hroot⟩
    · rcases Option.or_eq_some_iff.mp h with h | ⟨-, h⟩
      · obtain ⟨xs, hk, hx⟩ := ihc hc h
        exact ⟨xs, kids?_node hf (.inl hk), hx⟩
      · obtain ⟨xs, hk, hx⟩ := ihr hr h
        exact ⟨xs, kids?_node hf (.inr hk), hx⟩

theorem precedingIn_of_not_mem {y : NodeId} {zs : List NodeId} (h : y ∉ zs) : precedingIn y zs = none := by
  induction zs with
  | nil => rfl
  | cons z zs ih =>
    cases zs with
    | nil => rfl
    | cons z' zs =>
      simp only [List.mem_cons, not_or] at h
      rw [precedingIn, if_neg (Ne.symm h.2.1), ih (by simpa using h.2)]

theorem precedingIn_append {a y : NodeId} {zs : List NodeId} (h : y ∉ zs) (ha : a ≠ y)
    (ws : List NodeId) : precedingIn y (zs ++ a :: y :: ws) = some a := by
  induction zs with
  | nil => simp [precedingIn]
  | cons z zs ih =>
    simp only [List.mem_cons, not_or] at h
    cases zs with
    | nil => simp [precedingIn, ha]
    | cons z' zs =>
      simp only [List.mem_cons, not_or] at h
      have hrest := ih (by simpa using h.2)
      simp only [List.cons_append] at hrest ⊢
      rw [precedingIn, if_neg (Ne.symm h.2.1), hrest]

theorem below_of_not_mem {f : Forest} {y : NodeId} (h : y ∉ f.ids) : previous?.below y f = none := by
  induction f with
  | nil => rfl
  | node i l c r ihc ihr =>
    simp only [ids, List.mem_cons, List.mem_append, not_or] at h
    simp [previous?.below, precedingIn_of_not_mem fun hy => h.2.1 (ids_of_roots hy), ihc h.2.1,
      ihr h.2.2]

theorem below_of_root {f : Forest} (hf : f.ids.Nodup) {y : NodeId} (h : y ∈ f.roots) :
    previous?.below y f = none := by
  induction f with
  | nil => rfl
  | node i l c r _ ih =>
    obtain ⟨hic, hir, hc, hr, hdisjoint⟩ := nodup_node hf
    have hyc : y ∉ c.ids := by
      rcases List.mem_cons.mp h with rfl | h
      · exact hic
      · exact fun hyc => hdisjoint y hyc (ids_of_roots h)
    have hyr : previous?.below y r = none := by
      rcases List.mem_cons.mp h with rfl | h
      · exact below_of_not_mem hir
      · exact ih hr h
    simp [previous?.below, precedingIn_of_not_mem fun hy => hyc (ids_of_roots hy),
      below_of_not_mem hyc, hyr]

theorem below_of_kid {f : Forest} (hf : f.ids.Nodup) {x y : NodeId} {xs : List NodeId}
    (h : f.kids? x = some xs) (hy : y ∈ xs) : previous?.below y f = precedingIn y xs := by
  induction f with
  | nil => cases h
  | node i l c r ihc ihr =>
    obtain ⟨-, -, hc, hr, hdisjoint⟩ := nodup_node hf
    by_cases hi : i = x
    · rw [hi, kids?_self] at h
      cases h
      have hyr := below_of_not_mem (hdisjoint y (ids_of_roots hy))
      simp [previous?.below, below_of_root hc hy, hyr]
    · rw [kids?_of_ne hi] at h
      rcases Option.or_eq_some_iff.mp h with h | ⟨-, h⟩
      · have hyr := below_of_not_mem (hdisjoint y (ids_of_kids? h hy))
        simp [previous?.below, precedingIn_of_not_mem (not_root_of_kid hc h hy), ihc hc h, hyr]
      · have hyc : y ∉ c.ids := fun hyc => hdisjoint y hyc (ids_of_kids? h hy)
        simp [previous?.below, precedingIn_of_not_mem fun hy => hyc (ids_of_roots hy),
          below_of_not_mem hyc, ihr hr h]

theorem previous?_of_not_mem {f : Forest} {y : NodeId} (h : y ∉ f.ids) : f.previous? y = none := by
  rw [previous?, precedingIn_of_not_mem fun hy => h (ids_of_roots hy), below_of_not_mem h]
  rfl

theorem previous?_of_root {f : Forest} (hf : f.ids.Nodup) {y : NodeId} (h : y ∈ f.roots) :
    f.previous? y = precedingIn y f.roots := by
  rw [previous?, below_of_root hf h, Option.or_none]

theorem previous?_of_kid {f : Forest} (hf : f.ids.Nodup) {x y : NodeId} {xs : List NodeId}
    (h : f.kids? x = some xs) (hy : y ∈ xs) : f.previous? y = precedingIn y xs := by
  rw [previous?, precedingIn_of_not_mem (not_root_of_kid hf h hy), Option.none_or,
    below_of_kid hf h hy]

end PageBoot.Html.Forest
