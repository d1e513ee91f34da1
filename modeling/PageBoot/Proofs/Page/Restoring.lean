import PageBoot.Proofs.Page.Adding

/-!
Writing something and taking it out again.
-/

namespace PageBoot

open Html

/-! ## A tree that comes and goes -/

namespace Html.Forest

variable {i : NodeId}

theorem remove_append_tree {f : Forest} (hi : i ∉ f.ids) (l : Label) (c : Forest) :
    (f ++ tree i l c).remove i = f := by
  induction f with
  | nil => exact if_pos rfl
  | node j k d r _ ih =>
    simp only [ids, List.mem_cons, List.mem_append, not_or] at hi
    have hj : ¬ j = i := fun hj => hi.1 hj.symm
    rw [node_append, remove, if_neg hj, (seeks_remove i).missing hi.2.1, ih hi.2.2]

theorem remove_insertAfter {f : Forest} (hi : i ∉ f.ids) (x : NodeId) (l : Label) (c : Forest) :
    (f.insertAfter x (tree i l c)).remove i = f := by
  induction f with
  | nil => rfl
  | node j k d r ihd ihr =>
    simp only [ids, List.mem_cons, List.mem_append, not_or] at hi
    have hj : ¬ j = i := fun hj => hi.1 hj.symm
    by_cases hx : j = x
    · have hfirst : (tree i l c ++ r).remove i = r := if_pos rfl
      rw [insertAfter, if_pos hx, remove, if_neg hj, (seeks_remove i).missing hi.2.1, hfirst]
    · rw [insertAfter, if_neg hx, remove, if_neg hj, ihd hi.2.1, ihr hi.2.2]

theorem remove_appendTo {f : Forest} (hi : i ∉ f.ids) (x : NodeId) (l : Label) (c : Forest) :
    (f.appendTo x (tree i l c)).remove i = f := by
  induction f with
  | nil => rfl
  | node j k d r ihd ihr =>
    simp only [ids, List.mem_cons, List.mem_append, not_or] at hi
    have hj : ¬ j = i := fun hj => hi.1 hj.symm
    simp only [appendTo, replaceChildren] at ihd ihr ⊢
    by_cases hx : j = x
    · rw [if_pos hx, remove, if_neg hj, remove_append_tree hi.2.1, (seeks_remove i).missing hi.2.2]
    · rw [if_neg hx, remove, if_neg hj, ihd hi.2.1, ihr hi.2.2]

/-- The identities below a node are those that go with it. -/
theorem ids_subset_of_find? {f t : Forest} {x : NodeId} (h : f.find? x = some t) :
    x ∈ t.ids ∧ t.roots = [x] := by
  induction f with
  | nil => cases h
  | node i l c r ihc ihr =>
    by_cases hi : i = x
    · subst hi
      rw [find?, if_pos rfl, Option.some.injEq] at h
      subst h
      exact ⟨List.mem_cons_self, rfl⟩
    · rw [find?, if_neg hi] at h
      cases hc : c.find? x with
      | some t' =>
        rw [hc] at h
        obtain rfl : t' = t := by simpa using h
        exact ihc hc
      | none =>
        rw [hc, Option.none_or] at h
        exact ihr h

end Html.Forest

namespace Page

open Forest

/-! ## The place of writing -/

/-- What is written next gets into the document. -/
def Reaches (p : Page) : Prop := p.place?.getD p.body ∈ p.dom.document.ids

instance (p : Page) : Decidable p.Reaches :=
  inferInstanceAs (Decidable (p.place?.getD p.body ∈ p.dom.document.ids))

/-- The nodes that the place of writing is about are there, and the script that runs is not what was
written last. -/
structure Settled (p : Page) : Prop where
  sound : p.Sound
  current : ∀ x ∈ p.current, x ∈ p.dom.ids
  cursor : ∀ x ∈ p.cursor, x ∈ p.dom.ids
  apart : ∀ x ∈ p.cursor, p.current ≠ some x

theorem insertWritten_of_place {p : Page} {x : NodeId} (h : p.place? = some x) (id : NodeId)
    (t : Forest) : p.insertWritten id t =
      { p with dom := p.dom.insertAfter x t, cursor := some id } := by
  unfold place? at h
  simp only [insertWritten, h]

theorem insertWritten_of_no_place {p : Page} (h : p.place? = none) (id : NodeId) (t : Forest) :
    p.insertWritten id t = { p with dom := p.dom.appendTo p.body t } := by
  unfold place? at h
  simp only [insertWritten, h]

/-- What is written next becomes a child of `P`. -/
def Target (p : Page) (P : Option NodeId) : Prop :=
  match p.place? with
  | some x => x ∈ p.dom.kids P
  | none => P = some p.body

section Place

variable {p q : Page} {x : NodeId} {P : Option NodeId}

theorem place_eq_some (h : p.place? = some x) :
    p.cursor.or p.current = some x ∧ p.dom.hasParent x = true := by
  unfold place? at h
  cases hx : p.cursor.or p.current with
  | none => simp [hx] at h
  | some y =>
    rw [hx, Option.filter_some] at h
    split at h
    next hparent =>
      cases h
      exact ⟨rfl, hparent⟩
    next => cases h

theorem place_of_parent (hx : p.cursor.or p.current = some x) (hparent : p.dom.hasParent x = true) :
    p.place? = some x := by
  rw [place?, hx, Option.filter_some, if_pos hparent]

theorem Target.has (hp : p.Sound) (h : p.Target P) : p.dom.Has P := by
  unfold Target at h
  split at h
  · exact (Dom.ids_of_kids h).2
  · subst h
    exact hp.body

theorem exists_target (hp : p.Sound) : ∃ P, p.Target P := by
  unfold Target
  cases hplace : p.place? with
  | none => exact ⟨_, rfl⟩
  | some x => exact hp.dom.hasParent_iff.mp (place_eq_some hplace).2

end Place

/-! ## What is written -/

/-- From `p` to `q` the forest `f` was written. -/
structure Put (f : Forest) (p q : Page) : Prop where
  sound : q.Sound
  grown : Dom.Grown f p.dom q.dom
  body : q.body = p.body
  current : q.current = p.current
  cursor : q.cursor = if p.place?.isSome then f.roots.getLast?.or p.cursor else p.cursor
  place : q.place?.isSome = p.place?.isSome
  target : ∀ P, p.Target P → q.Target P ∧ (∀ j ∈ p.dom.kids P, j ∈ q.dom.kids P) ∧
    ∀ j ∈ f.roots, j ∈ q.dom.kids P
  reaches : p.Reaches → q.Reaches ∧ q.dom.document.nodes.Perm (p.dom.document.nodes ++ f.nodes)
  misses : ¬ p.Reaches → ¬ q.Reaches ∧ q.dom.document = p.dom.document

theorem Put.refl {p : Page} (hp : p.Sound) : Put .nil p p where
  sound := hp
  grown := ⟨hp.dom, fun _ hi => hi, fun _ hi => .inl hi, rfl⟩
  body := rfl
  current := rfl
  cursor := by simp [roots]
  place := rfl
  target P hP := ⟨hP, fun _ hj => hj, fun j hj => by cases hj⟩
  reaches h := ⟨h, by simp [nodes]⟩
  misses h := ⟨h, rfl⟩

theorem Put.trans {f g : Forest} {p q r : Page} (h : Put f p q) (h' : Put g q r) :
    Put (f ++ g) p r where
  sound := h'.sound
  grown := by
    refine ⟨h'.sound.dom, fun i hi => h'.grown.kept i (h.grown.kept i hi), fun i hi => ?_,
      h'.grown.next.trans h.grown.next⟩
    rw [ids_append, List.mem_append]
    rcases h'.grown.new i hi with hi | hi
    · rcases h.grown.new i hi with hi | hi
      · exact .inl hi
      · exact .inr (.inl hi)
    · exact .inr (.inr hi)
  body := h'.body.trans h.body
  current := h'.current.trans h.current
  cursor := by
    rw [h'.cursor, h.place, h.cursor, roots_append]
    cases p.place? <;> simp [Option.or_assoc]
  place := h'.place.trans h.place
  target P hP := by
    obtain ⟨htarget, hkept, hroots⟩ := h.target P hP
    obtain ⟨htarget', hkept', hroots'⟩ := h'.target P htarget
    refine ⟨htarget', fun j hj => hkept' j (hkept j hj), fun j hj => ?_⟩
    rw [roots_append, List.mem_append] at hj
    rcases hj with hj | hj
    · exact hkept' j (hroots j hj)
    · exact hroots' j hj
  reaches hp := by
    obtain ⟨hq, hperm⟩ := h.reaches hp
    obtain ⟨hr, hperm'⟩ := h'.reaches hq
    refine ⟨hr, ?_⟩
    rw [nodes_append, ← List.append_assoc]
    exact hperm'.trans (hperm.append_right _)
  misses hp := by
    obtain ⟨hq, hsame⟩ := h.misses hp
    obtain ⟨hr, hsame'⟩ := h'.misses hq
    exact ⟨hr, hsame'.trans hsame⟩

theorem mem_behind {x y : NodeId} {ys zs : List NodeId} :
    y ∈ behind x ys zs ↔ y ∈ zs ∨ x ∈ zs ∧ y ∈ ys := by
  induction zs with
  | nil => simp [behind]
  | cons z zs ih =>
    by_cases hz : z = x
    · subst hz
      simp only [behind, if_true, List.mem_cons, List.mem_append, true_or, true_and]
      tauto
    · have hx : x ∈ z :: zs ↔ x ∈ zs := by simp [Ne.symm hz]
      rw [behind, if_neg hz, List.mem_cons, ih, hx, List.mem_cons, or_assoc]

/-- A node that is nobody's child does not become one when a tree comes in. -/
theorem hasParent_of_appendTo {d : Dom} (hd : d.Sound) {t : Forest} (ht : Dom.Fits t d) {x y : NodeId}
    (hx : x ∈ d.ids) (hy : y ∈ d.ids) (h : (d.appendTo x t).hasParent y = true) :
    d.hasParent y = true := by
  have hgrown := hd.appendTo ht x
  have hnew : y ∉ t.ids := fun hyt => ht.new y hyt hy
  obtain ⟨P, hP⟩ := hgrown.sound.hasParent_iff.mp h
  by_cases hhas : d.Has P
  · rw [Dom.kids_appendTo hhas (ht.not_parent hhas)] at hP
    refine hd.hasParent_of_kid (P := P) ?_
    split at hP
    · exact (List.mem_append.mp hP).resolve_right fun hroot => hnew (ids_of_roots hroot)
    · exact hP
  · cases P with
    | none => exact (hhas trivial).elim
    | some z =>
      have hz : z ∈ t.ids := (hgrown.new z (Dom.ids_of_kids hP).2).resolve_left hhas
      obtain ⟨zs, hzs⟩ := Option.isSome_iff_exists.mp ((isSome_kids? t z).mpr hz)
      have hkids : (d.appendTo x t).kids (some z) = zs :=
        hd.kids_new hgrown.sound hx hhas fun f hf hxf hzf =>
          (kids?_appendTo_new hf hxf hzf t).trans hzs
      rw [hkids] at hP
      exact (hnew (ids_of_kids? hzs hP)).elim

theorem document_mem (d : Dom) : d.document ∈ d.forests := by simp [Dom.forests]

theorem ids_perm_of_nodes {f g t : Forest} (h : g.nodes.Perm (f.nodes ++ t.nodes)) :
    g.ids.Perm (f.ids ++ t.ids) := by
  have hids := h.map (·.1)
  rwa [List.map_append, map_nodes, map_nodes, map_nodes] at hids

theorem Put.ids {f : Forest} {p q : Page} (h : Put f p q) (hp : p.Reaches) :
    q.dom.document.ids.Perm (p.dom.document.ids ++ f.ids) := ids_perm_of_nodes (h.reaches hp).2

section Put

variable {p : Page} {i x : NodeId} {l : Label} {c : Forest}

theorem old_root (ht : Dom.Fits (tree i l c) p.dom) : i ∉ p.dom.ids :=
  ht.new i List.mem_cons_self

/-- A tree goes behind the place of writing, which is behind its root then. -/
theorem put_behind (hp : p.Sound) (ht : Dom.Fits (tree i l c) p.dom) (hplace : p.place? = some x) :
    Put (tree i l c) p (p.insertWritten i (tree i l c)) := by
  have hsound := hp.insertWritten ht i
  have hgrown := hp.dom.insertAfter ht x
  rw [insertWritten_of_place hplace] at hsound ⊢
  have hkids {P : Option NodeId} (hP : x ∈ p.dom.kids P) :
      (p.dom.insertAfter x (tree i l c)).kids P = behind x [i] (p.dom.kids P) :=
    hp.dom.kids_insertAfter (Dom.ids_of_kids hP).2 (ht.not_parent (Dom.ids_of_kids hP).2) x
  have hkid {P : Option NodeId} (hP : x ∈ p.dom.kids P) :
      i ∈ (p.dom.insertAfter x (tree i l c)).kids P := by
    rw [hkids hP, mem_behind]
    exact .inr ⟨hP, List.mem_singleton.mpr rfl⟩
  have hplace' : ({ p with dom := p.dom.insertAfter x (tree i l c), cursor := some i } : Page).place? =
      some i := by
    obtain ⟨P, hP⟩ := hp.dom.hasParent_iff.mp (place_eq_some hplace).2
    exact place_of_parent rfl (hgrown.sound.hasParent_of_kid (hkid hP))
  refine ⟨hsound, hgrown, rfl, rfl, by simp [hplace, tree, roots], by rw [hplace', hplace]; rfl,
    fun P hP => ?_, fun hreach => ?_, fun hmiss => ?_⟩
  · simp only [Target, hplace] at hP
    simp only [Target, hplace']
    refine ⟨hkid hP, fun j hj => ?_, fun j hj => ?_⟩
    · rw [hkids hP, mem_behind]
      exact .inl hj
    · obtain rfl : j = i := List.mem_singleton.mp hj
      exact hkid hP
  · simp only [Reaches, hplace, hplace', Option.getD_some] at hreach ⊢
    have hperm := Forest.nodes_insertAfter (hp.dom.nodup_of_mem (document_mem _)) hreach (tree i l c)
    exact ⟨(ids_perm_of_nodes hperm).mem_iff.mpr (List.mem_append_right _ List.mem_cons_self), hperm⟩
  · simp only [Reaches, hplace, hplace', Option.getD_some] at hmiss ⊢
    have hsame : p.dom.document.insertAfter x (tree i l c) = p.dom.document :=
      (seeks_insertAfter x _).missing hmiss
    refine ⟨?_, hsame⟩
    show i ∉ (p.dom.document.insertAfter x (tree i l c)).ids
    rw [hsame]
    exact fun hi => old_root ht (Dom.ids_subset (document_mem _) hi)

/-- Without a place of writing a tree goes to the end of the body. -/
theorem put_below_body (hp : p.Settled) (ht : Dom.Fits (tree i l c) p.dom) (hplace : p.place? = none) :
    Put (tree i l c) p (p.insertWritten i (tree i l c)) := by
  have hsound := hp.sound.insertWritten ht i
  have hgrown := hp.sound.dom.appendTo ht p.body
  have hbody : p.dom.Has (some p.body) := hp.sound.body
  rw [insertWritten_of_no_place hplace] at hsound ⊢
  have hkids : (p.dom.appendTo p.body (tree i l c)).kids (some p.body) =
      p.dom.kids (some p.body) ++ (tree i l c).roots := by
    rw [Dom.kids_appendTo hbody (ht.not_parent hbody), if_pos rfl]
  have hplace' : ({ p with dom := p.dom.appendTo p.body (tree i l c) } : Page).place? = none := by
    refine Option.eq_none_iff_forall_not_mem.mpr fun y hy => ?_
    obtain ⟨hy, hparent⟩ := place_eq_some hy
    have hold : y ∈ p.dom.ids := by
      rcases Option.or_eq_some_iff.mp hy with hy | ⟨-, hy⟩
      · exact hp.cursor y hy
      · exact hp.current y hy
    have hbefore : p.place? = some y :=
      place_of_parent hy (hasParent_of_appendTo hp.sound.dom ht hp.sound.body hold hparent)
    rw [hbefore] at hplace
    cases hplace
  refine ⟨hsound, hgrown, rfl, rfl, by simp [hplace], by rw [hplace', hplace],
    fun P hP => ?_, fun hreach => ?_, fun hmiss => ?_⟩
  · simp only [Target, hplace] at hP
    subst hP
    refine ⟨by simp only [Target, hplace'], fun j hj => ?_, fun j hj => ?_⟩
    · rw [hkids]
      exact List.mem_append_left _ hj
    · rw [hkids]
      exact List.mem_append_right _ hj
  · simp only [Reaches, hplace, hplace', Option.getD_none] at hreach ⊢
    have hperm := Forest.nodes_appendTo (hp.sound.dom.nodup_of_mem (document_mem _)) hreach (tree i l c)
    exact ⟨(ids_perm_of_nodes hperm).mem_iff.mpr (List.mem_append_left _ hreach), hperm⟩
  · simp only [Reaches, hplace, hplace', Option.getD_none] at hmiss ⊢
    have hsame : p.dom.document.appendTo p.body (tree i l c) = p.dom.document :=
      (seeks_replaceChildren p.body _).missing hmiss
    refine ⟨?_, hsame⟩
    show p.body ∉ (p.dom.document.appendTo p.body (tree i l c)).ids
    rw [hsame]
    exact hmiss

theorem Settled.put_tree (hp : p.Settled) (ht : Dom.Fits (tree i l c) p.dom) :
    Put (tree i l c) p (p.insertWritten i (tree i l c)) := by
  cases hplace : p.place? with
  | some x => exact put_behind hp.sound ht hplace
  | none => exact put_below_body hp ht hplace

theorem Settled.insertWritten (hp : p.Settled) (ht : Dom.Fits (tree i l c) p.dom) :
    (p.insertWritten i (tree i l c)).Settled := by
  have hput := hp.put_tree ht
  have hcursor : (p.insertWritten i (tree i l c)).cursor = some i ∨
      (p.insertWritten i (tree i l c)).cursor = p.cursor := by
    rw [hput.cursor]
    split
    · exact .inl rfl
    · exact .inr rfl
  refine ⟨hput.sound, fun x hx => hput.grown.kept x (hp.current x (hput.current ▸ hx)), ?_, ?_⟩
  · intro x hx
    rcases hcursor with h | h
    · obtain rfl : i = x := Option.some.inj (h.symm.trans hx)
      obtain ⟨P, hP⟩ := exists_target hp.sound
      exact (Dom.ids_of_kids ((hput.target P hP).2.2 i List.mem_cons_self)).1
    · exact hput.grown.kept x (hp.cursor x (h ▸ hx))
  · intro x hx hcurrent
    rw [hput.current] at hcurrent
    rcases hcursor with h | h
    · obtain rfl : i = x := Option.some.inj (h.symm.trans hx)
      exact old_root ht (hp.current i hcurrent)
    · exact hp.apart x (h ▸ hx) hcurrent

/-- Writing a forest, tree by tree. -/
theorem Settled.put {f : Forest} (hp : p.Settled) (hf : Dom.Fits f p.dom) :
    Put f p (p.insertAll f) ∧ (p.insertAll f).Settled := by
  induction f generalizing p with
  | nil => exact ⟨.refl hp.sound, hp⟩
  | node i l c r _ ih =>
    obtain ⟨hfirst, hrest⟩ := hf.node
    have hput := hp.put_tree hfirst
    obtain ⟨hputs, hsettled⟩ := ih (hp.insertWritten hfirst) (hrest _ hput.grown)
    rw [insertAll_node]
    exact ⟨hput.trans hputs, hsettled⟩

end Put

/-! ## Taking back what was written -/

/-- The same document and the same place of writing. -/
structure Restored (p q : Page) : Prop where
  document : q.dom.document = p.dom.document
  current : q.current = p.current
  cursor : q.cursor = p.cursor

section TakingBack

variable {p : Page} {f : Forest} {e : NodeId}

/-- What was written and stays can be told from nothing, unless it went to a body that is out of the
document. -/
theorem Settled.restored_insertAll_iff (hp : p.Settled) (hf : Dom.Fits f p.dom) :
    Restored p (p.insertAll f) ↔ f.roots = [] ∨ p.place? = none ∧ ¬ p.Reaches := by
  obtain ⟨h, -⟩ := hp.put hf
  constructor
  · intro hq
    rcases List.eq_nil_or_concat' f.roots with hnil | ⟨front, j, hroots⟩
    · exact .inl hnil
    have hj : j ∈ f.ids := ids_of_roots (by simp [hroots])
    have hnew : j ∉ p.dom.ids := hf.new j hj
    refine .inr ⟨?_, fun hreach => ?_⟩
    · cases hplace : p.place? with
      | none => rfl
      | some x =>
        have hcursor : (p.insertAll f).cursor = some j := by simp [h.cursor, hplace, hroots]
        rw [hq.cursor] at hcursor
        exact (hnew (hp.cursor j hcursor)).elim
    · have hin : j ∈ (p.insertAll f).dom.document.ids :=
        (h.ids hreach).mem_iff.mpr (List.mem_append_right _ hj)
      rw [hq.document] at hin
      exact hnew (Dom.ids_subset (document_mem _) hin)
  · rintro (hnil | ⟨hplace, hmiss⟩)
    · cases f with
      | nil => exact ⟨rfl, rfl, rfl⟩
      | node => cases hnil
    · exact ⟨(h.misses hmiss).2, h.current, by simp [h.cursor, hplace]⟩

theorem hasParent_of_attached {d : Dom} (h : e ∈ d.document.ids) : d.hasParent e = true := by
  simp [Dom.hasParent, Dom.isAttached, contains, (isSome_find? _ _).mpr h]

theorem document_remove {q : Page} (he : e ∈ q.dom.document.ids) :
    (q.remove e).dom.document = q.dom.document.remove e := by
  simp [Page.remove, hasParent_of_attached he, Dom.detach, Dom.map]

theorem current_remove (q : Page) (e : NodeId) : (q.remove e).current = q.current := by
  unfold Page.remove
  split <;> rfl

/-- A node that goes with a tree and is not its root is the child of another one that does. -/
theorem parent_of_find? {d : Dom} (hd : d.Sound) {t : Forest} (h : d.document.find? e = some t)
    {j : NodeId} (hj : j ∈ t.ids) (hne : j ≠ e) : ∃ x ∈ t.ids, j ∈ d.kids (some x) := by
  have hdocument := hd.nodup_of_mem (document_mem d)
  have hperm := ids_remove hdocument h
  have ht : t.ids.Nodup := (List.nodup_append'.mp (hperm.nodup_iff.mpr hdocument)).2.1
  rcases root_or_kid ht hj with hroot | ⟨x, xs, hkids, hjx⟩
  · rw [(ids_subset_of_find? h).2, List.mem_singleton] at hroot
    exact (hne hroot).elim
  · have hx : x ∈ t.ids := (isSome_kids? t x).mp (by rw [hkids]; rfl)
    have hgone : x ∉ (d.document.remove e).ids := fun hx' =>
      (List.nodup_append'.mp (hperm.nodup_iff.mpr hdocument)).2.2 hx' hx
    have hfilter := kids?_remove hdocument e x
    rw [kids?_of_not_mem hgone, Option.none_or, h, Option.bind_some, hkids] at hfilter
    cases hall : d.document.kids? x with
    | none => simp [hall] at hfilter
    | some ys =>
      rw [hall, Option.map_some, Option.some.injEq] at hfilter
      refine ⟨x, hx, ?_⟩
      rw [hd.kids_of_mem (document_mem d) hall]
      rw [hfilter] at hjx
      exact (List.mem_filter.mp hjx).1

/-- Of all nodes only the one that was written, if it is the only one, gives the page back as it was. -/
theorem Settled.roots_of_restored (hp : p.Settled) (hf : Dom.Fits f p.dom)
    (he : e ∈ (p.insertAll f).dom.document.ids) (h : Restored p ((p.insertAll f).remove e)) :
    p.Reaches ∧ f.roots = [e] := by
  obtain ⟨hput, hsettled⟩ := hp.put hf
  have hdocument := hsettled.sound.dom.nodup_of_mem (document_mem _)
  obtain ⟨t, ht⟩ := Option.isSome_iff_exists.mp ((isSome_find? _ _).mpr he)
  have hperm := ids_remove hdocument ht
  have hback : (p.insertAll f).dom.document.remove e = p.dom.document := by
    rw [← document_remove he, h.document]
  rw [hback] at hperm
  have hte : e ∈ t.ids := (ids_subset_of_find? ht).1
  have hreach : p.Reaches := by
    by_contra hmiss
    rw [(hput.misses hmiss).2] at hperm
    have hlength := hperm.length_eq
    rw [List.length_append] at hlength
    have hpos : 0 < t.ids.length := List.length_pos_of_mem hte
    omega
  -- what goes is what came
  have hsame : t.ids.Perm f.ids :=
    (List.perm_append_left_iff _).mp (hperm.trans (hput.ids hreach))
  obtain ⟨P, hP⟩ := exists_target hp.sound
  have hroot : ∀ j ∈ f.roots, j = e := by
    intro j hj
    by_contra hne
    obtain ⟨x, hx, hjx⟩ := parent_of_find? hsettled.sound.dom ht
      (hsame.mem_iff.mpr (ids_of_roots hj)) hne
    have hparent := hsettled.sound.dom.parent_unique ((hput.target P hP).2.2 j hj) hjx
    have hhas := hP.has hp.sound
    rw [hparent] at hhas
    exact hf.new x (hsame.mem_iff.mp hx) hhas
  refine ⟨hreach, ?_⟩
  cases f with
  | nil => exact absurd (hsame.mem_iff.mp hte) List.not_mem_nil
  | node i l c r =>
    obtain rfl : i = e := hroot i List.mem_cons_self
    obtain ⟨-, hir, -⟩ := nodup_node hf.nodup
    have hrest : r.roots = [] := by
      refine List.eq_nil_iff_forall_not_mem.mpr fun j hj => hir ?_
      rw [← hroot j (List.mem_cons_of_mem _ hj)]
      exact ids_of_roots hj
    rw [roots, hrest]

theorem precedingIn_behind {x i : NodeId} {zs : List NodeId} (hx : x ∈ zs) (hi : i ∉ zs)
    (hzs : zs.Nodup) : precedingIn i (behind x [i] zs) = some x := by
  obtain ⟨front, back, rfl⟩ := List.append_of_mem hx
  have hfront : x ∉ front := fun h => (List.nodup_append'.mp hzs).2.2 h List.mem_cons_self
  simp only [List.mem_append, List.mem_cons, not_or] at hi
  rw [behind_append hfront, List.singleton_append, precedingIn_append hi.1 (Ne.symm hi.2.1)]

/-- A tree that is written stands right behind the place of writing. -/
theorem previous?_insertWritten {x : NodeId} {l : Label} {c : Forest} (hp : p.Sound)
    (ht : Dom.Fits (tree e l c) p.dom) (hplace : p.place? = some x) :
    (p.insertWritten e (tree e l c)).dom.previous? e = some x := by
  have hsound := hp.insertWritten ht e
  obtain ⟨P, hP⟩ := hp.dom.hasParent_iff.mp (place_eq_some hplace).2
  have hhas := (Dom.ids_of_kids hP).2
  have hkids : (p.dom.insertAfter x (tree e l c)).kids P = behind x [e] (p.dom.kids P) :=
    hp.dom.kids_insertAfter hhas (ht.not_parent hhas) x
  have hkid : e ∈ (p.dom.insertAfter x (tree e l c)).kids P := by
    rw [hkids, mem_behind]
    exact .inr ⟨hP, List.mem_singleton.mpr rfl⟩
  rw [insertWritten_of_place hplace] at hsound ⊢
  rw [hsound.dom.previous?_of_kid hkid, hkids]
  exact precedingIn_behind hP (fun h => old_root ht (Dom.ids_of_kids h).1) (hp.dom.nodup_kids P)

/-- The place of writing moves back to where it was. -/
theorem Settled.cursor_remove (hp : p.Settled) {l : Label} {c : Forest}
    (ht : Dom.Fits (tree e l c) p.dom)
    (he : (p.insertWritten e (tree e l c)).dom.hasParent e = true) :
    ((p.insertWritten e (tree e l c)).remove e).cursor = p.cursor := by
  rw [Page.remove, if_pos he]
  cases hplace : p.place? with
  | none =>
    have hother : p.cursor ≠ some e := fun h => old_root ht (hp.cursor e h)
    rw [insertWritten_of_no_place hplace]
    exact if_neg hother
  | some x =>
    obtain ⟨hx, -⟩ := place_eq_some hplace
    have hprevious := previous?_insertWritten hp.sound ht hplace
    rw [insertWritten_of_place hplace] at hprevious ⊢
    have hcursor : (if some e = some e then
        ((p.dom.insertAfter x (tree e l c)).previous? e).filter (some · != p.current) else some e) =
        p.cursor := by
      rw [if_pos rfl, hprevious, Option.filter_some]
      -- behind the script itself if nothing was written before
      cases hwritten : p.cursor with
      | none =>
        rw [hwritten, Option.none_or] at hx
        simp [hx]
      | some y =>
        obtain rfl : y = x := by simpa [hwritten] using hx
        have hapart : p.current ≠ some y := hp.apart y hwritten
        simp [Ne.symm hapart]
    exact hcursor

/-- A single tree that was written to the document and is taken out again leaves no trace there. -/
theorem Settled.restored_of_root (hp : p.Settled) (hf : Dom.Fits f p.dom) (hreach : p.Reaches)
    (hroots : f.roots = [e]) : Restored p ((p.insertAll f).remove e) := by
  obtain ⟨hput, -⟩ := hp.put hf
  obtain ⟨l, c, rfl⟩ : ∃ l c, f = tree e l c := by
    cases f with
    | nil => cases hroots
    | node i l c r =>
      cases r with
      | nil => exact ⟨l, c, by cases hroots; rfl⟩
      | node => cases hroots
  have hold : e ∉ p.dom.document.ids := fun h => old_root hf (Dom.ids_subset (document_mem _) h)
  have he : e ∈ (p.insertAll (tree e l c)).dom.document.ids :=
    (hput.ids hreach).mem_iff.mpr (List.mem_append_right _ List.mem_cons_self)
  refine ⟨?_, (current_remove _ e).trans hput.current,
    hp.cursor_remove hf (hasParent_of_attached he)⟩
  rw [document_remove he]
  show (p.insertWritten e (tree e l c)).dom.document.remove e = p.dom.document
  cases hplace : p.place? with
  | some x =>
    rw [insertWritten_of_place hplace]
    exact remove_insertAfter hold x l c
  | none =>
    rw [insertWritten_of_no_place hplace]
    exact remove_appendTo hold p.body l c

/-- **Taking back what was written.** -/
theorem Settled.restored_remove_iff (hp : p.Settled) (hf : Dom.Fits f p.dom)
    (he : e ∈ (p.insertAll f).dom.document.ids) :
    Restored p ((p.insertAll f).remove e) ↔ p.Reaches ∧ f.roots = [e] :=
  ⟨hp.roots_of_restored hf he, fun ⟨hreach, hroots⟩ => hp.restored_of_root hf hreach hroots⟩

end TakingBack

/-! ## Settled pages -/

section Keeping

variable {p q : Page}

theorem settled_open? {markup location userAgent compatMode : Text}
    (h : open? markup location userAgent compatMode = .ok p) : p.Settled := by
  have hsound := sound_open? h
  have hidle : p.Idle := by
    simp only [open?] at h
    split at h
    · cases h
    · split at h
      · cases h
        exact ⟨rfl, rfl⟩
      · cases h
  exact ⟨hsound, by simp [hidle.1], by simp [hidle.2], by simp [hidle.2]⟩

theorem settled_setCurrentScript (hp : p.Sound) {c : Option NodeId} (hc : ∀ x ∈ c, x ∈ p.dom.ids) :
    (p.setCurrentScript c).Settled :=
  ⟨⟨hp.dom, hp.body⟩, hc, nofun, nofun⟩

theorem Settled.stays (hp : p.Settled) {P : Option NodeId} {xs ys : List NodeId}
    (h : Stays P xs ys p q) : q.Settled where
  sound := h.sound hp.sound
  current x hx := h.dom.kept x (hp.current x (h.current ▸ hx))
  cursor x hx := h.dom.kept x (hp.cursor x (h.cursor ▸ hx))
  apart x hx := by
    rw [h.current]
    exact hp.apart x (h.cursor ▸ hx)

/-- The page whose identities up to `n` are used up. -/
def usedUp (p : Page) (n : NodeId) : Page := { p with dom := { p.dom with next := n } }

/-- Markup is read, and what it reads as is written tree by tree. -/
theorem write_eq_insertAll (p : Page) (markup : Text) :
    (p.write markup).2 = (p.usedUp (parseContents "body" p.dom.next markup).next).insertAll
      (parseContents "body" p.dom.next markup).forest := rfl

theorem Settled.read (hp : p.Settled) (markup : Text) :
    (p.usedUp (parseContents "body" p.dom.next markup).next).Settled ∧
      Dom.Fits (parseContents "body" p.dom.next markup).forest
        (p.usedUp (parseContents "body" p.dom.next markup).next).dom := by
  obtain ⟨hread, hfits⟩ := fits_written hp.sound.dom none markup
  exact ⟨hp.stays hread, hfits⟩

theorem mem_of_precedingIn {x y : NodeId} {zs : List NodeId} (h : precedingIn x zs = some y) :
    y ∈ zs := by
  induction zs with
  | nil => cases h
  | cons a zs ih =>
    cases zs with
    | nil => cases h
    | cons b zs =>
      rw [precedingIn] at h
      split at h
      · cases h
        exact List.mem_cons_self
      · exact List.mem_cons_of_mem a (ih h)

theorem Settled.remove (hp : p.Settled) (x : NodeId) : (p.remove x).Settled := by
  by_cases hparent : p.dom.hasParent x = true
  · rw [Page.remove, if_pos hparent]
    have hids {i : NodeId} (hi : i ∈ p.dom.ids) : i ∈ (p.dom.detach x).ids :=
      (hp.sound.dom.ids_detach x).mem_iff.mpr hi
    -- the new place of writing is a sibling or the old one
    have hcursor {y : NodeId} (hy : (if p.cursor = some x then
        (p.dom.previous? x).filter (some · != p.current) else p.cursor) = some y) :
        y ∈ p.dom.ids ∧ p.current ≠ some y := by
      split at hy
      · obtain ⟨hprevious, hapart⟩ := Option.filter_eq_some_iff.mp hy
        obtain ⟨P, hP⟩ := hp.sound.dom.hasParent_iff.mp hparent
        rw [hp.sound.dom.previous?_of_kid hP] at hprevious
        refine ⟨(Dom.ids_of_kids (mem_of_precedingIn hprevious)).1, fun h => ?_⟩
        simp [h] at hapart
      · exact ⟨hp.cursor y hy, hp.apart y hy⟩
    exact ⟨⟨hp.sound.dom.detach x, hids hp.sound.body⟩, fun y hy => hids (hp.current y hy),
      fun y hy => hids (hcursor hy).1, fun y hy => (hcursor hy).2⟩
  · rw [Page.remove, if_neg hparent]
    exact hp

/-- Every act leaves a settled page settled. -/
theorem Settled.act (hp : p.Settled) (a : Act) : (p.act a).Settled := by
  cases a with
  | write markup =>
    obtain ⟨hread, hfits⟩ := hp.read markup
    exact (hread.put hfits).2
  | writeScript src =>
    have hfresh := stays_fresh hp.sound.dom none (scriptLabel src)
    exact (hp.stays hfresh).insertWritten (hp.sound.dom.fits_fresh _)
  | appendScript src => exact hp.stays (stays_appendScript (P := none) hp.sound.dom trivial src)
  | appendStylesheet href =>
    exact hp.stays (stays_appendStylesheet (P := none) hp.sound.dom trivial href)
  | loadFrame url => exact hp.stays (stays_loadFrame (P := none) hp.sound.dom trivial url)
  | showGlass summary details =>
    exact hp.stays (stays_showGlass (P := none) hp.sound.dom trivial nofun)
  | remove x => exact hp.remove x

end Keeping

end Page

end PageBoot
