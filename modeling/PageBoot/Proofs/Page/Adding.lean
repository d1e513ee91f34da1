import PageBoot.Proofs.Page.Writing

/-!
Stylesheets and scripts that are added to a page in a row. `Joins` says that new nodes came in between
the children of one node, in order and without a gap, and that nothing else changed. Stylesheets join
the children of the head at the end (`joins_stylesheets`). Scripts join at the place of writing
(`Slot.writeAll`), which moves along behind them.
-/

namespace PageBoot

open Html Page

namespace Page

/-! ## Nodes that come in together -/

/-- Among the children of `P`, between `front` and `back`, the new nodes `new` came in, without children
of their own. -/
structure Joins (P : Option NodeId) (front back : List NodeId) (new : List (NodeId × Label))
    (d d' : Dom) : Prop where
  has : d.Has P
  before : d.kids P = front ++ back
  after : d'.kids P = front ++ new.map (·.1) ++ back
  others : ∀ Q, d.Has Q → Q ≠ P → d'.kids Q = d.kids Q
  childless : ∀ n ∈ new, d'.kids (some n.1) = []
  nodes : d'.nodes.Perm (d.nodes ++ new)

section Joins

variable {P : Option NodeId} {front back : List NodeId} {new new' : List (NodeId × Label)}
  {d d' d'' : Dom}

theorem Joins.refl (hP : d.Has P) (h : d.kids P = front ++ back) : Joins P front back [] d d where
  has := hP
  before := h
  after := by simpa using h
  others _ _ _ := rfl
  childless _ h := nomatch h
  nodes := by simp

theorem Joins.ids (h : Joins P front back new d d') : d'.ids.Perm (d.ids ++ new.map (·.1)) := by
  have hnodes := h.nodes.map (·.1)
  rwa [List.map_append, Dom.nodes, Dom.nodes, Dom.map_flatMap_nodes, Dom.map_flatMap_nodes] at hnodes

theorem Joins.kept (h : Joins P front back new d d') {i : NodeId} (hi : i ∈ d.ids) : i ∈ d'.ids :=
  h.ids.mem_iff.mpr (List.mem_append_left _ hi)

theorem Joins.keeps (h : Joins P front back new d d') {Q : Option NodeId} (hQ : d.Has Q) : d'.Has Q := by
  cases Q with
  | none => trivial
  | some x => exact h.kept hQ

theorem Joins.new_of_sound (h : Joins P front back new d d') (hd' : d'.Sound) {n : NodeId × Label}
    (hn : n ∈ new) : n.1 ∉ d.ids := by
  have hnodup := h.ids.nodup_iff.mp hd'.nodup
  exact fun hid => (List.nodup_append'.mp hnodup).2.2 hid (List.mem_map_of_mem hn)

/-- What joins behind others joins with them. -/
theorem Joins.trans (h : Joins P front back new d d') (hd' : d'.Sound)
    (h' : Joins P (front ++ new.map (·.1)) back new' d' d'') :
    Joins P front back (new ++ new') d d'' where
  has := h.has
  before := h.before
  after := by rw [h'.after, List.map_append, List.append_assoc front]
  others Q hQ hne := (h'.others Q (h.keeps hQ) hne).trans (h.others Q hQ hne)
  childless n hn := by
    rcases List.mem_append.mp hn with hn | hn
    · have hnew := h.new_of_sound hd' hn
      have hne : some n.1 ≠ P := by
        rintro rfl
        exact hnew h.has
      have hid : n.1 ∈ d'.ids := h.ids.mem_iff.mpr (List.mem_append_right _ (List.mem_map_of_mem hn))
      rw [h'.others (some n.1) hid hne, h.childless n hn]
    · exact h'.childless n hn
  nodes := by
    rw [← List.append_assoc]
    exact h'.nodes.trans (h.nodes.append_right new')

/-- Whoever has a parent after others joined had one before or joined. -/
theorem Joins.hasParent (h : Joins P front back new d d') (hd : d.Sound) (hd' : d'.Sound) {y : NodeId}
    (hy : d'.hasParent y = true) : d.hasParent y = true ∨ y ∈ new.map (·.1) := by
  obtain ⟨Q, hkid⟩ := hd'.hasParent_iff.mp hy
  by_cases hP : Q = P
  · subst hP
    rw [h.after] at hkid
    simp only [List.mem_append] at hkid
    rcases hkid with (hkid | hkid) | hkid
    · exact .inl (hd.hasParent_of_kid (by rw [h.before]; exact List.mem_append_left _ hkid))
    · exact .inr hkid
    · exact .inl (hd.hasParent_of_kid (by rw [h.before]; exact List.mem_append_right _ hkid))
  · cases Q with
    | none => exact .inl (hd.hasParent_of_kid (h.others none trivial hP ▸ hkid))
    | some x =>
      have hx := (Dom.ids_of_kids hkid).2
      rcases List.mem_append.mp (h.ids.mem_iff.mp hx) with hx | hx
      · exact .inl (hd.hasParent_of_kid (h.others (some x) hx hP ▸ hkid))
      · obtain ⟨n, hn, rfl⟩ := List.mem_map.mp hx
        rw [h.childless n hn] at hkid
        cases hkid

/-- A new node goes to the end of the children of `x`. -/
theorem joins_appendTo (hd : d.Sound) {x : NodeId} (hx : x ∈ d.ids) (l : Label) :
    Joins (some x) (d.kids (some x)) [] [(d.next, l)] d ((d.fresh l).2.appendTo x (d.fresh l).1) := by
  have hhas : d.Has (some x) := hx
  have hlater : (d.fresh l).2.Sound := hd.later (Nat.le_succ d.next)
  have hadded {Q : Option NodeId} (hQ : d.Has Q) := hd.flanked_fresh hQ l x
  refine ⟨hhas, (List.append_nil _).symm, ?_, fun Q hQ hne => ?_, fun n hn => ?_, ?_⟩
  · rw [(hadded hhas).kids, if_pos rfl]
    simp
  · rw [(hadded hQ).kids, if_neg hne]
    simp
  · obtain rfl := List.mem_singleton.mp hn
    have hnew : d.next ∉ d.ids := fun h => Nat.lt_irrefl _ (hd.bounded _ h)
    exact hlater.kids_new (hadded hhas).sound hx hnew fun f hf hx hy =>
      (Forest.kids?_appendTo_new hf hx hy _).trans (Forest.kids?_self d.next l .nil .nil)
  · exact hlater.nodes_appendTo hx _

/-- A new node goes right behind a child `a` of `P`. -/
theorem joins_insertAfter (hd : d.Sound) {a : NodeId} (h : d.kids P = front ++ a :: back) (l : Label) :
    Joins P (front ++ [a]) back [(d.next, l)] d ((d.fresh l).2.insertAfter a (d.fresh l).1) := by
  have hlater {Q : Option NodeId} : Dom.Flanked Q [] [] d (d.fresh l).2 :=
    hd.flanked_later (Nat.le_succ d.next)
  have hsound : (d.fresh l).2.Sound := (hlater (Q := none)).sound
  have hadded {Q : Option NodeId} (hQ : d.Has Q) :
      ((d.fresh l).2.insertAfter a (d.fresh l).1).kids Q = Forest.behind a [d.next] (d.kids Q) := by
    have hsame : (d.fresh l).2.kids Q = d.kids Q := by simpa using (hlater (Q := Q)).kids
    rw [hsound.kids_insertAfter (hlater.has hQ) ((hd.fits_fresh l).not_parent (hlater.has hQ)), hsame]
    rfl
  have ha : a ∈ d.kids P := by simp [h]
  obtain ⟨hids, hP⟩ := Dom.ids_of_kids ha
  refine ⟨hP, by simp [h], ?_, fun Q hQ hne => ?_, fun n hn => ?_, ?_⟩
  · rw [hadded hP, h, Forest.behind_append (hd.not_before h)]
    simp
  · have hnot : a ∉ d.kids Q := fun hQ => hne (hd.parent_unique hQ ha)
    rw [hadded hQ, Forest.behind_of_not_mem hnot]
  · obtain rfl := List.mem_singleton.mp hn
    have hnew : d.next ∉ d.ids := fun h => Nat.lt_irrefl _ (hd.bounded _ h)
    exact hsound.kids_new (hsound.insertAfter (hd.fits_fresh l) a).sound hids hnew fun f hf hx hy =>
      (Forest.kids?_insertAfter_new hf hx hy _).trans (Forest.kids?_self d.next l .nil .nil)
  · exact hsound.nodes_insertAfter hids _

end Joins

/-! ## Framed pages -/

/-- A sound page whose head is there. -/
structure Framed (p : Page) : Prop extends Sound p where
  head : p.head ∈ p.dom.ids

/-- The head is the same, and no node is lost. -/
structure Keeps (p p' : Page) : Prop where
  head : p'.head = p.head
  kept : ∀ i ∈ p.dom.ids, i ∈ p'.dom.ids

theorem Stays.keeps {P : Option NodeId} {xs ys : List NodeId} {p p' : Page} (h : Stays P xs ys p p') :
    Keeps p p' := ⟨h.head, h.dom.kept⟩

theorem Keeps.trans {p p' p'' : Page} (h : Keeps p p') (h' : Keeps p' p'') : Keeps p p'' :=
  ⟨h'.head.trans h.head, fun i hi => h'.kept i (h.kept i hi)⟩

theorem keeps_insertWritten {p : Page} (hp : p.dom.Sound) {t : Forest} (ht : Dom.Fits t p.dom)
    (id : NodeId) : Keeps p (p.insertWritten id t) := by
  refine ⟨?_, (grown_insertWritten hp ht id).kept⟩
  unfold insertWritten
  split <;> rfl

theorem keeps_insertAll {p : Page} (hp : p.dom.Sound) {f : Forest} (hf : Dom.Fits f p.dom) :
    Keeps p (p.insertAll f) := by
  induction f generalizing p with
  | nil => exact ⟨rfl, fun _ hi => hi⟩
  | node i l c r _ ih =>
    obtain ⟨hfirst, hrest⟩ := hf.node
    have hgrown := grown_insertWritten hp hfirst i
    rw [insertAll_node]
    exact (keeps_insertWritten hp hfirst i).trans (ih hgrown.sound (hrest _ hgrown))

theorem keeps_act {p : Page} (hp : p.dom.Sound) (a : Act) : Keeps p (p.act a) := by
  cases a with
  | write markup =>
    obtain ⟨hread, hfits⟩ := fits_written hp none markup
    exact hread.keeps.trans (keeps_insertAll hread.dom.sound hfits)
  | writeScript src =>
    have hfresh := stays_fresh hp none (scriptLabel src)
    exact hfresh.keeps.trans (keeps_insertWritten hfresh.dom.sound (hp.fits_fresh _) p.dom.next)
  | appendScript src => exact (stays_appendScript (P := none) hp trivial src).keeps
  | appendStylesheet href => exact (stays_appendStylesheet (P := none) hp trivial href).keeps
  | loadFrame url => exact (stays_loadFrame (P := none) hp trivial url).keeps
  | showGlass summary details => exact (stays_showGlass (P := none) hp trivial nofun).keeps
  | remove x =>
    simp only [Page.act, Page.remove]
    split
    · exact ⟨rfl, fun i hi => (hp.ids_detach x).mem_iff.mpr hi⟩
    · exact ⟨rfl, fun _ hi => hi⟩

theorem Framed.act {p : Page} (hp : p.Framed) (a : Act) : (p.act a).Framed := by
  obtain ⟨hhead, hkept⟩ := keeps_act hp.dom a
  exact ⟨hp.toSound.act a, hhead ▸ hkept _ hp.head⟩

theorem framed_open? {markup location userAgent compatMode : Text} {p : Page}
    (h : open? markup location userAgent compatMode = .ok p) : p.Framed := by
  refine ⟨sound_open? h, ?_⟩
  simp only [open?] at h
  split at h
  · cases h
  · split at h
    · next head body hhead _ =>
      cases h
      exact List.mem_append_left _ (ids_of_findTag? hhead)
    · cases h

/-! ## Stylesheets -/

def stylesheetLabel (href : Text) : Label := .element "link" [("rel", "stylesheet"), ("href", href)]

/-- Adds resources in order. -/
def addAll (add : Page → Text → Page) (p : Page) (urls : List Text) : Page := urls.foldl add p

def addStylesheet (p : Page) (href : Text) : Page := (p.appendStylesheet href).2

def addScript (p : Page) (src : Text) : Page := (p.writeScript src).2

/-- Stylesheets go to the end of the head. -/
theorem joins_stylesheets {p : Page} (hp : p.Framed) (hrefs : List Text) :
    (addAll addStylesheet p hrefs).Framed ∧ ∃ new, new.map (·.2) = hrefs.map stylesheetLabel ∧
      Joins (some p.head) (p.dom.kids (some p.head)) [] new p.dom (addAll addStylesheet p hrefs).dom := by
  induction hrefs generalizing p with
  | nil => exact ⟨hp, [], rfl, .refl hp.head (List.append_nil _).symm⟩
  | cons href hrefs ih =>
    have hone := joins_appendTo hp.dom hp.head (stylesheetLabel href)
    obtain ⟨hframed, new, hlabels, hrest⟩ := ih (hp.act (.appendStylesheet href))
    have hkids : (p.addStylesheet href).dom.kids (some p.head) =
        p.dom.kids (some p.head) ++ [p.dom.next] := by
      rw [← List.append_nil (_ ++ [p.dom.next])]
      exact hone.after
    refine ⟨hframed, (p.dom.next, stylesheetLabel href) :: new, by simp [hlabels], ?_⟩
    exact hone.trans (hp.act (.appendStylesheet href)).dom (hkids ▸ hrest)

/-! ## Scripts -/

/-- The node behind which markup is written. -/
def place? (p : Page) : Option NodeId := (p.cursor.or p.current).filter p.dom.hasParent

/-- What is written next goes between `front` and `back` among the children of `P`: right behind the
last node of `front` if there is a place of writing, and to the end of the body if there is none. -/
structure Slot (P : Option NodeId) (front back : List NodeId) (p : Page) : Prop where
  has : p.dom.Has P
  kids : p.dom.kids P = front ++ back
  place : (∃ a, p.place? = some a ∧ front.getLast? = some a) ∨
    p.place? = none ∧ P = some p.body ∧ back = []

theorem exists_slot {p : Page} (hp : p.Sound) : ∃ P front back, Slot P front back p := by
  cases hplace : p.place? with
  | none =>
    exact ⟨some p.body, _, [], hp.body, (List.append_nil _).symm, .inr ⟨hplace, rfl, rfl⟩⟩
  | some a =>
    obtain ⟨P, ha⟩ := hp.dom.hasParent_iff.mp (Option.filter_eq_some_iff.mp hplace).2
    obtain ⟨front, back, hkids⟩ := List.append_of_mem ha
    exact ⟨P, front ++ [a], back, (Dom.ids_of_kids ha).2, by simp [hkids],
      .inl ⟨a, hplace, by simp⟩⟩

theorem addScript_of_place {p : Page} {a : NodeId} (h : p.place? = some a) (src : Text) :
    p.addScript src = { p with
      dom := (p.dom.fresh (scriptLabel src)).2.insertAfter a (p.dom.fresh (scriptLabel src)).1
      cursor := some p.dom.next } := by
  have hplace : (p.cursor.or p.current).filter (p.dom.fresh (scriptLabel src)).2.hasParent = some a := h
  simp only [addScript, writeScript, insertWritten, hplace]

theorem addScript_of_no_place {p : Page} (h : p.place? = none) (src : Text) :
    p.addScript src = { p with
      dom := (p.dom.fresh (scriptLabel src)).2.appendTo p.body (p.dom.fresh (scriptLabel src)).1 } := by
  have hplace : (p.cursor.or p.current).filter (p.dom.fresh (scriptLabel src)).2.hasParent = none := h
  simp only [addScript, writeScript, insertWritten, hplace]

/-- A script that is written joins at the place of writing, which is behind it then. -/
theorem Slot.write {P : Option NodeId} {front back : List NodeId} {p : Page} (h : Slot P front back p)
    (hp : p.Framed) (src : Text) :
    Joins P front back [(p.dom.next, scriptLabel src)] p.dom (p.addScript src).dom ∧
      Slot P (front ++ [p.dom.next]) back (p.addScript src) := by
  have hsound' : (p.addScript src).dom.Sound := (hp.act (.writeScript src)).dom
  rcases h.place with ⟨a, hplace, hlast⟩ | ⟨hplace, rfl, rfl⟩
  · obtain ⟨front, rfl⟩ := List.getLast?_eq_some_iff.mp hlast
    have hpage := addScript_of_place hplace src
    have hjoins : Joins P (front ++ [a]) back [(p.dom.next, scriptLabel src)] p.dom
        (p.addScript src).dom := by
      rw [hpage]
      exact joins_insertAfter hp.dom (by simp [h.kids]) _
    refine ⟨hjoins, hjoins.keeps h.has, hjoins.after, .inl ⟨p.dom.next, ?_, by simp⟩⟩
    have hparent : (p.addScript src).dom.hasParent p.dom.next = true :=
      hsound'.hasParent_of_kid (P := P) (by simp [hjoins.after])
    have hcursor : (p.addScript src).cursor = some p.dom.next := by rw [hpage]
    rw [place?, hcursor, Option.some_or, Option.filter_some, if_pos hparent]
  · have hpage := addScript_of_no_place hplace src
    have hfront : p.dom.kids (some p.body) = front := by simpa using h.kids
    have hjoins : Joins (some p.body) front [] [(p.dom.next, scriptLabel src)] p.dom
        (p.addScript src).dom := by
      rw [hpage, ← hfront]
      exact joins_appendTo hp.dom hp.body _
    refine ⟨hjoins, hjoins.keeps h.has, hjoins.after, ?_⟩
    cases hnext : (p.addScript src).place? with
    | none => exact .inr ⟨rfl, by rw [hpage], rfl⟩
    | some y =>
      -- only the new script can have got a parent
      obtain ⟨hy, hparent⟩ := Option.filter_eq_some_iff.mp hnext
      rcases hjoins.hasParent hp.dom hsound' hparent with hbefore | hnew
      · have hsame : p.cursor.or p.current = some y := by
          rw [hpage] at hy
          exact hy
        rw [place?, hsame, Option.filter_some, if_pos hbefore] at hplace
        cases hplace
      · obtain rfl : y = p.dom.next := by simpa using hnew
        exact .inl ⟨_, rfl, by simp⟩

/-- Scripts join at the place of writing, one behind the other. -/
theorem Slot.writeAll {P : Option NodeId} {front back : List NodeId} {p : Page}
    (h : Slot P front back p) (hp : p.Framed) (srcs : List Text) :
    (addAll addScript p srcs).Framed ∧ ∃ new, new.map (·.2) = srcs.map scriptLabel ∧
      Joins P front back new p.dom (addAll addScript p srcs).dom := by
  induction srcs generalizing p front with
  | nil => exact ⟨hp, [], rfl, .refl h.has h.kids⟩
  | cons src srcs ih =>
    obtain ⟨hone, hnext⟩ := h.write hp src
    obtain ⟨hframed, new, hlabels, hrest⟩ := ih hnext (hp.act (.writeScript src))
    exact ⟨hframed, (p.dom.next, scriptLabel src) :: new, by simp [hlabels],
      hone.trans (hp.act (.writeScript src)).dom hrest⟩

end Page

end PageBoot
