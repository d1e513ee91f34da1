import PageBoot.Page.Glass
import PageBoot.Page.Write
import PageBoot.Proofs.Page.Nodes

/-!
Where written markup ends up. While a script runs, its following siblings are the nodes that were
written since it started, in the order of writing, and then all others in their own order: `Writing`
says so, and `Writing.act` that everything a script can do to the page keeps it so, with `Ledger` as
the account of who was written, appended and removed. The one thing that moves the script itself is an
overlay whose title replaces the element that the script is in.
-/

namespace PageBoot

open Html Page

namespace Page

/-! ## What a script does to its page -/

inductive Act where
  | write (markup : Text)
  | writeScript (src : Text)
  | appendScript (src : Text)
  | appendStylesheet (href : Text)
  | loadFrame (url : Text)
  | showGlass (summary details : Text)
  | remove (id : NodeId)

def act (p : Page) : Act → Page
  | .write markup => (p.write markup).2
  | .writeScript src => (p.writeScript src).2
  | .appendScript src => (p.appendScript src).2
  | .appendStylesheet href => (p.appendStylesheet href).2
  | .loadFrame url => p.loadFrame url
  | .showGlass summary details => p.showGlass summary details
  | .remove id => p.remove id

/-- The top-level nodes that an act writes, in order. -/
def written (p : Page) : Act → List NodeId
  | .write markup => (parseContents "body" p.dom.next markup).forest.roots
  | .writeScript _ => [p.dom.next]
  | _ => []

/-- The nodes that an act appends to the children of `P`, in order. -/
def appended (p : Page) (P : Option NodeId) : Act → List NodeId
  | .appendScript _ => if P = some p.body then [p.dom.next] else []
  | .appendStylesheet _ => if P = some p.head then [p.dom.next] else []
  | .showGlass summary details =>
    let covered := p.overlaid summary details
    (if P = some p.body then (p.overlayTree summary details).1.roots else []) ++
      if P = some p.head ∧ covered.titleElement? = none then [covered.dom.next] else []
  | _ => []

/-- Whether an act leaves a node among its siblings. -/
def Act.keeps : Act → NodeId → Bool
  | .remove x, y => y ≠ x
  | _, _ => true

/-- The following siblings of a running script. -/
structure Ledger where
  /-- Nodes written since the script started. -/
  written : List NodeId := []
  others : List NodeId
  deriving DecidableEq, Repr

def Ledger.enter (P : Option NodeId) (p : Page) (l : Ledger) (a : Act) : Ledger where
  written := (l.written ++ p.written a).filter a.keeps
  others := (l.others ++ p.appended P a).filter a.keeps

/-- The act does not take the script `c` out of `P`: it is neither removed nor among the children
that a new title replaces. -/
def Spares (c : NodeId) (P : Option NodeId) (p : Page) : Act → Prop
  | .remove x => x ≠ c
  | .showGlass summary details => ∀ t ∈ (p.overlaid summary details).titleElement?, P ≠ some t
  | _ => True

instance (c : NodeId) (P : Option NodeId) (p : Page) : DecidablePred (Spares c P p)
  | .remove x => inferInstanceAs (Decidable (x ≠ c))
  | .showGlass summary details =>
    inferInstanceAs (Decidable (∀ t ∈ (p.overlaid summary details).titleElement?, P ≠ some t))
  | .write _ | .writeScript _ | .appendScript _ | .appendStylesheet _ | .loadFrame _ => .isTrue trivial

/-! ## Sound pages -/

/-- Every identity is there once, and the body is there. -/
structure Sound (p : Page) : Prop where
  dom : p.dom.Sound
  body : p.body ∈ p.dom.ids

theorem ids_of_findTag? {f : Forest} {tag : Text} {x : NodeId} (h : f.findTag? tag = some x) :
    x ∈ f.ids := by
  rw [← f.map_nodes]
  simp only [Forest.findTag?, Option.map_eq_some_iff] at h
  obtain ⟨n, hn, rfl⟩ := h
  exact List.mem_map_of_mem (List.mem_of_find?_eq_some hn)

theorem sound_open? {markup location userAgent compatMode : Text} {p : Page}
    (h : open? markup location userAgent compatMode = .ok p) : p.Sound := by
  simp only [open?] at h
  split at h
  · cases h
  · split at h
    · next head body _ hbody =>
      cases h
      obtain ⟨-, hnodup, hbounds⟩ := Forest.number_ids _ 1
      have hids (d : Forest) (n : Nat) : (Dom.mk d [] n).ids = d.ids := List.append_nil _
      refine ⟨⟨?_, ?_⟩, ?_⟩
      · rw [hids]
        exact hnodup
      · rw [hids]
        exact fun i hi => (hbounds i hi).2
      · rw [hids]
        exact ids_of_findTag? hbody
    · cases h

/-! ## Acts that keep the place of writing -/

/-- `P` gets the children `xs` in front and `ys` at the end, and the place of writing is kept. -/
structure Stays (P : Option NodeId) (xs ys : List NodeId) (p p' : Page) : Prop where
  dom : Dom.Flanked P xs ys p.dom p'.dom
  head : p'.head = p.head
  body : p'.body = p.body
  current : p'.current = p.current
  cursor : p'.cursor = p.cursor

section Stays

variable {P : Option NodeId} {xs ys xs' ys' : List NodeId} {p p' p'' : Page}

theorem Stays.trans (h : Stays P xs ys p p') (h' : Stays P xs' ys' p' p'') :
    Stays P (xs' ++ xs) (ys ++ ys') p p'' where
  dom := h.dom.trans h'.dom
  head := h'.head.trans h.head
  body := h'.body.trans h.body
  current := h'.current.trans h.current
  cursor := h'.cursor.trans h.cursor

theorem Stays.refl (hp : p.dom.Sound) : Stays P [] [] p p where
  dom := ⟨hp, fun _ hi => hi, by simp⟩
  head := rfl
  body := rfl
  current := rfl
  cursor := rfl

theorem Stays.sound (h : Stays P xs ys p p') (hp : p.Sound) : p'.Sound :=
  ⟨h.dom.sound, h.body ▸ h.dom.kept _ hp.body⟩

theorem stays_appendScript (hp : p.dom.Sound) (hP : p.dom.Has P) (src : Text) :
    Stays P [] (p.appended P (.appendScript src)) p (p.appendScript src).2 :=
  ⟨hp.flanked_fresh hP _ _, rfl, rfl, rfl, rfl⟩

theorem stays_appendStylesheet (hp : p.dom.Sound) (hP : p.dom.Has P) (href : Text) :
    Stays P [] (p.appended P (.appendStylesheet href)) p (p.appendStylesheet href).2 :=
  ⟨hp.flanked_fresh hP _ _, rfl, rfl, rfl, rfl⟩

theorem stays_mergeStyle (hp : p.dom.Sound) (x : NodeId) (s : Style) :
    Stays P [] [] p (p.mergeStyle x s) :=
  ⟨hp.flanked_relabel x _, rfl, rfl, rfl, rfl⟩

theorem stays_stopScrolling (hp : p.dom.Sound) : Stays P [] [] p p.stopScrolling := by
  unfold stopScrolling
  split
  · exact stays_mergeStyle hp _ _
  · split
    · exact stays_mergeStyle hp _ _
    · exact .refl hp

theorem stays_loadFrame (hp : p.dom.Sound) (hP : p.dom.Has P) (url : Text) :
    Stays P (if P = some p.body then [p.dom.next] else []) [] p (p.loadFrame url) := by
  refine ⟨?_, rfl, rfl, rfl, rfl⟩
  have hlater : Dom.Flanked P [] [] p.dom { p.dom with next := p.dom.next + 1 } :=
    hp.flanked_later (Nat.le_succ _)
  have hstyled (k : Label → Label) := (hlater.sound.flanked_relabel p.body k).after hlater
  have hfits (l : Label) (k : Label → Label) := (hp.fits_fresh l).relabel p.body k
  exact ((hstyled _).sound.flanked_prependTo ((hstyled _).has hP) (hfits _ _) p.body).after (hstyled _)

theorem fits_glassTree (hp : p.dom.Sound) {f : Forest} (hf : Dom.Fits f p.dom) (summary : Text) :
    Dom.Fits (p.glassTree summary f).1 (p.glassTree summary f).2 := by
  obtain ⟨hnodup, hnew, hbounded⟩ := hf
  let frame (n : Nat) : List Nat := [n + 5, n + 1, n + 4, n + 2, n, n + 3]
  have hframe {n i : Nat} (hi : i ∈ frame n) : n ≤ i ∧ i < n + 6 := by
    simp [frame] at hi
    omega
  have hids : (p.glassTree summary f).1.ids = frame p.dom.next ++ f.ids := by
    simp [frame, glassTree, Dom.fresh, Forest.tree, Forest.ids]
  refine ⟨?_, fun i hi => ?_, fun i hi => ?_⟩
  · rw [hids]
    refine List.nodup_append'.mpr ⟨by simp [frame], hnodup, fun i hi hif => ?_⟩
    exact Nat.not_lt.mpr (hframe hi).1 (hbounded i hif)
  · rw [hids] at hi
    rcases List.mem_append.mp hi with hi | hi
    · exact fun hid => Nat.not_lt.mpr (hframe hi).1 (hp.bounded i hid)
    · exact hnew i hi
  · rw [hids] at hi
    rcases List.mem_append.mp hi with hi | hi
    · exact (hframe hi).2
    · exact Nat.lt_add_right 6 (hbounded i hi)

theorem flanked_overlayTree (hp : p.dom.Sound) (P : Option NodeId) (summary details : Text) :
    Dom.Fits (p.overlayTree summary details).1 (p.overlayTree summary details).2 ∧
      Dom.Flanked P [] [] p.dom (p.overlayTree summary details).2 := by
  obtain ⟨hle, hfits⟩ : p.dom.next ≤ (parseContents "p" p.dom.next details).next ∧ _ :=
    hp.fits_ofForest _
  have hread := hp.flanked_later (P := P) hle
  exact ⟨fits_glassTree (p := { p with dom := { p.dom with next := _ } }) hread.sound hfits summary,
    (hread.sound.flanked_later (Nat.le_add_right _ 6)).after hread⟩

/-- An overlay goes to the end of the body. -/
theorem stays_overlaid (hp : p.dom.Sound) (hP : p.dom.Has P) (summary details : Text) :
    Stays P [] (if P = some p.body then (p.overlayTree summary details).1.roots else []) p
      (p.overlaid summary details) := by
  obtain ⟨htree, hlater⟩ := flanked_overlayTree hp P summary details
  have hcovered := (hlater.sound.flanked_appendTo (hlater.has hP) htree p.body).after hlater
  obtain ⟨hstyled, hhead, hbody, hcurrent, hcursor⟩ := stays_stopScrolling (P := P)
    (p := { p with dom := (p.overlayTree summary details).2.appendTo p.body _ }) hcovered.sound
  exact ⟨by simpa [overlaid] using hcovered.trans hstyled, hhead, hbody, hcurrent, hcursor⟩

/-- A new title is the only child of the title element, which is new itself if there was none. -/
theorem stays_setTitle (hp : p.dom.Sound) (hP : p.dom.Has P)
    (htitle : ∀ t ∈ p.titleElement?, P ≠ some t) (title : Text) :
    Stays P [] (if P = some p.head ∧ p.titleElement? = none then [p.dom.next] else []) p
      (p.setTitle title) := by
  refine ⟨?_, rfl, rfl, rfl, rfl⟩
  have hensured : P ≠ some p.ensureTitle.1 ∧
      Dom.Flanked P [] (if P = some p.head ∧ p.titleElement? = none then [p.dom.next] else []) p.dom
        p.ensureTitle.2 := by
    unfold ensureTitle
    cases ht : p.titleElement? with
    | some t =>
      simp only [reduceCtorEq, and_false, if_false]
      exact ⟨htitle t ht, (Stays.refl hp).dom⟩
    | none =>
      simp only [and_true]
      refine ⟨?_, hp.flanked_fresh hP _ _⟩
      rintro rfl
      exact Nat.lt_irrefl _ (hp.bounded _ hP)
  obtain ⟨hother, hensured⟩ := hensured
  have hcleared := hensured.trans (hensured.sound.flanked_clear hother)
  have hfilled := hcleared.trans
    (hcleared.sound.flanked_fresh (hcleared.has hP) (.text title) p.ensureTitle.1)
  rw [if_neg hother] at hfilled
  simpa [setTitle] using hfilled

theorem stays_showGlass (hp : p.dom.Sound) (hP : p.dom.Has P) {summary details : Text}
    (htitle : ∀ t ∈ (p.overlaid summary details).titleElement?, P ≠ some t) :
    Stays P [] (p.appended P (.showGlass summary details)) p (p.showGlass summary details) := by
  have hcovered := stays_overlaid hp hP summary details
  have htitled := stays_setTitle hcovered.dom.sound (hcovered.dom.has hP) htitle
    (summary ++ " [" ++ (p.overlaid summary details).title ++ "]")
  rw [hcovered.head] at htitled
  exact hcovered.trans htitled

end Stays

/-! ## Writing -/

theorem insertAll_node (p : Page) (i : NodeId) (l : Label) (c r : Forest) :
    p.insertAll (.node i l c r) = (p.insertWritten i (.tree i l c)).insertAll r := rfl

theorem insertWritten_eq (p : Page) (id : NodeId) (t : Forest) :
    ∃ dom cursor, p.insertWritten id t = { p with dom, cursor } := by
  unfold insertWritten
  split <;> exact ⟨_, _, rfl⟩

/-- What is written changes nodes and the place of writing, and nothing else of a page. -/
theorem insertAll_eq (p : Page) (f : Forest) :
    ∃ dom cursor, p.insertAll f = { p with dom, cursor } := by
  unfold insertAll
  generalize f.roots.zip f.trees = ts
  induction ts generalizing p with
  | nil => exact ⟨_, _, rfl⟩
  | cons x ts ih =>
    obtain ⟨dom, cursor, hfirst⟩ := p.insertWritten_eq x.1 x.2
    obtain ⟨dom', cursor', hrest⟩ := ih (p.insertWritten x.1 x.2)
    exact ⟨dom', cursor', by rw [List.foldl_cons, hrest, hfirst]⟩

theorem write_eq (p : Page) (markup : Text) : ∃ dom cursor, (p.write markup).2 = { p with dom, cursor } :=
  insertAll_eq { p with dom := { p.dom with next := (parseContents "body" p.dom.next markup).next } } _

theorem grown_insertWritten {p : Page} (hp : p.dom.Sound) {t : Forest} (ht : Dom.Fits t p.dom)
    (id : NodeId) : Dom.Grown t p.dom (p.insertWritten id t).dom := by
  unfold insertWritten
  split
  · exact hp.insertAfter ht _
  · exact hp.appendTo ht _

theorem Sound.insertWritten {p : Page} (hp : p.Sound) {t : Forest} (ht : Dom.Fits t p.dom)
    (id : NodeId) : (p.insertWritten id t).Sound := by
  have hgrown := grown_insertWritten hp.dom ht id
  have hbody : (p.insertWritten id t).body = p.body := by
    unfold Page.insertWritten
    split <;> rfl
  exact ⟨hgrown.sound, hbody ▸ hgrown.kept _ hp.body⟩

theorem Sound.insertAll {p : Page} (hp : p.Sound) {f : Forest} (hf : Dom.Fits f p.dom) :
    (p.insertAll f).Sound := by
  induction f generalizing p with
  | nil => exact hp
  | node i l c r _ ih =>
    obtain ⟨hfirst, hrest⟩ := hf.node
    rw [insertAll_node]
    exact ih (hp.insertWritten hfirst i) (hrest _ (grown_insertWritten hp.dom hfirst i))

/-- Without a running script there is no place of writing but the end of the body. -/
def Idle (p : Page) : Prop := p.current = none ∧ p.cursor = none

theorem Stays.idle {P : Option NodeId} {xs ys : List NodeId} {p p' : Page} (h : Stays P xs ys p p')
    (hidle : p.Idle) : p'.Idle :=
  ⟨h.current.trans hidle.1, h.cursor.trans hidle.2⟩

theorem stays_insertWritten {p : Page} (hidle : p.Idle) (hp : p.Sound) {t : Forest}
    (ht : Dom.Fits t p.dom) (id : NodeId) :
    Stays (some p.body) [] t.roots p (p.insertWritten id t) := by
  have hinsert : p.insertWritten id t = { p with dom := p.dom.appendTo p.body t } := by
    simp [insertWritten, hidle.1, hidle.2]
  have happend := hp.dom.flanked_appendTo (P := some p.body) hp.body ht p.body
  rw [if_pos rfl] at happend
  rw [hinsert]
  exact ⟨happend, rfl, rfl, rfl, rfl⟩

theorem stays_insertAll {p : Page} (hidle : p.Idle) (hp : p.Sound) {f : Forest} (hf : Dom.Fits f p.dom) :
    Stays (some p.body) [] f.roots p (p.insertAll f) := by
  induction f generalizing p with
  | nil => exact .refl hp.dom
  | node i l c r _ ih =>
    obtain ⟨hfirst, hrest⟩ := hf.node
    have hone := stays_insertWritten hidle hp hfirst i
    have hothers := ih (hone.idle hidle) (hone.sound hp) (hrest _ (grown_insertWritten hp.dom hfirst i))
    rw [hone.body] at hothers
    exact hone.trans hothers

/-- What is written is new to the page. -/
theorem fits_written {p : Page} (hp : p.dom.Sound) (P : Option NodeId) (markup : Text) :
    let new := parseContents "body" p.dom.next markup
    Stays P [] [] p { p with dom := { p.dom with next := new.next } } ∧
      Dom.Fits new.forest { p.dom with next := new.next } := by
  obtain ⟨hle, hfits⟩ : p.dom.next ≤ (parseContents "body" p.dom.next markup).next ∧ _ :=
    hp.fits_ofForest _
  exact ⟨⟨hp.flanked_later hle, rfl, rfl, rfl, rfl⟩, hfits⟩

theorem stays_fresh {p : Page} (hp : p.dom.Sound) (P : Option NodeId) (l : Label) :
    Stays P [] [] p { p with dom := (p.dom.fresh l).2 } :=
  ⟨hp.flanked_later (Nat.le_succ _), rfl, rfl, rfl, rfl⟩

theorem stays_write {p : Page} (hidle : p.Idle) (hp : p.Sound) (markup : Text) :
    Stays (some p.body) [] (p.written (.write markup)) p (p.act (.write markup)) := by
  obtain ⟨hread, hfits⟩ := fits_written hp.dom (some p.body) markup
  exact hread.trans (stays_insertAll (hread.idle hidle) (hread.sound hp) hfits)

theorem stays_writeScript {p : Page} (hidle : p.Idle) (hp : p.Sound) (src : Text) :
    Stays (some p.body) [] (p.written (.writeScript src)) p (p.act (.writeScript src)) := by
  have hfresh := stays_fresh hp.dom (some p.body) (scriptLabel src)
  exact hfresh.trans
    (stays_insertWritten (hfresh.idle hidle) (hfresh.sound hp) (hp.dom.fits_fresh _) p.dom.next)

/-- Every act keeps a page sound. -/
theorem Sound.act {p : Page} (hp : p.Sound) (a : Act) : (p.act a).Sound := by
  cases a with
  | write markup =>
    obtain ⟨hread, hfits⟩ := fits_written hp.dom none markup
    exact (hread.sound hp).insertAll hfits
  | writeScript src =>
    have hfresh := stays_fresh hp.dom none (scriptLabel src)
    exact (hfresh.sound hp).insertWritten (hp.dom.fits_fresh _) p.dom.next
  | appendScript src => exact (stays_appendScript (P := none) hp.dom trivial src).sound hp
  | appendStylesheet href => exact (stays_appendStylesheet (P := none) hp.dom trivial href).sound hp
  | loadFrame url => exact (stays_loadFrame (P := none) hp.dom trivial url).sound hp
  | showGlass summary details => exact (stays_showGlass (P := none) hp.dom trivial nofun).sound hp
  | remove x =>
    simp only [Page.act, Page.remove]
    split
    · exact ⟨hp.dom.detach x, (hp.dom.ids_detach x).mem_iff.mpr hp.body⟩
    · exact hp

theorem Idle.act {p : Page} (hidle : p.Idle) (hp : p.Sound) (a : Act) : (p.act a).Idle := by
  cases a with
  | write markup => exact (stays_write hidle hp markup).idle hidle
  | writeScript src => exact (stays_writeScript hidle hp src).idle hidle
  | appendScript src => exact (stays_appendScript (P := none) hp.dom trivial src).idle hidle
  | appendStylesheet href => exact (stays_appendStylesheet (P := none) hp.dom trivial href).idle hidle
  | loadFrame url => exact (stays_loadFrame (P := none) hp.dom trivial url).idle hidle
  | showGlass summary details => exact (stays_showGlass (P := none) hp.dom trivial nofun).idle hidle
  | remove x =>
    simp only [Page.act, Page.remove]
    split
    · exact ⟨hidle.1, by simp [hidle.2]⟩
    · exact hidle

/-! ## The following siblings of a running script -/

/-- The script `c` runs below `P`, followed by what was written since and then by others, and the next
node goes between the two. -/
structure Writing (c : NodeId) (P : Option NodeId) (l : Ledger) (p : Page) : Prop where
  sound : p.dom.Sound
  current : p.current = some c
  cursor : p.cursor = l.written.getLast?
  kids : ∃ front, p.dom.kids P = front ++ c :: (l.written ++ l.others)

section Writing

variable {c : NodeId} {P : Option NodeId} {l : Ledger} {p p' : Page}

theorem Writing.has (h : Writing c P l p) : p.dom.Has P := by
  obtain ⟨front, hkids⟩ := h.kids
  exact (Dom.ids_of_kids (y := c) (by simp [hkids])).2

theorem Writing.stays (h : Writing c P l p) {xs ys : List NodeId} (hs : Stays P xs ys p p') :
    Writing c P { l with others := l.others ++ ys } p' := by
  obtain ⟨front, hkids⟩ := h.kids
  refine ⟨hs.dom.sound, hs.current.trans h.current, hs.cursor.trans h.cursor, xs ++ front, ?_⟩
  rw [hs.dom.kids, hkids]
  simp only [List.append_assoc, List.cons_append]

/-- The next node goes behind the last one of those written, or else behind the script. -/
theorem Writing.place (h : Writing c P l p) :
    ∃ front before x, front ++ c :: l.written = before ++ [x] ∧ p.cursor.or p.current = some x ∧
      p.dom.kids P = before ++ x :: l.others := by
  obtain ⟨front, hkids⟩ := h.kids
  rw [h.cursor, h.current, hkids]
  rcases List.eq_nil_or_concat' l.written with hnil | ⟨ws, x, hws⟩
  · exact ⟨front, front, c, by simp [hnil], by simp [hnil], by simp [hnil]⟩
  · exact ⟨front, front ++ c :: ws, x, by simp [hws], by simp [hws], by simp [hws]⟩

theorem Writing.insertWritten (h : Writing c P l p) {id : NodeId} {t : Forest} (ht : Dom.Fits t p.dom)
    (hid : t.roots = [id]) :
    Writing c P { l with written := l.written ++ [id] } (p.insertWritten id t) := by
  obtain ⟨front, before, x, hbefore, hplace, hkids⟩ := h.place
  have hx : x ∈ p.dom.kids P := by simp [hkids]
  have hinsert : p.insertWritten id t =
      { p with dom := p.dom.insertAfter x t, cursor := some id } := by
    simp [Page.insertWritten, hplace, Option.filter, h.sound.hasParent_of_kid hx]
  rw [hinsert]
  refine ⟨(h.sound.insertAfter ht x).sound, h.current, by simp, front, ?_⟩
  calc (p.dom.insertAfter x t).kids P
      = Forest.behind x [id] (before ++ x :: l.others) := by
        rw [h.sound.kids_insertAfter h.has (ht.not_parent h.has), hid, hkids]
    _ = before ++ [x] ++ (id :: l.others) := by rw [Forest.behind_append (h.sound.not_before hkids)]; simp
    _ = front ++ c :: (l.written ++ [id] ++ l.others) := by rw [← hbefore]; simp

theorem Writing.insertAll (h : Writing c P l p) {f : Forest} (hf : Dom.Fits f p.dom) :
    Writing c P { l with written := l.written ++ f.roots } (p.insertAll f) := by
  induction f generalizing p l with
  | nil =>
    rw [Forest.roots, List.append_nil]
    exact h
  | node i k d r _ ih =>
    obtain ⟨hfirst, hrest⟩ := hf.node
    have hnext := ih (h.insertWritten hfirst rfl) (hrest _ (grown_insertWritten h.sound hfirst i))
    simpa [Forest.roots, insertAll_node] using hnext

theorem getLast?_filter_ne {x : NodeId} {zs : List NodeId} (h : zs.getLast? ≠ some x) :
    (zs.filter (· ≠ x)).getLast? = zs.getLast? := by
  rcases List.eq_nil_or_concat' zs with rfl | ⟨ys, z, rfl⟩
  · rfl
  · have hz : z ≠ x := by simpa using h
    simp [List.filter_append, hz]

/-- The place of writing after a removal is behind the last of those that stay. -/
theorem Writing.cursor_remove (h : Writing c P l p) (x : NodeId) :
    (if p.cursor = some x then (p.dom.previous? x).filter (some · != p.current) else p.cursor) =
      (l.written.filter (· ≠ x)).getLast? := by
  rw [h.cursor, h.current]
  split
  · next hlast =>
    obtain ⟨ws, hws⟩ := List.getLast?_eq_some_iff.mp hlast
    obtain ⟨front, hkids⟩ := h.kids
    replace hkids : p.dom.kids P = (front ++ c :: ws) ++ x :: l.others := by simp [hkids, hws]
    have hx : x ∉ front ++ c :: ws := h.sound.not_before hkids
    have hfilter : l.written.filter (· ≠ x) = ws := by
      rw [hws, List.filter_append, Forest.filter_ne_of_not_mem fun hxw => hx (by simp [hxw])]
      simp
    rw [h.sound.previous?_of_kid (P := P) (by simp [hkids]), hkids, hfilter]
    -- before `x` stands the script itself or the node written before `x`
    rcases List.eq_nil_or_concat' ws with rfl | ⟨ws, y, rfl⟩
    · simp only [List.mem_append, List.mem_singleton, not_or] at hx
      rw [List.append_assoc, List.singleton_append, Forest.precedingIn_append hx.1 (Ne.symm hx.2)]
      simp
    · have hsplit (zs : List NodeId) : front ++ c :: (ws ++ [y]) ++ zs = front ++ c :: ws ++ y :: zs := by
        simp
      have hy : y ∉ front ++ c :: ws := h.sound.not_before (hkids.trans (hsplit _))
      have hyc : y ≠ c := fun hyc => hy (by simp [hyc])
      rw [← List.append_nil (_ ++ _), hsplit, List.mem_append, List.mem_singleton, not_or] at hx
      rw [hsplit, Forest.precedingIn_append hx.1 (Ne.symm hx.2)]
      simp [Option.filter, hyc]
  · next hlast => exact (getLast?_filter_ne hlast).symm

theorem Writing.remove (h : Writing c P l p) {x : NodeId} (hx : x ≠ c) :
    Writing c P { written := l.written.filter (· ≠ x), others := l.others.filter (· ≠ x) }
      (p.remove x) := by
  obtain ⟨front, hkids⟩ := h.kids
  have hfilter : (p.dom.kids P).filter (· ≠ x) = front.filter (· ≠ x) ++
      c :: (l.written.filter (· ≠ x) ++ l.others.filter (· ≠ x)) := by
    rw [hkids]
    simp [List.filter_append, Ne.symm hx]
  unfold Page.remove
  split
  · exact ⟨h.sound.detach x, h.current, h.cursor_remove x, _, (h.sound.kids_detach x P).trans hfilter⟩
  · next hparent =>
    have hnot : x ∉ p.dom.kids P := fun hx => hparent (h.sound.hasParent_of_kid hx)
    rw [Forest.filter_ne_of_not_mem hnot] at hfilter
    refine ⟨h.sound, h.current, ?_, _, hfilter⟩
    have hlast : l.written.getLast? ≠ some x := fun hlast =>
      hnot (by simp [hkids, List.mem_of_getLast? hlast])
    rw [h.cursor, getLast?_filter_ne hlast]

theorem Ledger.enter_of_keeps {a : Act} (h : ∀ x, a.keeps x = true) :
    l.enter P p a = { written := l.written ++ p.written a, others := l.others ++ p.appended P a } := by
  rw [Ledger.enter, List.filter_eq_self.mpr fun x _ => h x, List.filter_eq_self.mpr fun x _ => h x]

/-- An act that neither writes nor removes. -/
theorem Writing.enter_stays (h : Writing c P l p) {a : Act} (hkeeps : ∀ x, a.keeps x = true)
    (hwritten : p.written a = []) {xs : List NodeId} (hs : Stays P xs (p.appended P a) p p') :
    Writing c P (l.enter P p a) p' := by
  rw [Ledger.enter_of_keeps hkeeps, hwritten, List.append_nil]
  exact h.stays hs

/-- Every act that leaves the script in its place puts what it writes behind what was written, and
what it appends behind the others. -/
theorem Writing.act (h : Writing c P l p) {a : Act} (ha : Spares c P p a) :
    Writing c P (l.enter P p a) (p.act a) := by
  cases a with
  | write markup =>
    rw [Ledger.enter_of_keeps fun _ => rfl]
    obtain ⟨hread, hfits⟩ := fits_written h.sound P markup
    exact (h.stays hread).insertAll hfits
  | writeScript src =>
    rw [Ledger.enter_of_keeps fun _ => rfl]
    have hfresh := stays_fresh h.sound P (scriptLabel src)
    exact (h.stays hfresh).insertWritten (h.sound.fits_fresh _) rfl
  | appendScript src => exact h.enter_stays (fun _ => rfl) rfl (stays_appendScript h.sound h.has src)
  | appendStylesheet href => exact h.enter_stays (fun _ => rfl) rfl (stays_appendStylesheet h.sound h.has href)
  | loadFrame url => exact h.enter_stays (fun _ => rfl) rfl (stays_loadFrame h.sound h.has url)
  | showGlass summary details => exact h.enter_stays (fun _ => rfl) rfl (stays_showGlass h.sound h.has ha)
  | remove x =>
    simp only [Ledger.enter, written, appended, List.append_nil]
    exact h.remove ha

end Writing

end Page

end PageBoot
