import PageBoot.Proofs.Page.Labels
import PageBoot.Proofs.Page.Styles

/-!
Changes of inline styles on a page. Merging declarations into the style of a node overrides the
properties that they name and changes nothing else, neither of the node nor of the page
(`restyles_mergeStyle`). A frame or an overlay that covers a page adds nodes of its own, and of those
that are there it changes the style of one (`restyles_loadFrame`, `restyles_showGlass`).
-/

namespace PageBoot

open Html Page

/-! ## Attributes of a label -/

namespace Text

theorem equalFold_refl (t : Text) : t.equalFold t = true := beq_self_eq_true (t.codes.map foldCode)

end Text

namespace Html.Label

/-- The attributes besides the one that has the value of `key`. -/
def others (l : Label) (key : Text) : List Attribute := l.attrs.eraseP fun a => a.key.equalFold key

variable (l : Label) (key value : Text)

theorem attr_setAttr_self : (l.setAttr key value).attr key = value := by
  obtain ⟨content, attrs⟩ := l
  have hfind : ((Label.setAttr.go key value attrs).find? (·.key.equalFold key)).map (·.value) =
      some value := by
    induction attrs with
    | nil => simp [setAttr.go, Text.equalFold_refl]
    | cons a as ih =>
      rw [setAttr.go]
      split
      next ha => simp [ha]
      next ha => simpa [ha] using ih
  exact congrArg (·.getD []) hfind

theorem others_setAttr : (l.setAttr key value).others key = l.others key := by
  obtain ⟨content, attrs⟩ := l
  simp only [others, setAttr]
  induction attrs with
  | nil => simp [setAttr.go, Text.equalFold_refl]
  | cons a as ih =>
    rw [setAttr.go]
    split
    next ha => simp [ha]
    next ha => simp [ha, ih]

theorem setAttr_setAttr (old : Text) : (l.setAttr key old).setAttr key value = l.setAttr key value := by
  obtain ⟨content, attrs⟩ := l
  simp only [setAttr]
  congr 1
  induction attrs with
  | nil => simp [setAttr.go, Text.equalFold_refl]
  | cons a as ih =>
    by_cases ha : a.key.equalFold key = true
    · simp [setAttr.go, ha]
    · simp [setAttr.go, ha, ih]

/-- The inline style of a node. -/
def style : Style := Style.parse (l.attr "style")

/-- From `l` to `l'` the style takes on the declarations of `s`, and nothing else changes. -/
structure Restyled (s : Style) (l l' : Label) : Prop where
  content : l'.content = l.content
  others : l'.others "style" = l.others "style"
  style k : l'.style.get? k = (s.get? k).or (l.style.get? k)

variable {s : Style}

theorem restyled_setAttr (hs : s.Clean) :
    Restyled s l (l.setAttr "style" (Style.print (l.style.override s))) where
  content := rfl
  others := l.others_setAttr "style" _
  style k := by
    have hclean : Style.Clean (l.style.override s) := (Style.clean_parse _).override hs.writable
    rw [style, attr_setAttr_self, Style.parse_print hclean, Dict.get?_sorted hclean.distinct,
      Dict.get?_override hs.distinct]

end Html.Label

/-! ## Pages -/

namespace Page

open Dom Forest

variable {p q r : Page} {x : Option NodeId} {s : Style}

/-- From `p` to `q`, of the nodes that are there only `x` changes, which takes on the style `s`. -/
structure Restyles (x : Option NodeId) (s : Style) (p q : Page) : Prop where
  body : q.body = p.body
  others y l : x ≠ some y → p.dom.label? y = some l → q.dom.label? y = some l
  target y l : x = some y → p.dom.label? y = some l →
    ∃ l', q.dom.label? y = some l' ∧ l.Restyled s l'

theorem Restyles.after (h : Restyles x s q r) (hbody : q.body = p.body) (hq : Retains p.dom q.dom) :
    Restyles x s p r where
  body := h.body.trans hbody
  others y l hy hl := h.others y l hy (hq y l hl)
  target y l hy hl := h.target y l hy (hq y l hl)

theorem Restyles.before (h : Restyles x s p q) (hbody : r.body = q.body) (hr : Retains q.dom r.dom) :
    Restyles x s p r where
  body := hbody.trans h.body
  others y l hy hl := hr y l (h.others y l hy hl)
  target y l hy hl := by
    obtain ⟨l', hl', hstyled⟩ := h.target y l hy hl
    exact ⟨l', hr y l' hl', hstyled⟩

theorem restyles_none (hbody : q.body = p.body) (hq : Retains p.dom q.dom) : Restyles none s p q where
  body := hbody
  others y l _ := hq y l
  target _ _ hy := nomatch hy

theorem restyles_mergeStyle (p : Page) (x : NodeId) (hs : s.Clean) :
    Restyles (some x) s p (p.mergeStyle x s) where
  body := rfl
  others y l hy hl := by
    have hyx : y ≠ x := fun h => hy (congrArg some h.symm)
    rw [mergeStyle, Dom.setAttr, Dom.label?_relabel, if_neg hyx, hl]
    rfl
  target y l hy hl := by
    obtain rfl := Option.some.inj hy
    have hattr : p.dom.attr x "style" = l.attr "style" := by rw [Dom.attr, hl]; rfl
    refine ⟨_, ?_, l.restyled_setAttr hs⟩
    rw [mergeStyle, Dom.setAttr, Dom.label?_relabel, if_pos rfl, hl, hattr]
    rfl

/-- A style that is merged again changes nothing more. -/
theorem mergeStyle_mergeStyle (p : Page) (x : NodeId) (hs : s.Clean) :
    (p.mergeStyle x s).mergeStyle x s = p.mergeStyle x s := by
  let look : Text := Style.print ((Style.parse (p.dom.attr x "style")).override s)
  have hlook : Style.print ((Style.parse ((p.mergeStyle x s).dom.attr x "style")).override s) = look := by
    cases hl : p.dom.label? x with
    | none =>
      have hattr : (p.mergeStyle x s).dom.attr x "style" = p.dom.attr x "style" := by
        rw [mergeStyle, Dom.attr, Dom.setAttr, Dom.label?_relabel, Dom.attr, hl]
        rfl
      rw [hattr]
    | some l =>
      have hattr : (p.mergeStyle x s).dom.attr x "style" = look := by
        rw [mergeStyle, Dom.attr, Dom.setAttr, Dom.label?_relabel, hl, if_pos rfl]
        exact l.attr_setAttr_self _ look
      rw [hattr]
      exact Style.print_override_again (Style.clean_parse _) hs
  have htwice : (p.mergeStyle x s).mergeStyle x s =
      { p with dom := (p.dom.setAttr x "style" look).setAttr x "style" look } :=
    congrArg (fun t => { p with dom := (p.mergeStyle x s).dom.setAttr x "style" t }) hlook
  rw [htwice, Dom.setAttr, Dom.setAttr, Dom.relabel_relabel]
  have hset : (fun l : Label => l.setAttr "style" look) ∘ (fun l : Label => l.setAttr "style" look) =
      fun l => l.setAttr "style" look := funext fun l => l.setAttr_setAttr "style" look look
  rw [hset]
  rfl

/-! ## Frames -/

def frameLook : Style := [("margin", "0"), ("height", "100%"), ("overflow", "hidden")]

theorem clean_frameLook : Style.Clean frameLook := by decide +kernel

theorem restyles_loadFrame (hp : p.dom.Sound) (url : Text) :
    Restyles (some p.body) frameLook p (p.loadFrame url) := by
  let q : Page := { p with dom := { p.dom with next := p.dom.next + 1 } }
  have hstyled : Restyles (some p.body) frameLook p (q.mergeStyle p.body frameLook) :=
    (restyles_mergeStyle q p.body clean_frameLook).after rfl (.refl p.dom)
  have hframed : Retains (q.mergeStyle p.body frameLook).dom (p.loadFrame url).dom :=
    ((hp.fits_fresh _).relabel p.body _).retains_prependTo p.body
  exact hstyled.before rfl hframed

/-! ## Overlays -/

def noScroll : Style := [("overflow", "hidden")]

theorem clean_noScroll : Style.Clean noScroll := by decide +kernel

/-- The element that scrolls the page. -/
def scroller? (p : Page) : Option NodeId :=
  if p.compatMode == backCompatMode then some p.body else p.dom.document.findTag? "html"

theorem restyles_stopScrolling (p : Page) : Restyles p.scroller? noScroll p p.stopScrolling := by
  unfold stopScrolling scroller?
  split
  · exact restyles_mergeStyle p p.body clean_noScroll
  · cases p.dom.document.findTag? "html" with
    | none => exact restyles_none rfl (.refl p.dom)
    | some root => exact restyles_mergeStyle p root clean_noScroll

theorem retains_setTitle (hp : p.dom.Sound) (title : Text) : Retains p.dom (p.setTitle title).dom := by
  have hensured : p.ensureTitle.2.Sound ∧ Retains p.dom p.ensureTitle.2 := by
    unfold ensureTitle
    cases p.titleElement? with
    | some t => exact ⟨hp, .refl p.dom⟩
    | none => exact ⟨(hp.flanked_fresh (P := none) trivial _ _).sound, hp.retains_fresh _ _⟩
  obtain ⟨hsound, hensured⟩ := hensured
  exact (hensured.trans (hsound.retains_clear _)).trans
    ((hsound.clear p.ensureTitle.1).1.retains_fresh (.text title) p.ensureTitle.1)

/-- The page with the elements of an overlay. -/
def covered (p : Page) (summary details : Text) : Page :=
  { p with dom := (p.overlayTree summary details).2.appendTo p.body (p.overlayTree summary details).1 }

theorem restyles_overlaid (hp : p.dom.Sound) (summary details : Text) :
    Restyles (p.covered summary details).scroller? noScroll p (p.overlaid summary details) := by
  obtain ⟨htree, -⟩ := flanked_overlayTree hp none summary details
  have hcovered : Retains p.dom (p.covered summary details).dom := htree.retains_appendTo p.body
  have hbody : (p.covered summary details).body = p.body := rfl
  obtain ⟨hsame, hothers, htarget⟩ :=
    (restyles_stopScrolling (p.covered summary details)).after hbody hcovered
  exact ⟨hsame, hothers, htarget⟩

theorem restyles_showGlass (hp : p.dom.Sound) (summary details : Text) :
    Restyles (p.covered summary details).scroller? noScroll p (p.showGlass summary details) := by
  have hsound := (stays_overlaid (P := none) hp trivial summary details).dom.sound
  rw [showGlass]
  exact (restyles_overlaid hp summary details).before rfl (retains_setTitle hsound _)

/-- The body is inside the first html element. -/
structure Rooted (p : Page) (root : NodeId) : Prop where
  first : p.dom.document.findTag? "html" = some root
  inside : p.body ∈ (p.dom.subtree root).ids

/-- An overlay does not change which element scrolls. -/
theorem scroller?_covered {root : NodeId} (hp : p.dom.Sound) (hroot : p.Rooted root)
    (summary details : Text) :
    (p.covered summary details).scroller? =
      some (if p.compatMode == backCompatMode then p.body else root) := by
  have hfirst : (p.covered summary details).dom.document.findTag? "html" = some root := by
    obtain ⟨tree, htree⟩ : ∃ tree, p.dom.document.find? root = some tree :=
      Option.isSome_iff_exists.mp ((isSome_find? _ _).mpr (ids_of_findTag? hroot.first))
    have hinside : p.body ∈ tree.ids := by
      have hsubtree : p.dom.subtree root = tree := by
        rw [Dom.subtree, Dom.forests, List.findSome?_cons, htree]
        rfl
      exact hsubtree ▸ hroot.inside
    exact findTag?_appendTo (hp.nodup_of_mem List.mem_cons_self) hroot.first htree hinside _
  have hmode : (p.covered summary details).compatMode = p.compatMode := rfl
  have hbody : (p.covered summary details).body = p.body := rfl
  rw [scroller?, hmode, hbody, hfirst]
  split <;> rfl

/-- Styles are read back as they are written. What is merged into the style of a node overrides it and
changes nothing else on the page, and merging it again changes nothing. A frame that covers a page
changes the style of the body only, and an overlay that of the element that scrolls the page: the body
in the old mode, and else the first html element. -/
theorem styles_merge {p : Page} (hp : p.dom.Sound) :
    (∀ t k, (Style.parse (Style.print (Style.parse t))).get? k = (Style.parse t).get? k) ∧
    (∀ x s, Style.Clean s → Restyles (some x) s p (p.mergeStyle x s) ∧
      (p.mergeStyle x s).mergeStyle x s = p.mergeStyle x s) ∧
    (∀ url, Restyles (some p.body) frameLook p (p.loadFrame url)) ∧
    ∀ summary details,
      Restyles (p.covered summary details).scroller? noScroll p (p.showGlass summary details) ∧
      ∀ root, p.Rooted root → (p.covered summary details).scroller? =
        some (if p.compatMode == backCompatMode then p.body else root) := by
  refine ⟨fun t k => ?_, fun x s hs => ?_, restyles_loadFrame hp, fun summary details => ?_⟩
  · have hclean := Style.clean_parse t
    rw [Style.parse_print hclean, Dict.get?_sorted hclean.distinct]
  · exact ⟨restyles_mergeStyle p x hs, mergeStyle_mergeStyle p x hs⟩
  · exact ⟨restyles_showGlass hp summary details,
      fun root hroot => scroller?_covered hp hroot summary details⟩

/-- A page whose body has a style with blanks, an empty declaration and one without a value. -/
def hall : Page where
  dom := {
    document := .tree 1 (.element "html" [("lang", "en")])
      (.tree 2 (.element "head" []) ++
        .tree 3 (.element "body" [("style", " margin : 1px;; color: red; x ")]))
    next := 4 }
  head := 2
  body := 3
  location := {}

theorem styles_merge_hall :
    hall.dom.Sound ∧ hall.Rooted 1 ∧ Style.Clean [("color", "blue")] ∧
    (∃ l, (hall.mergeStyle 3 [("color", "blue")]).dom.label? 3 = some l ∧
      l.style.get? "color" = some (Text.ofString "blue") ∧
      l.style.get? "margin" = some (Text.ofString "1px")) ∧
    (∃ l, (hall.loadFrame "f.html").dom.label? 3 = some l ∧
      l.style.get? "margin" = some (Text.ofString "0") ∧
      l.style.get? "color" = some (Text.ofString "red")) ∧
    ∃ l, (hall.showGlass "Lost" "").dom.label? 1 = some l ∧
      l.style.get? "overflow" = some (Text.ofString "hidden") := by
  have hsound : hall.dom.Sound := ⟨by decide, by decide⟩
  have hroot : hall.Rooted 1 := ⟨by decide +kernel, by decide⟩
  have hblue : Style.Clean [("color", "blue")] := by decide +kernel
  obtain ⟨-, hmerge, hframe, hglass⟩ := styles_merge hsound
  refine ⟨hsound, hroot, hblue, ?_, ?_, ?_⟩
  · obtain ⟨l, hl, hstyled⟩ := (hmerge 3 _ hblue).1.target 3 _ rfl rfl
    refine ⟨l, hl, ?_, ?_⟩ <;> rw [hstyled.style] <;> decide +kernel
  · obtain ⟨l, hl, hstyled⟩ := (hframe "f.html").target 3 _ rfl rfl
    refine ⟨l, hl, ?_, ?_⟩ <;> rw [hstyled.style] <;> decide +kernel
  · obtain ⟨l, hl, hstyled⟩ := (hglass "Lost" "").1.target 1 _ ((hglass "Lost" "").2 1 hroot) rfl
    refine ⟨l, hl, ?_⟩
    rw [hstyled.style]
    decide +kernel

end Page

end PageBoot
