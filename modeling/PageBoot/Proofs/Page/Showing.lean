import PageBoot.Session.Registry
import PageBoot.Proofs.Page.Standing

/-!
Which addresses the document of a page loads scripts and stylesheets from. `Grows` says that nodes with
given labels came into the document, and nothing else changed there: stylesheets do so if the head is in
the document (`grows_stylesheets`), and scripts if something of the document stands at the place of
writing (`grows_scripts`). What came in is what is shown more than before (`Grows.shown`).
-/

namespace PageBoot

open Html

namespace Page

/-! ## Addresses -/

/-- The address that an element loads a resource of a kind from. For a script that has its text inside
this is the empty one. -/
def address? (kind : ResourceKind) (l : Label) : Option Text :=
  match kind with
  | .script => if l.tag = "script" then some (l.attr "src") else none
  | .style =>
    if l.tag = "link" ∧ (l.attr "rel").equalFold "stylesheet" = true then some (l.attr "href") else none

/-- The addresses of a kind that the document shows, in document order. -/
def shown (p : Page) (kind : ResourceKind) : List Text :=
  p.dom.document.elements.filterMap fun x => address? kind x.2

theorem stylesheets_eq (p : Page) : p.stylesheets = p.shown .style := by
  unfold stylesheets shown address?
  congr
  funext x
  simp

/-- Scripts that have their text inside have no source. -/
theorem scripts_eq (p : Page) : p.scripts = (p.shown .script).filter (!·.isEmpty) := by
  unfold scripts shown address?
  rw [List.filter_filterMap]
  congr
  funext x
  by_cases htag : x.2.tag = "script" <;> by_cases hsource : x.2.attr "src" = [] <;>
    simp [htag, hsource, Option.filter]

@[simp] theorem address?_scriptLabel (kind : ResourceKind) (src : Text) :
    address? kind (scriptLabel src) = if kind = .script then some src else none := by
  cases kind <;> rfl

@[simp] theorem address?_stylesheetLabel (kind : ResourceKind) (href : Text) :
    address? kind (stylesheetLabel href) = if kind = .style then some href else none := by
  cases kind <;> rfl

/-! ## Documents that grow -/

/-- The document and which of its nodes is the head are the same. -/
structure Unaltered (p q : Page) : Prop where
  document : q.dom.document = p.dom.document
  head : q.head = p.head

/-- From `p` to `q` elements with the labels `new` came into the document, and nothing else changed
there. -/
structure Grows (new : List Label) (p q : Page) : Prop where
  head : q.head = p.head
  nodes : ∃ ns, ns.map (·.2) = new ∧ q.dom.document.nodes.Perm (p.dom.document.nodes ++ ns)
  elements : ∀ l ∈ new, l.isElement = true

section Grows

variable {p q r : Page} {new new' : List Label} {s : Text}

theorem Unaltered.refl (p : Page) : Unaltered p p := ⟨rfl, rfl⟩

theorem Unaltered.trans (h : Unaltered p q) (h' : Unaltered q r) : Unaltered p r :=
  ⟨h'.document.trans h.document, h'.head.trans h.head⟩

theorem Unaltered.grows (h : Unaltered p q) : Grows [] p q where
  head := h.head
  nodes := ⟨[], rfl, by rw [h.document, List.append_nil]⟩
  elements := nofun

theorem Grows.trans (h : Grows new p q) (h' : Grows new' q r) : Grows (new ++ new') p r where
  head := h'.head.trans h.head
  nodes := by
    obtain ⟨ns, rfl, hns⟩ := h.nodes
    obtain ⟨ns', rfl, hns'⟩ := h'.nodes
    refine ⟨ns ++ ns', List.map_append, ?_⟩
    rw [← List.append_assoc]
    exact hns'.trans (hns.append_right ns')
  elements := List.forall_mem_append.mpr ⟨h.elements, h'.elements⟩

theorem Grows.mem_nodes (h : Grows new p q) {x : NodeId × Label} (hx : x ∈ p.dom.document.nodes) :
    x ∈ q.dom.document.nodes := by
  obtain ⟨ns, -, hns⟩ := h.nodes
  exact hns.mem_iff.mpr (List.mem_append_left ns hx)

/-- Every node of the document was there before or has one of the new labels. -/
theorem Grows.of_mem_nodes (h : Grows new p q) {x : NodeId × Label} (hx : x ∈ q.dom.document.nodes) :
    x ∈ p.dom.document.nodes ∨ x.2 ∈ new := by
  obtain ⟨ns, rfl, hns⟩ := h.nodes
  exact (List.mem_append.mp (hns.mem_iff.mp hx)).imp_right fun hx => List.mem_map_of_mem hx

/-- What came in is what is shown more than before. -/
theorem Grows.shown (h : Grows new p q) (kind : ResourceKind) :
    (q.shown kind).Perm (p.shown kind ++ new.filterMap (address? kind)) := by
  obtain ⟨ns, rfl, hns⟩ := h.nodes
  have hall : ns.filter (fun x => x.2.isElement) = ns :=
    List.filter_eq_self.mpr fun x hx => h.elements x.2 (List.mem_map_of_mem hx)
  have helements := hns.filter fun x => x.2.isElement
  rw [List.filter_append, hall] at helements
  have hshown := helements.filterMap fun x => address? kind x.2
  rw [List.filterMap_append] at hshown
  rw [List.filterMap_map]
  exact hshown

/-- What is not found by its id is not found later either, unless it came in. -/
theorem Grows.elementById?_eq_none (h : Grows new p q) {id : Text}
    (hnew : ∀ l ∈ new, l.attr "id" ≠ id) (hp : p.elementById? id = none) : q.elementById? id = none := by
  simp only [elementById?, Dom.byId?, Option.map_eq_none_iff, List.find?_eq_none] at hp ⊢
  intro x hx
  obtain ⟨hnode, helement⟩ := List.mem_filter.mp hx
  rcases h.of_mem_nodes hnode with hold | hlabel
  · exact hp x (List.mem_filter.mpr ⟨hold, helement⟩)
  · simpa using hnew x.2 hlabel

/-- The head is in the document. -/
def Housed (p : Page) : Prop := p.head ∈ p.dom.document.ids

theorem Grows.housed (h : Grows new p q) (hp : p.Housed) : q.Housed := by
  obtain ⟨ns, -, hns⟩ := h.nodes
  have hids := hns.map (·.1)
  rw [List.map_append, Forest.map_nodes, Forest.map_nodes] at hids
  rw [Housed, h.head]
  exact hids.mem_iff.mpr (List.mem_append_left _ hp)

theorem housed_open? {markup location userAgent compatMode : Text}
    (h : open? markup location userAgent compatMode = .ok p) : p.Housed := by
  simp only [open?] at h
  split at h
  · cases h
  · split at h
    · next head body hhead _ =>
      cases h
      exact ids_of_findTag? hhead
    · cases h

/-! ## What comes in -/

theorem grows_addStylesheet (hp : p.Sound) (hhoused : p.Housed) (href : Text) :
    Grows [stylesheetLabel href] p (p.addStylesheet href) where
  head := rfl
  nodes := ⟨[(p.dom.next, stylesheetLabel href)], rfl,
    Forest.nodes_appendTo (hp.dom.nodup_of_mem (document_mem _)) hhoused _⟩
  elements := List.forall_mem_singleton.mpr rfl

theorem grows_stylesheets (hp : p.Sound) (hhoused : p.Housed) (hrefs : List Text) :
    Grows (hrefs.map stylesheetLabel) p (addAll addStylesheet p hrefs) := by
  induction hrefs generalizing p with
  | nil => exact (Unaltered.refl p).grows
  | cons href hrefs ih =>
    have hone := grows_addStylesheet hp hhoused href
    exact hone.trans (ih (hp.act (.appendStylesheet href)) (hone.housed hhoused))

theorem grows_addScript (h : p.Stands s) (src : Text) :
    Grows [scriptLabel src] p (p.addScript src) where
  head := (keeps_act h.settled.sound.dom (.writeScript src)).head
  nodes := by
    have hfresh : (p.usedUp (p.dom.next + 1)).Settled :=
      h.settled.stays (stays_fresh h.settled.sound.dom none (scriptLabel src))
    have hput := hfresh.put_tree (h.settled.sound.dom.fits_fresh (scriptLabel src))
    exact ⟨[(p.dom.next, scriptLabel src)], rfl, (hput.reaches (h.usedUp hfresh).reaches).2⟩
  elements := List.forall_mem_singleton.mpr rfl

theorem grows_scripts (h : p.Stands s) (srcs : List Text) :
    Grows (srcs.map scriptLabel) p (addAll addScript p srcs) := by
  induction srcs generalizing p s with
  | nil => exact (Unaltered.refl p).grows
  | cons src srcs ih => exact (grows_addScript h src).trans (ih (h.writeScript src))

end Grows

end Page

end PageBoot
