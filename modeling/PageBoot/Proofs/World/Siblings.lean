import Mathlib.Data.List.TakeWhile
import PageBoot.World.Signal
import PageBoot.Proofs.Page.Writing

/-!
The siblings of a running script, whatever the script does. Writing markup may fill plugin elements,
whose connectors may signal, but none of that touches the nodes of the page (`alike_act`), so that the
page keeps its account of written and other nodes along any sequence of acts.
-/

namespace PageBoot

open Html Page

/-! ## Plugin elements leave the nodes alone -/

/-- The same nodes and the same place of writing. -/
structure Page.Alike (p p' : Page) : Prop where
  dom : p'.dom = p.dom
  body : p'.body = p.body
  current : p'.current = p.current
  cursor : p'.cursor = p.cursor

namespace Page.Alike

variable {p p' p'' : Page}

theorem refl (p : Page) : Alike p p := ⟨rfl, rfl, rfl, rfl⟩

theorem trans (h : Alike p p') (h' : Alike p' p'') : Alike p p'' where
  dom := h'.dom.trans h.dom
  body := h'.body.trans h.body
  current := h'.current.trans h.current
  cursor := h'.cursor.trans h.cursor

theorem sound (h : Alike p p') (hp : p.Sound) : p'.Sound :=
  ⟨h.dom ▸ hp.dom, h.dom ▸ h.body ▸ hp.body⟩

theorem idle (h : Alike p p') (hp : p.Idle) : p'.Idle :=
  ⟨h.current.trans hp.1, h.cursor.trans hp.2⟩

theorem writing {c : NodeId} {P : Option NodeId} {l : Ledger} (h : Alike p p')
    (hp : Writing c P l p) : Writing c P l p' where
  sound := h.dom ▸ hp.sound
  current := h.current.trans hp.current
  cursor := h.cursor.trans hp.cursor
  kids := h.dom ▸ hp.kids

end Page.Alike

namespace World

/-! ## What connectors leave alone -/

theorem recover_eq (w : World) (i : Nat) (r : Recovery) :
    w.recover i r = { w with
      page := { w.page with loop := (w.recover i r).page.loop }
      sessions := (w.recover i r).sessions
      notes := (w.recover i r).notes } := by
  cases r with
  | overlay => rfl
  | labelled label =>
    simp only [recover]
    split <;> rfl

theorem disconnected_eq (w : World) (i : Nat) :
    (w.disconnected i).2 = { w with
      page := { w.page with loop := (w.disconnected i).2.page.loop }
      sessions := (w.disconnected i).2.sessions
      notes := (w.disconnected i).2.notes
      journal := (w.disconnected i).2.journal } := by
  unfold disconnected
  split
  · rfl
  · split
    · rfl
    · split
      · rfl
      · simp only
        rw [recover_eq]
        rfl

theorem signal_eq (w : World) (c : ConnectorId) :
    w.signal c = { w with
      page := { w.page with loop := (w.signal c).page.loop }
      sessions := (w.signal c).sessions
      notes := (w.signal c).notes
      journal := (w.signal c).journal } := by
  unfold signal
  split
  · rfl
  · split
    · simp only
      split
      · rw [disconnected_eq]
        rfl
      · rw [disconnected_eq]
    · split <;> rfl

/-- Signals of a connector change what sessions are, what the page has to do and what was said, and
nothing else. -/
theorem signals_eq (w : World) (c : ConnectorId) (n : Nat) :
    w.signals c n = { w with
      page := { w.page with loop := (w.signals c n).page.loop }
      sessions := (w.signals c n).sessions
      notes := (w.signals c n).notes
      journal := (w.signals c n).journal } := by
  induction n generalizing w with
  | zero => rfl
  | succ n ih =>
    rw [signals, ih, signal_eq]

/-- A factory may bring in a connector, which may signal. -/
theorem produce_eq (w : World) (f : Factory) :
    ∃ added, (w.produce f).2 = { w with
      page := { w.page with loop := (w.produce f).2.page.loop }
      connectors := w.connectors ++ added
      sessions := (w.produce f).2.sessions
      notes := (w.produce f).2.notes
      journal := (w.produce f).2.journal } := by
  unfold produce
  simp only
  split
  · exact ⟨[], by simp [note]⟩
  · exact ⟨[], by simp [note]⟩
  · exact ⟨[], by simp [note]⟩
  · split
    · exact ⟨[], by simp [note]⟩
    · next p signals _ =>
      refine ⟨[Wired.ofGuest p], ?_⟩
      simp only
      rw [signals_eq]
      rfl

theorem runFactory_eq (w : World) (id : NodeId) (f : Factory) :
    w.runFactory id f =
      (w.produce f).1.elim (w.produce f).2 fun t => (w.produce f).2.onPage (·.bindPlugin id t) := by
  unfold runFactory
  split <;> next h => rw [h]; rfl

theorem alike_runFactory (w : World) (id : NodeId) (f : Factory) :
    Alike w.page (w.runFactory id f).page := by
  obtain ⟨added, heq⟩ := w.produce_eq f
  rw [runFactory_eq, heq]
  cases (w.produce f).1 <;> exact ⟨rfl, rfl, rfl, rfl⟩

theorem alike_runFactories (w : World) (waiting : List (NodeId × Factory)) :
    Alike w.page (w.runFactories waiting).page := by
  induction waiting generalizing w with
  | nil => exact .refl _
  | cons x waiting ih => exact (w.alike_runFactory x.1 x.2).trans (ih _)

/-- Factories that run hook no handler and register no factory. -/
theorem runFactories_kept (w : World) (waiting : List (NodeId × Factory)) :
    (w.runFactories waiting).page.handlers = w.page.handlers ∧
      (w.runFactories waiting).page.factories = w.page.factories := by
  induction waiting generalizing w with
  | nil => exact ⟨rfl, rfl⟩
  | cons x waiting ih =>
    have hone : (w.runFactory x.1 x.2).page.handlers = w.page.handlers ∧
        (w.runFactory x.1 x.2).page.factories = w.page.factories := by
      obtain ⟨added, heq⟩ := w.produce_eq x.2
      rw [runFactory_eq, heq]
      cases (w.produce x.2).1 <;> exact ⟨rfl, rfl⟩
    obtain ⟨hhandlers, hfactories⟩ := ih (w.runFactory x.1 x.2)
    exact ⟨hhandlers.trans hone.1, hfactories.trans hone.2⟩

/-! ## Acts one after another -/

def act (w : World) : Act → World
  | .write markup => w.write markup
  | a => w.onPage (·.act a)

def acts (w : World) (as : List Act) : World := as.foldl act w

/-- The account of the children of `P` behind a script after acts. -/
def ledger (P : Option NodeId) : World → Ledger → List Act → Ledger
  | _, l, [] => l
  | w, l, a :: as => ledger P (w.act a) (l.enter P w.page a) as

/-- No act takes the script `c` out of `P` when its turn comes. -/
def SparesAll (c : NodeId) (P : Option NodeId) : World → List Act → Prop
  | _, [] => True
  | w, a :: as => Spares c P w.page a ∧ SparesAll c P (w.act a) as

instance decidableSparesAll (c : NodeId) (P : Option NodeId) (w : World) :
    (as : List Act) → Decidable (SparesAll c P w as)
  | [] => .isTrue trivial
  | a :: as =>
    have := decidableSparesAll c P (w.act a) as
    inferInstanceAs (Decidable (_ ∧ _))

theorem alike_act (w : World) (a : Act) : Alike (w.page.act a) (w.act a).page := by
  cases a with
  | write markup => exact alike_runFactories { w with page := (w.page.write markup).2 } _
  | _ => exact .refl _

theorem sound_acts {w : World} (hw : w.page.Sound) (as : List Act) : (w.acts as).page.Sound := by
  induction as generalizing w with
  | nil => exact hw
  | cons a as ih => exact ih ((w.alike_act a).sound (hw.act a))

theorem idle_acts {w : World} (hw : w.page.Sound) (hidle : w.page.Idle) (as : List Act) :
    (w.acts as).page.Idle := by
  induction as generalizing w with
  | nil => exact hidle
  | cons a as ih =>
    exact ih ((w.alike_act a).sound (hw.act a)) ((w.alike_act a).idle (hidle.act hw a))

theorem writing_acts {w : World} {c : NodeId} {P : Option NodeId} {l : Ledger}
    (h : Writing c P l w.page) {as : List Act} (hspares : w.SparesAll c P as) :
    Writing c P (w.ledger P l as) (w.acts as).page := by
  induction as generalizing w l with
  | nil => exact h
  | cons a as ih => exact ih ((w.alike_act a).writing (h.act hspares.1)) hspares.2

/-! ## Following siblings -/

/-- The children of `P` behind `c`. -/
def following (w : World) (P : Option NodeId) (c : NodeId) : List NodeId :=
  ((w.page.dom.kids P).dropWhile (· ≠ c)).tail

theorem following_eq {w : World} (hw : w.page.dom.Sound) {P : Option NodeId} {c : NodeId}
    {front back : List NodeId} (h : w.page.dom.kids P = front ++ c :: back) :
    w.following P c = back := by
  have hdrop : front.dropWhile (· ≠ c) = [] := by
    rw [List.dropWhile_eq_nil_iff]
    intro x hx
    have hxc : x ≠ c := fun hxc => hw.not_before h (hxc ▸ hx)
    simpa using hxc
  rw [following, h, List.dropWhile_append, hdrop]
  simp

/-- A script starts to run. -/
theorem writing_start {w : World} (hw : w.page.Sound) {P : Option NodeId} {c : NodeId}
    (hc : c ∈ w.page.dom.kids P) :
    Writing c P { others := w.following P c } (w.onPage (·.setCurrentScript (some c))).page := by
  obtain ⟨front, back, hkids⟩ := List.append_of_mem hc
  rw [following_eq hw.dom hkids]
  exact ⟨hw.dom, rfl, rfl, front, hkids⟩

/-- While a script runs, its following siblings are those written since and not removed, in the order
of writing, and then those that it had and those appended since, less the removed ones. Without a
running script, whatever is written goes to the end of the body. -/
theorem following_acts {w : World} (hw : w.page.Sound) :
    (∀ (P : Option NodeId) (c : NodeId) (as : List Act), c ∈ w.page.dom.kids P →
      let v := w.onPage (·.setCurrentScript (some c))
      let l := v.ledger P { others := w.following P c } as
      v.SparesAll c P as →
        c ∈ (v.acts as).page.dom.kids P ∧ (v.acts as).following P c = l.written ++ l.others) ∧
    ∀ as : List Act,
      let v := (w.onPage (·.setCurrentScript none)).acts as
      let body := some v.page.body
      (∀ markup, (v.act (.write markup)).page.dom.kids body =
        v.page.dom.kids body ++ v.page.written (.write markup)) ∧
      ∀ src, (v.act (.writeScript src)).page.dom.kids body =
        v.page.dom.kids body ++ v.page.written (.writeScript src) := by
  refine ⟨fun P c as hc => ?_, fun as => ?_⟩
  · intro v l hspares
    have hrun := writing_acts (writing_start hw hc) hspares
    obtain ⟨front, hkids⟩ := hrun.kids
    exact ⟨by simp [v, hkids], following_eq hrun.sound hkids⟩
  · intro v body
    have hstart : (w.onPage (·.setCurrentScript none)).page.Sound := ⟨hw.dom, hw.body⟩
    have hsound : v.page.Sound := sound_acts hstart as
    have hidle : v.page.Idle := idle_acts hstart ⟨rfl, rfl⟩ as
    refine ⟨fun markup => ?_, fun src => ?_⟩
    · rw [(v.alike_act _).dom, (stays_write hidle hsound markup).dom.kids, List.nil_append]
    · rw [(v.alike_act _).dom, (stays_writeScript hidle hsound src).dom.kids, List.nil_append]

/-- A page whose body has a script and a paragraph. -/
def desk : World :=
  .start {
    dom := {
      document := .tree 1 (.element "html" [])
        (.tree 2 (.element "head" []) (.tree 3 (.element "title" [])) ++
          .tree 4 (.element "body" []) (.tree 5 (scriptLabel "a.js") ++ .tree 6 (.element "p" [])))
      next := 7 }
    head := 2, body := 4, location := {} } [] []

def deskActs : List Act :=
  [.writeScript "b.js", .appendScript "c.js", .write "x", .remove 7, .loadFrame "f.html",
    .showGlass "Lost" "", .writeScript "d.js"]

theorem following_acts_desk :
    let v := desk.onPage (·.setCurrentScript (some 5))
    desk.page.Sound ∧ 5 ∈ desk.page.dom.kids (some 4) ∧ v.SparesAll 5 (some 4) deskActs ∧
      (v.acts deskActs).following (some 4) 5 = [9, 18, 6, 8, 16] := by
  intro v
  have hsound : desk.page.Sound := ⟨⟨by decide, by decide⟩, by decide⟩
  have hc : 5 ∈ desk.page.dom.kids (some 4) := by decide
  have hspares : v.SparesAll 5 (some 4) deskActs := by decide +kernel
  refine ⟨hsound, hc, hspares, ?_⟩
  rw [((following_acts hsound).1 (some 4) 5 deskActs hc hspares).2]
  decide +kernel

/-- A page with a script inside the title of a picture in its head. -/
def gallery : World :=
  .start {
    dom := {
      document := .tree 1 (.element "html" [])
        (.tree 2 (.element "head" []) (.tree 3 ⟨.element .svg "svg", []⟩
          (.tree 4 ⟨.element .svg "title", []⟩ (.tree 5 (.element "script" [])))) ++
          .tree 6 (.element "body" []))
      next := 7 }
    head := 2, body := 6, location := {} } [] []

/-- An overlay takes a running script out of the title that it replaces, and what is written then
goes to the body, so that acts have to spare the script. -/
theorem following_acts_unspared :
    ¬ ∀ (w : World) (P : Option NodeId) (c : NodeId) (as : List Act), w.page.Sound →
      c ∈ w.page.dom.kids P → (∀ x, .remove x ∈ as → x ≠ c) →
        let v := w.onPage (·.setCurrentScript (some c))
        let l := v.ledger P { others := w.following P c } as
        (v.acts as).following P c = l.written ++ l.others := by
  intro h
  have hsound : gallery.page.Sound := ⟨⟨by decide, by decide⟩, by decide⟩
  have hfollowing := h gallery (some 4) 5 [.showGlass "Lost" "", .writeScript "a.js"] hsound
    (by decide) (by simp)
  revert hfollowing
  decide +kernel

end World

end PageBoot
