import PageBoot.World.Events
import PageBoot.Proofs.Page.Adding
import PageBoot.Proofs.World.Siblings

/-!
Who marks resources as loaded. Nothing but `mark` does: calls of connectors, written markup and what
the loader has to say leave the registries as they are (`Respects`). Watchers may mark names on their
own behalf; where none does (`Quiet`), a mark adds the one name if it is new (`mark_cases`).
-/

namespace PageBoot

open Page

/-- The watcher marks nothing on its own behalf. -/
def Watcher.IsQuiet (o : Watcher) : Prop := ∀ r ∈ o.reaction, r.mark = none

namespace World

/-- Names of a kind that are marked as loaded, oldest first. -/
def loaded (w : World) (kind : ResourceKind) : List Text := (w.state.registry kind).names

/-- No watcher marks anything. -/
def Quiet (w : World) : Prop :=
  ∀ kind, ∀ o ∈ (w.state.registry kind).observers, Watcher.IsQuiet o.2

/-- From `w` to `u` nothing was marked, nobody who marks came in, and no node of the page was lost. -/
structure Respects (w u : World) : Prop where
  loaded : ∀ kind, u.loaded kind = w.loaded kind
  quiet : w.Quiet → u.Quiet
  framed : w.page.Framed → u.page.Framed

namespace Respects

variable {w u v : World}

theorem refl (w : World) : Respects w w := ⟨fun _ => rfl, id, id⟩

theorem trans (h : Respects w u) (h' : Respects u v) : Respects w v where
  loaded kind := (h'.loaded kind).trans (h.loaded kind)
  quiet hw := h'.quiet (h.quiet hw)
  framed hw := h'.framed (h.framed hw)

theorem of_eq (hstate : u.state = w.state) (hframed : w.page.Framed → u.page.Framed) :
    Respects w u where
  loaded kind := by rw [World.loaded, hstate, World.loaded]
  quiet hw := by rwa [Quiet, hstate]
  framed := hframed

theorem foldl {α : Type} {f : World → α → World} (h : ∀ w a, Respects w (f w a)) (w : World)
    (as : List α) : Respects w (as.foldl f w) := by
  induction as generalizing w with
  | nil => exact .refl w
  | cons a as ih => exact (h w a).trans (ih (f w a))

end Respects

/-! ## Who leaves the registries alone -/

theorem respects_note (w : World) (n : Note) : Respects w (w.note n) := .of_eq rfl id

theorem respects_log (w : World) (e : Journal.Entry) : Respects w (w.log e) := .of_eq rfl id

theorem respects_logAll (w : World) (es : List Journal.Entry) : Respects w (w.logAll es) :=
  .of_eq rfl id

theorem emit_same (w : World) (e : Metrics.Emitter Text) (m : Metrics.Moment) :
    (w.emit e m).state = w.state ∧ (w.emit e m).page = w.page := by
  unfold emit
  generalize e.sinks = sinks
  induction sinks generalizing w with
  | nil => exact ⟨rfl, rfl⟩
  | cons sink sinks ih => exact ih (w.note _)

theorem respects_emit (w : World) (e : Metrics.Emitter Text) (m : Metrics.Moment) :
    Respects w (w.emit e m) := by
  obtain ⟨hstate, hpage⟩ := w.emit_same e m
  exact .of_eq hstate fun h => hpage ▸ h

theorem respects_alert (w : World) (message : Text) : Respects w (w.onPage (·.alert message)) :=
  .of_eq rfl fun h => ⟨⟨h.dom, h.body⟩, h.head⟩

/-- The shared state and the head of the page are the same. -/
structure Apart (w u : World) : Prop where
  state : u.state = w.state
  head : u.page.head = w.page.head

theorem Apart.respects {w u : World} (h : Apart w u) (halike : Alike w.page u.page) : Respects w u :=
  .of_eq h.state fun hw => ⟨halike.sound hw.toSound, h.head ▸ halike.dom ▸ hw.head⟩

theorem runFactory_apart (w : World) (id : Html.NodeId) (f : Factory) :
    Apart w (w.runFactory id f) := by
  obtain ⟨added, heq⟩ := w.produce_eq f
  rw [runFactory_eq, heq]
  cases (w.produce f).1 <;> exact ⟨rfl, rfl⟩

theorem respects_runFactories (w : World) (waiting : List (Html.NodeId × Factory)) :
    Respects w (w.runFactories waiting) := by
  have hone (w : World) (x : Html.NodeId × Factory) : Respects w (w.runFactory x.1 x.2) :=
    (w.runFactory_apart x.1 x.2).respects (w.alike_runFactory x.1 x.2)
  exact .foldl hone w waiting

/-- Markup marks nothing, whatever connectors it brings in. -/
theorem respects_act (w : World) (a : Act) : Respects w (w.act a) := by
  have hpage (w : World) (a : Act) : Respects w (w.onPage (·.act a)) := .of_eq rfl fun h => h.act a
  cases a with
  | write markup =>
    exact (hpage w (.write markup)).trans (respects_runFactories { w with page := (w.page.write markup).2 } _)
  | _ => exact hpage w _

/-! ## Marks -/

theorem registry_setRegistry (s : PageState Identity.Rounds Watcher) (r : Registry Watcher)
    (kind k : ResourceKind) :
    (s.setRegistry r kind).registry k = if k = kind then r else s.registry k := by
  cases kind <;> cases k <;> rfl

/-- From `w` to `u` no name was marked and no watcher that marks came in, and the page is the same. -/
structure Hushed (w u : World) : Prop where
  loaded : ∀ kind, u.loaded kind = w.loaded kind
  quiet : w.Quiet → u.Quiet
  page : u.page = w.page

theorem Hushed.trans {w u v : World} (h : Hushed w u) (h' : Hushed u v) : Hushed w v where
  loaded kind := (h'.loaded kind).trans (h.loaded kind)
  quiet hw := h'.quiet (h.quiet hw)
  page := h'.page.trans h.page

/-- One registry takes the place of another that has the same names, and its watchers are quiet. -/
theorem Hushed.of_registry {w u : World} {kind : ResourceKind} {r : Registry Watcher}
    (hstate : u.state = w.state.setRegistry r kind) (hpage : u.page = w.page)
    (hnames : r.names = w.loaded kind)
    (hquiet : ∀ o ∈ r.observers, o ∈ (w.state.registry kind).observers ∨ Watcher.IsQuiet o.2) :
    Hushed w u where
  loaded k := by
    rw [World.loaded, hstate, registry_setRegistry]
    split
    · next h => rw [h, hnames]
    · rfl
  quiet hw k o ho := by
    rw [hstate, registry_setRegistry] at ho
    split at ho
    · exact (hquiet o ho).elim (hw kind o) id
    · exact hw k o ho
  page := hpage

theorem cancel_hushed (w : World) (label : Text) : Hushed w (w.cancel label) := by
  unfold cancel
  split
  · exact ⟨fun _ => rfl, id, rfl⟩
  · exact .of_registry rfl rfl rfl fun o ho => .inl (List.mem_of_mem_filter ho)

theorem subscribe_hushed (w : World) (kind : ResourceKind) (label : Text) :
    Hushed w (w.subscribe kind { label }) := by
  have hquiet : ∀ o ∈ ((w.state.registry kind).subscribe { label }).2.observers,
      o ∈ (w.state.registry kind).observers ∨ Watcher.IsQuiet o.2 := by
    intro o ho
    rcases List.mem_append.mp ho with ho | ho
    · exact .inl ho
    · rw [List.mem_singleton.mp ho]
      exact .inr fun r hr => nomatch hr
  exact .of_registry rfl rfl rfl hquiet

/-- A quiet watcher that is told of a mark marks nothing itself. -/
theorem tell_hushed {observer : Nat × Watcher} (h : Watcher.IsQuiet observer.2)
    (mark : ResourceKind → Text → World → Bool × World) (kind : ResourceKind) (name : Text) (w : World) :
    Hushed w (tell mark kind name w observer) := by
  obtain ⟨n, o⟩ := observer
  simp only [tell]
  split
  · exact ⟨fun _ => rfl, id, rfl⟩
  · next r hr =>
    split
    · exact ⟨fun _ => rfl, id, rfl⟩
    · have hnone : r.mark = none := h r hr
      let u : World := { w.note (.loaded o.label kind name) with fired := (kind, n) :: w.fired }
      have hfired : Hushed w u := ⟨fun _ => rfl, id, rfl⟩
      simp only [hnone]
      cases r.cancel with
      | none =>
        cases r.subscribe with
        | none => exact hfired
        | some label => exact hfired.trans (u.subscribe_hushed kind label)
      | some cancelled =>
        have hcancelled := hfired.trans (u.cancel_hushed cancelled)
        cases r.subscribe with
        | none => exact hcancelled
        | some label => exact hcancelled.trans (subscribe_hushed _ kind label)

theorem foldl_tell_hushed {observers : List (Nat × Watcher)}
    (h : ∀ o ∈ observers, Watcher.IsQuiet o.2) (mark : ResourceKind → Text → World → Bool × World)
    (kind : ResourceKind) (name : Text) (w : World) :
    Hushed w (observers.foldl (tell mark kind name) w) := by
  induction observers generalizing w with
  | nil => exact ⟨fun _ => rfl, id, rfl⟩
  | cons o observers ih =>
    obtain ⟨ho, hrest⟩ := List.forall_mem_cons.mp h
    exact (tell_hushed ho mark kind name w).trans (ih hrest _)

/-- What a mark of a new name leaves. -/
structure Marked (kind : ResourceKind) (name : Text) (w u : World) : Prop where
  loaded : u.loaded kind = w.loaded kind ++ [name]
  others : ∀ k, k ≠ kind → u.loaded k = w.loaded k
  quiet : u.Quiet
  page : u.page = w.page

/-- A name that is marked already is refused; a new one is added, and no other. -/
theorem mark_cases {w : World} (h : w.Quiet) (kind : ResourceKind) (name : Text) :
    name ∈ w.loaded kind ∧ w.mark kind name = (false, w) ∨
      name ∉ w.loaded kind ∧ ∃ u, w.mark kind name = (true, u) ∧ Marked kind name w u := by
  by_cases hname : name ∈ w.loaded kind
  · have hloaded : (w.state.registry kind).isLoaded name = true := by
      simpa [Registry.isLoaded, loaded] using hname
    refine .inl ⟨hname, ?_⟩
    simp only [mark, markWithin, Registry.mark, hloaded, if_true]
  · have hloaded : (w.state.registry kind).isLoaded name = false := by
      simpa [Registry.isLoaded, loaded] using hname
    let r := w.state.registry kind
    let u : World := { w with state := w.state.setRegistry { r with names := r.names ++ [name] } kind }
    let depth := w.state.scripts.observers.length + w.state.styles.observers.length
    have hmark : w.mark kind name =
        (true, r.observers.foldl (tell (markWithin depth) kind name) u) := by
      simp only [mark, markWithin, Registry.mark, hloaded, Bool.false_eq_true, if_false, r, u, depth]
    have hu (k : ResourceKind) : u.loaded k = if k = kind then w.loaded kind ++ [name] else w.loaded k := by
      simp only [loaded, u, registry_setRegistry]
      split <;> rfl
    have hquiet : u.Quiet := by
      intro k o ho
      simp only [u, registry_setRegistry] at ho
      split at ho
      · exact h kind o ho
      · exact h k o ho
    have htold := foldl_tell_hushed (h kind) (markWithin depth) kind name u
    refine .inr ⟨hname, _, hmark, ?_, fun k hk => ?_, htold.quiet hquiet, htold.page⟩
    · rw [htold.loaded, hu, if_pos rfl]
    · rw [htold.loaded, hu, if_neg hk]

end World

end PageBoot
