import PageBoot.Proofs.World.Owing
import PageBoot.Proofs.World.Partings

/-!
Handlers of window events. A call hooks a handler by a closure that runs it and then the closure
that was there before (`Window.init`); the page keeps the handlers as lists, newest first. Whatever
happens to the page, both are the same (`Hook.window_eq`): an event runs what was hooked since the page
was last left, newest first, and the newest message that is set is the answer.
-/

namespace PageBoot

namespace Page

/-! ## Closures -/

/-- What the window calls at each event, on a state `σ`. -/
structure Window (σ : Type) where
  resize : Option (σ → σ) := none
  beforeUnload : Option (σ → Question × σ) := none
  unload : Option (σ → σ) := none

namespace Window

variable {σ α : Type}

def unset : Question := ⟨[], false⟩

/-- The new handler, if there is one, runs before the one that it replaces. -/
def chain (new old : Option (σ → σ)) : Option (σ → σ) :=
  new.elim old fun f => some fun s => old.elim (f s) (· (f s))

/-- Both handlers are asked, the new one first, and its message wins if it is set. -/
def consult (new old : Option (σ → Question × σ)) : Option (σ → Question × σ) :=
  new.elim old fun f => some fun s =>
    let (q, s) := f s
    let (q', s) := old.elim (unset, s) (· s)
    (if q.isSet then q else q', s)

/-- Hooks the events for which there is a handler. -/
def init (h : Window σ) (resize : Option (σ → σ)) (beforeUnload : Option (σ → Question × σ))
    (unload : Option (σ → σ)) : Window σ where
  resize := chain resize h.resize
  beforeUnload := consult beforeUnload h.beforeUnload
  unload := chain unload h.unload

def fireResize (h : Window σ) (s : σ) : σ := h.resize.elim s (· s)

def fireBeforeUnload (h : Window σ) (s : σ) : Question × σ := h.beforeUnload.elim (unset, s) (· s)

def fireUnload (h : Window σ) (s : σ) : σ := h.unload.elim s (· s)

/-- A chain of handlers runs them newest first. -/
theorem elim_chain (run : α → σ → σ) (handlers : List (Option α)) (s : σ) :
    (handlers.foldr (fun new old => chain (new.map run) old) none).elim s (· s) =
      (handlers.filterMap id).foldl (fun s a => run a s) s := by
  induction handlers generalizing s with
  | nil => rfl
  | cons new handlers ih =>
    cases new with
    | none => exact ih s
    | some a => exact ih (run a s)

end Window

/-- The newest message that is set, of answers that are newest first. -/
def newest (qs : List Question) : Question := (qs.find? (·.isSet)).getD Window.unset

/-- All are asked, also those behind a message that is set. -/
theorem Window.elim_consult {σ : Type} (told : Question → σ → σ) (handlers : List (Option Question))
    (s : σ) :
    (handlers.foldr (fun new old => consult (new.map fun q s => (q, told q s)) old) none).elim
        (unset, s) (· s) =
      (newest (handlers.filterMap id), (handlers.filterMap id).foldl (fun s q => told q s) s) := by
  induction handlers generalizing s with
  | nil => rfl
  | cons new handlers ih =>
    cases new with
    | none => exact ih s
    | some q =>
      have hboth (old : Option (σ → Question × σ)) :
          (consult (some fun s => (q, told q s)) old).elim (unset, s) (· s) =
            (if q.isSet then q else (old.elim (unset, told q s) (· (told q s))).1,
              (old.elim (unset, told q s) (· (told q s))).2) := rfl
      rw [List.foldr_cons, Option.map_some, hboth, ih (told q s), List.filterMap_cons_some (f := id) rfl]
      cases hq : q.isSet <;> simp [newest, hq]

end Page

namespace World

open Page Loader

/-! ## Hooks of a page -/

/-- The handlers of one call, each of which may be missing. -/
structure Hook where
  resize : Option Text := none
  beforeUnload : Option Question := none
  unload : Option Farewell := none

/-- Runs a handler of the unload event. -/
def bid (f : Farewell) (w : World) : World := (w.dutiesOf f).foldl (fun w d => w.perform d {}) w

/-- Closes what factories returned. -/
def closeOwned (w : World) (owned : List Thing) : World :=
  owned.foldl (fun w t => w.perform (.close t) {}) w

namespace Hook

/-- The window after a call. -/
def init (k : Hook) (h : Window World) : Window World :=
  h.init (k.resize.map fun label w => w.note (.resize label))
    (k.beforeUnload.map fun q w => (q, w.note (.beforeUnload q.message))) (k.unload.map bid)

/-- The window after some calls, the newest call first. -/
def window (ks : List Hook) : Window World := ks.foldr init {}

/-- The handlers of some calls. -/
def handlers (ks : List Hook) : Handlers where
  resize := ks.filterMap (·.resize)
  beforeUnload := ks.filterMap (·.beforeUnload)
  unload := ks.filterMap (·.unload)

/-- Calls that would have hooked some handlers, one in each. -/
def singly (h : Handlers) : List Hook :=
  h.resize.map (fun label => { resize := some label }) ++
    h.beforeUnload.map (fun q => { beforeUnload := some q }) ++
    h.unload.map fun f => { unload := some f }

theorem handlers_singly (h : Handlers) : handlers (singly h) = h := by
  simp [handlers, singly, List.filterMap_map]

theorem window_eq (ks : List Hook) : window ks = {
    resize := (ks.map (·.resize)).foldr (fun new old =>
      Window.chain (new.map fun label w => w.note (.resize label)) old) none
    beforeUnload := (ks.map (·.beforeUnload)).foldr (fun new old =>
      Window.consult (new.map fun q w => (q, w.note (.beforeUnload q.message))) old) none
    unload := (ks.map (·.unload)).foldr (fun new old => Window.chain (new.map bid) old) none } := by
  induction ks with
  | nil => rfl
  | cons k ks ih =>
    rw [window, List.foldr_cons, ← window, ih]
    rfl

theorem window_fireResize (ks : List Hook) (w : World) :
    (window ks).fireResize w =
      (handlers ks).resize.foldl (fun w label => w.note (.resize label)) w := by
  rw [window_eq, Window.fireResize, Window.elim_chain, List.filterMap_map]
  rfl

theorem window_fireBeforeUnload (ks : List Hook) (w : World) :
    (window ks).fireBeforeUnload w = (newest (handlers ks).beforeUnload,
      (handlers ks).beforeUnload.foldl (fun w q => w.note (.beforeUnload q.message)) w) := by
  rw [window_eq, Window.fireBeforeUnload, Window.elim_consult, List.filterMap_map]
  rfl

theorem window_fireUnload (ks : List Hook) (w : World) :
    (window ks).fireUnload w = (handlers ks).unload.foldl (fun w f => bid f w) w := by
  rw [window_eq, Window.fireUnload, Window.elim_chain, List.filterMap_map]
  rfl

end Hook

/-! ## Events -/

theorem foldl_note {α : Type} (f : α → Note) (as : List α) (w : World) :
    as.foldl (fun w a => w.note (f a)) w = { w with notes := w.notes ++ as.map f } := by
  induction as generalizing w with
  | nil => simp
  | cons a as ih => rw [List.foldl_cons, ih]; simp [note]

theorem fireResize_eq (w : World) :
    w.fireResize = { w with notes := w.notes ++ w.page.handlers.resize.map Note.resize } :=
  foldl_note _ _ w

theorem fireBeforeUnload_eq (w : World) :
    w.fireBeforeUnload = (newest w.page.handlers.beforeUnload,
      { w with notes := w.notes ++ w.page.handlers.beforeUnload.map (.beforeUnload ·.message) }) := by
  rw [fireBeforeUnload, foldl_note]
  rfl

theorem bid_wanes (w : World) (f : Farewell) : Wanes w (bid f w) := by
  have h := performs_wane w ((w.dutiesOf f).map fun d => (d, {}))
  rwa [List.foldl_map] at h

/-- What handlers do does not change what those after them do. -/
theorem foldl_duties (fs : List Farewell) {w v : World} (h : v.modules = w.modules) :
    (fs.flatMap w.dutiesOf).foldl (fun w d => w.perform d {}) v =
      fs.foldl (fun w f => bid f w) v := by
  induction fs generalizing v with
  | nil => rfl
  | cons f fs ih =>
    have hduties : w.dutiesOf f = v.dutiesOf f := by
      cases f with
      | labelled label => rfl
      | module j => simp only [dutiesOf, h]
    rw [List.flatMap_cons, List.foldl_append, hduties, List.foldl_cons]
    exact ih ((bid_wanes v f).modules.trans h)

theorem fireUnload_eq (w : World) :
    w.fireUnload =
      (w.page.handlers.unload.foldl (fun w f => bid f w) w.released).closeOwned w.page.owned := by
  have hcalm : w.duties.mapIdx (fun _ d => (d, ({} : Unrest))) = w.duties.map fun d => (d, {}) :=
    List.ext_getElem (by simp) (by simp)
  rw [fireUnload, leave, hcalm, List.foldl_map, duties, List.foldl_append, List.foldl_map]
  exact congrArg (closeOwned · w.page.owned) (foldl_duties _ rfl)

/-! ## Histories -/

/-- What happens to a page whose window has events. -/
inductive Incident where
  | deed (x : Deed)
  | resize
  | beforeUnload

def incident (w : World) : Incident → World
  | .deed x => w.deed x
  | .resize => w.fireResize
  | .beforeUnload => w.fireBeforeUnload.2

def incidents (w : World) (xs : List Incident) : World := xs.foldl incident w

/-- The calls that hooked handlers, newest first, after something happened. -/
def hook (w : World) (ks : List Hook) : Incident → List Hook
  | .deed (.initHandlers resize beforeUnload unload) =>
    { resize, beforeUnload, unload := unload.map .labelled } :: ks
  | .deed (.move (.load options loadError name base)) =>
    match (w.onLoad options loadError name base).1 with
    | ⟨some j, none⟩ => { unload := some (.module j) } :: ks
    | _ => ks
  | .deed (.leave _) => []
  | _ => ks

/-- The calls that hooked handlers since the page was left, newest first. -/
def hooks : World → List Hook → List Incident → List Hook
  | _, ks, [] => ks
  | w, ks, x :: xs => hooks (w.incident x) (w.hook ks x) xs

theorem hooks_append (w : World) (ks : List Hook) (xs ys : List Incident) :
    w.hooks ks (xs ++ ys) = (w.incidents xs).hooks (w.hooks ks xs) ys := by
  induction xs generalizing w ks with
  | nil => rfl
  | cons x xs ih => exact ih (w.incident x) (w.hook ks x)

theorem onLoad_handlers (w : World) (options : BridgeOptions) (loadError : Option Text)
    (name base : Text) {ks : List Hook} (h : w.page.handlers = Hook.handlers ks) :
    (w.onLoad options loadError name base).2.page.handlers =
      Hook.handlers (w.hook ks (.deed (.move (.load options loadError name base)))) := by
  obtain ⟨c, hbridged, hload⟩ | ⟨hfailed, hload⟩ := onLoad_cases w options loadError name base
  · rw [hload.page, hook, hbridged]
    simp [onUnload, initHandlers, h, Hook.handlers]
  · have hnone : w.hook ks (.deed (.move (.load options loadError name base))) = ks := by
      simp only [hook]
      split
      · next heq => exact absurd (by rw [heq]) hfailed
      · rfl
    rw [hload.handlers, hnone, h]

/-- The page keeps the handlers that were hooked. -/
theorem incident_handlers {w : World} {ks : List Hook} (h : w.page.handlers = Hook.handlers ks)
    (x : Incident) : (w.incident x).page.handlers = Hook.handlers (w.hook ks x) := by
  cases x with
  | resize => rw [incident, fireResize_eq]; exact h
  | beforeUnload => rw [incident, fireBeforeUnload_eq]; exact h
  | deed x =>
    cases x with
    | move m =>
      cases m with
      | load options loadError name base => exact onLoad_handlers w options loadError name base h
      | call i disp arity tearOff this args =>
        have hpage := (call_stirs w i disp arity tearOff this args).page
        exact (congrArg Page.handlers hpage).trans h
    | stir x => rw [incident, deed, (stir_kept w x).wanes.page]; exact h
    | act a =>
      have hpage := (act_dues w.page a).1.trans h
      cases a with
      | write markup => exact (runFactories_kept _ _).1.trans hpage
      | _ => exact hpage
    | registerPlugin f => exact (runFactories_kept _ _).1.trans h
    | setGlobal name t => exact h
    | bindCapability id t =>
      have hbound : ((w.page.bindCapability id t).toOption.getD w.page).handlers = w.page.handlers := by
        unfold bindCapability
        cases w.page.dom.byId? id <;> rfl
      exact hbound.trans h
    | initHandlers resize beforeUnload unload =>
      cases resize <;> cases beforeUnload <;> cases unload <;>
        simp [incident, deed, onPage, initHandlers, hook, h, Hook.handlers]
    | closeTable t => rw [incident, deed, (closeTable_wanes w t).page]; exact h
    | closeSession i => rw [incident, deed, (closeSession_kept w i).wanes.page]; exact h
    | leave unrest => rw [incident, deed, (leave_wanes w unrest).page]; rfl

theorem incidents_handlers {w : World} {ks : List Hook} (h : w.page.handlers = Hook.handlers ks)
    (xs : List Incident) : (w.incidents xs).page.handlers = Hook.handlers (w.hooks ks xs) := by
  induction xs generalizing w ks with
  | nil => exact h
  | cons x xs ih => exact ih (incident_handlers h x)

/-- **Handlers run newest first.** Whatever happened to a page, each event of its window runs the
handlers that were hooked since the page was last left, as the closures do that were hooked one
over the other, and what was hooked before that is gone. Those of the host say so, each once. -/
theorem events_run_newest_first (w : World) (xs : List Incident) :
    let v := w.incidents xs
    let ks := w.hooks (Hook.singly w.page.handlers) xs
    (v.fireResize = (Hook.window ks).fireResize v ∧
      v.fireResize = { v with notes := v.notes ++ (ks.filterMap (·.resize)).map Note.resize }) ∧
    (v.fireBeforeUnload = (Hook.window ks).fireBeforeUnload v ∧
      v.fireBeforeUnload = (newest (ks.filterMap (·.beforeUnload)), { v with
        notes := v.notes ++ (ks.filterMap (·.beforeUnload)).map (.beforeUnload ·.message) })) ∧
    (v.fireUnload = ((Hook.window ks).fireUnload v.released).closeOwned v.page.owned ∧
      v.fireUnload = ((ks.filterMap (·.unload)).foldl (fun w f => bid f w) v.released).closeOwned
        v.page.owned ∧
      ∃ more, v.fireUnload.notes = v.notes ++ more ∧
        more.filterMap Note.unloaded? = (ks.filterMap (·.unload)).filterMap Farewell.label?) ∧
    ∀ unrest ys, w.hooks (Hook.singly w.page.handlers) (xs ++ .deed (.leave unrest) :: ys) =
      (v.leave unrest).hooks [] ys := by
  have hv := incidents_handlers (Hook.handlers_singly w.page.handlers).symm xs
  refine ⟨⟨?_, ?_⟩, ⟨?_, ?_⟩, ⟨?_, ?_, ?_⟩, fun unrest ys => ?_⟩
  · rw [fireResize, hv, Hook.window_fireResize]
  · rw [fireResize_eq, hv]; rfl
  · rw [fireBeforeUnload, Hook.window_fireBeforeUnload, hv]; rfl
  · rw [fireBeforeUnload_eq, hv]; rfl
  · rw [fireUnload_eq, Hook.window_fireUnload, hv]
  · rw [fireUnload_eq, hv]; rfl
  · have hunload : (w.incidents xs).page.handlers.unload =
        (w.hooks (Hook.singly w.page.handlers) xs).filterMap (·.unload) := by rw [hv]; rfl
    exact hunload ▸ leave_unloaded _ _
  · rw [hooks_append]; rfl

end World

end PageBoot
