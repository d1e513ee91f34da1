import Mathlib.Data.List.Induction
import PageBoot.Command.DevHost

/-!
What the dev host has on its screen after any events. Four stages decide it; an event leads from a
stage to the next one, whatever else the host holds. `screen?_after_eq_none_iff` says after which
events nothing can be shown: the last start succeeded, and since then a key that quits was pressed
and no other start was asked for or ended. So the screen is lost right after the key.
-/

namespace PageBoot.Command.DevHost

/-! ## Events -/

/-- The host after some events. -/
def after (h : DevHost) (es : List Event) : DevHost := es.foldl (fun h e => (h.step e).host) h

namespace Event

/-- A key that quits. -/
def quits : Event → Bool
  | .key k => k = Text.ofString "q" ∨ k = Text.ofString "ctrl+c"
  | _ => false

/-- A start ends, or another one is asked for. -/
def restarts : Event → Bool
  | .booted _ => true
  | .key k => k = Text.ofString "r"
  | _ => false

end Event

/-- `since` is what happened after the last start, which succeeded. -/
def StartedBefore (since es : List Event) : Prop :=
  (∃ earlier run, es = earlier ++ .booted (.ok run) :: since) ∧ ∀ e ∈ since, e.restarts = false

theorem startedBefore_concat {since es : List Event} {e : Event} :
    StartedBefore since (es ++ [e]) ↔
      (since = [] ∧ ∃ run, e = .booted (.ok run)) ∨
        ∃ rest, since = rest ++ [e] ∧ e.restarts = false ∧ StartedBefore rest es := by
  constructor
  · rintro ⟨⟨earlier, run, hes⟩, hsince⟩
    rcases List.eq_nil_or_concat since with rfl | ⟨rest, last, rfl⟩
    · obtain ⟨-, he⟩ := List.append_inj' hes rfl
      exact .inl ⟨rfl, run, List.singleton_inj.mp he⟩
    · have hsplit : es ++ [e] = (earlier ++ .booted (.ok run) :: rest) ++ [last] := by
        simpa using hes
      obtain ⟨rfl, he⟩ := List.append_inj' hsplit rfl
      obtain rfl := List.singleton_inj.mp he
      refine .inr ⟨rest, by simp, hsince e (by simp), ⟨earlier, run, rfl⟩, ?_⟩
      intro e' he'
      exact hsince e' (by simp [he'])
  · rintro (⟨rfl, run, rfl⟩ | ⟨rest, rfl, he, ⟨earlier, run, rfl⟩, hrest⟩)
    · exact ⟨⟨es, run, rfl⟩, by simp⟩
    · refine ⟨⟨earlier, run, by simp⟩, ?_⟩
      intro e' he'
      rcases List.mem_append.mp he' with he' | he'
      · exact hrest e' he'
      · rw [List.mem_singleton.mp he']
        exact he

/-! ## Stages -/

/-- What decides what is on the screen. -/
inductive Stage where
  | starting
  | failed
  | running
  /-- The start is over, and there is neither a run nor a failure. -/
  | blank
  deriving DecidableEq, Repr

def stage (h : DevHost) : Stage :=
  if h.isProbing then .starting
  else if h.failure.isSome then .failed
  else if h.run.isSome then .running
  else .blank

theorem screen?_eq_none_iff (h : DevHost) (word : Failure → Text) :
    h.screen? word = none ↔ h.stage = .blank := by
  unfold screen? stage
  cases h.isProbing <;> cases h.failure <;> cases h.run <;> simp

/-- The stage that an event leads to. -/
def Stage.next (s : Stage) (e : Event) : Stage :=
  match e with
  | .booted (.ok _) => .running
  | .booted (.error _) => .failed
  | e =>
    if e.restarts then .starting
    else if e.quits ∧ s = .running then .blank
    else s

theorem Stage.next_of_idle (s : Stage) {e : Event} (hr : e.restarts = false)
    (hq : e.quits = false) : s.next e = s := by
  cases e with
  | booted result => cases hr
  | _ => simp [next, hr, hq]

theorem stage_press (h : DevHost) (k : Text) :
    (h.press k).host.stage = h.stage.next (.key k) := by
  unfold press
  split
  next hq =>
    have hr : k ≠ Text.ofString "r" := by
      rintro rfl
      revert hq
      decide
    cases hp : h.isProbing <;> cases hf : h.failure <;> cases hrun : h.run <;>
      simp [Stage.next, Event.restarts, Event.quits, shutdown, stage, hq, hr, hp, hf, hrun]
  next hq =>
    split
    next hr => cases hp : h.isProbing <;> simp [Stage.next, Event.restarts, stage, hr, hp]
    next hr =>
      have hstay : h.stage.next (.key k) = h.stage :=
        h.stage.next_of_idle (by simp [Event.restarts, hr]) (by simp [Event.quits, hq])
      -- the run may change, but it stays a run
      have hmap (f : Started → Started) :
          ({ h with run := h.run.map f } : DevHost).stage = h.stage := by
        simp [stage]
      rw [hstay]
      split
      · split
        · exact hmap _
        · rfl
      · split
        · exact hmap _
        · rfl

theorem stage_step (h : DevHost) (e : Event) : (h.step e).host.stage = h.stage.next e := by
  cases e with
  | opened => exact (h.stage.next_of_idle rfl rfl).symm
  | booted result => cases result <;> rfl
  | key k => exact stage_press h k
  | resized n => exact (h.stage.next_of_idle rfl rfl).symm
  | tick =>
    rw [h.stage.next_of_idle rfl rfl]
    cases hp : h.isProbing <;> simp [step, stage, hp]

/-! ## The screen after any events -/

theorem after_concat (h : DevHost) (es : List Event) (e : Event) :
    h.after (es ++ [e]) = ((h.after es).step e).host := by
  simp [after]

theorem exists_startedBefore_concat {es : List Event} {e : Event} (he : e.restarts = false)
    (P : List Event → Prop) :
    (∃ since, StartedBefore since (es ++ [e]) ∧ P since) ↔
      ∃ rest, StartedBefore rest es ∧ P (rest ++ [e]) := by
  simp only [startedBefore_concat]
  constructor
  · rintro ⟨since, ⟨-, run, rfl⟩ | ⟨rest, rfl, -, hrest⟩, hp⟩
    · cases he
    · exact ⟨rest, hrest, hp⟩
  · rintro ⟨rest, hrest, hp⟩
    exact ⟨rest ++ [e], .inr ⟨rest, rfl, he, hrest⟩, hp⟩

/-- After a start that succeeded the module is running until a key that quits is pressed, and from
then on nothing is left to be shown, both until a start is asked for or ends. -/
theorem stage_after (module : Text) (es : List Event) :
    ((({ module } : DevHost).after es).stage = .running ↔
        ∃ since, StartedBefore since es ∧ since.any Event.quits = false) ∧
      ((({ module } : DevHost).after es).stage = .blank ↔
        ∃ since, StartedBefore since es ∧ since.any Event.quits = true) := by
  induction es using List.reverseRecOn with
  | nil => simp [after, stage, StartedBefore]
  | append_singleton es e ih =>
    obtain ⟨ihrunning, ihblank⟩ := ih
    rw [after_concat, stage_step]
    generalize (({ module } : DevHost).after es).stage = s at ihrunning ihblank
    cases hr : e.restarts with
    | true =>
      -- nothing came after `e`, and only a start that succeeded counts
      have hnew (since : List Event) :
          StartedBefore since (es ++ [e]) ↔ since = [] ∧ ∃ run, e = .booted (.ok run) := by
        simp [startedBefore_concat, hr]
      cases e with
      | booted result => cases result <;> simp [Stage.next, hnew]
      | key k => simp [Stage.next, hr, hnew]
      | _ => cases hr
    | false =>
      rw [exists_startedBefore_concat hr, exists_startedBefore_concat hr]
      cases hq : e.quits with
      | false =>
        rw [Stage.next_of_idle s hr hq, ihrunning, ihblank]
        simp only [List.any_append, List.any_cons, List.any_nil, hq, Bool.or_false, and_self]
      | true =>
        have hnext : s.next e = if s = .running then .blank else s := by
          cases e with
          | key k => simp [Stage.next, hr, hq]
          | _ => cases hq
        have hstarted : (∃ rest, StartedBefore rest es) ↔ s = .running ∨ s = .blank := by
          rw [ihrunning, ihblank, ← exists_or]
          simp only [← and_or_left, Bool.eq_false_or_eq_true_self, and_true]
        rw [hnext]
        simp only [List.any_append, List.any_cons, hq, Bool.true_or, Bool.or_true, and_true,
          hstarted]
        cases s <;> simp

/-- **When the screen is lost.** After any events there is nothing to show exactly if the last
start succeeded, no other start was asked for or ended since, and a key that quits was pressed. -/
theorem screen?_after_eq_none_iff (module : Text) (word : Failure → Text) (es : List Event) :
    (({ module } : DevHost).after es).screen? word = none ↔
      ∃ earlier run since, es = earlier ++ .booted (.ok run) :: since ∧
        (∀ e ∈ since, e.restarts = false) ∧ ∃ e ∈ since, e.quits = true := by
  rw [screen?_eq_none_iff, (stage_after module es).2]
  simp only [StartedBefore, List.any_eq_true]
  constructor
  · rintro ⟨since, ⟨⟨earlier, run, hes⟩, hsince⟩, hquits⟩
    exact ⟨earlier, run, since, hes, hsince, hquits⟩
  · rintro ⟨earlier, run, since, hes, hsince, hquits⟩
    exact ⟨since, ⟨⟨earlier, run, hes⟩, hsince⟩, hquits⟩

/-- A run on a page without any content. -/
def emptyRun : Started where
  world := .start { dom := { document := .nil, next := 0 }, head := 0, body := 0, location := {} } [] []
  booted := { mode := .dev }

/-- A host does not always have something to show: it has nothing after a start that succeeded and
a key that quits. -/
theorem screen_lost_on_quit :
    ¬ ∀ (module : Text) (word : Failure → Text) (es : List Event),
      ((({ module } : DevHost).after es).screen? word).isSome = true := by
  intro h
  have hshown := h [] (fun _ => []) [.booted (.ok emptyRun), .key (Text.ofString "q")]
  have hlost : (({ module := [] } : DevHost).after
      [.booted (.ok emptyRun), .key (Text.ofString "q")]).screen? (fun _ => []) = none := rfl
  rw [hlost] at hshown
  cases hshown

end PageBoot.Command.DevHost
