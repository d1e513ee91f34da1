import PageBoot.Proofs.Page.Turns

/-!
Whether tasks start when they should. A task should not start before the time at which it was queued and
its delay are over, and tasks should start in the order of the times that this gives. A loop keeps times
in 64 bits, and takes one that does not fit for a time long past. `history_punctual_iff`: every task
whose time fits starts when it should, and before all that should start later; one whose time does not
fit starts too early.
-/

namespace PageBoot.Page.EventLoop

variable {α σ : Type} {l : EventLoop α} {t u : Timer α} {m : Moment α} {ms : List (Moment α)}

/-! ## Times in 64 bits -/

/-- The first time that does not fit into 64 bits. -/
def horizon : Int := 9223372036854775808

theorem wrap64_of_lt {n : Int} (h : 0 ≤ n) (h' : n < horizon) : wrap64 n = n := by
  simp only [horizon] at h'
  exact Int.bmod_eq_of_le (by simp only [UInt64.size]; omega) (by simp only [UInt64.size]; omega)

theorem wrap64_lt (n : Int) : wrap64 n < horizon := by
  have hlt := @Int.bmod_lt n UInt64.size (by decide)
  simp only [UInt64.size, horizon, wrap64] at hlt ⊢
  omega

/-- Times on the loop are in 64 bits, and the clock was never set back. -/
structure Within (l : EventLoop α) : Prop where
  clock_nonneg : 0 ≤ l.clock
  clock_lt : l.clock < horizon
  due_lt : ∀ t ∈ l.queue, t.due < horizon

theorem within_empty : (empty : EventLoop α).Within :=
  ⟨Int.le_refl 0, show (0 : Int) < horizon by decide, nofun⟩

theorem Reacts.within (h : l.Reacts m) (hl : l.Within) : m.after.Within := by
  cases h with
  | queued task delay =>
    refine ⟨hl.clock_nonneg, hl.clock_lt, fun t ht => ?_⟩
    rcases List.mem_append.mp ht with ht | ht
    · exact hl.due_lt t ht
    · rw [List.mem_singleton.mp ht]
      exact wrap64_lt _
  | took t l' htakes =>
    obtain ⟨front, back, hbefore, hafter⟩ := htakes.queue
    have ht : t.due < horizon := hl.due_lt t (by simp [hbefore])
    refine ⟨?_, ?_, fun u hu => hl.due_lt u ?_⟩
    · exact hl.clock_nonneg.trans (htakes.clock ▸ Int.le_max_left _ _)
    · exact htakes.clock ▸ Int.max_lt.mpr ⟨hl.clock_lt, ht⟩
    · simp only [hafter, hbefore, List.mem_append, List.mem_cons] at hu ⊢
      exact hu.imp_right .inr
  | _ => exact hl

theorem Follows.within (h : l.Follows ms) (hl : l.Within) : ∀ m ∈ ms, m.before.Within ∧ m.after.Within := by
  induction ms generalizing l with
  | nil => exact nofun
  | cons m ms ih =>
    have hbefore : m.before = l := by rw [h.1, react_before]
    have hafter := h.reacts.within hl
    exact List.forall_mem_cons.mpr ⟨⟨hbefore ▸ hl, hafter⟩, ih h.2 hafter⟩

/-! ## The times that were meant -/

/-- When a task that is queued at a moment should start. -/
def Moment.meant (m : Moment α) : Int :=
  match m.act with
  | .queue r => m.before.clock + max r.delay 0
  | .take => m.before.clock

/-- A timer was queued whose task should start at a time. -/
def Promised (ms : List (Moment α)) (t : Timer α) (time : Int) : Prop :=
  ∃ m ∈ ms, m.queued = some t ∧ m.meant = time

theorem Moment.clock_le_meant (m : Moment α) : m.before.clock ≤ m.meant := by
  unfold Moment.meant
  split <;> omega

theorem due_of_queued (h : m.queued = some t) : t.due = wrap64 m.meant := by
  obtain ⟨before, act, after, ran⟩ := m
  cases act with
  | queue r =>
    obtain ⟨task, -, rfl⟩ := Option.map_eq_some_iff.mp h
    rfl
  | take => cases h

/-- A timer is queued once, so that its task was meant for one time. -/
theorem Follows.promised_unique (h : l.Follows ms) {a b : Int} (ha : Promised ms t a)
    (hb : Promised ms t b) : a = b := by
  let Agree (m m' : Moment α) : Prop := ∀ t ∈ m.queued, t ∈ m'.queued → m.meant = m'.meant
  have hrising : ms.Pairwise Agree :=
    (List.pairwise_filterMap.mp h.numbers.2.1).imp fun hlt t ht ht' =>
      absurd (hlt t ht t ht') (Nat.lt_irrefl _)
  have hsymm : Std.Symm Agree := ⟨fun _ _ hsame t ht ht' => (hsame t ht' ht).symm⟩
  obtain ⟨m, hm, hqueued, rfl⟩ := ha
  obtain ⟨m', hm', hqueued', rfl⟩ := hb
  exact hrising.forall_of_forall (fun _ _ _ _ _ => rfl) hm hm' t hqueued hqueued'

/-- Where a timer that was run comes from. -/
theorem Follows.origin (h : l.Follows ms) (ht : t ∈ ranIn ms) :
    t ∈ l.queue ∨ ∃ m ∈ ms, m.queued = some t := by
  have hmem := h.account.mem_iff.mpr (List.mem_append_left _ ht)
  exact (List.mem_append.mp hmem).imp_right List.mem_filterMap.mp

theorem Follows.exists_promised (h : (empty : EventLoop α).Follows ms) (ht : t ∈ ranIn ms) :
    ∃ time, Promised ms t time := by
  rcases h.origin ht with hqueue | ⟨m, hm, hqueued⟩
  · cases hqueue
  · exact ⟨m.meant, m, hm, hqueued, rfl⟩

theorem Follows.due_of_promised (h : l.Follows ms) (hl : l.Within) {time : Int}
    (ht : Promised ms t time) (hfits : time < horizon) : t.due = time := by
  obtain ⟨m, hm, hqueued, rfl⟩ := ht
  have hnonneg := (h.within hl m hm).1.clock_nonneg.trans m.clock_le_meant
  rw [due_of_queued hqueued, wrap64_of_lt hnonneg hfits]

/-! ## The order of due times -/

theorem Follows.clock_le (h : l.Follows ms) : ∀ m ∈ ms, l.clock ≤ m.before.clock := by
  induction ms generalizing l with
  | nil => exact nofun
  | cons m ms ih =>
    have hbefore : m.before = l := by rw [h.1, react_before]
    have hstep := h.reacts.clock_le
    rw [hbefore] at hstep
    refine List.forall_mem_cons.mpr ⟨hbefore ▸ Int.le_refl _, fun m' hm' => ?_⟩
    exact hstep.trans (ih h.2 m' hm')

/-- Of two timers the one that is run first is due first, unless the other one was queued afterwards. -/
theorem Follows.ran_due (h : l.Follows ms) : (ranIn ms).Pairwise fun t u =>
    t.due ≤ u.due ∨ ∃ m ∈ ms, m.queued = some u ∧ t.due ≤ m.before.clock := by
  induction ms generalizing l with
  | nil => exact .nil
  | cons m ms ih =>
    rw [ranIn_cons]
    refine List.pairwise_append.mpr ⟨by cases m.ran <;> simp, (ih h.2).imp fun hlater => ?_, ?_⟩
    · exact hlater.imp_right fun ⟨m', hm', hrest⟩ => ⟨m', List.mem_cons_of_mem _ hm', hrest⟩
    · intro t ht u hu
      have horigin := h.2.origin hu
      have hclock := h.2.clock_le
      have hreacts := h.reacts
      cases hreacts with
      | took t' l' htakes =>
        obtain rfl : t = t' := by simpa using ht
        rcases horigin with hqueue | ⟨m', hm', hqueued⟩
        · have hleast := htakes.least u hqueue
          exact .inl (by omega)
        · have hdue : t.due ≤ l'.clock := htakes.clock ▸ Int.le_max_right _ _
          exact .inr ⟨m', List.mem_cons_of_mem _ hm', hqueued, hdue.trans (hclock m' hm')⟩
      | _ => cases ht

/-! ## Starting when it should -/

/-- No task starts before the time it was meant for, and tasks start in the order of these times. -/
structure Punctual (ms : List (Moment α)) : Prop where
  on_time : ∀ m ∈ ms, ∀ t ∈ m.ran, ∀ time, Promised ms t time → time ≤ m.after.clock
  in_order : (ranIn ms).Pairwise fun t u =>
    ∀ time time', Promised ms t time → Promised ms u time' → time ≤ time'

/-- A task starts too early if the time it was meant for does not fit, and only then. -/
theorem Follows.starts_early_iff (h : l.Follows ms) (hl : l.Within) (hm : m ∈ ms) (hran : m.ran = some t)
    {time : Int} (ht : Promised ms t time) : m.after.clock < time ↔ horizon ≤ time := by
  refine ⟨fun hearly => ?_, fun hfar => Int.lt_of_lt_of_le (h.within hl m hm).2.clock_lt hfar⟩
  by_contra hfits
  have hdue := h.due_of_promised hl ht (Int.not_le.mp hfits)
  have hreached : t.due ≤ m.after.clock := by
    refine h.forall_mem (q := fun m => ∀ t, m.ran = some t → t.due ≤ m.after.clock) ?_ m hm t hran
    intro l m hreacts t hran
    cases hreacts with
    | took t' l' htakes =>
      obtain rfl : t' = t := Option.some.inj hran
      exact htakes.clock ▸ Int.le_max_right _ _
    | _ => cases hran
  omega

/-- Tasks start in order behind every one whose time fits. -/
theorem Follows.starts_in_order (h : l.Follows ms) (hl : l.Within) : (ranIn ms).Pairwise fun t u =>
    ∀ time time', Promised ms t time → Promised ms u time' → time < horizon → time ≤ time' := by
  refine h.ran_due.imp fun hlater time time' ht hu hfits => ?_
  by_contra hbefore
  have htime := h.due_of_promised hl ht hfits
  have htime' := h.due_of_promised hl hu (by omega)
  rcases hlater with hdue | ⟨m, hm, hqueued, hclock⟩
  · omega
  · have hmeant := h.promised_unique hu ⟨m, hm, hqueued, rfl⟩
    have hle := m.clock_le_meant
    omega

theorem Follows.punctual_iff (h : l.Follows ms) (hl : l.Within) :
    Punctual ms ↔ ∀ t ∈ ranIn ms, ∀ time, Promised ms t time → time < horizon := by
  constructor
  · intro hpunctual t ht time htime
    obtain ⟨m, hm, hran⟩ := List.mem_filterMap.mp ht
    exact Int.lt_of_le_of_lt (hpunctual.on_time m hm t hran time htime) (h.within hl m hm).2.clock_lt
  · intro hfits
    have hran {m : Moment α} (hm : m ∈ ms) {t : Timer α} (hran : m.ran = some t) : t ∈ ranIn ms :=
      List.mem_filterMap.mpr ⟨m, hm, hran⟩
    refine ⟨fun m hm t ht time htime => ?_, ?_⟩
    · have hearly := h.starts_early_iff hl hm ht htime
      have hfit := hfits t (hran hm ht) time htime
      omega
    · exact (h.starts_in_order hl).imp_of_mem fun ht _ hle time time' htime htime' =>
        hle time time' htime htime' (hfits _ ht time htime)

/-- **Tasks start when they should if their times fit.** Whatever calls are made to a new loop, and
whatever its tasks queue: each task that starts was meant for one time, it starts before that exactly if
the time does not fit into 64 bits, and only such a task starts before one that was meant to start
earlier. So tasks start when they should, and in order, exactly if all their times fit. -/
theorem history_punctual_iff (run : Runner σ α) (patience : Nat) (calls : List (Call α)) (s : σ) :
    let ms := history run patience calls .empty s
    (∀ t ∈ ranIn ms, ∃! time, Promised ms t time) ∧
    (∀ m ∈ ms, ∀ t ∈ m.ran, ∀ time, Promised ms t time → (m.after.clock < time ↔ horizon ≤ time)) ∧
    ((ranIn ms).Pairwise fun t u =>
      ∀ time time', Promised ms t time → Promised ms u time' → time' < time → horizon ≤ time) ∧
    (Punctual ms ↔ ∀ t ∈ ranIn ms, ∀ time, Promised ms t time → time < horizon) := by
  intro ms
  have h : (empty : EventLoop α).Follows ms := history_follows run patience calls .empty s
  refine ⟨fun t ht => ?_, fun m hm t ht time => h.starts_early_iff within_empty hm ht, ?_,
    h.punctual_iff within_empty⟩
  · obtain ⟨time, htime⟩ := h.exists_promised ht
    exact ⟨time, htime, fun other hother => h.promised_unique hother htime⟩
  · refine (h.starts_in_order within_empty).imp fun hle time time' ht hu hlt => ?_
    by_contra hfits
    have hbefore := hle time time' ht hu (Int.not_le.mp hfits)
    omega

/-- A task moves the clock, and then one is queued with the longest delay. -/
def farCalls : List (Call Nat) :=
  [.setTimeout (some 1) 5, .runOnce, .setTimeout (some 2) 9223372036854775807,
    .setTimeout (some 3) 1, .runOnce]

/-- It starts at once, although another one should start before it. -/
theorem longest_delay_starts_early :
    ¬ Punctual (history (fun _ _ s => ([], s)) 0 farCalls .empty ()) := by
  intro h
  have hfollows := history_follows (fun (_ : Nat) _ (s : Unit) => ([], s)) 0 farCalls .empty ()
  have hfits := (hfollows.punctual_iff within_empty).mp h
  have hlt := hfits ⟨2, wrap64 (5 + 9223372036854775807), 2⟩
    (List.mem_of_getElem? (i := 1) rfl) (5 + 9223372036854775807)
    ⟨_, List.mem_of_getElem? (i := 2) rfl, rfl, rfl⟩
  revert hlt
  decide

end PageBoot.Page.EventLoop
