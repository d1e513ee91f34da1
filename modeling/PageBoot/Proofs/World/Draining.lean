import PageBoot.Proofs.Page.Turns
import PageBoot.World.Events

/-!
Draining the loop of a page. A job brings no more others than it was counted for, so that every turn
makes the workload less and every drain ends (`drain_ends`).
-/

namespace PageBoot

namespace World

open Page EventLoop

/-- Number of tasks that requests bring, those that are planned by them included. -/
def load : List (Request Job) → Nat
  | [] => 0
  | r :: rs => r.task.elim 0 jobCount + load rs

theorem load_requests (ts : Tasks) : load ts.requests ≤ taskCount ts := by
  induction ts with
  | nil => exact Nat.le_refl 0
  | task delay isEmpty label after rest _ ih =>
    rw [Tasks.requests, load, taskCount]
    cases isEmpty <;> simp only [jobCount, Option.elim_none, Option.elim_some, if_true,
      Bool.false_eq_true, if_false] <;> omega

theorem workload_append (queue more : List (Timer Job)) :
    workload (queue ++ more) = workload queue + workload more := by
  induction queue with
  | nil => exact (Nat.zero_add _).symm
  | cons t queue ih => rw [List.cons_append, workload, workload, ih, Nat.add_assoc]

theorem workload_request (l : EventLoop Job) (r : Request Job) :
    workload (l.request r).queue = workload l.queue + r.task.elim 0 jobCount := by
  obtain ⟨task, delay⟩ := r
  cases task with
  | none => rfl
  | some job => simp [workload_append, workload, request, setTimeout, timer]

theorem workload_requestAll (rs : List (Request Job)) (l : EventLoop Job) :
    workload (l.requestAll rs).queue = workload l.queue + load rs := by
  induction rs generalizing l with
  | nil => rfl
  | cons r rs ih =>
    rw [requestAll, List.foldl_cons, ← requestAll, ih, workload_request, load, Nat.add_assoc]

/-- A job brings no more than it was counted for. -/
theorem load_runJob (job : Job) (l : EventLoop Job) (w : World) :
    load (runJob job l w).1 < jobCount job := by
  cases job with
  | labelled label after =>
    have hle := load_requests after
    simp only [runJob, jobCount]
    omega
  | overlay => exact Nat.zero_lt_one

theorem workload_takes {l l' : EventLoop Job} {t : Timer Job} (h : Takes l t l') :
    workload l.queue = jobCount t.task + workload l'.queue := by
  obtain ⟨front, back, hbefore, hafter⟩ := h.queue
  rw [hbefore, hafter, workload_append, workload_append, workload]
  omega

/-- Every turn makes the workload less. -/
theorem runSome_empties (n : Nat) (l : EventLoop Job) (w : World) (h : workload l.queue ≤ n) :
    (l.runSome runJob n w).2.1.queue = [] := by
  induction n generalizing l w with
  | zero =>
    rcases runOnce_cases runJob l w with ⟨hempty, -⟩ | ⟨t, l', htakes, -⟩
    · exact hempty
    · have hwork := workload_takes htakes
      have hless := load_runJob t.task l' w
      omega
  | succ n ih =>
    rcases runOnce_cases runJob l w with ⟨hempty, hrun⟩ | ⟨t, l', htakes, hrun⟩
    · simpa only [runSome, hrun] using hempty
    · have hwork := workload_takes htakes
      have hless := load_runJob t.task l' w
      simp only [runSome, hrun]
      refine ih _ _ ?_
      rw [workload_requestAll]
      omega

/-- Tasks of a page plan finitely many others, so that every drain ends. -/
theorem drain_ends (w : World) :
    ∃ loop v, w.page.loop.Drains runJob w w.drain.1 loop v ∧ w.drain.2 = v.withLoop loop := by
  cases h : w.page.loop.runSome runJob (workload w.page.loop.queue) w with
  | mk n rest =>
    obtain ⟨loop, v⟩ := rest
    have hempty := runSome_empties _ w.page.loop w (Nat.le_refl _)
    rw [h] at hempty
    have hdrain : w.drain = (n, v.withLoop loop) := by simp only [drain, h]
    rw [hdrain]
    exact ⟨loop, v, drains_of_empty h hempty, rfl⟩

end World

end PageBoot
