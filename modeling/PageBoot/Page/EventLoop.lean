/-!
The event loop of a page, with a clock that only running tasks move. The task that runs next is
the one with the least due time, and among those the one that was queued first. Times are in
nanoseconds and kept in 64 bits. What a task does when it runs is given by whoever runs the loop; it
may have the loop queue others.
-/

namespace PageBoot.Page

structure Timer (α : Type) where
  task : α
  due : Int
  /-- Position in the order of queueing. -/
  number : Nat

structure EventLoop (α : Type) where
  queue : List (Timer α) := []
  queued : Nat := 0
  clock : Int := 0
  rising : queue.Pairwise (·.number < ·.number) := by simp
  number_le : ∀ t ∈ queue, t.number ≤ queued := by simp

/-- The 64-bit value of an integer. -/
def wrap64 (n : Int) : Int := Int.bmod n UInt64.size

namespace Timer

variable {α : Type}

/-- Whether a timer runs before another. -/
def precedes (t u : Timer α) : Bool := t.due < u.due || (t.due == u.due && t.number < u.number)

end Timer

/-- A task that is to be queued, unless it is empty, and its delay. -/
structure Request (α : Type) where
  task : Option α
  delay : Int := 0

namespace EventLoop

variable {α σ : Type}

def empty : EventLoop α := {}

def pending (l : EventLoop α) : Nat := l.queue.length

/-- The timer of a task that is queued now; a negative delay counts as none. -/
def timer (l : EventLoop α) (task : α) (delay : Int) : Timer α :=
  { task, due := wrap64 (l.clock + max delay 0), number := l.queued + 1 }

/-- Queues a task. -/
def setTimeout (l : EventLoop α) (task : α) (delay : Int) : EventLoop α :=
  { l with
    queue := l.queue ++ [l.timer task delay]
    queued := l.queued + 1
    rising := by
      refine List.pairwise_append.mpr ⟨l.rising, List.pairwise_singleton _ _, ?_⟩
      intro t ht u hu
      have hle := l.number_le t ht
      rw [List.mem_singleton.mp hu]
      exact Nat.lt_succ_of_le hle
    number_le := by
      intro t ht
      rcases List.mem_append.mp ht with ht | ht
      · exact Nat.le_succ_of_le (l.number_le t ht)
      · rw [List.mem_singleton.mp ht]
        exact Nat.le_refl _ }

def request (l : EventLoop α) (r : Request α) : EventLoop α :=
  match r.task with
  | none => l
  | some task => l.setTimeout task r.delay

def requestAll (l : EventLoop α) (rs : List (Request α)) : EventLoop α := rs.foldl request l

/-- The timer of a queue that runs first. -/
def first (t : Timer α) : List (Timer α) → Timer α
  | [] => t
  | u :: rest => first (if u.precedes t then u else t) rest

/-- Takes the next timer off the queue and moves the clock to its due time. -/
def next? (l : EventLoop α) : Option (Timer α × EventLoop α) :=
  match l.queue with
  | [] => none
  | t :: rest =>
    let t := first t rest
    some (t, { l with
      queue := l.queue.filter (·.number != t.number)
      clock := max l.clock t.due
      rising := l.rising.sublist List.filter_sublist
      number_le := fun u hu => l.number_le u (List.filter_sublist.subset hu) })

/-- How tasks run in surroundings of type `σ`. A task finds the loop without itself, and leaves what
is to be queued, in order, and the surroundings. -/
abbrev Runner (σ α : Type) := α → EventLoop α → σ → List (Request α) × σ

/-- Runs the next task, if there is one. -/
def runOnce (run : Runner σ α) (l : EventLoop α) (s : σ) : Bool × EventLoop α × σ :=
  match l.next? with
  | none => (false, l, s)
  | some (t, l) =>
    let (rs, s) := run t.task l s
    (true, l.requestAll rs, s)

/-- Runs tasks until there are none, but no more than a number of them, and gives their number. -/
def runSome (run : Runner σ α) : Nat → EventLoop α → σ → Nat × EventLoop α × σ
  | 0, l, s => (0, l, s)
  | n + 1, l, s =>
    match l.runOnce run s with
    | (false, l, s) => (0, l, s)
    | (true, l, s) =>
      let (k, l, s) := runSome run n l s
      (k + 1, l, s)

end EventLoop

end PageBoot.Page
