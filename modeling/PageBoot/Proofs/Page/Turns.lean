import Mathlib.Data.List.Chain
import Mathlib.Data.List.Perm.Basic
import Mathlib.Data.Finset.Lattice.Fold
import PageBoot.Page.EventLoop

/-!
What an event loop does when it is called in any order, whatever its tasks do, as long as they do
nothing to the loop but queue others. A `history` lists the locked sections of such calls.
`history_in_order` says that a loop keeps account of its timers through every history: each is run
once at most, always the one that is due first, and a drain ends exactly if its tasks queue finitely
many others.
-/

namespace PageBoot

namespace Page

namespace EventLoop

variable {α σ : Type} {l l' : EventLoop α} {t : Timer α}

/-! ## The timer that runs next -/

theorem precedes_iff {t u : Timer α} :
    t.precedes u = true ↔ t.due < u.due ∨ t.due = u.due ∧ t.number < u.number := by
  simp [Timer.precedes]

theorem first_mem (t : Timer α) (rest : List (Timer α)) : first t rest ∈ t :: rest := by
  induction rest generalizing t with
  | nil => exact List.mem_singleton_self t
  | cons u rest ih =>
    rcases List.mem_cons.mp (ih (if u.precedes t then u else t)) with h | h
    · rw [first, h]
      split <;> simp
    · simp [first, h]

/-- No timer of a queue precedes the one that runs first. -/
theorem first_least (t : Timer α) (rest : List (Timer α)) :
    ∀ u ∈ t :: rest, ¬ u.precedes (first t rest) = true := by
  induction rest generalizing t with
  | nil => simp [first, precedes_iff]
  | cons v rest ih =>
    have hleast := ih (if v.precedes t then v else t)
    rw [← first] at hleast
    have hpicked := hleast _ List.mem_cons_self
    intro u hu
    rcases List.mem_cons.mp hu with rfl | hu
    · split at hpicked
      · next hv =>
        rw [precedes_iff] at hpicked hv ⊢
        omega
      · exact hpicked
    · rcases List.mem_cons.mp hu with rfl | hu
      · split at hpicked
        · exact hpicked
        · next hv =>
          rw [precedes_iff] at hpicked hv ⊢
          omega
      · exact hleast u (List.mem_cons_of_mem _ hu)

/-- From `l` to `l'` the timer `t` was taken off the queue, the first of all that were there. -/
structure Takes (l : EventLoop α) (t : Timer α) (l' : EventLoop α) : Prop where
  queue : ∃ front back, l.queue = front ++ t :: back ∧ l'.queue = front ++ back
  least : ∀ u ∈ l'.queue, t.due < u.due ∨ t.due = u.due ∧ t.number < u.number
  clock : l'.clock = max l.clock t.due
  queued : l'.queued = l.queued

theorem next?_eq_none_iff : l.next? = none ↔ l.queue = [] := by
  unfold next?
  split <;> simp [*]

/-- Numbers rise along a queue, so that only one timer has its number. -/
theorem filter_number {front back : List (Timer α)} (h : l.queue = front ++ t :: back) :
    l.queue.filter (·.number != t.number) = front ++ back := by
  have hrising := l.rising
  rw [h, List.pairwise_append, List.pairwise_cons] at hrising
  obtain ⟨-, ⟨hback, -⟩, hfront⟩ := hrising
  have hkept : ∀ u ∈ front ++ back, (u.number != t.number) = true := by
    intro u hu
    rw [bne_iff_ne]
    rcases List.mem_append.mp hu with hu | hu
    · exact Nat.ne_of_lt (hfront u hu t List.mem_cons_self)
    · exact Nat.ne_of_gt (hback u hu)
  rw [h, List.filter_append, List.filter_cons_of_neg (by simp), ← List.filter_append,
    List.filter_eq_self.mpr hkept]

theorem next?_takes (h : l.next? = some (t, l')) : Takes l t l' := by
  unfold next? at h
  split at h
  · cases h
  · next u rest hqueue =>
    cases h
    have hmem := first_mem u rest
    have hleast := first_least u rest
    rw [← hqueue] at hmem hleast
    obtain ⟨front, back, hsplit⟩ := List.append_of_mem hmem
    refine ⟨⟨front, back, hsplit, filter_number hsplit⟩, fun v hv => ?_, rfl, rfl⟩
    obtain ⟨hv, hne⟩ := List.mem_filter.mp hv
    have hnot := hleast v hv
    rw [precedes_iff] at hnot
    rw [bne_iff_ne] at hne
    omega

/-! ## Histories -/

/-- What is done to a loop in one locked section. -/
inductive Act (α : Type) where
  | queue (r : Request α)
  | take

/-- One locked section. -/
structure Moment (α : Type) where
  before : EventLoop α
  act : Act α
  after : EventLoop α
  /-- The timer whose task is to be run once the lock is released. -/
  ran : Option (Timer α) := none

def react (l : EventLoop α) (a : Act α) : Moment α :=
  match a with
  | .queue r => { before := l, act := a, after := l.request r }
  | .take =>
    match l.next? with
    | none => { before := l, act := a, after := l }
    | some (t, l') => { before := l, act := a, after := l', ran := some t }

/-- The timer that was queued. -/
def Moment.queued (m : Moment α) : Option (Timer α) :=
  match m.act with
  | .queue r => r.task.map (m.before.timer · r.delay)
  | .take => none

/-- Requests, one after another. -/
def queueing : EventLoop α → List (Request α) → List (Moment α)
  | _, [] => []
  | l, r :: rs => l.react (.queue r) :: (l.request r).queueing rs

/-- The locked sections of running one task: it is taken, and then queues others. -/
def turn (run : Runner σ α) (l : EventLoop α) (s : σ) : List (Moment α) :=
  l.react .take ::
    match l.next? with
    | none => []
    | some (t, l) => l.queueing (run t.task l s).1

def turns (run : Runner σ α) : Nat → EventLoop α → σ → List (Moment α)
  | 0, _, _ => []
  | n + 1, l, s =>
    l.turn run s ++
      match l.runOnce run s with
      | (false, _, _) => []
      | (true, l, s) => turns run n l s

/-- Calls from outside. -/
inductive Call (α : Type) where
  | setTimeout (task : Option α) (delay : Int)
  | post (task : Option α)
  | runOnce
  | drain

/-- Everything that calls do to a loop. A drain need not end: each is followed for a number of turns,
and if there are tasks left then, no later call is made. -/
def history (run : Runner σ α) (patience : Nat) : List (Call α) → EventLoop α → σ → List (Moment α)
  | [], _, _ => []
  | .setTimeout task delay :: calls, l, s =>
    l.queueing [{ task, delay }] ++ history run patience calls (l.request { task, delay }) s
  | .post task :: calls, l, s =>
    l.queueing [{ task }] ++ history run patience calls (l.request { task }) s
  | .runOnce :: calls, l, s =>
    let (_, l', s') := l.runOnce run s
    l.turn run s ++ history run patience calls l' s'
  | .drain :: calls, l, s =>
    let (_, l', s') := l.runSome run patience s
    turns run patience l s ++ if l'.queue.isEmpty then history run patience calls l' s' else []

/-- The loop after some moments. -/
def endOf (l : EventLoop α) (ms : List (Moment α)) : EventLoop α := ms.foldl (fun _ m => m.after) l

/-- Each moment is what the loop does as the moment before leaves it. -/
def Follows : EventLoop α → List (Moment α) → Prop
  | _, [] => True
  | l, m :: ms => m = l.react m.act ∧ Follows m.after ms

theorem endOf_append (l : EventLoop α) (ms ns : List (Moment α)) :
    l.endOf (ms ++ ns) = (l.endOf ms).endOf ns := by
  simp [endOf]

theorem follows_append {ms ns : List (Moment α)} :
    l.Follows (ms ++ ns) ↔ l.Follows ms ∧ (l.endOf ms).Follows ns := by
  induction ms generalizing l with
  | nil => simp [Follows, endOf]
  | cons m ms ih =>
    simp only [List.cons_append, Follows, ih, and_assoc]
    rfl

theorem react_act (l : EventLoop α) (a : Act α) : (l.react a).act = a := by
  unfold react
  split
  · rfl
  · split <;> rfl

theorem react_before (l : EventLoop α) (a : Act α) : (l.react a).before = l := by
  unfold react
  split
  · rfl
  · split <;> rfl

theorem queueing_follows (rs : List (Request α)) (l : EventLoop α) :
    l.Follows (l.queueing rs) ∧ l.endOf (l.queueing rs) = l.requestAll rs := by
  induction rs generalizing l with
  | nil => exact ⟨trivial, rfl⟩
  | cons r rs ih => exact ⟨⟨rfl, (ih (l.request r)).1⟩, (ih (l.request r)).2⟩

theorem turn_follows (run : Runner σ α) (l : EventLoop α) (s : σ) :
    l.Follows (l.turn run s) ∧ l.endOf (l.turn run s) = (l.runOnce run s).2.1 := by
  unfold turn runOnce
  cases h : l.next? with
  | none => simp [Follows, endOf, react, h]
  | some r =>
    obtain ⟨t, l'⟩ := r
    obtain ⟨hfollows, hend⟩ := queueing_follows (run t.task l' s).1 l'
    have hafter : (l.react .take).after = l' := by simp [react, h]
    refine ⟨⟨by rw [react_act], ?_⟩, ?_⟩
    · rw [hafter]
      exact hfollows
    · show (l.react .take).after.endOf (l'.queueing (run t.task l' s).1) = _
      rw [hafter]
      exact hend

theorem turns_follows (run : Runner σ α) (n : Nat) (l : EventLoop α) (s : σ) :
    l.Follows (turns run n l s) ∧ l.endOf (turns run n l s) = (l.runSome run n s).2.1 := by
  induction n generalizing l s with
  | zero => exact ⟨trivial, rfl⟩
  | succ n ih =>
    obtain ⟨hturn, hend⟩ := turn_follows run l s
    simp only [turns, runSome, follows_append, endOf_append]
    rw [hend]
    cases h : l.runOnce run s with
    | mk ran rest =>
      obtain ⟨l', s'⟩ := rest
      cases ran with
      | false => exact ⟨⟨hturn, trivial⟩, rfl⟩
      | true => exact ⟨⟨hturn, (ih l' s').1⟩, (ih l' s').2⟩

theorem history_follows (run : Runner σ α) (patience : Nat) (calls : List (Call α))
    (l : EventLoop α) (s : σ) : l.Follows (history run patience calls l s) := by
  induction calls generalizing l s with
  | nil => trivial
  | cons c calls ih =>
    cases c with
    | setTimeout task delay =>
      obtain ⟨hfollows, hend⟩ := queueing_follows [{ task, delay }] l
      exact follows_append.mpr ⟨hfollows, by rw [hend]; exact ih _ s⟩
    | post task =>
      obtain ⟨hfollows, hend⟩ := queueing_follows [{ task }] l
      exact follows_append.mpr ⟨hfollows, by rw [hend]; exact ih _ s⟩
    | runOnce =>
      obtain ⟨hfollows, hend⟩ := turn_follows run l s
      exact follows_append.mpr ⟨hfollows, by rw [hend]; exact ih _ _⟩
    | drain =>
      obtain ⟨hfollows, hend⟩ := turns_follows run patience l s
      refine follows_append.mpr ⟨hfollows, ?_⟩
      rw [hend]
      split
      · exact ih _ _
      · trivial

/-! ## What a locked section does -/

/-- The ways in which a loop can react. -/
inductive Reacts (l : EventLoop α) : Moment α → Prop
  | queued (task : α) (delay : Int) :
      Reacts l {
        before := l
        act := .queue { task := some task, delay }
        after := l.setTimeout task delay }
  | unqueued (delay : Int) : Reacts l { before := l, act := .queue { task := none, delay }, after := l }
  | took (t : Timer α) (l' : EventLoop α) (h : Takes l t l') :
      Reacts l { before := l, act := .take, after := l', ran := some t }
  | idle (h : l.queue = []) : Reacts l { before := l, act := .take, after := l }

theorem react_reacts (l : EventLoop α) (a : Act α) : l.Reacts (l.react a) := by
  cases a with
  | queue r =>
    obtain ⟨task, delay⟩ := r
    cases task with
    | none => exact .unqueued delay
    | some task => exact .queued task delay
  | take =>
    cases h : l.next? with
    | none =>
      simp only [react, h]
      exact .idle (next?_eq_none_iff.mp h)
    | some r =>
      simp only [react, h]
      exact .took _ _ (next?_takes h)

theorem Follows.reacts {m : Moment α} {ms : List (Moment α)} (h : l.Follows (m :: ms)) : l.Reacts m := by
  rw [h.1]
  exact react_reacts l m.act

theorem Follows.forall_mem {q : Moment α → Prop} {ms : List (Moment α)}
    (hstep : ∀ (l : EventLoop α) (m : Moment α), l.Reacts m → q m) (h : l.Follows ms) :
    ∀ m ∈ ms, q m := by
  induction ms generalizing l with
  | nil => simp
  | cons m ms ih =>
    intro m' hm'
    rcases List.mem_cons.mp hm' with rfl | hm'
    · exact hstep l _ h.reacts
    · exact ih h.2 m' hm'

theorem Follows.isChain {ms : List (Moment α)} (h : l.Follows ms) :
    ms.IsChain fun a b => b.before = a.after := by
  induction ms generalizing l with
  | nil => exact .nil
  | cons m ms ih =>
    cases ms with
    | nil => exact .singleton m
    | cons b ms =>
      refine .cons_cons ?_ (ih h.2)
      rw [h.2.1, react_before]

theorem Reacts.clock_le {m : Moment α} (h : l.Reacts m) : m.before.clock ≤ m.after.clock := by
  cases h with
  | took t l' h =>
    rw [h.clock]
    exact Int.le_max_left _ _
  | _ => exact Int.le_refl _

/-- Timers that were there or were queued are those that were run and those that are there. -/
theorem Reacts.account {m : Moment α} (h : l.Reacts m) :
    (l.queue ++ m.queued.toList).Perm (m.ran.toList ++ m.after.queue) := by
  cases h with
  | queued task delay => exact .refl _
  | unqueued delay => simp [Moment.queued]
  | took t l' h =>
    obtain ⟨front, back, hbefore, hafter⟩ := h.queue
    simp only [Moment.queued, Option.toList_none, Option.toList_some, List.append_nil, hbefore, hafter]
    exact List.perm_middle
  | idle h => simp [Moment.queued]

theorem Reacts.queued_eq {m : Moment α} (h : l.Reacts m) :
    m.after.queued = l.queued + m.queued.toList.length ∧
      ∀ t ∈ m.queued, t.number = l.queued + 1 := by
  cases h with
  | queued task delay => simp [setTimeout, Moment.queued, timer]
  | took t l' h => simp [Moment.queued, h.queued]
  | _ => simp [Moment.queued]

/-! ## The account of a history -/

def ranIn (ms : List (Moment α)) : List (Timer α) := ms.filterMap (·.ran)

def queuedIn (ms : List (Moment α)) : List (Timer α) := ms.filterMap (·.queued)

theorem ranIn_cons (m : Moment α) (ms : List (Moment α)) : ranIn (m :: ms) = m.ran.toList ++ ranIn ms := by
  cases h : m.ran <;> simp [ranIn, h]

theorem queuedIn_cons (m : Moment α) (ms : List (Moment α)) :
    queuedIn (m :: ms) = m.queued.toList ++ queuedIn ms := by
  cases h : m.queued <;> simp [queuedIn, h]

theorem Follows.account {ms : List (Moment α)} (h : l.Follows ms) :
    (l.queue ++ queuedIn ms).Perm (ranIn ms ++ (l.endOf ms).queue) := by
  induction ms generalizing l with
  | nil => simp [queuedIn, ranIn, endOf]
  | cons m ms ih =>
    rw [queuedIn_cons, ranIn_cons]
    have hone : ((l.queue ++ m.queued.toList) ++ queuedIn ms).Perm
        ((m.ran.toList ++ m.after.queue) ++ queuedIn ms) := h.reacts.account.append_right _
    have hrest : (m.ran.toList ++ (m.after.queue ++ queuedIn ms)).Perm
        (m.ran.toList ++ (ranIn ms ++ (m.after.endOf ms).queue)) := (ih h.2).append_left _
    rw [List.append_assoc, List.append_assoc] at hone
    rw [List.append_assoc]
    exact hone.trans hrest

/-- Timers that are queued get the numbers that follow. -/
theorem Follows.numbers {ms : List (Moment α)} (h : l.Follows ms) :
    (l.endOf ms).queued = l.queued + (queuedIn ms).length ∧
      (queuedIn ms).Pairwise (·.number < ·.number) ∧ ∀ t ∈ queuedIn ms, l.queued < t.number := by
  induction ms generalizing l with
  | nil => simp [queuedIn, endOf]
  | cons m ms ih =>
    obtain ⟨hend, hrising, hlater⟩ := ih h.2
    obtain ⟨hqueued, hnumber⟩ := h.reacts.queued_eq
    rw [queuedIn_cons]
    refine ⟨?_, List.pairwise_append.mpr ⟨by cases m.queued <;> simp, hrising, ?_⟩, ?_⟩
    · calc (m.after.endOf ms).queued = m.after.queued + (queuedIn ms).length := hend
        _ = _ := by rw [hqueued, List.length_append]; omega
    · intro t ht u hu
      have ht' := hnumber t (Option.mem_toList.mp ht)
      have hu' := hlater u hu
      have hone := List.length_pos_of_mem ht
      omega
    · intro t ht
      rcases List.mem_append.mp ht with ht | ht
      · have := hnumber t (Option.mem_toList.mp ht)
        omega
      · have := hlater t ht
        omega

/-- A timer that is run was there or is queued first. -/
theorem Follows.ran_cases {ms : List (Moment α)} (h : l.Follows ms) {t : Timer α} (ht : t ∈ ranIn ms) :
    t ∈ l.queue ∨ l.queued < t.number := by
  have hmem := h.account.mem_iff.mpr (List.mem_append_left _ ht)
  rcases List.mem_append.mp hmem with hqueue | hlater
  · exact .inl hqueue
  · exact .inr (h.numbers.2.2 t hlater)

/-- Timers with one due time are run in the order of queueing, and none is run twice. -/
theorem Follows.pairwise_ran {ms : List (Moment α)} (h : l.Follows ms) :
    (ranIn ms).Pairwise fun t u => t.number ≠ u.number ∧ (t.due = u.due → t.number < u.number) := by
  induction ms generalizing l with
  | nil => exact .nil
  | cons m ms ih =>
    rw [ranIn_cons]
    refine List.pairwise_append.mpr ⟨by cases m.ran <;> simp, ih h.2, ?_⟩
    intro t ht u hu
    have hcases := h.2.ran_cases hu
    have hreacts := h.reacts
    cases hreacts with
    | took t' l' htakes =>
      obtain rfl : t = t' := by simpa using ht
      obtain ⟨front, back, hqueue, -⟩ := htakes.queue
      have hle := l.number_le t (by simp [hqueue])
      rcases hcases with hu | hu
      · have hleast := htakes.least u hu
        have hne : t.number ≠ u.number := by
          have hrising := l.rising
          obtain ⟨front, back, hbefore, hafter⟩ := htakes.queue
          rw [hbefore, List.pairwise_append, List.pairwise_cons] at hrising
          simp only [hafter, List.mem_append] at hu
          rcases hu with hu | hu
          · have := hrising.2.2 u hu t List.mem_cons_self
            omega
          · have := hrising.2.1.1 u hu
            omega
        exact ⟨hne, fun hdue => by omega⟩
      · simp only [htakes.queued] at hu
        exact ⟨by omega, fun _ => by omega⟩
    | _ => cases ht

/-- What holds of everything that happens to one loop, in the order in which it happens. -/
structure InOrder (l : EventLoop α) (ms : List (Moment α)) : Prop where
  linked : ms.IsChain fun a b => b.before = a.after
  queues : ∀ m ∈ ms, ∀ r, m.act = .queue r →
    m.ran = none ∧ m.after.clock = m.before.clock ∧ m.after.queue = m.before.queue ++ m.queued.toList
  takes : ∀ m ∈ ms, m.act = .take →
    m.before.queue = [] ∧ m.ran = none ∧ m.after = m.before ∨
      ∃ t, m.ran = some t ∧ Takes m.before t m.after
  clock_le : ∀ m ∈ ms, m.before.clock ≤ m.after.clock
  numbered : (l.queue ++ queuedIn ms).Pairwise (·.number < ·.number)
  account : ∀ earlier later, ms = earlier ++ later →
    (l.queue ++ queuedIn earlier).Perm (ranIn earlier ++ (l.endOf earlier).queue)
  ran_once : (ranIn ms).Pairwise (·.number ≠ ·.number)
  ran_in_order : (ranIn ms).Pairwise fun t u => t.due = u.due → t.number < u.number

theorem Follows.inOrder {ms : List (Moment α)} (h : l.Follows ms) : InOrder l ms where
  linked := h.isChain
  queues := by
    refine h.forall_mem fun l m hm r hr => ?_
    cases hm with
    | queued task delay => exact ⟨rfl, rfl, rfl⟩
    | unqueued delay => exact ⟨rfl, rfl, (List.append_nil _).symm⟩
    | took t l' h => cases hr
    | idle h => cases hr
  takes := by
    refine h.forall_mem fun l m hm ha => ?_
    cases hm with
    | queued task delay => cases ha
    | unqueued delay => cases ha
    | took t l' h => exact .inr ⟨t, rfl, h⟩
    | idle h => exact .inl ⟨h, rfl, rfl⟩
  clock_le := h.forall_mem fun l m hm => hm.clock_le
  numbered := by
    obtain ⟨-, hrising, hlater⟩ := h.numbers
    exact List.pairwise_append.mpr ⟨l.rising, hrising, fun t ht u hu =>
      Nat.lt_of_le_of_lt (l.number_le t ht) (hlater u hu)⟩
  account earlier later hms := by
    rw [hms] at h
    exact (follows_append.mp h).1.account
  ran_once := h.pairwise_ran.imp And.left
  ran_in_order := h.pairwise_ran.imp And.right

/-! ## Draining -/

theorem runOnce_of_empty (h : l.queue = []) (run : Runner σ α) (s : σ) :
    l.runOnce run s = (false, l, s) := by
  simp [runOnce, next?_eq_none_iff.mpr h]

theorem runSome_of_empty (h : l.queue = []) (run : Runner σ α) (n : Nat) (s : σ) :
    l.runSome run n s = (0, l, s) := by
  cases n with
  | zero => rfl
  | succ n => simp [runSome, runOnce_of_empty h]

theorem runOnce_eq_false {run : Runner σ α} {s s' : σ} (h : l.runOnce run s = (false, l', s')) :
    l.queue = [] ∧ l' = l ∧ s' = s := by
  unfold runOnce at h
  split at h
  · next hnone =>
    cases h
    exact ⟨next?_eq_none_iff.mp hnone, rfl, rfl⟩
  · cases h

theorem ranIn_queueing (l : EventLoop α) (rs : List (Request α)) : ranIn (l.queueing rs) = [] := by
  induction rs generalizing l with
  | nil => rfl
  | cons r rs ih =>
    rw [queueing, ranIn_cons, ih]
    rfl

theorem length_ranIn_turn (run : Runner σ α) (l : EventLoop α) (s : σ) :
    (ranIn (l.turn run s)).length = (l.runOnce run s).1.toNat := by
  unfold turn runOnce
  rw [ranIn_cons]
  cases h : l.next? with
  | none => simp [react, h, ranIn]
  | some r => simp [react, h, ranIn_queueing]

/-- The number of tasks that were run. -/
theorem length_ranIn_turns (run : Runner σ α) (n : Nat) (l : EventLoop α) (s : σ) :
    (ranIn (turns run n l s)).length = (l.runSome run n s).1 := by
  induction n generalizing l s with
  | zero => rfl
  | succ n ih =>
    have hone := length_ranIn_turn run l s
    have happend (ms ns : List (Moment α)) : ranIn (ms ++ ns) = ranIn ms ++ ranIn ns :=
      List.filterMap_append
    simp only [turns, runSome, happend, List.length_append, hone]
    cases h : l.runOnce run s with
    | mk ran rest =>
      obtain ⟨l', s'⟩ := rest
      cases ran with
      | false => rfl
      | true =>
        simp only [ih, Bool.toNat_true]
        omega

/-- Either the queue is empty, or every turn ran a task. -/
theorem runSome_cases {run : Runner σ α} {n k : Nat} {s s' : σ}
    (h : l.runSome run n s = (k, l', s')) : k ≤ n ∧ (l'.queue = [] ∨ k = n) := by
  induction n generalizing l s k with
  | zero =>
    cases h
    exact ⟨Nat.le_refl _, .inr rfl⟩
  | succ n ih =>
    cases hone : l.runOnce run s with
    | mk ran rest =>
      obtain ⟨u, v⟩ := rest
      cases ran with
      | false =>
        simp only [runSome, hone] at h
        cases h
        obtain ⟨hempty, rfl, -⟩ := runOnce_eq_false hone
        exact ⟨Nat.zero_le _, .inl hempty⟩
      | true =>
        cases hrest : runSome run n u v with
        | mk k' rest =>
          simp only [runSome, hone, hrest] at h
          cases h
          obtain ⟨hle, hcases⟩ := ih hrest
          exact ⟨by omega, hcases.imp_right (congrArg (· + 1))⟩

/-- Draining a loop ends after `n` tasks, with the loop `l'` and the surroundings `s'`: then there is
nothing left, and more turns change nothing. -/
structure Drains (run : Runner σ α) (l : EventLoop α) (s : σ) (n : Nat) (l' : EventLoop α) (s' : σ) :
    Prop where
  empty : l'.queue = []
  stays : ∀ m ≥ n, l.runSome run m s = (n, l', s')

theorem drains_of_empty {run : Runner σ α} {n k : Nat} {s s' : σ}
    (h : l.runSome run n s = (k, l', s')) (hempty : l'.queue = []) : Drains run l s k l' s' := by
  refine ⟨hempty, ?_⟩
  induction n generalizing l s k with
  | zero =>
    cases h
    exact fun m _ => runSome_of_empty hempty run m _
  | succ n ih =>
    cases hone : l.runOnce run s with
    | mk ran rest =>
      obtain ⟨u, v⟩ := rest
      cases ran with
      | false =>
        simp only [runSome, hone] at h
        cases h
        obtain ⟨-, rfl, rfl⟩ := runOnce_eq_false hone
        exact fun m _ => runSome_of_empty hempty run m _
      | true =>
        cases hrest : runSome run n u v with
        | mk k' rest =>
          simp only [runSome, hone, hrest] at h
          cases h
          rintro (_ | m) hm
          · exact absurd hm (Nat.not_succ_le_zero _)
          · simp only [runSome, hone, ih hrest m (Nat.le_of_succ_le_succ hm)]

/-- A drain has run everything that was there and everything that was queued meanwhile, each once. -/
theorem Drains.account {run : Runner σ α} {n : Nat} {s s' : σ} (h : Drains run l s n l' s') :
    (ranIn (turns run n l s)).Perm (l.queue ++ queuedIn (turns run n l s)) ∧
      (ranIn (turns run n l s)).length = n := by
  obtain ⟨hfollows, hend⟩ := turns_follows run n l s
  have haccount := hfollows.account
  rw [hend, h.stays n (Nat.le_refl n), h.empty, List.append_nil] at haccount
  refine ⟨haccount.symm, ?_⟩
  rw [length_ranIn_turns, h.stays n (Nat.le_refl n)]

/-- The numbers of tasks that were run, that are left and that were queued. -/
theorem runSome_count (run : Runner σ α) (n : Nat) (l : EventLoop α) (s : σ) :
    (l.runSome run n s).1 + (l.runSome run n s).2.1.queue.length =
      l.queue.length + (queuedIn (turns run n l s)).length := by
  obtain ⟨hfollows, hend⟩ := turns_follows run n l s
  have haccount := hfollows.account.length_eq
  rw [hend, List.length_append, List.length_append, length_ranIn_turns] at haccount
  exact haccount.symm

/-- A bound on what tasks queue bounds a drain. -/
theorem exists_drains {run : Runner σ α} {s : σ} {bound : Nat}
    (h : ∀ n, (queuedIn (turns run n l s)).length ≤ bound) : ∃ n l' s', Drains run l s n l' s' := by
  let n := l.queue.length + bound + 1
  have hcount := runSome_count run n l s
  have hle := h n
  cases hrun : l.runSome run n s with
  | mk k rest =>
    obtain ⟨l', s'⟩ := rest
    rw [hrun] at hcount
    obtain ⟨-, hempty | hall⟩ := runSome_cases hrun
    · exact ⟨k, l', s', drains_of_empty hrun hempty⟩
    · simp only at hcount
      omega

/-- A drain that ends bounds what tasks queue. -/
theorem Drains.exists_bound {run : Runner σ α} {n : Nat} {s s' : σ} (h : Drains run l s n l' s') :
    ∃ bound, ∀ m, (queuedIn (turns run m l s)).length ≤ bound := by
  let count (m : Nat) := (queuedIn (turns run m l s)).length
  refine ⟨(Finset.range n).sup count + n, fun m => ?_⟩
  by_cases hm : m < n
  · have hle : count m ≤ (Finset.range n).sup count := Finset.le_sup (Finset.mem_range.mpr hm)
    exact Nat.le_add_right_of_le hle
  · have hcount := runSome_count run m l s
    rw [h.stays m (Nat.le_of_not_lt hm), h.empty, List.length_nil] at hcount
    simp only at hcount
    omega

/-- Either there is nothing to run, or the timer that is due first is taken and its task is run. -/
theorem runOnce_cases (run : Runner σ α) (l : EventLoop α) (s : σ) :
    l.queue = [] ∧ l.runOnce run s = (false, l, s) ∨
      ∃ t l', Takes l t l' ∧
        l.runOnce run s = (true, l'.requestAll (run t.task l' s).1, (run t.task l' s).2) := by
  cases h : l.next? with
  | none => exact .inl ⟨next?_eq_none_iff.mp h, runOnce_of_empty (next?_eq_none_iff.mp h) run s⟩
  | some r =>
    obtain ⟨t, l'⟩ := r
    exact .inr ⟨t, l', next?_takes h, by simp [runOnce, h]⟩

/-- **An event loop keeps its order.** Each turn takes the timer that is due first and runs its task.
Calls in any order are accounted for. Draining ends exactly if tasks queue finitely many others; then
each was run once, and their number is given. -/
theorem history_in_order (run : Runner σ α) (l : EventLoop α) (s : σ) :
    (l.queue = [] ∧ l.runOnce run s = (false, l, s) ∨
      ∃ t l', Takes l t l' ∧
        l.runOnce run s = (true, l'.requestAll (run t.task l' s).1, (run t.task l' s).2)) ∧
    (∀ patience calls, InOrder l (history run patience calls l s)) ∧
    ((∃ bound, ∀ n, (queuedIn (turns run n l s)).length ≤ bound) ↔
      ∃ n l' s', Drains run l s n l' s' ∧
        (ranIn (turns run n l s)).Perm (l.queue ++ queuedIn (turns run n l s)) ∧
        (ranIn (turns run n l s)).length = n) := by
  refine ⟨runOnce_cases run l s, fun patience calls => (history_follows run patience calls l s).inOrder,
    ?_, ?_⟩
  · rintro ⟨bound, hbound⟩
    obtain ⟨n, l', s', h⟩ := exists_drains hbound
    exact ⟨n, l', s', h, h.account⟩
  · rintro ⟨n, l', s', h, -⟩
    exact h.exists_bound

end EventLoop

end Page

end PageBoot
