import PageBoot.Session.Registry
import Mathlib.Data.List.Induction

/-!
What a registry tells its observers, whoever calls it and when. Observers may call the registry
while they are told something, so calls fall between notices (`Turn`): a first mark puts its
notices before those that still wait, for they are given before the call returns (`Relay.turn`).
Every run of the page and of its observers is a list of turns, and what is proved here holds for all.
-/

namespace PageBoot.Registry

variable {ω : Type}

/-- A call to a registry. -/
inductive Call (ω : Type) where
  | mark (name : Text)
  | subscribe (o : ω)
  /-- Cancels the subscription of this number. -/
  | cancel (n : Nat)

/-- What comes next: a call, made by the page or by an observer that is being told, or the next
notice is given. -/
inductive Turn (ω : Type) where
  | call (c : Call ω)
  | tell

/-- An event that one observer is told. -/
structure Notice (ω : Type) where
  name : Text
  kind : ResourceKind
  observer : Nat × ω

/-- What observers are told of a name. -/
def notices (name : Text) (kind : ResourceKind) (observers : List (Nat × ω)) : List (Notice ω) :=
  observers.map (⟨name, kind, ·⟩)

theorem filter_notices (name other : Text) (kind : ResourceKind) (observers : List (Nat × ω)) :
    (notices other kind observers).filter (·.name = name) =
      if other = name then notices name kind observers else [] := by
  by_cases h : other = name
  · rw [if_pos h, h]
    exact List.filter_eq_self.mpr (List.forall_mem_map.mpr fun _ _ => by simp)
  · rw [if_neg h]
    exact List.filter_eq_nil_iff.mpr (List.forall_mem_map.mpr fun _ _ => by simp [h])

/-- A registry in the midst of its notices. -/
structure Relay (ω : Type) where
  registry : Registry ω
  /-- Notices that wait, the next one first. -/
  pending : List (Notice ω) := []
  /-- Notices that were given, oldest first. -/
  given : List (Notice ω) := []

namespace Turn

def mark? : Turn ω → Option Text
  | .call (.mark name) => some name
  | _ => none

def subscriber? : Turn ω → Option ω
  | .call (.subscribe o) => some o
  | _ => none

end Turn

/-- Names that were marked, repetitions included. -/
def marks (turns : List (Turn ω)) : List Text := turns.filterMap Turn.mark?

/-- Number of subscriptions that were made. -/
def subscriptions (turns : List (Turn ω)) : Nat := (turns.filterMap Turn.subscriber?).length

namespace Relay

/-- What a mark answers: whether it is the first. -/
def isFirst (s : Relay ω) (name : Text) : Bool := (s.registry.mark name).1.isSome

/-- Takes a turn. The observers that are told of a mark are those of its own moment. -/
def turn (s : Relay ω) : Turn ω → Relay ω
  | .call (.mark name) =>
    match s.registry.mark name with
    | (none, r) => { s with registry := r }
    | (some observers, r) =>
      { s with registry := r, pending := notices name r.kind observers ++ s.pending }
  | .call (.subscribe o) => { s with registry := (s.registry.subscribe o).2 }
  | .call (.cancel n) => { s with registry := s.registry.cancel n }
  | .tell =>
    match s.pending with
    | [] => s
    | x :: pending => { s with pending, given := s.given ++ [x] }

def run (s : Relay ω) (turns : List (Turn ω)) : Relay ω := turns.foldl turn s

/-- A new registry after some turns. -/
def after (kind : ResourceKind) (turns : List (Turn ω)) : Relay ω := run ⟨{ kind }, [], []⟩ turns

/-- Notices of a name that were or will be given, in that order. -/
def toldOf (s : Relay ω) (name : Text) : List (Notice ω) :=
  (s.given ++ s.pending).filter (·.name = name)

@[simp] theorem run_append (s : Relay ω) (first later : List (Turn ω)) :
    s.run (first ++ later) = (s.run first).run later := List.foldl_append

@[simp] theorem run_cons (s : Relay ω) (t : Turn ω) (turns : List (Turn ω)) :
    s.run (t :: turns) = (s.turn t).run turns := rfl

theorem after_append (kind : ResourceKind) (first later : List (Turn ω)) :
    after kind (first ++ later) = (after kind first).run later := run_append _ _ _

/-! ## One turn -/

section
variable (s : Relay ω)

theorem isFirst_iff (name : Text) : s.isFirst name ↔ name ∉ s.registry.names := by
  unfold isFirst Registry.mark isLoaded
  split <;> simp_all

theorem turn_mark_known {name : Text} (h : name ∈ s.registry.names) :
    s.turn (.call (.mark name)) = s := by
  simp [turn, Registry.mark, isLoaded, h]

theorem turn_mark_new {name : Text} (h : name ∉ s.registry.names) :
    s.turn (.call (.mark name)) =
      { s with
        registry := { s.registry with names := s.registry.names ++ [name] }
        pending := notices name s.registry.kind s.registry.observers ++ s.pending } := by
  simp [turn, Registry.mark, isLoaded, h]

theorem turn_tell : (s.turn .tell).registry = s.registry ∧
    (s.turn .tell).given ++ (s.turn .tell).pending = s.given ++ s.pending := by
  unfold turn
  cases h : s.pending <;> simp [h]

end

/-! ## Names -/

theorem names_turn (s : Relay ω) (t : Turn ω) :
    (s.turn t).registry.names =
      s.registry.names ++ t.mark?.toList.removeAll s.registry.names := by
  cases t with
  | call c =>
    cases c with
    | mark name =>
      by_cases h : name ∈ s.registry.names
      · simp [turn_mark_known s h, Turn.mark?, List.removeAll, h]
      · simp [turn_mark_new s h, Turn.mark?, List.removeAll, h]
    | subscribe o => simp [turn, subscribe, Turn.mark?]
    | cancel n => simp [turn, cancel, Turn.mark?]
  | tell => simp [s.turn_tell, Turn.mark?]

theorem names_subset_turn (s : Relay ω) (t : Turn ω) :
    s.registry.names ⊆ (s.turn t).registry.names := by
  rw [names_turn]
  exact List.subset_append_left _ _

theorem names_run (s : Relay ω) (turns : List (Turn ω)) :
    ∃ more, (s.run turns).registry.names = s.registry.names ++ more := by
  induction turns generalizing s with
  | nil => exact ⟨[], (List.append_nil _).symm⟩
  | cons t turns ih =>
    obtain ⟨more, hmore⟩ := ih (s.turn t)
    exact ⟨_, by rw [run_cons, hmore, names_turn, List.append_assoc]⟩

theorem names_after (kind : ResourceKind) (turns : List (Turn ω)) :
    (after kind turns).registry.names = Text.dedup (marks turns) := by
  induction turns using List.reverseRecOn with
  | nil => rfl
  | append_singleton turns t ih =>
    have hmarks : marks (turns ++ [t]) = marks turns ++ t.mark?.toList := by
      cases h : t.mark? <;> simp [marks, h]
    have hnew : (t.mark?.toList.removeAll (marks turns)).eraseDups =
        t.mark?.toList.removeAll (after kind turns).registry.names := by
      rw [ih]
      cases t.mark? with
      | none => rfl
      | some name =>
        by_cases h : name ∈ marks turns <;>
          simp [List.removeAll, Text.dedup, List.mem_eraseDups, List.eraseDups_cons, h]
    rw [after_append, hmarks, Text.dedup, List.eraseDups_append, hnew, ← Text.dedup, ← ih]
    exact names_turn _ t

/-- A first mark tells those who are subscribed, if nothing was told of its name. -/
theorem toldOf_turn_new (s : Relay ω) {name : Text} (hname : name ∉ s.registry.names)
    (hnothing : s.toldOf name = []) : (s.turn (.call (.mark name))).toldOf name =
      notices name s.registry.kind s.registry.observers := by
  simp only [toldOf, List.filter_append, List.append_eq_nil_iff] at hnothing
  simp [turn_mark_new s hname, toldOf, filter_notices, hnothing]

/-! ## What a run keeps -/

/-- Notices speak of names that are marked, and subscriptions are numbered in their order. -/
structure Sound (kind : ResourceKind) (s : Relay ω) : Prop where
  kind : s.registry.kind = kind
  marked : ∀ x ∈ s.given ++ s.pending, x.name ∈ s.registry.names
  sorted : s.registry.observers.Pairwise (·.1 < ·.1)
  numbered : ∀ x ∈ s.registry.observers, x.1 ≤ s.registry.subscribed

namespace Sound

variable {kind : ResourceKind} {s : Relay ω}

theorem turn (h : s.Sound kind) (t : Turn ω) : (s.turn t).Sound kind := by
  cases t with
  | call c =>
    cases c with
    | mark name =>
      by_cases hname : name ∈ s.registry.names
      · rwa [turn_mark_known s hname]
      · rw [turn_mark_new s hname]
        refine ⟨h.kind, fun x hx => ?_, h.sorted, h.numbered⟩
        have hx : x ∈ s.given ++ s.pending ∨ x.name = name := by
          simp only [notices, List.mem_append, List.mem_map] at hx ⊢
          grind
        exact List.mem_append.mpr (hx.imp (h.marked x) (by simp [·]))
    | subscribe o =>
      refine ⟨h.kind, h.marked, ?_, ?_⟩
      · refine List.pairwise_append.mpr ⟨h.sorted, by simp, fun x hx y hy => ?_⟩
        rw [List.mem_singleton.mp hy]
        exact Nat.lt_succ_of_le (h.numbered x hx)
      · intro x hx
        rcases List.mem_append.mp hx with hx | hx
        · exact Nat.le_succ_of_le (h.numbered x hx)
        · rw [List.mem_singleton.mp hx]
          exact Nat.le_refl _
    | cancel n =>
      exact ⟨h.kind, h.marked, h.sorted.filter _, fun x hx => h.numbered x (List.mem_filter.mp hx).1⟩
  | tell =>
    obtain ⟨hregistry, htold⟩ := s.turn_tell
    exact ⟨by rw [hregistry, h.kind], by rw [hregistry, htold]; exact h.marked,
      by rw [hregistry]; exact h.sorted, by rw [hregistry]; exact h.numbered⟩

theorem run (h : s.Sound kind) (turns : List (Turn ω)) : (s.run turns).Sound kind := by
  induction turns generalizing s with
  | nil => exact h
  | cons t turns ih => exact ih (h.turn t)

theorem toldOf_unmarked (h : s.Sound kind) {name : Text} (hname : name ∉ s.registry.names) :
    s.toldOf name = [] := by
  refine List.filter_eq_nil_iff.mpr fun x hx => ?_
  simpa using fun heq : x.name = name => hname (heq ▸ h.marked x hx)

/-- The first mark tells those who are subscribed. -/
theorem toldOf_mark (h : s.Sound kind) {name : Text} (hname : name ∉ s.registry.names) :
    (s.turn (.call (.mark name))).toldOf name =
      notices name kind s.registry.observers := by
  rw [toldOf_turn_new s hname (h.toldOf_unmarked hname), h.kind]

/-- Cancelling takes out the one subscription of that number, if there is one. -/
theorem cancel_eq_eraseP (h : s.Sound kind) (n : Nat) :
    (s.registry.cancel n).observers = s.registry.observers.eraseP (·.1 == n) := by
  have hsorted := h.sorted
  simp only [cancel]
  generalize s.registry.observers = observers at hsorted ⊢
  induction observers with
  | nil => rfl
  | cons x xs ih =>
    obtain ⟨hfirst, hrest⟩ := List.pairwise_cons.mp hsorted
    by_cases hx : x.1 = n
    · have hkept : xs.filter (·.1 != n) = xs :=
        List.filter_eq_self.mpr fun y hy => by simpa [← hx] using Nat.ne_of_gt (hfirst y hy)
      simp [hx, hkept]
    · simp [hx, ih hrest]

end Sound

theorem sound_after (kind : ResourceKind) (turns : List (Turn ω)) :
    (after kind turns).Sound kind := by
  have hnew : Sound kind (⟨{ kind }, [], []⟩ : Relay ω) :=
    ⟨rfl, List.forall_mem_nil _, .nil, List.forall_mem_nil _⟩
  exact hnew.run turns

/-! ## Notices of one name -/

/-- A name that is marked is told to nobody else. -/
theorem toldOf_turn (s : Relay ω) {name : Text} (h : name ∈ s.registry.names) (t : Turn ω) :
    (s.turn t).toldOf name = s.toldOf name := by
  cases t with
  | call c =>
    cases c with
    | mark other =>
      by_cases hother : other ∈ s.registry.names
      · rw [turn_mark_known s hother]
      · have hne : other ≠ name := fun heq => hother (heq ▸ h)
        simp [turn_mark_new s hother, toldOf, filter_notices, hne]
    | subscribe o => rfl
    | cancel n => rfl
  | tell => rw [toldOf, s.turn_tell.2, toldOf]

theorem toldOf_run (s : Relay ω) {name : Text} (h : name ∈ s.registry.names)
    (turns : List (Turn ω)) : (s.run turns).toldOf name = s.toldOf name := by
  induction turns generalizing s with
  | nil => rfl
  | cons t turns ih => rw [run_cons, ih _ (s.names_subset_turn t h), s.toldOf_turn h t]

/-! ## Subscriptions -/

theorem subscribed_turn (s : Relay ω) (t : Turn ω) :
    (s.turn t).registry.subscribed = s.registry.subscribed + subscriptions [t] := by
  cases t with
  | call c =>
    cases c with
    | mark name =>
      by_cases h : name ∈ s.registry.names
      · rw [turn_mark_known s h]; rfl
      · rw [turn_mark_new s h]; rfl
    | subscribe o => rfl
    | cancel n => rfl
  | tell => rw [s.turn_tell.1]; rfl

theorem subscribed_after (kind : ResourceKind) (turns : List (Turn ω)) :
    (after kind turns).registry.subscribed = subscriptions turns := by
  induction turns using List.reverseRecOn with
  | nil => rfl
  | append_singleton turns t ih =>
    rw [after_append, subscriptions, List.filterMap_append, List.length_append]
    exact (subscribed_turn _ t).trans (by rw [ih]; rfl)

theorem mem_observers_turn (s : Relay ω) (t : Turn ω) (n : Nat) (o : ω) :
    (n, o) ∈ (s.turn t).registry.observers ↔
      ((n, o) ∈ s.registry.observers ∧ t ≠ .call (.cancel n)) ∨
        (t = .call (.subscribe o) ∧ n = s.registry.subscribed + 1) := by
  cases t with
  | call c =>
    cases c with
    | mark name =>
      by_cases h : name ∈ s.registry.names
      · simp [turn_mark_known s h]
      · simp [turn_mark_new s h]
    | subscribe o' => simp [turn, subscribe]; grind
    | cancel n' => simp [turn, cancel]; grind
  | tell => simp [s.turn_tell.1]

theorem mem_observers_run (s : Relay ω) {n : Nat} {o : ω} (h : (n, o) ∈ s.registry.observers)
    {turns : List (Turn ω)} (hturns : .call (.cancel n) ∉ turns) :
    (n, o) ∈ (s.run turns).registry.observers := by
  induction turns generalizing s with
  | nil => exact h
  | cons t turns ih =>
    obtain ⟨ht, hturns⟩ := not_or.mp (List.mem_cons.not.mp hturns)
    exact ih (s.turn t) ((s.mem_observers_turn t n o).mpr (.inl ⟨h, fun heq => ht heq.symm⟩)) hturns

/-- A subscription is active from its call on, until its number is cancelled. -/
theorem mem_observers_after (kind : ResourceKind) (turns : List (Turn ω)) (n : Nat) (o : ω) :
    (n, o) ∈ (after kind turns).registry.observers ↔
      ∃ before later, turns = before ++ .call (.subscribe o) :: later ∧
        n = subscriptions before + 1 ∧ .call (.cancel n) ∉ later := by
  constructor
  · induction turns using List.reverseRecOn with
    | nil => exact fun h => absurd h (List.not_mem_nil)
    | append_singleton turns t ih =>
      intro h
      rw [after_append, run_cons] at h
      rcases ((after kind turns).mem_observers_turn t n o).mp h with ⟨hold, ht⟩ | ⟨rfl, hn⟩
      · obtain ⟨before, later, hsplit, hn, hlater⟩ := ih hold
        refine ⟨before, later ++ [t], by simp [hsplit], hn, ?_⟩
        simpa [hlater] using fun heq => ht heq.symm
      · exact ⟨turns, [], rfl, by rw [hn, subscribed_after], List.not_mem_nil⟩
  · rintro ⟨before, later, rfl, hn, hlater⟩
    rw [after_append, run_cons]
    refine mem_observers_run _ (((after kind before).mem_observers_turn _ n o).mpr ?_) hlater
    exact .inr ⟨rfl, by rw [hn, subscribed_after]⟩

/-! ## Every run -/

/-- What is promised of a registry after some turns. -/
structure Faithful (kind : ResourceKind) (turns : List (Turn ω)) : Prop where
  /-- A mark is the first of its name if the name was not marked before. -/
  first : ∀ name, (after kind turns).isFirst name ↔ name ∉ marks turns
  names : (after kind turns).registry.names = Text.dedup (marks turns)
  size : (after kind turns).registry.size = (Text.dedup (marks turns)).length
  /-- Nobody is told of a name that was not marked. -/
  unmarked : ∀ name ∉ marks turns, (after kind turns).toldOf name = []
  /-- Those who were subscribed at the first mark of a name are told once, in their order, and
  nobody else is. -/
  told : ∀ before name later, turns = before ++ .call (.mark name) :: later → name ∉ marks before →
    (after kind turns).toldOf name = notices name kind (after kind before).registry.observers
  /-- That is over when what waited at the mark is next again. -/
  returned : ∀ before name later, turns = before ++ .call (.mark name) :: later →
    name ∉ marks before → (after kind turns).pending = (after kind before).pending →
    (after kind turns).given.filter (·.name = name) =
      notices name kind (after kind before).registry.observers
  /-- Subscriptions are in the order of their calls, with the number of each. -/
  sorted : (after kind turns).registry.observers.Pairwise (·.1 < ·.1)
  /-- Only its own cancellation ends a subscription. -/
  active : ∀ n o, (n, o) ∈ (after kind turns).registry.observers ↔
    ∃ before later, turns = before ++ .call (.subscribe o) :: later ∧
      n = subscriptions before + 1 ∧ .call (.cancel n) ∉ later
  /-- A cancellation takes out the one subscription of its number, if it is still there. -/
  cancelled : ∀ n, ((after kind turns).registry.cancel n).observers =
    (after kind turns).registry.observers.eraseP (·.1 == n)

theorem mem_names_after (kind : ResourceKind) (turns : List (Turn ω)) (name : Text) :
    name ∈ (after kind turns).registry.names ↔ name ∈ marks turns := by
  rw [names_after, Text.dedup, List.mem_eraseDups]

theorem toldOf_after {kind : ResourceKind} {before later : List (Turn ω)} {name : Text}
    (h : name ∉ marks before) :
    (after kind (before ++ .call (.mark name) :: later)).toldOf name =
      notices name kind (after kind before).registry.observers := by
  have hnew := (mem_names_after kind before name).not.mpr h
  rw [after_append, run_cons, toldOf_run _ ?_ later, (sound_after kind before).toldOf_mark hnew]
  simp [turn_mark_new _ hnew]

theorem faithful (kind : ResourceKind) (turns : List (Turn ω)) : Faithful kind turns where
  first name := by rw [isFirst_iff, mem_names_after]
  names := names_after kind turns
  size := by rw [size, names_after]
  unmarked name h :=
    (sound_after kind turns).toldOf_unmarked ((mem_names_after kind turns name).not.mpr h)
  told before name later hturns h := by rw [hturns, toldOf_after h]
  returned before name later hturns h hpending := by
    have hwaiting : (after kind before).pending.filter (·.name = name) = [] := by
      have hold := (sound_after kind before).toldOf_unmarked
        ((mem_names_after kind before name).not.mpr h)
      rw [toldOf, List.filter_append] at hold
      exact (List.append_eq_nil_iff.mp hold).2
    have htold : (after kind (before ++ .call (.mark name) :: later)).toldOf name = _ := toldOf_after h
    rw [← hturns, toldOf, List.filter_append, hpending, hwaiting, List.append_nil] at htold
    exact htold
  sorted := (sound_after kind turns).sorted
  active := mem_observers_after kind turns
  cancelled := (sound_after kind turns).cancel_eq_eraseP

/-- The first observer cancels the second and marks another name while it is told: the second is
told of the first name all the same, and only after the first was told of the other. -/
example :
    ((after .script [.call (.subscribe 'a'), .call (.subscribe 'b'), .call (.mark "x"), .tell,
      .call (.cancel 2), .call (.mark "y"), .tell, .tell]).given.map
        fun x => (x.name, x.observer)) =
      [(("x" : Text), 1, 'a'), (("y" : Text), 1, 'a'), (("x" : Text), 2, 'b')] := by
  decide

end Relay

end PageBoot.Registry
