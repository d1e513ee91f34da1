import Mathlib.Data.List.Chain
import PageBoot.Session.Basic

/-!
The life of a session under calls in any order, also under calls that are made while the session
itself is calling back. A `Course` is such a tree of calls, and its `history` lists what each of
them does, one locked section after another. `history_orderly` states what holds of every history:
the status moves one way, one recovery action is run at most, and the connection is closed at most
once and not after it was lost.
-/

namespace PageBoot.Session

variable {η ρ : Type}

/-! ## Calls -/

inductive Call (η ρ : Type) where
  | transition (target : Nat)
  | attach (connector : Text) (handle : Option η)
  | onDisconnected (action : Option ρ)
  | disconnected
  | close

/-- Code outside that a session calls. -/
inductive Callback (η ρ : Type) where
  | recovery (action : ρ)
  | disconnect (handle : η)

/-- What one locked section of a call did. -/
structure Moment (η ρ : Type) where
  before : Session η ρ
  call : Call η ρ
  after : Session η ρ
  failure : Option Failure := none
  /-- What is called once the lock is released. -/
  callback : Option (Callback η ρ) := none
  /-- A signal was held back and is to be delivered next. -/
  delivers : Bool := false

/-- The locked section of a call. -/
def react (s : Session η ρ) (c : Call η ρ) : Moment η ρ :=
  match c with
  | .transition n =>
    match s.transitionTo n with
    | .ok t => { before := s, call := c, after := t }
    | .error f => { before := s, call := c, after := s, failure := some f }
  | .attach connector handle =>
    match s.attach connector handle with
    | .ok (pending, t) => { before := s, call := c, after := t, delivers := pending }
    | .error f => { before := s, call := c, after := s, failure := some f }
  | .onDisconnected action => { before := s, call := c, after := s.onDisconnected action }
  | .disconnected =>
    match s.disconnected with
    | (.ignored, t) => { before := s, call := c, after := t }
    | (.lost action, t) => { before := s, call := c, after := t, callback := action.map .recovery }
  | .close => { before := s, call := c, after := s.close.2, callback := s.close.1.map .disconnect }

/-- The locked sections of a call: attaching delivers a signal that was held back. -/
def respond (s : Session η ρ) (c : Call η ρ) : List (Moment η ρ) :=
  let m := s.react c
  if m.delivers then [m, m.after.react .disconnected] else [m]

/-- The session after some moments. -/
def endOf (s : Session η ρ) (ms : List (Moment η ρ)) : Session η ρ :=
  ms.foldl (fun _ m => m.after) s

/-- Calls to a session, each with the calls that the code it calls back makes in turn. -/
inductive Course (η ρ : Type) where
  | done
  | call (c : Call η ρ) (inside next : Course η ρ)

/-- Everything a course does to a session. The inner calls of a call that leads to no callback are
not made. -/
def Course.history : Course η ρ → Session η ρ → List (Moment η ρ)
  | .done, _ => []
  | .call c inside next, s =>
    let ms := s.respond c
    let inner := if ms.any (·.callback.isSome) then inside.history (s.endOf ms) else []
    ms ++ inner ++ next.history (s.endOf (ms ++ inner))

/-! ## Histories as chains of moments -/

/-- Each moment is what the session does at the state that the moment before leaves. -/
def Follows : Session η ρ → List (Moment η ρ) → Prop
  | _, [] => True
  | s, m :: ms => m = s.react m.call ∧ Follows m.after ms

@[simp] theorem react_before (s : Session η ρ) (c : Call η ρ) : (s.react c).before = s := by
  unfold react
  split <;> (try split) <;> rfl

@[simp] theorem react_call (s : Session η ρ) (c : Call η ρ) : (s.react c).call = c := by
  unfold react
  split <;> (try split) <;> rfl

theorem follows_append {s : Session η ρ} {ms ns : List (Moment η ρ)} :
    s.Follows (ms ++ ns) ↔ s.Follows ms ∧ (s.endOf ms).Follows ns := by
  induction ms generalizing s with
  | nil => simp [Follows, endOf]
  | cons m ms ih =>
    simp only [List.cons_append, Follows, ih, and_assoc]
    rfl

theorem respond_follows (s : Session η ρ) (c : Call η ρ) : s.Follows (s.respond c) := by
  simp only [respond]
  split <;> simp [Follows]

theorem history_follows (course : Course η ρ) (s : Session η ρ) :
    s.Follows (course.history s) := by
  induction course generalizing s with
  | done => trivial
  | call c inside next ihInside ihNext =>
    have hinner : (s.endOf (s.respond c)).Follows
        (if (s.respond c).any (·.callback.isSome) then inside.history (s.endOf (s.respond c))
          else []) := by
      split
      · exact ihInside _
      · trivial
    simp only [Course.history, follows_append]
    exact ⟨⟨respond_follows s c, hinner⟩, ihNext _⟩

/-! ## What a locked section can do -/

/-- The ways in which a session can react, by the status it is in. -/
inductive Reacts (s : Session η ρ) : Moment η ρ → Prop
  | moved (n : Nat) (target : Status) (h : s.status.allows target = true) :
      Reacts s { before := s, call := .transition n, after := { s with status := target } }
  | refusedMove (n : Nat) (f : Failure) :
      Reacts s { before := s, call := .transition n, after := s, failure := some f }
  | attached (connector : Text) (handle : Option η) (h : s.status = .probing) :
      Reacts s {
        before := s
        call := .attach connector handle
        after := { s with status := .connected, handle, connector, pending := false }
        delivers := s.pending }
  | refusedAttach (connector : Text) (handle : Option η) (f : Failure) :
      Reacts s { before := s, call := .attach connector handle, after := s, failure := some f }
  | armed (action : Option ρ) :
      Reacts s {
        before := s
        call := .onDisconnected action
        after := { s with recovery := action } }
  | lost (h : s.status = .connected) :
      Reacts s {
        before := s
        call := .disconnected
        after := { s with recovery := none, status := .disconnected, handle := none }
        callback := s.recovery.map .recovery }
  | held (h : s.status = .probing) :
      Reacts s { before := s, call := .disconnected, after := { s with pending := true } }
  | ignored (hc : s.status ≠ .connected) (hp : s.status ≠ .probing) :
      Reacts s { before := s, call := .disconnected, after := { s with recovery := none } }
  | closed :
      Reacts s {
        before := s
        call := .close
        after := { s with
          handle := none
          recovery := none
          status := if s.status = .connected then .disconnected else s.status }
        callback := s.handle.map .disconnect }

theorem transition_eq_ok {s t : Session η ρ} {target : Status} (h : s.transition target = .ok t) :
    s.status.allows target = true ∧ t = { s with status := target } := by
  unfold transition at h
  split at h
  · cases h
    exact ⟨by assumption, rfl⟩
  · cases h

theorem react_reacts (s : Session η ρ) (c : Call η ρ) : s.Reacts (s.react c) := by
  cases c with
  | transition n =>
    cases hm : s.transitionTo n with
    | error f =>
      simp only [react, hm]
      exact .refusedMove n f
    | ok t =>
      simp only [react, hm]
      unfold transitionTo at hm
      split at hm
      · obtain ⟨hallowed, rfl⟩ := transition_eq_ok hm
        exact .moved n _ hallowed
      · cases hm
  | attach connector handle =>
    cases hm : s.transition .connected with
    | error f =>
      simp only [react, attach, hm]
      exact .refusedAttach connector handle f
    | ok t =>
      obtain ⟨hallowed, rfl⟩ := transition_eq_ok hm
      have hprobing : s.status = .probing := by
        cases hs : s.status <;> simp [hs, Status.allows] at hallowed ⊢
      simp only [react, attach, hm]
      exact .attached connector handle hprobing
  | onDisconnected action => exact .armed action
  | disconnected =>
    by_cases hc : s.status = .connected
    · simp only [react, disconnected, hc]
      exact .lost hc
    · by_cases hp : s.status = .probing
      · have hd : s.disconnected = (.ignored, { s with pending := true }) := by
          simp [disconnected, hp]
        simp only [react, hd]
        exact .held hp
      · have hd : s.disconnected = (.ignored, { s with recovery := none }) := by
          cases hs : s.status <;> simp_all [disconnected]
        simp only [react, hd]
        exact .ignored hc hp
  | close => exact .closed

/-! ## From one section to a whole history -/

theorem Follows.reacts {s : Session η ρ} {m : Moment η ρ} {ms : List (Moment η ρ)}
    (h : s.Follows (m :: ms)) : s.Reacts m := by
  rw [h.1]
  exact react_reacts s m.call

theorem Follows.forall_mem {q : Moment η ρ → Prop} {s : Session η ρ} {ms : List (Moment η ρ)}
    (hstep : ∀ (s : Session η ρ) (m : Moment η ρ), s.Reacts m → q m) (h : s.Follows ms) :
    ∀ m ∈ ms, q m := by
  induction ms generalizing s with
  | nil => simp
  | cons m ms ih =>
    intro m' hm'
    rcases List.mem_cons.mp hm' with rfl | hm'
    · exact hstep s _ h.reacts
    · exact ih h.2 m' hm'

/-- What every section pays for out of a budget happens no more often than the budget allows. -/
theorem Follows.countP_le {p : Moment η ρ → Bool} {budget : Session η ρ → Nat}
    {s : Session η ρ} {ms : List (Moment η ρ)}
    (hstep : ∀ (s : Session η ρ) (m : Moment η ρ), s.Reacts m →
      (p m).toNat + budget m.after ≤ budget s)
    (h : s.Follows ms) : ms.countP p + budget (s.endOf ms) ≤ budget s := by
  induction ms generalizing s with
  | nil => simp [endOf]
  | cons m ms ih =>
    have hm := hstep s m h.reacts
    have hms : ms.countP p + budget (s.endOf (m :: ms)) ≤ budget m.after := ih h.2
    rw [List.countP_cons]
    cases hp : p m <;> simp [hp] at hm ⊢ <;> omega

/-- Once a section has led to a state that is never left, `q` holds of all that comes later. -/
theorem Follows.pairwise {trigger q : Moment η ρ → Prop} {stuck : Session η ρ → Prop}
    {s : Session η ρ} {ms : List (Moment η ρ)}
    (hstart : ∀ (s : Session η ρ) (m : Moment η ρ), s.Reacts m → trigger m → stuck m.after)
    (hstay : ∀ (s : Session η ρ) (m : Moment η ρ), s.Reacts m → stuck s → stuck m.after ∧ q m)
    (h : s.Follows ms) : ms.Pairwise fun a b => trigger a → q b := by
  have hafter : ∀ (ms : List (Moment η ρ)) (s : Session η ρ), s.Follows ms → stuck s →
      ∀ m ∈ ms, q m := by
    intro ms
    induction ms with
    | nil => simp
    | cons m ms ih =>
      intro s h hs m' hm'
      obtain ⟨hnext, hm⟩ := hstay s m h.reacts hs
      rcases List.mem_cons.mp hm' with rfl | hm'
      · exact hm
      · exact ih m.after h.2 hnext m' hm'
  induction ms generalizing s with
  | nil => exact .nil
  | cons m ms ih =>
    refine .cons ?_ (ih h.2)
    intro b hb ht
    exact hafter ms m.after h.2 (hstart s m h.reacts ht) b hb

/-! ## Recovery -/

def Moment.recovers (m : Moment η ρ) : Bool :=
  match m.callback with
  | some (.recovery _) => true
  | _ => false

def Moment.disconnects (m : Moment η ρ) : Bool :=
  match m.callback with
  | some (.disconnect _) => true
  | _ => false

/-- A signal reaches a connected session. -/
def Moment.Loses (m : Moment η ρ) : Prop :=
  m.before.status = .connected ∧ m.call = .disconnected

/-- A connected session is closed. -/
def Moment.Ends (m : Moment η ρ) : Prop :=
  m.before.status = .connected ∧ m.call = .close

/-- Recovery actions that may still be run. -/
def recoverable (s : Session η ρ) : Nat :=
  match s.status with
  | .failed | .disconnected => 0
  | _ => 1

theorem Reacts.recoverable_le {s : Session η ρ} {m : Moment η ρ} (h : s.Reacts m) :
    m.recovers.toNat + m.after.recoverable ≤ s.recoverable := by
  cases h with
  | moved n target h =>
    cases hs : s.status <;> cases target <;>
      simp_all [Status.allows, Moment.recovers, recoverable]
  | attached connector handle h => simp [Moment.recovers, recoverable, h]
  | lost h => cases hr : s.recovery <;> simp [Moment.recovers, recoverable, h]
  | closed => cases hh : s.handle <;> cases hs : s.status <;> simp [Moment.recovers, recoverable, hs]
  | _ => simp [Moment.recovers, recoverable]

/-- A recovery action runs exactly if there is one when a signal reaches a connected session. -/
theorem Reacts.recovers_iff {s : Session η ρ} {m : Moment η ρ} (h : s.Reacts m) :
    m.recovers = true ↔ m.Loses ∧ m.before.recovery.isSome = true := by
  cases h with
  | lost h => cases hr : s.recovery <;> simp [Moment.recovers, Moment.Loses, h]
  | closed => cases hh : s.handle <;> simp [Moment.recovers, Moment.Loses]
  | held h => simp [Moment.recovers, Moment.Loses, h]
  | ignored hc hp => simp [Moment.recovers, Moment.Loses, hc]
  | _ => simp [Moment.recovers, Moment.Loses]

/-- A closed session stays as it is: no recovery action is run any more. -/
theorem Reacts.ends {s : Session η ρ} {m : Moment η ρ} (h : s.Reacts m) (he : m.Ends) :
    m.after.status = .disconnected := by
  obtain ⟨hs, hc⟩ := he
  cases h with
  | closed =>
    have hs : s.status = .connected := hs
    simp [hs]
  | _ => cases hc

theorem Reacts.disconnected_stays {s : Session η ρ} {m : Moment η ρ} (h : s.Reacts m)
    (hs : s.status = .disconnected) : m.after.status = .disconnected ∧ m.recovers = false := by
  cases h with
  | moved n target h => simp [hs, Status.allows] at h
  | attached connector handle h => simp [hs] at h
  | lost h => simp [hs] at h
  | closed => cases hh : s.handle <;> simp [hs, Moment.recovers]
  | _ => exact ⟨hs, rfl⟩

/-! ## Closing the connection -/

/-- Connections that may still be closed: the one at hand and one to come. -/
def closable (s : Session η ρ) : Nat :=
  s.handle.isSome.toNat + match s.status with
    | .idle | .probing => 1
    | _ => 0

theorem Reacts.closable_le {s : Session η ρ} {m : Moment η ρ} (h : s.Reacts m) :
    m.disconnects.toNat + m.after.closable ≤ s.closable := by
  cases h with
  | moved n target h =>
    cases hs : s.status <;> cases target <;>
      simp_all [Status.allows, Moment.disconnects, closable]
  | attached connector handle h =>
    have := Bool.toNat_le handle.isSome
    simp [Moment.disconnects, closable, h]
    omega
  | lost h => cases hr : s.recovery <;> simp [Moment.disconnects, closable, h]
  | closed =>
    cases hh : s.handle <;> cases hs : s.status <;> simp [Moment.disconnects, closable, hh, hs]
  | _ => simp [Moment.disconnects, closable]

theorem Reacts.loses {s : Session η ρ} {m : Moment η ρ} (h : s.Reacts m) (hl : m.Loses) :
    m.after.status = .disconnected ∧ m.after.handle = none := by
  obtain ⟨hs, hc⟩ := hl
  cases h with
  | lost h => exact ⟨rfl, rfl⟩
  | held h =>
    have hs : s.status = .connected := hs
    simp [hs] at h
  | ignored hne hp => exact absurd hs hne
  | _ => cases hc

theorem Reacts.lost_stays {s : Session η ρ} {m : Moment η ρ} (h : s.Reacts m)
    (hs : s.status = .disconnected ∧ s.handle = none) :
    (m.after.status = .disconnected ∧ m.after.handle = none) ∧ m.disconnects = false := by
  obtain ⟨hs, hh⟩ := hs
  cases h with
  | moved n target h => simp [hs, Status.allows] at h
  | attached connector handle h => simp [hs] at h
  | lost h => simp [hs] at h
  | closed => simp [hs, hh, Moment.disconnects]
  | _ => exact ⟨⟨hs, hh⟩, rfl⟩

/-- A handle that a session holds was attached to it. -/
theorem Reacts.handle_eq {s : Session η ρ} {m : Moment η ρ} (h : s.Reacts m) {c : η}
    (hc : m.after.handle = some c) :
    s.handle = some c ∨ m.failure = none ∧ ∃ connector, m.call = .attach connector (some c) := by
  cases h with
  | attached connector handle h =>
    have hc : handle = some c := hc
    exact .inr ⟨rfl, connector, by rw [hc]⟩
  | lost h => cases hc
  | closed => cases hc
  | _ => exact .inl hc

theorem Follows.handle_endOf {s : Session η ρ} {ms : List (Moment η ρ)} (h : s.Follows ms) {c : η}
    (hc : (s.endOf ms).handle = some c) :
    s.handle = some c ∨
      ∃ m ∈ ms, m.failure = none ∧ ∃ connector, m.call = .attach connector (some c) := by
  induction ms generalizing s with
  | nil => exact .inl hc
  | cons m ms ih =>
    rcases ih h.2 hc with hm | ⟨a, ha, hattach⟩
    · rcases h.reacts.handle_eq hm with hs | hattach
      · exact .inl hs
      · exact .inr ⟨m, List.mem_cons_self, hattach⟩
    · exact .inr ⟨a, List.mem_cons_of_mem m ha, hattach⟩

theorem Reacts.handle_of_disconnect {s : Session η ρ} {m : Moment η ρ} (h : s.Reacts m) {c : η}
    (hc : m.callback = some (.disconnect c)) : s.handle = some c := by
  cases h with
  | lost h => cases hr : s.recovery <;> simp [hr] at hc
  | closed => simpa using hc
  | _ => cases hc

/-! ## The order of a life -/

/-- The moves of a session's status. -/
def legalMoves : List (Status × Status) :=
  [(.idle, .probing), (.probing, .connected), (.probing, .failed), (.connected, .disconnected)]

theorem Reacts.moves {s : Session η ρ} {m : Moment η ρ} (h : s.Reacts m) :
    m.after.status = m.before.status ∨ (m.before.status, m.after.status) ∈ legalMoves := by
  cases h with
  | moved n target h =>
    cases hs : s.status <;> cases target <;> simp_all [Status.allows, legalMoves]
  | attached connector handle h => simp [h, legalMoves]
  | lost h => simp [h, legalMoves]
  | closed => cases hs : s.status <;> simp [legalMoves]
  | _ => exact .inl rfl

theorem Reacts.unchanged_of_failure {s : Session η ρ} {m : Moment η ρ} (h : s.Reacts m)
    (hf : m.failure.isSome = true) : m.after = m.before := by
  cases h with
  | refusedMove n f => rfl
  | refusedAttach connector handle f => rfl
  | _ => cases hf

theorem Follows.isChain {s : Session η ρ} {ms : List (Moment η ρ)} (h : s.Follows ms) :
    ms.IsChain fun a b => b.before = a.after := by
  induction ms generalizing s with
  | nil => exact .nil
  | cons m ms ih =>
    cases ms with
    | nil => exact .singleton m
    | cons b ms =>
      refine .cons_cons ?_ (ih h.2)
      rw [h.2.1, react_before]

/-- What holds of everything that happens to one session, in the order in which it happens. -/
structure Orderly (ms : List (Moment η ρ)) : Prop where
  linked : ms.IsChain fun a b => b.before = a.after
  moves : ∀ m ∈ ms,
    m.after.status = m.before.status ∨ (m.before.status, m.after.status) ∈ legalMoves
  recovers_iff : ∀ m ∈ ms, m.recovers = true ↔ m.Loses ∧ m.before.recovery.isSome = true
  recovers_once : ms.countP Moment.recovers ≤ 1
  disconnects_once : ms.countP Moment.disconnects ≤ 1
  disconnects_attached : ∀ (earlier : List (Moment η ρ)) (m : Moment η ρ) (later) (c : η),
    ms = earlier ++ m :: later → m.callback = some (.disconnect c) →
      ∃ a ∈ earlier, a.failure = none ∧ ∃ connector, a.call = .attach connector (some c)
  lost_not_disconnected : ms.Pairwise fun a b => a.Loses → b.disconnects = false
  closed_not_recovered : ms.Pairwise fun a b => a.Ends → b.recovers = false
  refused_unchanged : ∀ m ∈ ms, m.failure.isSome = true → m.after = m.before

/-- **The life of a session.** Whatever calls are made to a new session, in whatever order and
from inside whatever callbacks, its history is orderly. -/
theorem history_orderly (id module : Text) (course : Course η ρ) :
    Orderly (course.history { id, module }) := by
  have h := history_follows course ({ id, module } : Session η ρ)
  refine ⟨h.isChain, ?_, ?_, ?_, ?_, ?_, ?_, ?_, ?_⟩
  · exact h.forall_mem fun s m hm => hm.moves
  · exact h.forall_mem fun s m hm => hm.recovers_iff
  · have hle := h.countP_le fun s m hm => hm.recoverable_le
    have hone : ({ id, module } : Session η ρ).recoverable = 1 := rfl
    omega
  · have hle := h.countP_le fun s m hm => hm.closable_le
    have hone : ({ id, module } : Session η ρ).closable = 1 := rfl
    omega
  · intro earlier m later c hms hc
    rw [hms, follows_append] at h
    rcases h.1.handle_endOf (h.2.reacts.handle_of_disconnect hc) with hnew | hattached
    · cases hnew
    · exact hattached
  · exact h.pairwise (fun s m hm => hm.loses) (fun s m hm => hm.lost_stays)
  · exact h.pairwise (fun s m hm => hm.ends) (fun s m hm => hm.disconnected_stays)
  · exact h.forall_mem fun s m hm => hm.unchanged_of_failure

end PageBoot.Session
