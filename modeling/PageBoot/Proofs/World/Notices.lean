import PageBoot.Proofs.Session.Notices
import PageBoot.Proofs.World.Resources

/-!
Marks on a page at work, as runs of a registry (`Stage`). A watcher may mark, cancel and subscribe
while it is told of a mark, and every such call is a turn of the registry it concerns. A watcher
that marks does so once, so marks are nested no deeper than there are such watchers: each of them
returns with all of its notices given (`Rests.mark`), and what it tells is told by marks like itself
(`mark_new`). What this makes of a page is said twice in `registries_faithful`: as the turns that its
registry takes, and as what `Marks` says of the page alone.
-/

namespace PageBoot

open Registry

/-- What a watcher of this kind is told: its label and the name. -/
def Note.heard? (kind : ResourceKind) : Note → Option (Text × Text)
  | .loaded label k name => if k = kind then some (label, name) else none
  | _ => none

/-- The line that a watcher leaves for its notice. -/
def Registry.Notice.line (x : Notice Watcher) : Text × Text := (x.observer.2.label, x.name)

namespace World

/-- What watchers of a kind were told, oldest first. -/
def heard (w : World) (kind : ResourceKind) : List (Text × Text) :=
  w.notes.filterMap (Note.heard? kind)

/-- Those of the given subscriptions that had no event yet. -/
def unfired (w : World) (kind : ResourceKind) (eager : List Nat) : Nat :=
  (eager.filter fun n => !w.fired.contains (kind, n)).length

/-- A watcher that marks a name is one of the given subscriptions. -/
def Known (eager : List Nat) (x : Nat × Watcher) : Prop := x.2.IsQuiet ∨ x.1 ∈ eager

/-- The registry of a kind is where `s` is, and what its watchers heard since `base` is what was
given. -/
structure Stage (kind : ResourceKind) (eager : List Nat) (base : List (Text × Text))
    (s : Relay Watcher) (w : World) : Prop where
  registry : w.state.registry kind = s.registry
  heard : w.heard kind = base ++ s.given.map Notice.line
  known : ∀ x ∈ s.registry.observers, Known eager x
  waiting : ∀ x ∈ s.pending, Known eager x.observer

/-- From `w` to `u` the registry takes some turns, after which the given notices wait. -/
def Plays (kind : ResourceKind) (eager : List Nat) (base : List (Text × Text)) (s : Relay Watcher)
    (w : World) (pending : List (Notice Watcher)) (u : World) : Prop :=
  ∃ turns, Stage kind eager base (s.run turns) u ∧ (s.run turns).pending = pending ∧
    u.unfired kind eager ≤ w.unfired kind eager

section
variable {kind k : ResourceKind} {eager : List Nat} {base : List (Text × Text)}
  {s : Relay Watcher} {w v u : World} {p q : List (Notice Watcher)}

theorem Stage.plays (h : Stage kind eager base s w) : Plays kind eager base s w s.pending w :=
  ⟨[], h, rfl, le_rfl⟩

theorem Plays.trans (h : Plays kind eager base s w p v)
    (h' : ∀ s', Stage kind eager base s' v → s'.pending = p → Plays kind eager base s' v q u) :
    Plays kind eager base s w q u := by
  obtain ⟨turns, hstage, hpending, hle⟩ := h
  obtain ⟨turns', hstage', hpending', hle'⟩ := h' _ hstage hpending
  exact ⟨turns ++ turns', by rwa [Relay.run_append], by rwa [Relay.run_append], hle'.trans hle⟩

/-- A call that tells nobody. -/
theorem Plays.of_turn (t : Turn Watcher) (h : Stage kind eager base (s.turn t) u)
    (hpending : (s.turn t).pending = s.pending) (hfired : u.fired = w.fired) :
    Plays kind eager base s w s.pending u :=
  ⟨[t], h, hpending, by simp [unfired, hfired]⟩

/-! ## Calls that tell nobody -/

theorem heard_note (n : Note) : (w.note n).heard kind = w.heard kind ++ (n.heard? kind).toList := by
  cases h : n.heard? kind <;> simp [World.heard, note, h]

theorem Stage.note (h : Stage kind eager base s w) {n : Note} (hn : n.heard? kind = none) :
    Stage kind eager base s (w.note n) :=
  ⟨h.registry, by rw [heard_note, hn, Option.toList_none, List.append_nil, h.heard], h.known,
    h.waiting⟩

theorem Stage.cancel (h : Stage kind eager base s w) (label : Text) :
    Plays kind eager base s w s.pending (w.cancel label) := by
  unfold World.cancel
  cases w.subscriptions.get? label with
  | none => exact h.plays
  | some x =>
    obtain ⟨k, n⟩ := x
    by_cases hk : kind = k
    · subst k
      refine .of_turn (.call (.cancel n)) ⟨?_, h.heard, ?_, h.waiting⟩ rfl rfl
      · simp [registry_setRegistry, h.registry, Relay.turn]
      · exact fun x hx => h.known x (List.mem_filter.mp hx).1
    · have hstage : Stage kind eager base s
          { w with state := w.state.setRegistry ((w.state.registry k).cancel n) k } :=
        ⟨by simp [registry_setRegistry, hk, h.registry], h.heard, h.known, h.waiting⟩
      exact hstage.plays

theorem Stage.subscribe (h : Stage kind eager base s w) (k : ResourceKind) {o : Watcher}
    (ho : Known eager (s.registry.subscribed + 1, o)) :
    Plays kind eager base s w s.pending (w.subscribe k o) := by
  by_cases hk : kind = k
  · subst k
    refine .of_turn (.call (.subscribe o)) ⟨?_, h.heard, ?_, h.waiting⟩ rfl rfl
    · simp [World.subscribe, registry_setRegistry, h.registry, Relay.turn]
    · intro x hx
      rcases List.mem_append.mp hx with hx | hx
      · exact h.known x hx
      · rw [List.mem_singleton.mp hx]
        exact ho
  · have hstage : Stage kind eager base s (w.subscribe k o) :=
      ⟨by simp [World.subscribe, registry_setRegistry, hk, h.registry], h.heard, h.known, h.waiting⟩
    exact hstage.plays

end

/-! ## What a watcher does when it is told -/

/-- What a watcher does at its first event. -/
def react (mark : ResourceKind → Text → World → Bool × World) (kind : ResourceKind) (w : World)
    (r : Reaction) : World :=
  let marked := r.mark.elim w fun m => (mark kind m w).2.note (.marked (mark kind m w).1)
  let cancelled := r.cancel.elim marked marked.cancel
  r.subscribe.elim cancelled fun label => cancelled.subscribe kind { label }

theorem tell_eq (mark : ResourceKind → Text → World → Bool × World) (kind : ResourceKind)
    (name : Text) (w : World) (n : Nat) (o : Watcher) :
    tell mark kind name w (n, o) =
      match o.reaction with
      | none => w.note (.loaded o.label kind name)
      | some r =>
        if w.fired.contains (kind, n) then w.note (.loaded o.label kind name)
        else ({ w.note (.loaded o.label kind name) with fired := (kind, n) :: w.fired }).react
          mark kind r := by
  obtain ⟨label, reaction⟩ := o
  cases reaction with
  | none => rfl
  | some r =>
    obtain ⟨m, c, o⟩ := r
    cases m <;> cases c <;> cases o <;> rfl

section
variable {mark : ResourceKind → Text → World → Bool × World} {kind k : ResourceKind}
  {eager : List Nat} {base : List (Text × Text)} {s : Relay Watcher} {w v : World}
  {p : List (Notice Watcher)}

theorem Plays.elim {α : Type} (h : Plays kind eager base s w p v) (x : Option α) (f : α → World)
    (hf : ∀ a ∈ x, ∀ s', Stage kind eager base s' v → s'.pending = p →
      Plays kind eager base s' v s'.pending (f a)) :
    Plays kind eager base s w p (x.elim v f) := by
  cases x with
  | none => exact h
  | some a => exact h.trans fun s' hs' hp => hp ▸ hf a rfl s' hs' hp

theorem Stage.react {r : Reaction} (h : Stage kind eager base s w)
    (hmark : ∀ m ∈ r.mark, Plays kind eager base s w s.pending (mark k m w).2) :
    Plays kind eager base s w s.pending (w.react mark k r) := by
  have hmarked : Plays kind eager base s w s.pending
      (r.mark.elim w fun m => (mark k m w).2.note (.marked (mark k m w).1)) := by
    cases hm : r.mark with
    | none => exact h.plays
    | some m => exact (hmark m hm).trans fun s' hs' hp => hp ▸ (hs'.note (by rfl)).plays
  refine (hmarked.elim r.cancel _ fun label _ s' hs' _ => hs'.cancel label).elim r.subscribe _
    fun label _ s' hs' _ => hs'.subscribe k (o := { label }) (.inl ?_)
  simp [Watcher.IsQuiet]

/-- The event is noted as the first of its subscription. -/
def fire (w : World) (kind : ResourceKind) (n : Nat) : World :=
  { w with fired := (kind, n) :: w.fired }

theorem Stage.fire (h : Stage kind eager base s w) (k : ResourceKind) (n : Nat) :
    Stage kind eager base s (w.fire k n) :=
  ⟨h.registry, h.heard, h.known, h.waiting⟩

theorem unfired_fire_sublist (w : World) (kind k : ResourceKind) (n : Nat) (eager : List Nat) :
    (eager.filter fun m => !(w.fire k n).fired.contains (kind, m)).Sublist
      (eager.filter fun m => !w.fired.contains (kind, m)) :=
  List.monotone_filter_right _ fun m h => by simp_all [World.fire]

theorem unfired_fire_le (w : World) (kind k : ResourceKind) (n : Nat) (eager : List Nat) :
    (w.fire k n).unfired kind eager ≤ w.unfired kind eager :=
  (w.unfired_fire_sublist kind k n eager).length_le

theorem unfired_fire_lt {n : Nat} (hn : n ∈ eager) (hfired : (kind, n) ∉ w.fired) :
    (w.fire kind n).unfired kind eager < w.unfired kind eager := by
  refine lt_of_le_of_ne (w.unfired_fire_le kind kind n eager) fun heq => ?_
  have hsame := (w.unfired_fire_sublist kind kind n eager).eq_of_length heq
  have hmem : n ∈ eager.filter fun m => !w.fired.contains (kind, m) := by simp [hn, hfired]
  rw [← hsame] at hmem
  simp [World.fire] at hmem

/-- A watcher of another kind is told. -/
theorem Stage.tell_other (h : Stage kind eager base s w) (hk : k ≠ kind) (name : Text)
    (x : Nat × Watcher) (hmark : ∀ u m, Stage kind eager base s u →
      Plays kind eager base s u s.pending (mark k m u).2) :
    Plays kind eager base s w s.pending (tell mark k name w x) := by
  obtain ⟨n, o⟩ := x
  have htold : Stage kind eager base s (w.note (.loaded o.label k name)) :=
    h.note (by simp [Note.heard?, hk])
  rw [tell_eq]
  split
  · exact htold.plays
  · split
    · exact htold.plays
    · obtain ⟨turns, hstage, hpending, hle⟩ :=
        (htold.fire k n).react fun m _ => hmark _ m (htold.fire k n)
      exact ⟨turns, hstage, hpending, hle.trans (unfired_fire_le w kind k n eager)⟩

/-- The watcher that is next says that it was told. -/
theorem Stage.told (h : Stage kind eager base s w) {x : Notice Watcher} {p : List (Notice Watcher)}
    (hnext : s.pending = x :: p) :
    Stage kind eager base (s.turn .tell) (w.note (.loaded x.observer.2.label kind x.name)) ∧
      (s.turn .tell).pending = p ∧ Known eager x.observer := by
  have hturn : s.turn .tell = { s with pending := p, given := s.given ++ [x] } := by
    simp [Relay.turn, hnext]
  rw [hturn]
  refine ⟨⟨h.registry, ?_, h.known, fun y hy => h.waiting y (hnext ▸ List.mem_cons_of_mem _ hy)⟩, rfl,
    h.waiting x (hnext ▸ List.mem_cons_self)⟩
  simp [heard_note, h.heard, Note.heard?, Notice.line]

/-- A watcher that marks when it is told has its first event, and fewer are left then. -/
theorem unfired_fire_of_mark {x : Nat × Watcher} (hx : Known eager x) {r : Reaction}
    (hr : x.2.reaction = some r) {m : Text} (hm : m ∈ r.mark) (hfired : (kind, x.1) ∉ w.fired) :
    (w.fire kind x.1).unfired kind eager < w.unfired kind eager := by
  refine unfired_fire_lt (hx.resolve_left fun hquiet => ?_) hfired
  simp [hquiet r hr] at hm

/-- The watcher that is next is told. -/
theorem Stage.tell (h : Stage kind eager base s w) {x : Notice Watcher} {p : List (Notice Watcher)}
    (hnext : s.pending = x :: p) {depth : Nat} (hdepth : w.unfired kind eager ≤ depth)
    (hmark : ∀ s u m, Stage kind eager base s u → u.unfired kind eager < depth →
      Plays kind eager base s u s.pending (mark kind m u).2) :
    Plays kind eager base s w p (tell mark kind x.name w x.observer) := by
  obtain ⟨htold, hp, hknown⟩ := h.told hnext
  obtain ⟨name, k, n, o⟩ := x
  have hstart : ∀ {u}, Plays kind eager base (s.turn .tell) (w.note (.loaded o.label kind name))
      (s.turn .tell).pending u → Plays kind eager base s w p u := by
    rintro u ⟨turns, hstage, hpending, hle⟩
    exact ⟨.tell :: turns, hstage, hpending.trans hp, hle⟩
  rw [tell_eq]
  split
  · exact hstart htold.plays
  · rename_i r hr
    split
    · exact hstart htold.plays
    · rename_i hfired
      have hfired : (kind, n) ∉ w.fired := by simpa using hfired
      refine hstart ?_
      have hreacts : Plays kind eager base (s.turn .tell) _ (s.turn .tell).pending
          (World.react mark kind _ r) :=
        (htold.fire kind n).react fun m hm => hmark _ _ m (htold.fire kind n)
          ((unfired_fire_of_mark (w := w) hknown hr hm hfired).trans_le hdepth)
      obtain ⟨turns, hstage, hpending, hle⟩ := hreacts
      exact ⟨turns, hstage, hpending, hle.trans (unfired_fire_le w kind kind n eager)⟩

/-- All who wait for a name are told, one by one. -/
theorem Stage.tellAll {name : Text} {depth : Nat} (observers : List (Nat × Watcher))
    (h : Stage kind eager base s w) {p : List (Notice Watcher)}
    (hnext : s.pending = notices name k observers ++ p) (hdepth : w.unfired kind eager ≤ depth)
    (hmark : ∀ s u m, Stage kind eager base s u → u.unfired kind eager < depth →
      Plays kind eager base s u s.pending (mark kind m u).2) :
    Plays kind eager base s w p (observers.foldl (World.tell mark kind name) w) := by
  induction observers generalizing s w with
  | nil =>
    have hp : s.pending = p := hnext
    exact hp ▸ h.plays
  | cons x observers ih =>
    obtain ⟨turns, hstage, hpending, hle⟩ := h.tell hnext hdepth hmark
    obtain ⟨turns', hstage', hpending', hle'⟩ := ih hstage hpending (hle.trans hdepth)
    exact ⟨turns ++ turns', by rwa [Relay.run_append], by rwa [Relay.run_append], hle'.trans hle⟩

/-! ### Marks of watchers -/

/-- The page with a name entered. -/
def entered (w : World) (kind : ResourceKind) (name : Text) : World :=
  let r := w.state.registry kind
  { w with state := w.state.setRegistry { r with names := r.names ++ [name] } kind }

theorem markWithin_known {name : Text} (hname : name ∈ (w.state.registry k).names) (depth : Nat) :
    markWithin depth k name w = (false, w) := by
  cases depth with
  | zero => rfl
  | succ depth => simp [markWithin, Registry.mark, isLoaded, hname]

theorem markWithin_new {name : Text} (hname : name ∉ (w.state.registry k).names) (depth : Nat) :
    markWithin (depth + 1) k name w = (true,
      (w.state.registry k).observers.foldl (tell (markWithin depth) k name) (w.entered k name)) := by
  simp [markWithin, Registry.mark, isLoaded, hname, entered]

/-- A first mark in the midst of notices: its own are next. -/
theorem Stage.entered (h : Stage kind eager base s w) {name : Text} (hname : name ∉ s.registry.names) :
    Stage kind eager base (s.turn (.call (.mark name))) (w.entered kind name) ∧
      (s.turn (.call (.mark name))).pending =
        notices name s.registry.kind (w.state.registry kind).observers ++ s.pending := by
  rw [Relay.turn_mark_new s hname, h.registry]
  refine ⟨⟨?_, h.heard, h.known, fun x hx => ?_⟩, rfl⟩
  · simp [World.entered, registry_setRegistry, h.registry]
  · rcases List.mem_append.mp hx with hx | hx
    · obtain ⟨y, hy, rfl⟩ := List.mem_map.mp hx
      exact h.known y hy
    · exact h.waiting x hx

section

variable {mark' : ResourceKind → Text → World → Bool × World} {depth : Nat}

/-- What a watcher does depends on marks only as far as it marks. -/
theorem Stage.tell_congr (h : Stage kind eager base s w) {x : Notice Watcher}
    (hnext : s.pending = x :: p) (hdepth : w.unfired kind eager ≤ depth)
    (hsame : ∀ s u m, Stage kind eager base s u → u.unfired kind eager < depth →
      mark kind m u = mark' kind m u) :
    World.tell mark kind x.name w x.observer = World.tell mark' kind x.name w x.observer := by
  obtain ⟨htold, -, hknown⟩ := h.told hnext
  obtain ⟨name, k, n, o⟩ := x
  rw [tell_eq, tell_eq]
  cases hr : o.reaction with
  | none => rfl
  | some r =>
    simp only
    split
    · rfl
    · rename_i hfired
      have hfired : (kind, n) ∉ w.fired := by simpa using hfired
      have hreacts (m : Text) (hm : m ∈ r.mark) :
          mark kind m ((w.note (.loaded o.label kind name)).fire kind n) =
            mark' kind m ((w.note (.loaded o.label kind name)).fire kind n) :=
        hsame _ _ m (htold.fire kind n)
          ((unfired_fire_of_mark (w := w) hknown hr hm hfired).trans_le hdepth)
      unfold World.react
      cases hm : r.mark with
      | none => rfl
      | some m =>
        have heq := hreacts m hm
        simp only [World.fire, World.note] at heq
        simp only [Option.elim_some, World.note, heq]

theorem Stage.tellAll_congr {name : Text} (observers : List (Nat × Watcher))
    (h : Stage kind eager base s w) (hnext : s.pending = notices name k observers ++ p)
    (hdepth : w.unfired kind eager ≤ depth)
    (hmark : ∀ s u m, Stage kind eager base s u → u.unfired kind eager < depth →
      Plays kind eager base s u s.pending (mark kind m u).2)
    (hsame : ∀ s u m, Stage kind eager base s u → u.unfired kind eager < depth →
      mark kind m u = mark' kind m u) :
    observers.foldl (World.tell mark kind name) w = observers.foldl (World.tell mark' kind name) w := by
  induction observers generalizing s w with
  | nil => rfl
  | cons x observers ih =>
    have htell := h.tell_congr hnext hdepth hsame
    obtain ⟨turns, hstage, hpending, hle⟩ := h.tell hnext hdepth hmark
    rw [List.foldl_cons, List.foldl_cons, ← htell]
    exact ih hstage hpending (hle.trans hdepth)

end

theorem markWithin_plays (depth : Nat) (h : Stage kind eager base s w)
    (hdepth : w.unfired kind eager < depth) (name : Text) :
    Plays kind eager base (s.turn (.call (.mark name))) w s.pending
      (markWithin depth kind name w).2 := by
  induction depth generalizing s w name with
  | zero => omega
  | succ depth ih =>
    by_cases hname : name ∈ s.registry.names
    · rw [markWithin_known (h.registry ▸ hname), Relay.turn_mark_known s hname]
      exact h.plays
    · obtain ⟨hentered, hnext⟩ := h.entered hname
      rw [markWithin_new (h.registry ▸ hname)]
      refine hentered.tellAll _ hnext (Nat.le_of_lt_succ hdepth) fun s u m hs hu => ?_
      obtain ⟨turns, hstage, hpending, hle⟩ := ih hs hu m
      exact ⟨.call (.mark m) :: turns, hstage, hpending, hle⟩

theorem Stage.marks (h : Stage kind eager base s w) {depth : Nat} (hdepth : w.unfired kind eager < depth)
    (name : Text) : Plays kind eager base s w s.pending (markWithin depth kind name w).2 := by
  obtain ⟨turns, hstage, hpending, hle⟩ := markWithin_plays depth h hdepth name
  exact ⟨.call (.mark name) :: turns, hstage, hpending, hle⟩

/-- No mark goes as deep as it may. -/
theorem Stage.markWithin_eq (h : Stage kind eager base s w) {depth depth' : Nat}
    (hdepth : w.unfired kind eager < depth) (hdepth' : w.unfired kind eager < depth') (name : Text) :
    markWithin depth kind name w = markWithin depth' kind name w := by
  induction depth generalizing s w depth' name with
  | zero => omega
  | succ depth ih =>
    cases depth' with
    | zero => omega
    | succ depth' =>
      by_cases hname : name ∈ s.registry.names
      · rw [markWithin_known (h.registry ▸ hname), markWithin_known (h.registry ▸ hname)]
      · obtain ⟨hentered, hnext⟩ := h.entered hname
        rw [markWithin_new (h.registry ▸ hname), markWithin_new (h.registry ▸ hname)]
        refine congrArg (true, ·) (hentered.tellAll_congr _ hnext le_rfl (fun s u m hs hu => ?_)
          fun s u m hs hu => ?_)
        · exact hs.marks (hu.trans_le (Nat.le_of_lt_succ hdepth)) m
        · exact ih hs (hu.trans_le (Nat.le_of_lt_succ hdepth)) (hu.trans_le (Nat.le_of_lt_succ hdepth')) m

theorem Stage.tellAll_other (h : Stage kind eager base s w) (hk : k ≠ kind) (name : Text)
    (observers : List (Nat × Watcher)) (hmark : ∀ s u m, Stage kind eager base s u →
      Plays kind eager base s u s.pending (mark k m u).2) :
    Plays kind eager base s w s.pending (observers.foldl (World.tell mark k name) w) := by
  induction observers generalizing s w with
  | nil => exact h.plays
  | cons x observers ih =>
    have htold := h.tell_other hk name x fun u m hu => hmark s u m hu
    exact htold.trans fun s' hs' hp => hp ▸ ih hs'

/-- A mark of another kind. -/
theorem markWithin_other (hk : k ≠ kind) (depth : Nat) (h : Stage kind eager base s w)
    (name : Text) : Plays kind eager base s w s.pending (markWithin depth k name w).2 := by
  induction depth generalizing s w name with
  | zero => exact h.plays
  | succ depth ih =>
    rw [markWithin]
    split
    · exact h.plays
    · rename_i observers r _
      have hset : Stage kind eager base s { w with state := w.state.setRegistry r k } :=
        ⟨by rw [registry_setRegistry, if_neg hk.symm, h.registry], h.heard, h.known, h.waiting⟩
      exact hset.tellAll_other hk name observers fun s u m hu => ih hu m

end

/-! ## What the page asks -/

/-- A call that the page makes to one of its registries. -/
inductive Order where
  | mark (kind : ResourceKind) (name : Text)
  | subscribe (kind : ResourceKind) (o : Watcher)
  | cancel (label : Text)

def carryOut (w : World) : Order → World
  | .mark kind name => (w.mark kind name).2
  | .subscribe kind o => w.subscribe kind o
  | .cancel label => w.cancel label

/-- The registry of a kind is where `s` is, nobody waits, and what its watchers heard since `base`
is what was given. -/
structure Rests (kind : ResourceKind) (base : List (Text × Text)) (s : Relay Watcher) (w : World) :
    Prop where
  registry : w.state.registry kind = s.registry
  pending : s.pending = []
  heard : w.heard kind = base ++ s.given.map Notice.line

section
variable {kind k : ResourceKind} {base : List (Text × Text)} {s : Relay Watcher} {w : World}

theorem Rests.stage (h : Rests kind base s w) {eager : List Nat}
    (heager : s.registry.observers.map (·.1) ⊆ eager) : Stage kind eager base s w where
  registry := h.registry
  heard := h.heard
  known _ hx := .inr (heager (List.mem_map_of_mem hx))
  waiting := by simp [h.pending]

theorem Rests.of_plays {eager : List Nat} {t : Relay Watcher} {u : World}
    (h : Rests kind base s w) (hplays : Plays kind eager base t w s.pending u) :
    ∃ turns, Rests kind base (t.run turns) u := by
  obtain ⟨turns, hstage, hpending, -⟩ := hplays
  exact ⟨turns, hstage.registry, hpending.trans h.pending, hstage.heard⟩

/-- A page that stood still: its registry, and nobody who waits. -/
theorem rests_self (kind : ResourceKind) (w : World) :
    Rests kind (w.heard kind) ⟨w.state.registry kind, [], []⟩ w := ⟨rfl, rfl, by simp⟩

/-- A mark may go deeper than there are watchers that have not marked yet. -/
theorem unfired_lt (w : World) (kind : ResourceKind) :
    w.unfired kind ((w.state.registry kind).observers.map (·.1)) <
      w.state.scripts.observers.length + w.state.styles.observers.length + 1 := by
  have hle : w.unfired kind ((w.state.registry kind).observers.map (·.1)) ≤
      (w.state.registry kind).observers.length :=
    (List.length_filter_le ..).trans_eq (List.length_map _)
  cases kind <;> simp only [PageState.registry] at hle ⊢ <;> omega

/-- A mark says whether it is the first of its name, and returns when all are told. -/
theorem Rests.mark (h : Rests kind base s w) (name : Text) :
    (w.mark kind name).1 = s.isFirst name ∧
      ∃ turns, Rests kind base (s.run (.call (.mark name) :: turns)) (w.mark kind name).2 := by
  have hdepth := w.unfired_lt kind
  rw [h.registry] at hdepth
  refine ⟨?_, h.of_plays (markWithin_plays _ (h.stage fun _ hn => hn) hdepth name)⟩
  rw [World.mark, markWithin, h.registry, Relay.isFirst]
  rcases s.registry.mark name with ⟨_ | observers, r⟩ <;> rfl

/-- A first mark enters its name and tells all who are subscribed, and what these mark meanwhile are
marks like any other. -/
theorem mark_new {name : Text} (hname : name ∉ (w.state.registry kind).names) :
    w.mark kind name = (true, (w.state.registry kind).observers.foldl
      (tell (fun k m u => u.mark k m) kind name) (w.entered kind name)) := by
  have hstage := (rests_self kind w).stage fun _ hn => hn
  have hdepth := w.unfired_lt kind
  obtain ⟨hentered, hnext⟩ := hstage.entered hname
  rw [World.mark, markWithin_new hname]
  refine congrArg (true, ·) (hentered.tellAll_congr _ hnext le_rfl (fun s u m hs hu => ?_)
    fun s u m hs hu => ?_)
  · exact hs.marks (hu.trans_le (Nat.le_of_lt_succ hdepth)) m
  · have hown := (rests_self kind u).stage fun _ hn => hn
    have hbound := u.unfired_lt kind
    rw [World.mark, hs.markWithin_eq (hu.trans_le (Nat.le_of_lt_succ hdepth))
      (hu.trans_le (Nat.le_add_right_of_le (Nat.le_of_lt_succ hdepth)))]
    exact hown.markWithin_eq (hbound.trans_le (Nat.le_add_left _ _)) hbound m

/-- A mark of a name that is loaded does nothing. -/
theorem mark_known {name : Text} (hname : name ∈ (w.state.registry k).names) :
    w.mark k name = (false, w) := markWithin_known hname _

/-! ## What the page is told -/

/-- What comes of a mark, on the page itself. -/
structure Marks (kind : ResourceKind) (w : World) (name : Text) (first : Bool) (u : World) : Prop where
  first : first = true ↔ name ∉ (w.state.registry kind).names
  known : name ∈ (w.state.registry kind).names → u = w
  /-- All who are subscribed are told one after another, and what they mark meanwhile are marks like
  this one. -/
  told : name ∉ (w.state.registry kind).names → u = (w.state.registry kind).observers.foldl
    (tell (fun k m v => v.mark k m) kind name) (w.entered kind name)
  /-- The first mark is entered, and every watcher that is subscribed then hears of it once, in their
  order; what else is entered and heard meanwhile is of other names. -/
  new : name ∉ (w.state.registry kind).names → ∃ more lines,
    (u.state.registry kind).names = (w.state.registry kind).names ++ name :: more ∧
    u.heard kind = w.heard kind ++ lines ∧
    lines.filter (·.2 = name) = (w.state.registry kind).observers.map fun x => (x.2.label, name)

/-- From `w` to `u` names stay loaded, and of those nothing more is heard. -/
structure StaysLoaded (kind : ResourceKind) (w u : World) : Prop where
  names : ∃ more, (u.state.registry kind).names = (w.state.registry kind).names ++ more
  heard : ∃ lines, u.heard kind = w.heard kind ++ lines ∧
    ∀ x ∈ lines, x.2 ∉ (w.state.registry kind).names

theorem filter_lines (name : Text) (given : List (Notice Watcher)) :
    (given.map Notice.line).filter (·.2 = name) = (given.filter (·.name = name)).map Notice.line := by
  rw [List.filter_map]
  rfl

theorem marks_mark (kind : ResourceKind) (w : World) (name : Text) :
    Marks kind w name (w.mark kind name).1 (w.mark kind name).2 := by
  obtain ⟨hfirst, turns, hrests⟩ := (rests_self kind w).mark name
  refine ⟨by rw [hfirst]; exact Relay.isFirst_iff _ name, fun hknown => by rw [mark_known hknown],
    fun hnew => by rw [mark_new hnew], fun hnew => ?_⟩
  let s : Relay Watcher := ⟨w.state.registry kind, [], []⟩
  have hentered : (s.turn (.call (.mark name))).registry.names = s.registry.names ++ [name] := by
    rw [Relay.turn_mark_new s hnew]
  have htold : (s.run (.call (.mark name) :: turns)).toldOf name =
      notices name s.registry.kind s.registry.observers := by
    rw [Relay.run_cons, Relay.toldOf_run _ (by simp [hentered]), Relay.toldOf_turn_new s hnew rfl]
  obtain ⟨more, hmore⟩ := Relay.names_run (s.turn (.call (.mark name))) turns
  refine ⟨more, _, ?_, hrests.heard, ?_⟩
  · rw [hrests.registry, Relay.run_cons, hmore, hentered, List.append_assoc, List.singleton_append]
  · rw [Relay.toldOf, hrests.pending, List.append_nil] at htold
    rw [filter_lines, htold, notices, List.map_map]
    rfl

theorem Rests.staysLoaded {turns : List (Turn Watcher)} {u : World}
    (h : Rests kind (w.heard kind) (Relay.run ⟨w.state.registry kind, [], []⟩ turns) u) :
    StaysLoaded kind w u := by
  obtain ⟨more, hmore⟩ := Relay.names_run ⟨w.state.registry kind, [], []⟩ turns
  refine ⟨⟨more, by rw [h.registry, hmore]⟩, _, h.heard, fun x hx hloaded => ?_⟩
  obtain ⟨notice, hnotice, rfl⟩ := List.mem_map.mp hx
  have htold := Relay.toldOf_run ⟨w.state.registry kind, [], []⟩ hloaded turns
  have hmem : notice ∈ (Relay.run ⟨w.state.registry kind, [], []⟩ turns).toldOf notice.name :=
    List.mem_filter.mpr ⟨List.mem_append_left _ hnotice, by simp⟩
  rw [show notice.line.2 = notice.name from rfl] at htold
  rw [htold] at hmem
  cases hmem

/-! ## What the page asks, turn by turn -/

/-- The turns of a registry that an order is itself. -/
def Order.opening (kind : ResourceKind) (w : World) : Order → List (Turn Watcher)
  | .mark k name => if k = kind then [.call (.mark name)] else []
  | .subscribe k o => if k = kind then [.call (.subscribe o)] else []
  | .cancel label =>
    match w.subscriptions.get? label with
    | none => []
    | some (k, n) => if k = kind then [.call (.cancel n)] else []

/-- An order that is the first mark of a name. -/
def Order.IsNews (w : World) : Order → Prop
  | .mark k name => name ∉ (w.state.registry k).names
  | _ => False

/-- A registry takes turns while a page's orders are carried out. Those of an order begin with the order
itself; more turns belong to it only if it is the first mark of a name, and then it comes to rest. -/
inductive Takes (kind : ResourceKind) (base : List (Text × Text)) :
    Relay Watcher → World → List Order → List (Turn Watcher) → Prop where
  | done {s : Relay Watcher} {w : World} (rests : Rests kind base s w) : Takes kind base s w [] []
  | next {s : Relay Watcher} {w : World} {order : Order} {orders : List Order}
      {reactions later : List (Turn Watcher)} (rests : Rests kind base s w)
      (news : reactions ≠ [] → order.IsNews w)
      (rest : Takes kind base (s.run (order.opening kind w ++ reactions)) (w.carryOut order) orders later) :
      Takes kind base s w (order :: orders) (order.opening kind w ++ reactions ++ later)

/-- An order that tells nobody. -/
theorem Rests.quiet (h : Rests kind base s w) {order : Order} (hquiet : ¬ order.IsNews w) :
    Rests kind base (s.run (order.opening kind w)) (w.carryOut order) := by
  cases order with
  | mark k name =>
    have hknown : name ∈ (w.state.registry k).names := by simpa [Order.IsNews] using hquiet
    rw [World.carryOut, mark_known hknown, Order.opening]
    split
    · next hk =>
      subst hk
      rw [h.registry] at hknown
      rw [Relay.run_cons, Relay.turn_mark_known s hknown]
      exact h
    · exact h
  | subscribe k o =>
    rw [Order.opening]
    split
    · next hk =>
      subst hk
      refine ⟨?_, h.pending, h.heard⟩
      simp [World.carryOut, World.subscribe, registry_setRegistry, h.registry, Relay.run, Relay.turn]
    · next hk =>
      refine ⟨?_, h.pending, h.heard⟩
      have hk : kind ≠ k := fun heq => hk heq.symm
      simp [World.carryOut, World.subscribe, registry_setRegistry, hk, h.registry, Relay.run]
  | cancel label =>
    rw [Order.opening, World.carryOut, World.cancel]
    cases w.subscriptions.get? label with
    | none => exact h
    | some x =>
      obtain ⟨k, n⟩ := x
      by_cases hk : k = kind
      · subst hk
        simp only [if_pos]
        refine ⟨?_, h.pending, h.heard⟩
        simp [registry_setRegistry, h.registry, Relay.run, Relay.turn]
      · simp only [if_neg hk]
        refine ⟨?_, h.pending, h.heard⟩
        have hk : kind ≠ k := fun heq => hk heq.symm
        simp [registry_setRegistry, hk, h.registry, Relay.run]

theorem Rests.carryOut (h : Rests kind base s w) (order : Order) :
    ∃ reactions, (reactions ≠ [] → order.IsNews w) ∧
      Rests kind base (s.run (order.opening kind w ++ reactions)) (w.carryOut order) := by
  by_cases hnews : order.IsNews w
  · cases order with
    | mark k name =>
      by_cases hk : k = kind
      · subst hk
        obtain ⟨-, turns, hturns⟩ := h.mark name
        exact ⟨turns, fun _ => hnews, by simpa [Order.opening, World.carryOut] using hturns⟩
      · obtain ⟨turns, hturns⟩ := h.of_plays (markWithin_other hk _ (h.stage fun _ hn => hn) name)
        refine ⟨turns, fun _ => hnews, ?_⟩
        simpa [Order.opening, hk, World.carryOut, World.mark] using hturns
    | _ => cases hnews
  · exact ⟨[], fun hsome => absurd rfl hsome, by simpa using h.quiet hnews⟩

/-- Whatever the page asks, its registry takes its turns and comes to rest. -/
theorem Rests.carryOutAll (h : Rests kind base s w) (orders : List Order) :
    ∃ turns, Takes kind base s w orders turns ∧
      Rests kind base (s.run turns) (orders.foldl World.carryOut w) := by
  induction orders generalizing s w with
  | nil => exact ⟨[], .done h, h⟩
  | cons order orders ih =>
    obtain ⟨reactions, hnews, hturns⟩ := h.carryOut order
    obtain ⟨later, htakes, hlater⟩ := ih hturns
    exact ⟨_, .next h hnews htakes, by rwa [Relay.run_append]⟩

end

/-- Registries keep what is promised of them in every run, whoever calls them and while whoever is told;
and what a page asks of its registries is such a run, order by order, at the end of which nobody waits. So
on the page itself the first mark of a name answers that it is the first, enters the name and is heard by
each watcher once, and whatever is asked afterwards, nothing more is heard of that name. -/
theorem registries_faithful (kind : ResourceKind) :
    (∀ {ω : Type} (turns : List (Turn ω)), Relay.Faithful kind turns) ∧
      ∀ (w : World) (orders : List Order),
        (∃ turns : List (Turn Watcher),
          let s := Relay.run ⟨w.state.registry kind, [], []⟩ turns
          let u := orders.foldl carryOut w
          Takes kind (w.heard kind) ⟨w.state.registry kind, [], []⟩ w orders turns ∧
            Rests kind (w.heard kind) s u ∧ ∀ name, (u.mark kind name).1 = s.isFirst name) ∧
        (∀ name, Marks kind w name (w.mark kind name).1 (w.mark kind name).2) ∧
        StaysLoaded kind w (orders.foldl carryOut w) := by
  refine ⟨Relay.faithful kind, fun w orders => ?_⟩
  obtain ⟨turns, htakes, hrests⟩ := (rests_self kind w).carryOutAll orders
  exact ⟨⟨turns, htakes, hrests, fun name => (hrests.mark name).1⟩, marks_mark kind w, hrests.staysLoaded⟩

end World

end PageBoot
