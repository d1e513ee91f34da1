import PageBoot.Loader.DevMode
import PageBoot.Proofs.World.Discovery

/-!
Who a connector reports to and which table it was given, and what changes that. A connector keeps
one listener and one table, each the one it was given last. Looking for a connector gives a new
listener to every connector that is asked on the way, also to those that decline; `discover_rewired`
says so for a whole search. Nothing else that a load or a dispatched call does touches the wiring,
but for the table that `connectModule` binds.
-/

namespace PageBoot

/-! ## Sessions as they age -/

namespace Session

variable {η ρ : Type}

/-- Whether the search of a session is over. -/
def isSettled (s : Session η ρ) : Bool :=
  match s.status with
  | .idle | .probing => false
  | _ => true

/-- What may become of a session: once its search is over it stays as it is, or it is not connected
any more. -/
def Lasts (s t : Session η ρ) : Prop :=
  s.isSettled = true → t.isSettled = true ∧ (t.status = .connected → t = s)

theorem Lasts.refl (s : Session η ρ) : s.Lasts s := fun h => ⟨h, fun _ => rfl⟩

theorem Lasts.trans {s t u : Session η ρ} (h : s.Lasts t) (h' : t.Lasts u) : s.Lasts u := by
  intro hs
  obtain ⟨ht, hsame⟩ := h hs
  obtain ⟨hu, hsame'⟩ := h' ht
  refine ⟨hu, fun hc => ?_⟩
  obtain rfl := hsame' hc
  exact hsame hc

/-- A session has no connection to close unless it is connected. -/
def IsTied (s : Session η ρ) : Prop := s.status ≠ .connected → s.handle = none

theorem disconnected_lasts (s : Session η ρ) : s.Lasts s.disconnected.2 := by
  intro hs
  cases hstatus : s.status <;> simp_all [isSettled, disconnected]

theorem transition_lasts {s t : Session η ρ} {target : Status} (h : s.transition target = .ok t) :
    s.Lasts t := by
  unfold transition at h
  split at h
  next hallowed =>
    cases h
    intro hs
    cases hstatus : s.status <;> cases target <;> simp_all [isSettled, Status.allows]
  next => cases h

theorem attach_lasts {s t : Session η ρ} {connector : Text} {handle : Option η} {pending : Bool}
    (h : s.attach connector handle = .ok (pending, t)) : s.Lasts t := by
  intro hs
  cases hstatus : s.status <;>
    simp_all [isSettled, attach, transition, Status.allows, Except.map]

theorem disconnected_tied {s : Session η ρ} (h : s.IsTied) : s.disconnected.2.IsTied := by
  intro hstatus
  cases hs : s.status <;> simp_all [IsTied, disconnected]

theorem transition_tied {s t : Session η ρ} {target : Status} (htarget : target ≠ .disconnected)
    (hs : s.IsTied) (h : s.transition target = .ok t) : t.IsTied := by
  unfold transition at h
  split at h
  next hallowed =>
    cases h
    intro hstatus
    cases hstatus' : s.status <;> cases target <;> simp_all [IsTied, Status.allows]
  next => cases h

theorem attach_tied {s t : Session η ρ} {connector : Text} {handle : Option η} {pending : Bool}
    (h : s.attach connector handle = .ok (pending, t)) : t.IsTied := by
  intro hstatus
  cases hs : s.status <;> simp_all [attach, transition, Status.allows, Except.map]
  obtain ⟨-, rfl⟩ := h
  exact absurd rfl hstatus

theorem close_tied (s : Session η ρ) : s.close.2.IsTied := fun _ => rfl

theorem close_lasts (s : Session η ρ) : s.Lasts s.close.2 := by
  intro hs
  cases hstatus : s.status <;> simp_all [isSettled, close]

end Session

/-! ## Wirings -/

def Device.isGuest : Device → Bool
  | .script _ => false
  | .guest _ => true

@[simp] theorem Device.isGuest_script (s : Connector.Script) : (Device.script s).isGuest = false := rfl

@[simp] theorem Device.isGuest_guest (p : Wasm.Plugin) : (Device.guest p).isGuest = true := rfl

@[simp] theorem Device.reach_guest (p : Wasm.Plugin) : (Device.guest p).reach = .full := rfl

theorem Device.reach_of_isGuest {d : Device} (h : d.isGuest = true) : d.reach = .full := by
  cases d with
  | script s => cases h
  | guest p => rfl

/-- What a connector was given, of which kind it is and what it can do. -/
structure Wiring where
  isGuest : Bool
  listener : Option Listener
  table : Option Nat
  reach : Connector.Reach

def Wired.wiring (x : Wired) : Wiring := ⟨x.device.isGuest, x.listener, x.table, x.device.reach⟩

namespace World

open Page (ConnectorId)
open Connector Loader

def wiring? (w : World) (c : ConnectorId) : Option Wiring := (w.connectors[c]?).map Wired.wiring

/-- Sessions of `w` aged to what they are in `u`; there may be more of them. -/
def Aged (w u : World) : Prop :=
  ∀ (j : Nat) (s : Session ConnectorId Recovery), w.sessions[j]? = some s →
    ∃ t, u.sessions[j]? = some t ∧ s.Lasts t

theorem Aged.of_eq {w u : World} (h : u.sessions = w.sessions) : Aged w u :=
  fun _ s hs => ⟨s, by rw [h, hs], .refl s⟩

theorem Aged.trans {w u v : World} (h : Aged w u) (h' : Aged u v) : Aged w v := by
  intro j s hs
  obtain ⟨t, ht, hst⟩ := h j s hs
  obtain ⟨x, hx, htx⟩ := h' j t ht
  exact ⟨x, hx, hst.trans htx⟩

theorem Aged.length_le {w u : World} (h : Aged w u) : w.sessions.length ≤ u.sessions.length := by
  refine Nat.not_lt.mp fun hlast => ?_
  obtain ⟨t, ht, -⟩ := h u.sessions.length _ (List.getElem?_eq_getElem hlast)
  simp at ht

/-- No session has a connection to close unless it is connected. -/
def Tied (w : World) : Prop := ∀ s ∈ w.sessions, s.IsTied

theorem Tied.set {w : World} (hw : w.Tied) {i : Nat} {s : Session ConnectorId Recovery}
    (hs : s.IsTied) : (w.setSession i s).Tied := by
  intro x hx
  rcases List.mem_or_eq_of_mem_set hx with hx | rfl
  · exact hw x hx
  · exact hs

/-- Only tasks were added to a page. -/
def Busier (p p' : Page) : Prop := p' = { p with loop := p'.loop }

theorem Busier.trans {p q r : Page} (h : Busier p q) (h' : Busier q r) : Busier p r := by
  unfold Busier at *
  rw [h', h]

/-! ## What leaves the wiring alone -/

/-- From `w` to `u` no module, no table and no wiring changed, sessions only aged, and the page at most
got tasks. -/
structure Kept (w u : World) : Prop where
  modules : u.modules = w.modules
  tables : u.tables = w.tables
  sessions : Aged w u
  wiring : ∀ c, u.wiring? c = w.wiring? c
  tied : w.Tied → u.Tied
  page : Busier w.page u.page

theorem Kept.of_eq {w u : World} (hmodules : u.modules = w.modules) (htables : u.tables = w.tables)
    (hsessions : u.sessions = w.sessions) (hconnectors : u.connectors = w.connectors)
    (hpage : Busier w.page u.page) : Kept w u where
  modules := hmodules
  tables := htables
  sessions := .of_eq hsessions
  wiring c := by rw [wiring?, wiring?, hconnectors]
  tied hw := by rwa [Tied, hsessions]
  page := hpage

theorem Kept.refl (w : World) : Kept w w := .of_eq rfl rfl rfl rfl rfl

theorem Kept.trans {w u v : World} (h : Kept w u) (h' : Kept u v) : Kept w v where
  modules := h'.modules.trans h.modules
  tables := h'.tables.trans h.tables
  sessions := h.sessions.trans h'.sessions
  wiring c := (h'.wiring c).trans (h.wiring c)
  tied hw := h'.tied (h.tied hw)
  page := h.page.trans h'.page

theorem setSession_kept {w : World} {i : Nat} {s t : Session ConnectorId Recovery}
    (hs : w.sessions[i]? = some s) (h : s.Lasts t) (htied : s.IsTied → t.IsTied) :
    Kept w (w.setSession i t) where
  modules := rfl
  tables := rfl
  sessions j x hx := by
    by_cases hj : i = j
    · subst hj
      obtain rfl : s = x := by simpa [hs] using hx
      exact ⟨t, getElem?_setSession hs, h⟩
    · exact ⟨x, by simpa [setSession, hj] using hx, .refl x⟩
  wiring _ := rfl
  tied hw := hw.set (htied (hw s (List.mem_of_getElem? hs)))
  page := rfl

theorem log_kept (w : World) (e : Journal.Entry) : Kept w (w.log e) := .of_eq rfl rfl rfl rfl rfl

theorem note_kept (w : World) (n : Note) : Kept w (w.note n) := .of_eq rfl rfl rfl rfl rfl

theorem recover_kept (w : World) (i : Nat) (a : Recovery) : Kept w (w.recover i a) := by
  cases a with
  | overlay => exact .of_eq rfl rfl rfl rfl rfl
  | labelled label =>
    cases hs : w.sessions[i]? with
    | none =>
      simp only [recover, hs]
      exact .refl w
    | some s =>
      simp only [recover, hs]
      exact (setSession_kept hs s.disconnected_lasts Session.disconnected_tied).trans (note_kept _ _)

theorem disconnected_kept (w : World) (i : Nat) : Kept w (w.disconnected i).2 := by
  cases hs : w.sessions[i]? with
  | none =>
    simp only [disconnected, hs]
    exact .refl w
  | some s =>
    have hset := setSession_kept hs s.disconnected_lasts Session.disconnected_tied
    cases hd : s.disconnected with
    | mk loss t =>
      rw [hd] at hset
      simp only [disconnected, hs, hd]
      cases loss with
      | ignored => exact hset
      | lost action =>
        cases action with
        | none => exact hset.trans (log_kept _ _)
        | some a => exact (hset.trans (log_kept _ _)).trans (recover_kept _ i a)

theorem transition_kept (w : World) (i : Nat) {target : Status} (htarget : target ≠ .disconnected) :
    Kept w (w.transition i target).2 := by
  cases hs : w.sessions[i]? with
  | none =>
    simp only [transition, hs]
    exact .refl w
  | some s =>
    cases ht : s.transition target with
    | error f =>
      simp only [transition, hs, ht]
      exact .refl w
    | ok t =>
      simp only [transition, hs, ht]
      exact (setSession_kept hs (Session.transition_lasts ht)
        (Session.transition_tied htarget · ht)).trans (log_kept _ _)

theorem attach_kept (w : World) (i : Nat) (connector : Text) (handle : Option ConnectorId) :
    Kept w (w.attach i connector handle).2 := by
  cases hs : w.sessions[i]? with
  | none =>
    simp only [attach, hs]
    exact .refl w
  | some s =>
    cases ht : s.attach connector handle with
    | error f =>
      simp only [attach, hs, ht]
      exact .refl w
    | ok r =>
      have hset := (setSession_kept hs (Session.attach_lasts ht)
        fun _ => Session.attach_tied ht).trans (log_kept _ (s.transitionEntry .connected))
      simp only [attach, hs, ht]
      split
      · exact hset.trans (disconnected_kept _ i)
      · exact hset

theorem signal_kept (w : World) (c : ConnectorId) : Kept w (w.signal c) := by
  unfold signal
  split
  · exact .refl w
  · split
    · next l _ =>
      have hd := disconnected_kept w l.session
      simp only
      split
      · exact hd.trans (note_kept _ _)
      · exact hd
    · split
      · exact .refl w
      · exact log_kept w _

theorem signals_kept (w : World) (c : ConnectorId) (n : Nat) : Kept w (w.signals c n) := by
  induction n generalizing w with
  | zero => exact .refl w
  | succ n ih => exact (signal_kept w c).trans (ih _)

/-- A connector that stays what it is and keeps what it was given. -/
theorem updateConnector_kept (w : World) (c : ConnectorId) {f : Wired → Wired}
    (hf : ∀ x, w.connectors[c]? = some x → (f x).wiring = x.wiring) :
    Kept w (w.updateConnector c f) where
  modules := rfl
  tables := rfl
  sessions := .of_eq rfl
  wiring c' := by
    simp only [wiring?, updateConnector, List.getElem?_modify]
    by_cases hc : c = c'
    · subst hc
      cases hx : w.connectors[c]? with
      | none => simp
      | some x => simp [hf x hx]
    · simp [hc]
  tied hw := hw
  page := rfl

theorem announced_kept (w : World) (d : Device) (saying : Text → Note) :
    Kept w (w.announced d saying) := by
  cases d with
  | script s => exact note_kept w _
  | guest p => exact .refl w

theorem callDevice_kept (w : World) (c : ConnectorId) (missing : Bool) (saying : Text → Note)
    {handle : Device → Device.Handled}
    (hhandle : ∀ d, (handle d).device.isGuest = d.isGuest ∧ (handle d).device.reach = d.reach) :
    Kept w (w.callDevice c missing saying handle).2 := by
  unfold callDevice
  split
  · exact .refl w
  · next d hd =>
    obtain ⟨x, hx, rfl⟩ := Option.map_eq_some_iff.mp hd
    have hsame : (w.announced x.device saying).connectors = w.connectors := by
      cases x.device <;> rfl
    have hupdate := updateConnector_kept (w.announced x.device saying) c
      (f := fun wired => { wired with device := (handle x.device).device }) (by
        intro y hy
        rw [hsame, hx] at hy
        cases hy
        simp [Wired.wiring, hhandle x.device])
    exact ((announced_kept w x.device saying).trans hupdate).trans (signals_kept _ c _)

/-! ## Looking for a connector -/

/-- From `w` to `u` the connectors in `cs` were told to report to `l`, and nothing else changed that
`Kept` keeps. -/
structure Rewired (l : Listener) (cs : List ConnectorId) (w u : World) : Prop where
  modules : u.modules = w.modules
  tables : u.tables = w.tables
  sessions : Aged w u
  wiring : ∀ c, u.wiring? c =
    (w.wiring? c).map fun x => { x with listener := if c ∈ cs then some l else x.listener }
  tied : w.Tied → u.Tied
  page : Busier w.page u.page

theorem Kept.rewired {w u : World} (h : Kept w u) (l : Listener) : Rewired l [] w u where
  modules := h.modules
  tables := h.tables
  sessions := h.sessions
  wiring c := by simp [h.wiring]
  tied := h.tied
  page := h.page

theorem Rewired.trans {l : Listener} {cs ds : List ConnectorId} {w u v : World}
    (h : Rewired l cs w u) (h' : Rewired l ds u v) : Rewired l (cs ++ ds) w v where
  modules := h'.modules.trans h.modules
  tables := h'.tables.trans h.tables
  sessions := h.sessions.trans h'.sessions
  wiring c := by
    rw [h'.wiring, h.wiring, Option.map_map]
    congr 1
    funext x
    by_cases hc : c ∈ cs <;> by_cases hd : c ∈ ds <;> simp [hc, hd]
  tied hw := h'.tied (h.tied hw)
  page := h.page.trans h'.page

theorem Rewired.of_left {l : Listener} {cs : List ConnectorId} {w u v : World}
    (h : Rewired l cs w u) (h' : Kept u v) : Rewired l cs w v := by
  simpa using h.trans (h'.rewired l)

theorem Rewired.of_right {l : Listener} {cs : List ConnectorId} {w u v : World}
    (h : Kept w u) (h' : Rewired l cs u v) : Rewired l cs w v := by
  simpa using (h.rewired l).trans h'

theorem listen_rewired (w : World) (c : ConnectorId) (l : Listener) :
    Rewired l [c] w (w.listen c l) where
  modules := rfl
  tables := rfl
  sessions := .of_eq rfl
  wiring c' := by
    simp only [wiring?, listen, updateConnector, List.getElem?_modify]
    by_cases hc : c = c'
    · subst hc
      cases w.connectors[c]? <;> simp [Wired.wiring]
    · have hne : ¬ c' = c := fun h => hc h.symm
      cases w.connectors[c']? <;> simp [hc, hne]
  tied hw := hw
  page := rfl

theorem callInit_rewired (w : World) (c : ConnectorId) (l : Listener) :
    Rewired l [c] w (w.callInit c l).2 := by
  refine (listen_rewired w c l).of_left (callDevice_kept _ c _ _ ?_)
  intro d
  cases d <;> exact ⟨rfl, rfl⟩

theorem callConnect_kept (w : World) (c : ConnectorId) (r : Request) :
    Kept w (w.callConnect c r).2 := by
  refine callDevice_kept w c _ _ ?_
  intro d
  cases d <;> exact ⟨rfl, rfl⟩

/-- A candidate is given the listener before anything else, whatever comes of it then. -/
theorem attempt_rewired (w : World) (f : Finder) (l : Listener) (r : Request) :
    Rewired l (w.find? f).toList w (w.attempt f l r).2 := by
  unfold attempt
  cases w.find? f with
  | none => exact (Kept.refl w).rewired l
  | some c =>
    have hinit := callInit_rewired w c l
    simp only [Option.toList_some]
    cases hi : w.callInit c l with
    | mk reply u =>
      rw [hi] at hinit
      cases reply with
      | crash t => exact hinit.of_left (log_kept u _)
      | failure e => exact hinit
      | answer b =>
        cases b with
        | false => exact hinit
        | true =>
          have hconnect := callConnect_kept u c r
          simp only
          cases hcon : u.callConnect c r with
          | mk reply v =>
            rw [hcon] at hconnect
            have hboth := hinit.of_left hconnect
            cases reply with
            | crash t => exact hboth.of_left (log_kept v _)
            | failure e => exact hboth
            | answer b => cases b <;> exact hboth

theorem find?_of_attempt {w : World} {f : Finder} {l : Listener} {r : Request} {c : ConnectorId}
    (h : (w.attempt f l r).1 = .connected c) : w.find? f = some c := by
  unfold attempt at h
  cases hf : w.find? f with
  | none => simp [hf] at h
  | some c' =>
    simp only [hf] at h
    split at h <;> try cases h
    split at h <;> cases h
    rfl

theorem tryFinder_fst (w : World) (l : Listener) (r : Request) (identity : Text) (f : Finder) :
    (tryFinder l r identity f w).1 = (w.attempt f l r).1 := by
  unfold tryFinder
  split
  next h => rw [h]
  next => rfl

theorem tryFinder_rewired (w : World) (l : Listener) (r : Request) (identity : Text) (f : Finder) :
    Rewired l (w.find? f).toList w (tryFinder l r identity f w).2 := by
  have h := attempt_rewired w f l r
  unfold tryFinder
  split
  next ha =>
    rw [ha] at h
    exact h.of_left (log_kept _ _)
  next => exact h

/-- The connectors that are asked from `w` on, in order. -/
def asked (l : Listener) (r : Request) (identity : Text) : List Finder → World → List ConnectorId
  | [], _ => []
  | f :: fs, w =>
    (w.find? f).toList ++
      match tryFinder l r identity f w with
      | (.absent, u) => asked l r identity fs u
      | _ => []

theorem probe_rewired (l : Listener) (r : Request) (identity : Text) (fs : List Finder) (w : World) :
    Rewired l (asked l r identity fs w) w (probe (tryFinder l r identity) fs w).2 := by
  induction fs generalizing w with
  | nil => exact (Kept.refl w).rewired l
  | cons f fs ih =>
    have h := tryFinder_rewired w l r identity f
    cases ht : tryFinder l r identity f w with
    | mk outcome u =>
      rw [ht] at h
      simp only [probe, asked, ht]
      cases outcome with
      | absent => exact h.trans (ih u)
      | refused => simpa using h
      | connected c => simpa using h

/-- The candidate that accepts was asked. -/
theorem mem_asked {l : Listener} {r : Request} {identity : Text} {fs : List Finder} {w : World}
    {f : Finder} {c : ConnectorId} (h : (probe (tryFinder l r identity) fs w).1 = .connected f c) :
    c ∈ asked l r identity fs w := by
  induction fs generalizing w with
  | nil => cases h
  | cons g fs ih =>
    cases ht : tryFinder l r identity g w with
    | mk outcome u =>
      simp only [probe, ht] at h
      simp only [asked, ht, List.mem_append]
      cases outcome with
      | absent => exact .inr (ih h)
      | refused => cases h
      | connected c' =>
        cases h
        have hattempt : (w.attempt f l r).1 = .connected c := by
          rw [← tryFinder_fst w l r identity f, ht]
        simp [find?_of_attempt hattempt]

/-- The connectors that are asked when session `i` looks for one. -/
def askedFor (w : World) (finders : List Finder) (l : Listener) (i : Nat) (r : Request) :
    List ConnectorId :=
  match w.transition i .probing with
  | (some _, _) => []
  | (none, u) => asked l (r.filled (u.identityOf i)) (u.identityOf i) finders u

theorem discover_rewired (w : World) (finders : List Finder) (l : Listener) (i : Nat) (r : Request) :
    Rewired l (w.askedFor finders l i r) w (w.discover finders l i r).2 := by
  have htransition := transition_kept w i (by decide : Status.probing ≠ .disconnected)
  unfold discover askedFor
  cases ht : w.transition i .probing with
  | mk failed u =>
    rw [ht] at htransition
    cases failed with
    | some f => exact htransition.rewired l
    | none =>
      have hprobe := probe_rewired l (r.filled (u.identityOf i)) (u.identityOf i) finders u
      have hsearch := Rewired.of_right htransition hprobe
      simp only [← identityOf.eq_def]
      cases hp : probe (tryFinder l (r.filled (u.identityOf i)) (u.identityOf i)) finders u with
      | mk decision v =>
        rw [hp] at hsearch
        cases decision with
        | absent => exact hsearch.of_left (transition_kept v i nofun)
        | refused f =>
          exact (hsearch.of_left (log_kept v _)).of_left (transition_kept _ i nofun)
        | connected f c =>
          have hattach := hsearch.of_left (attach_kept v i f.kind.name (some c))
          simp only
          cases ha : v.attach i f.kind.name (some c) with
          | mk failed x =>
            rw [ha] at hattach
            cases failed with
            | some e => exact hattach
            | none => exact hattach.of_left (log_kept x _)

/-- A search that ends well found a candidate that accepted, and attached it. -/
theorem discover_eq_ok {w : World} {finders : List Finder} {l : Listener} {i : Nat} {r : Request}
    {c : ConnectorId} (h : (w.discover finders l i r).1 = .ok c) :
    ∃ u v f, w.transition i .probing = (none, u) ∧
      probe (tryFinder l (r.filled (u.identityOf i)) (u.identityOf i)) finders u =
        (.connected f c, v) ∧
      (w.discover finders l i r).2.sessions = (v.attach i f.kind.name (some c)).2.sessions := by
  unfold discover at h ⊢
  cases ht : w.transition i .probing with
  | mk failed u =>
    simp only [ht, ← identityOf.eq_def] at h ⊢
    cases failed with
    | some f => cases h
    | none =>
      refine ⟨u, ?_⟩
      simp only at h ⊢
      cases hp : probe (tryFinder l (r.filled (u.identityOf i)) (u.identityOf i)) finders u with
      | mk decision v =>
        simp only [hp] at h ⊢
        cases decision with
        | absent => cases h
        | refused f => cases h
        | connected f c' =>
          simp only at h ⊢
          cases ha : v.attach i f.kind.name (some c') with
          | mk failed x =>
            simp only [ha] at h ⊢
            cases failed with
            | some e => cases h
            | none =>
              cases h
              refine ⟨v, f, trivial, rfl, ?_⟩
              rw [ha]
              rfl

/-- The connector that a search ends with was asked. -/
theorem mem_askedFor {w : World} {finders : List Finder} {l : Listener} {i : Nat} {r : Request}
    {c : ConnectorId} (h : (w.discover finders l i r).1 = .ok c) : c ∈ w.askedFor finders l i r := by
  obtain ⟨u, v, f, ht, hp, -⟩ := discover_eq_ok h
  simp only [askedFor, ht]
  exact mem_asked (by rw [hp])

/-- A session that found a connector is past its search, and as long as it is connected it has its
recovery action and the connector. -/
theorem discover_settles {w : World} {finders : List Finder} {l : Listener} {r : Request}
    {c : ConnectorId} {s : Session ConnectorId Recovery} (hs : w.sessions[l.session]? = some s)
    (hidle : s.status = .idle) (h : (w.discover finders l l.session r).1 = .ok c) :
    ∃ t, (w.discover finders l l.session r).2.sessions[l.session]? = some t ∧ t.isSettled = true ∧
      (t.status = .connected → t.recovery = s.recovery ∧ t.handle = some c) := by
  obtain ⟨u, v, f, ht, hp, hsessions⟩ := discover_eq_ok h
  have hu : u.sessions[l.session]? = some { s with status := .probing } := by
    rw [transition_of_idle hs hidle] at ht
    cases ht
    exact getElem?_setSession hs
  have hheard := probe_heard (r.filled (u.identityOf l.session)) (u.identityOf l.session) finders
    ⟨_, hu, rfl⟩
  have hv := hheard.session
  rw [hp, hu] at hv
  obtain ⟨-, hattach⟩ := attach_of_probing hv rfl f.kind.name c
  rw [hsessions]
  split at hattach
  · exact ⟨_, hattach.1, rfl, fun h => nomatch h⟩
  · exact ⟨_, hattach.1, rfl, fun _ => ⟨rfl, rfl⟩⟩

end World

end PageBoot
