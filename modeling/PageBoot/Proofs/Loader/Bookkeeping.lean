import PageBoot.Proofs.Loader.Starting
import PageBoot.Proofs.World.Lasting

/-!
What is settled once on a page: the session identity, the count of modules and the claims on set-up
that is made only once. `Books` are what is kept of these. Writing to the page, reading its metas,
choosing a variant and calling connectors leave the books alone (`Discreet`), and only a load in dev
mode makes an entry (`books_onLoad`).
-/

namespace PageBoot

open Loader

/-- What is kept of starts on a page. -/
structure Books where
  source : Identity.Source Identity.Rounds
  draws : Identity.Rounds
  identity : Text
  count : Nat
  /-- Whether workarounds were applied, if they were called for. -/
  worked : Bool
  /-- Whether the elements for connectors were seen to. -/
  plugged : Bool
  /-- Numbers of the modules, oldest first. -/
  numbers : List Nat
  /-- Identities of the sessions, oldest first. -/
  identities : List Text

namespace Books

/-- The session identity, drawn now if it was not drawn before. -/
def drawn (b : Books) : Text × Identity.Rounds :=
  if b.identity.isEmpty then Identity.generate b.source b.draws else (b.identity, b.draws)

/-- A module is entered, with the next number and the one session identity. -/
def enter (b : Books) : Books :=
  { b with
    draws := b.drawn.2
    identity := b.drawn.1
    count := b.count + 1
    numbers := b.numbers ++ [b.count + 1]
    identities := b.identities ++ [b.drawn.1] }

theorem eq_of_numbers {a b : Books} (h : { a with numbers := [] } = { b with numbers := [] })
    (hnumbers : a.numbers = b.numbers) : a = b := by
  cases a
  cases b
  simp_all

end Books

namespace World

open Page (ConnectorId)
open Connector

def books (w : World) : Books where
  source := w.state.source
  draws := w.state.draws
  identity := w.state.identity
  count := w.state.modules
  worked := w.state.claimed.contains workaroundsClaim
  plugged := w.state.claimed.contains pluginsClaim
  numbers := w.numbers
  identities := w.sessions.map (·.id)

/-- Nothing is entered in the books. -/
def Discreet (f : World → World) : Prop := ∀ w, (f w).books = w.books

section

variable (w : World)

@[simp] theorem books_note (n : Note) : (w.note n).books = w.books := rfl

@[simp] theorem books_log (e : Journal.Entry) : (w.log e).books = w.books := rfl

@[simp] theorem books_logAll (es : List Journal.Entry) : (w.logAll es).books = w.books := rfl

@[simp] theorem books_say (logger : String) (level : Level) (message : Text)
    (details : List (Text × Journal.Detail)) : (w.say logger level message details).books = w.books :=
  rfl

@[simp] theorem books_onPage (f : Page → Page) : (w.onPage f).books = w.books := rfl

theorem books_foldl {α : Type} {f : World → α → World} (h : ∀ w a, (f w a).books = w.books)
    (as : List α) : (as.foldl f w).books = w.books := by
  induction as generalizing w with
  | nil => rfl
  | cons a as ih => rw [List.foldl_cons, ih, h]

end

/-! ## Connectors -/

/-- A session keeps its identity for good. -/
theorem books_setSession {w : World} {i : Nat} {s t : Session ConnectorId Recovery}
    (hs : w.sessions[i]? = some s) (hid : t.id = s.id) : (w.setSession i t).books = w.books := by
  have hids : (w.setSession i t).sessions.map (·.id) = w.sessions.map (·.id) := List.map_set_of_eq hs hid
  simp only [books, hids]
  rfl

@[simp] theorem books_recover (w : World) (i : Nat) (r : Recovery) :
    (w.recover i r).books = w.books := by
  cases r with
  | overlay => rfl
  | labelled label =>
    simp only [recover]
    split
    · rfl
    next s hs => exact books_setSession hs s.disconnected_id

@[simp] theorem books_disconnected (w : World) (i : Nat) : (w.disconnected i).2.books = w.books := by
  unfold disconnected
  split
  · rfl
  next s hs =>
    have hset := books_setSession hs s.disconnected_id
    cases hloss : s.disconnected with
    | mk loss t =>
      rw [hloss] at hset
      cases loss with
      | ignored => exact hset
      | lost action =>
        cases action with
        | none => exact hset
        | some a => simpa only [books_recover, books_log] using hset

@[simp] theorem books_transition (w : World) (i : Nat) (target : Status) :
    (w.transition i target).2.books = w.books := by
  unfold transition
  split
  · rfl
  next s hs =>
    split
    · rfl
    next t ht =>
      obtain ⟨-, rfl⟩ := Session.transition_eq_ok ht
      exact books_setSession hs rfl

@[simp] theorem books_attach (w : World) (i : Nat) (connector : Text) (handle : Option ConnectorId) :
    (w.attach i connector handle).2.books = w.books := by
  unfold attach
  split
  · rfl
  next s hs =>
    split
    · rfl
    next pending t ht =>
      have hset : (w.setSession i t).books = w.books :=
        books_setSession hs (by rw [(Session.attach_eq_ok ht).2])
      simp only
      split
      · rw [books_disconnected, books_log, hset]
      · rw [books_log, hset]

theorem lasting_books (Q : Books → Prop) : Lasting fun w => Q w.books where
  apart hw _ _ state sessions numbers := by
    simp only [books, state, sessions, numbers]
    exact hw
  loss hw i := by rwa [books_disconnected]
  fails hw i := by rwa [books_transition]
  attaches hw i connector handle := by rwa [books_attach]

/-! ## Writing to the page -/

@[simp] theorem books_write (w : World) (markup : Text) : (w.write markup).books = w.books :=
  (lasting_books (· = w.books)).write rfl markup

@[simp] theorem books_emit (w : World) (e : Metrics.Emitter Text) (m : Metrics.Moment) :
    (w.emit e m).books = w.books :=
  (lasting_books (· = w.books)).emit rfl e m

@[simp] theorem books_scriptBase (w : World) (module : Text) :
    (w.scriptBase module).2.books = w.books := by
  unfold scriptBase
  simp only
  split <;> simp only [books_onPage, books_write]

@[simp] theorem books_readMetas (w : World) (table : HandlerTable) :
    (w.readMetas table).2.books = w.books :=
  books_foldl w (fun w _ => w.books_onPage _) _

@[simp] theorem books_prepare (w : World) (module : Text) (table : HandlerTable) :
    (w.prepare module table).2.2.books = w.books := by
  have hsay (u : World) (f : Failure) : (u.saySelection module .warn "ignoring meta entry"
      [("error", .text f.message)]).books = u.books := rfl
  simp only [prepare, books_foldl _ hsay, books_readMetas, books_scriptBase]

/-! ## Marking resources -/

@[simp] theorem books_subscribe (w : World) (kind : ResourceKind) (o : Watcher) :
    (w.subscribe kind o).books = w.books := by
  cases kind <;> rfl

@[simp] theorem books_cancel (w : World) (label : Text) : (w.cancel label).books = w.books := by
  unfold cancel
  split
  · rfl
  next kind n _ => cases kind <;> rfl

theorem books_tell {mark : ResourceKind → Text → World → Bool × World}
    (hmark : ∀ kind name w, (mark kind name w).2.books = w.books) (kind : ResourceKind) (name : Text)
    (w : World) (observer : Nat × Watcher) : (tell mark kind name w observer).books = w.books := by
  obtain ⟨n, o⟩ := observer
  unfold tell
  simp only
  cases o.reaction with
  | none => rfl
  | some r =>
    simp only
    split
    · rfl
    · cases r.subscribe <;> cases r.cancel <;> cases r.mark <;>
        simp only [books_subscribe, books_cancel, books_note, hmark] <;> rfl

theorem books_markWithin (depth : Nat) (kind : ResourceKind) (name : Text) (w : World) :
    (markWithin depth kind name w).2.books = w.books := by
  induction depth generalizing kind name w with
  | zero => rfl
  | succ depth ih =>
    unfold markWithin
    split
    · rfl
    next observers r _ =>
      rw [books_foldl _ fun w o => books_tell ih kind name w o]
      cases kind <;> rfl

@[simp] theorem books_mark (w : World) (kind : ResourceKind) (name : Text) :
    (w.mark kind name).2.books = w.books :=
  books_markWithin _ kind name w

/-! ## Choosing a variant -/

@[simp] theorem books_loadNew (kind : ResourceKind) (base : Text) (add : Page → Text → Page)
    (names : List Text) (w : World) : (loadNew kind base add names w).2.books = w.books := by
  induction names generalizing w with
  | nil => rfl
  | cons name rest ih =>
    have hmark := w.books_mark kind name
    unfold loadNew
    cases h : w.mark kind name with
    | mk first u =>
      rw [h] at hmark
      cases first with
      | false => exact (ih u).trans hmark
      | true => exact (ih _).trans hmark

@[simp] theorem books_inject {π : Type} (w : World) (m : ModuleDef π) (emitter : Metrics.Emitter Text)
    (base : Text) (settings : MetaSettings) (resolved : Binding.Resolved) :
    (w.inject m emitter base settings resolved).2.books = w.books := by
  simp only [inject, saySelection, books_say, books_emit, books_onPage, books_loadNew]

@[simp] theorem books_reportIllegal (listener : PropertyListener) (name : Text) (allowed : List Text)
    (value : Text) (w : World) : (reportIllegal listener name allowed value w).books = w.books := by
  unfold reportIllegal
  cases listener <;> rfl

theorem books_resolve {π : Type} {make : π → Option (Binding.Provider World)} {m : ModuleDef π}
    {e : Binding.Engine World} (h : m.Serves make e)
    (hmake : ∀ rule f, make rule = some f → Discreet fun w => (f w).2) {listener : PropertyListener}
    (hlistener : e.onError = some (reportIllegal listener)) (w : World) :
    (e.resolve w).2.books = w.books := by
  have hleads : e.Leads fun w u => u.books = w.books := by
    refine ⟨fun _ => rfl, fun h h' => h'.trans h, fun q hq w => ?_, fun report hreport => ?_⟩
    · obtain ⟨rule, hrule⟩ := h.exists_rule hq
      exact hmake rule q.provider hrule w
    · rw [hlistener] at hreport
      obtain rfl := Option.some.inj hreport
      exact books_reportIllegal listener
  exact hleads.resolve w

theorem books_selectBy {π : Type} {make : MetaSettings → π → Option (Binding.Provider World)}
    (hmake : ∀ settings rule f, make settings rule = some f → Discreet fun w => (f w).2) (w : World)
    (m : ModuleDef π) (o : SelectionOptions) : (w.selectBy make m o).2.books = w.books := by
  by_cases hname : m.name.isEmpty = true
  · rw [selectBy, if_pos hname]
  simp only [selectBy, hname, Bool.false_eq_true, if_false]
  generalize w.selectionEmitter m.name o = emitter
  have hprepared : ((w.emit emitter Metrics.bootstrapStart).prepare m.name o.handlers).2.2.books =
      w.books := by
    rw [books_prepare, books_emit]
  cases hprepare : (w.emit emitter Metrics.bootstrapStart).prepare m.name o.handlers with
  | mk base rest =>
    obtain ⟨settings, u⟩ := rest
    rw [hprepare] at hprepared
    simp only
    cases hbuild : m.build (make settings) with
    | mk engine entries =>
      cases engine with
      | error f => exact hprepared
      | ok e =>
        have hserves : m.Serves (make settings) { e with
            onError := some (reportIllegal (o.listener settings)) } :=
          (ModuleDef.build_serves (congrArg Prod.fst hbuild)).1.reporting _
        let s := (u.logAll entries).emit emitter Metrics.selecting
        have hresolved := books_resolve hserves (hmake settings) rfl s
        rw [books_emit, books_logAll, hprepared] at hresolved
        cases hresolve : ({ e with onError := some (reportIllegal (o.listener settings)) } :
            Binding.Engine World).resolve s with
        | mk result v =>
          rw [hresolve] at hresolved
          simp only [s] at hresolve
          simp only [hresolve]
          cases result with
          | error f =>
            simp only
            split <;> exact hresolved
          | ok resolved => exact (v.books_inject m emitter base settings resolved).trans hresolved

/-! ## Loading in dev mode -/

@[simp] theorem books_onDisconnected (w : World) (i : Nat) (action : Option Recovery) :
    (w.onDisconnected i action).books = w.books := by
  unfold onDisconnected
  split
  · rfl
  next s hs => exact books_setSession hs rfl

theorem books_newSession (w : World) (module : Text) :
    (w.newSession module).2.books = { w.books with
      draws := w.books.drawn.2
      identity := w.books.drawn.1
      identities := w.books.identities ++ [w.books.drawn.1] } := by
  have hdrawn : w.state.drawIdentity = { w.state with
      identity := w.books.drawn.1, draws := w.books.drawn.2 } := by
    simp only [PageState.drawIdentity, PageState.hasIdentity, Books.drawn, books]
    by_cases hempty : w.state.identity.isEmpty = true <;> simp [hempty]
  have hidentity : w.identity.1 = w.books.drawn.1 := congrArg PageState.identity hdrawn
  simp only [newSession, hidentity]
  generalize w.books.drawn = drawn at hdrawn
  rw [identity_eq, identity_state, hdrawn]
  simp [books, numbers]

/-- A module that is opened is entered, and waits for its place. -/
theorem books_openModule (w : World) (o : BridgeOptions) (name base : Text) :
    (w.openModule o name base).2.books = { w.books.enter with numbers := w.numbers } := by
  let emitter : Metrics.Emitter Text :=
    { sinks := o.sinks, module := name, session := w.page.globalText Metrics.sessionGlobal }
  let u := (w.emit emitter Metrics.evalStart).newSession name
  have hopened : (w.openModule o name base).2.books =
      { u.2.books with count := u.2.books.count + 1 } :=
    books_onDisconnected { u.2 with state := u.2.state.nextModule.2 } u.1 (some .overlay)
  rw [hopened, books_newSession, books_emit]
  rfl

/-- A load in dev mode makes one entry, whatever comes of it. -/
theorem books_onLoad (w : World) (options : BridgeOptions) (loadError : Option Text) {name : Text}
    (hname : name ≠ []) (base : Text) :
    (w.onLoad options loadError name base).2.books = w.books.enter := by
  obtain ⟨m, s, u, outcome, reported, -, hnumber, hmodules, -, -, hsettles⟩ :=
    onLoad_settles w options loadError hname base
  obtain ⟨m', hadded, -, hnumber', -, -⟩ := hsettles.added
  have hnumbers : (w.onLoad options loadError name base).2.numbers = w.books.enter.numbers := by
    rw [numbers, hadded, hmodules, List.map_append, List.map_singleton, hnumber', hnumber]
    rfl
  -- all else is entered when the module is opened, and lasts
  let Q (b : Books) : Prop := { b with numbers := [] } = { w.books.enter with numbers := [] }
  have hrest : Q (w.onLoad options loadError name base).2.books := by
    refine (lasting_books Q).onLoad (List.isEmpty_eq_false_iff.mpr hname) ?_ (fun _ _ hu => hu) loadError
    rw [books_transition, books_openModule]
  exact Books.eq_of_numbers hrest hnumbers

/-! ## Claims -/

theorem claim_free (w : World) (key : Text) :
    (w.claim key).1 = !w.state.claimed.contains key := by
  simp only [claim, PageState.claim]
  cases w.state.claimed.contains key <;> rfl

theorem books_claim (w : World) (key : Text) :
    (w.claim key).2.books = { w.books with
      worked := w.books.worked || workaroundsClaim == key
      plugged := w.books.plugged || pluginsClaim == key } := by
  have hmade (k : Text) : (w.claim key).2.state.claimed.contains k =
      (w.state.claimed.contains k || k == key) := by
    simp only [claim, PageState.claim]
    split
    next h =>
      by_cases hk : k = key
      · rw [hk, h, Bool.true_or]
      · simp [hk]
    · simp only [List.contains_append, List.contains_cons, List.contains_nil, Bool.or_false]
  simp only [books, hmade]
  simp only [claim, PageState.claim, numbers]
  split <;> rfl

@[simp] theorem books_claim_workarounds (w : World) :
    (w.claim workaroundsClaim).2.books = { w.books with worked := true } := by
  have hother : (pluginsClaim == workaroundsClaim) = false := by decide
  rw [books_claim, beq_self_eq_true, Bool.or_true, hother, Bool.or_false]

@[simp] theorem books_claim_plugins (w : World) :
    (w.claim pluginsClaim).2.books = { w.books with plugged := true } := by
  have hother : (workaroundsClaim == pluginsClaim) = false := by decide
  rw [books_claim, beq_self_eq_true, Bool.or_true, hother, Bool.or_false]

end World

end PageBoot
