import Mathlib.Data.List.Forall2
import Mathlib.Data.Option.Basic
import PageBoot.Proofs.Command.Screen
import PageBoot.Proofs.World.Duties

/-!
The starts that the dev host asks for and the runs that it gets. An account over any history
(`Account`): the host is probing exactly while a start is under way, without a run, and each run that
came in is either the one it holds or was unloaded when it was given up.
-/

namespace PageBoot.Command

namespace Started

/-- What may become of a run while the host holds it. -/
inductive Becomes (r : Started) : Started → Prop where
  | same : Becomes r r
  | dropLink {r' : Started} (h : Becomes r r') : Becomes r r'.dropLink
  | unload {r' : Started} (h : Becomes r r') : Becomes r { r' with world := r'.world.fireUnload }

/-- The run as it was unloaded last, before it was given up: its page was left, and there is nothing to
be done there any more. -/
def EndsAs (r ended : Started) : Prop :=
  ∃ r', r.Becomes r' ∧ ended = { r' with world := r'.world.fireUnload } ∧ ended.world.duties = []

theorem endsAs_unload {r r' : Started} (h : r.Becomes r') : r.EndsAs r'.unload :=
  ⟨r', h, rfl, r'.world.duties_leave _⟩

end Started

namespace DevHost

/-! ## Histories -/

namespace Event

/-- A start has ended. -/
def answers : Event → Bool
  | .booted _ => true
  | _ => false

/-- The run that comes in. -/
def run? : Event → Option Started
  | .booted (.ok run) => some run
  | _ => none

theorem run?_eq_none {e : Event} (h : e.answers = false) : e.run? = none := by
  cases e with
  | booted result => cases h
  | _ => rfl

end Event

/-- What the host answers to some events, one after another. -/
def responses (h : DevHost) : List Event → List Response
  | [] => []
  | e :: es => h.step e :: (h.step e).host.responses es

/-- How many starts were asked for. -/
def asked (h : DevHost) (es : List Event) : Nat :=
  ((h.responses es).flatMap (·.requests)).count .boot

/-- How many starts have ended. -/
def answered (es : List Event) : Nat := es.countP Event.answers

/-- The runs that came in. -/
def received (es : List Event) : List Started := es.filterMap Event.run?

/-- The runs that were given up. -/
def ended (h : DevHost) (es : List Event) : List Started := (h.responses es).filterMap (·.ended)

section Concat

variable (h : DevHost) (es : List Event) (e : Event)

theorem responses_concat : h.responses (es ++ [e]) = h.responses es ++ [(h.after es).step e] := by
  induction es generalizing h with
  | nil => rfl
  | cons e' es ih => exact congrArg (h.step e' :: ·) (ih (h.step e').host)

theorem asked_concat :
    h.asked (es ++ [e]) = h.asked es + ((h.after es).step e).requests.count .boot := by
  simp [asked, responses_concat]

theorem answered_concat : answered (es ++ [e]) = answered es + if e.answers then 1 else 0 := by
  simp [answered, List.countP_cons]

theorem received_concat : received (es ++ [e]) = received es ++ e.run?.toList := by
  cases hrun : e.run? <;> simp [received, hrun]

theorem ended_concat :
    h.ended (es ++ [e]) = h.ended es ++ ((h.after es).step e).ended.toList := by
  cases hended : ((h.after es).step e).ended <;> simp [ended, responses_concat, hended]

end Concat

/-- A history that begins when the host opens, once, and in which every start that ends was asked for
before: each request leads to one end at most. -/
structure Fair (h : DevHost) (es : List Event) : Prop where
  opens : ∃ rest, es = .opened :: rest ∧ .opened ∉ rest
  answers : ∀ earlier result later, es = earlier ++ .booted result :: later →
    answered earlier < h.asked earlier

theorem Fair.concat {h : DevHost} {es : List Event} {e : Event} (hes : h.Fair es) (he : e ≠ .opened)
    (hbooted : ∀ result, e = .booted result → answered es < h.asked es) : h.Fair (es ++ [e]) := by
  obtain ⟨rest, rfl, hrest⟩ := hes.opens
  refine ⟨⟨rest ++ [e], rfl, by simp [hrest, he.symm]⟩, fun earlier result later hsplit => ?_⟩
  rcases List.eq_nil_or_concat later with rfl | ⟨later, last, rfl⟩
  · obtain ⟨rfl, hlast⟩ := List.append_inj' hsplit rfl
    exact hbooted result (List.singleton_inj.mp hlast)
  · have hsplit' : .opened :: rest ++ [e] = (earlier ++ .booted result :: later) ++ [last] := by
      simpa using hsplit
    exact hes.answers earlier result later (List.append_inj' hsplit' rfl).1

/-- What came before the end of a start is a history too. -/
theorem Fair.earlier {h : DevHost} {es earlier later : List Event} {result : Except Failure Started}
    (hes : h.Fair es) (hsplit : es = earlier ++ .booted result :: later) : h.Fair earlier := by
  obtain ⟨rest, hopened, hrest⟩ := hes.opens
  cases earlier with
  | nil => cases hopened.symm.trans hsplit
  | cons e earlier =>
    obtain ⟨rfl, rfl⟩ := List.cons.inj (hopened.symm.trans hsplit)
    refine ⟨⟨earlier, rfl, fun hmem => hrest (List.mem_append_left _ hmem)⟩, ?_⟩
    intro earlier' result' later' hsplit'
    exact hes.answers earlier' result' (later' ++ .booted result :: later) (by rw [hsplit, hsplit']; simp)

theorem fair_opened (h : DevHost) : h.Fair [.opened] := by
  refine ⟨⟨[], rfl, by simp⟩, fun earlier result later hsplit => ?_⟩
  cases earlier <;> simp at hsplit

theorem fair_concat {h : DevHost} {es : List Event} {e : Event} (hes : h.Fair (es ++ [e])) :
    (es = [] ∧ e = .opened) ∨
      (h.Fair es ∧ e ≠ .opened ∧ ∀ result, e = .booted result → answered es < h.asked es) := by
  obtain ⟨⟨rest, hopened, hrest⟩, hanswers⟩ := hes
  cases es with
  | nil => exact .inl ⟨rfl, (List.cons.inj hopened).1⟩
  | cons e' es =>
    obtain ⟨rfl, rfl⟩ := List.cons.inj hopened
    obtain ⟨hes, he⟩ : .opened ∉ es ∧ .opened ≠ e := by simpa using hrest
    refine .inr ⟨⟨⟨es, rfl, hes⟩, fun earlier result later hsplit => ?_⟩, he.symm, ?_⟩
    · exact hanswers earlier result (later ++ [e]) (by rw [hsplit]; simp)
    · rintro result rfl
      exact hanswers _ result [] rfl

/-! ## One event -/

/-- What an event does that is not the end of a start. -/
inductive Acts (h : DevHost) (r : Response) : Prop where
  | holds (boots : r.requests.count .boot = 0) (probing : r.host.isProbing = h.isProbing)
      (run : r.host.run = h.run ∨ ∃ f ∈ [Started.dropLink, Started.unload], r.host.run = h.run.map f)
      (ended : r.ended = none)
  | givesUp (boots : r.requests.count .boot = 0) (probing : r.host.isProbing = h.isProbing)
      (run : r.host.run = none) (ended : r.ended = h.run.map (·.unload))
  | startsOver (idle : h.isProbing = false) (boots : r.requests.count .boot = 1)
      (probing : r.host.isProbing = true) (run : r.host.run = none)
      (ended : r.ended = h.run.map (·.unload))

theorem acts_press (h : DevHost) (k : Text) : h.Acts (h.press k) := by
  have hkeep : h.Acts { host := h } := .holds rfl rfl (.inl rfl) rfl
  have hmap {f : Started → Started} (hf : f ∈ [Started.dropLink, Started.unload]) :
      h.Acts { host := { h with run := h.run.map f } } := .holds rfl rfl (.inr ⟨f, hf, rfl⟩) rfl
  unfold press
  split
  · exact .givesUp rfl rfl rfl rfl
  split
  · cases hprobing : h.isProbing with
    | true => exact hkeep
    | false => exact .startsOver hprobing rfl rfl rfl rfl
  split
  · split
    · exact hmap (by simp)
    · exact hkeep
  split
  · exact hmap (by simp)
  · exact hkeep

theorem acts_step (h : DevHost) {e : Event} (hopened : e ≠ .opened) (hanswers : e.answers = false) :
    h.Acts (h.step e) := by
  cases e with
  | opened => exact absurd rfl hopened
  | booted result => cases hanswers
  | key k => exact acts_press h k
  | resized n => exact .holds rfl rfl (.inl rfl) rfl
  | tick =>
    simp only [step]
    split
    · exact .holds rfl rfl (.inl rfl) rfl
    · exact .holds rfl rfl (.inl rfl) rfl

/-! ## Any history -/

/-- The starts and the runs of a host, which was `h` before the events. -/
structure Account (h : DevHost) (es : List Event) : Prop where
  starts : h.asked es = answered es + if (h.after es).isProbing then 1 else 0
  idle : (h.after es).isProbing = true → (h.after es).run = none
  /-- The runs that came in were given up, except for the last one perhaps. -/
  runs : ∃ olds cur, received es = olds ++ cur.toList ∧
    Option.Rel Started.Becomes cur (h.after es).run ∧
    List.Forall₂ Started.EndsAs olds (h.ended es)

variable {h : DevHost} {es : List Event} {e : Event}

theorem account_opened (hprobing : h.isProbing = true) (hrun : h.run = none) :
    h.Account [.opened] where
  starts := by
    have hafter : (h.after [.opened]).isProbing = true := hprobing
    rw [hafter]
    rfl
  idle _ := hrun
  runs := ⟨[], none, rfl, by rw [show (h.after [.opened]).run = none from hrun]; exact .none, .nil⟩

theorem rel_becomes_map {cur run : Option Started} {f : Started → Started}
    (hf : f ∈ [Started.dropLink, Started.unload]) (holds : Option.Rel Started.Becomes cur run) :
    Option.Rel Started.Becomes cur (run.map f) := by
  cases holds with
  | none => exact .none
  | some hbecomes =>
    rcases List.mem_pair.mp hf with rfl | rfl
    · exact .some hbecomes.dropLink
    · exact .some hbecomes.unload

/-- What is held is given up. -/
theorem forall₂_endsAs_append {olds ends : List Started} {cur run : Option Started}
    (holds : Option.Rel Started.Becomes cur run) (hall : List.Forall₂ Started.EndsAs olds ends) :
    List.Forall₂ Started.EndsAs (olds ++ cur.toList) (ends ++ (run.map (·.unload)).toList) := by
  refine List.rel_append hall ?_
  cases holds with
  | none => exact .nil
  | some hbecomes => exact .cons (Started.endsAs_unload hbecomes) .nil

theorem Account.probing_iff (ha : h.Account es) :
    (h.after es).isProbing = true ↔ h.asked es = answered es + 1 := by
  rw [ha.starts]
  cases (h.after es).isProbing <;> simp

theorem Account.probing (ha : h.Account es) (hawaited : answered es < h.asked es) :
    (h.after es).isProbing = true := by
  by_contra hnot
  have hstarts := ha.starts
  rw [if_neg hnot] at hstarts
  omega

theorem Account.booted (ha : h.Account es) (result : Except Failure Started)
    (hawaited : answered es < h.asked es) : h.Account (es ++ [.booted result]) := by
  have hprobing := ha.probing hawaited
  have hrun := ha.idle hprobing
  have hasked := ha.probing_iff.mp hprobing
  obtain ⟨olds, cur, hreceived, holds, hends⟩ := ha.runs
  -- nothing is held that the new run could take the place of
  obtain rfl : cur = none := by
    rw [hrun] at holds
    cases holds
    rfl
  have hstarts (isProbing : Bool) (hidle : isProbing = false) :
      h.asked (es ++ [.booted result]) =
        answered (es ++ [.booted result]) + if isProbing then 1 else 0 := by
    subst hidle
    simp only [asked_concat, answered_concat, hasked]
    cases result <;> rfl
  have hreceived' : received (es ++ [.booted result]) = olds ++ (Event.booted result).run?.toList := by
    rw [received_concat, hreceived, Option.toList_none, List.append_nil]
  have hends' : h.ended (es ++ [.booted result]) = h.ended es := by
    rw [ended_concat]
    cases result <;> exact List.append_nil _
  rw [← hends'] at hends
  cases result with
  | ok run =>
    have hafter : h.after (es ++ [.booted (.ok run)]) =
        { h.after es with isProbing := false, failure := none, run := some run } := after_concat ..
    exact ⟨hstarts _ (by rw [hafter]), by simp [hafter],
      ⟨olds, some run, hreceived', by rw [hafter]; exact .some .same, hends⟩⟩
  | error f =>
    have hafter : h.after (es ++ [.booted (.error f)]) =
        { h.after es with isProbing := false, failure := some f, run := none } := after_concat ..
    exact ⟨hstarts _ (by rw [hafter]), by simp [hafter],
      ⟨olds, none, hreceived', by rw [hafter]; exact .none, hends⟩⟩

theorem Account.step (ha : h.Account es) (hopened : e ≠ .opened) (hanswers : e.answers = false) :
    h.Account (es ++ [e]) := by
  have hanswered : answered (es ++ [e]) = answered es := by simp [answered_concat, hanswers]
  have hreceived : received (es ++ [e]) = received es := by
    rw [received_concat, Event.run?_eq_none hanswers, Option.toList_none, List.append_nil]
  obtain ⟨hstarts, hidle, olds, cur, hsplit, holds, hends⟩ := ha
  have hgivesUp (hrun : (h.after (es ++ [e])).run = none)
      (hended : ((h.after es).step e).ended = (h.after es).run.map (·.unload)) :
      ∃ olds cur, received (es ++ [e]) = olds ++ cur.toList ∧
        Option.Rel Started.Becomes cur (h.after (es ++ [e])).run ∧
        List.Forall₂ Started.EndsAs olds (h.ended (es ++ [e])) := by
    refine ⟨olds ++ cur.toList, none, by simp [hreceived, hsplit], by rw [hrun]; exact .none, ?_⟩
    rw [ended_concat, hended]
    exact forall₂_endsAs_append holds hends
  rcases acts_step (h.after es) hopened hanswers with
    ⟨hboots, hprobing, hrun, hended⟩ | ⟨hboots, hprobing, hrun, hended⟩ |
      ⟨hready, hboots, hprobing, hrun, hended⟩ <;>
    rw [← after_concat] at hprobing hrun
  · refine ⟨by rw [asked_concat, hboots, hanswered, hprobing]; exact hstarts, fun hp => ?_, olds, cur,
      hreceived.trans hsplit, ?_, by rw [ended_concat, hended]; simpa using hends⟩
    · have hnone := hidle (hprobing ▸ hp)
      rcases hrun with hrun | ⟨f, -, hrun⟩ <;> simp [hrun, hnone]
    · rcases hrun with hrun | ⟨f, hf, hrun⟩
      · rwa [hrun]
      · rw [hrun]
        exact rel_becomes_map hf holds
  · exact ⟨by rw [asked_concat, hboots, hanswered, hprobing]; exact hstarts, fun _ => hrun,
      hgivesUp hrun hended⟩
  · refine ⟨?_, fun _ => hrun, hgivesUp hrun hended⟩
    rw [asked_concat, hboots, hanswered, hprobing, hstarts, hready]
    rfl

theorem Fair.account (hes : h.Fair es) (hprobing : h.isProbing = true) (hrun : h.run = none) :
    h.Account es := by
  induction es using List.reverseRecOn with
  | nil =>
    obtain ⟨rest, hrest, -⟩ := hes.opens
    cases hrest
  | append_singleton es e ih =>
    rcases fair_concat hes with ⟨rfl, rfl⟩ | ⟨hearlier, hopened, hbooted⟩
    · exact account_opened hprobing hrun
    · cases he : e.answers with
      | false => exact (ih hearlier).step hopened he
      | true =>
        cases e with
        | booted result => exact (ih hearlier).booted result (hbooted result rfl)
        | _ => cases he

/-- **Every run is unloaded, and starts do not overlap.** In a history in which each request for a
start leads to one end at most, never more than one start is under way, and the host is probing
exactly while one is. Meanwhile it has no run, so a start that ends never replaces one. Every run that
came in is the one it holds or was unloaded when it was given up, and shutting down ends the last. -/
theorem starts_alternate (module : Text) {es : List Event} (hes : Fair { module } es) :
    let host := ({ module } : DevHost).after es
    (answered es ≤ ({ module } : DevHost).asked es ∧
        ({ module } : DevHost).asked es ≤ answered es + 1) ∧
      (host.isProbing = true ↔ ({ module } : DevHost).asked es = answered es + 1) ∧
      (host.isProbing = true → host.run = none) ∧
      (∀ earlier result later, es = earlier ++ .booted result :: later →
        (({ module } : DevHost).after earlier).run = none) ∧
      (∃ olds cur, received es = olds ++ cur.toList ∧ Option.Rel Started.Becomes cur host.run ∧
        List.Forall₂ Started.EndsAs olds (({ module } : DevHost).ended es)) ∧
      List.Forall₂ Started.EndsAs (received es)
        (({ module } : DevHost).ended es ++ host.shutdown.ended.toList) := by
  intro host
  have ha := hes.account rfl rfl
  refine ⟨?_, ha.probing_iff, ha.idle, fun earlier result later hsplit => ?_, ha.runs, ?_⟩
  · rw [ha.starts]
    split <;> omega
  · have hearlier := (hes.earlier hsplit).account rfl rfl
    exact hearlier.idle (hearlier.probing (hes.answers earlier result later hsplit))
  · obtain ⟨olds, cur, hreceived, holds, hends⟩ := ha.runs
    rw [hreceived]
    exact forall₂_endsAs_append holds hends

/-- A start fails, the next one succeeds, the link is dropped and the page left, a third start succeeds
as well, and the host quits. -/
def evening : List Event :=
  [.opened, .booted (.error .foreign), .key (Text.ofString "r"), .tick, .booted (.ok emptyRun),
    .key (Text.ofString "d"), .key (Text.ofString "u"), .key (Text.ofString "r"),
    .booted (.ok emptyRun), .key (Text.ofString "q")]

theorem starts_alternate_evening :
    Fair { module := [] } evening ∧ received evening = [emptyRun, emptyRun] ∧
      List.Forall₂ Started.EndsAs [emptyRun, emptyRun]
        (({ module := [] } : DevHost).ended evening) := by
  have hfair : Fair { module := [] } evening := by
    have hother (e : Event) {es : List Event} (hes : Fair { module := [] } es) (hopened : e ≠ .opened)
        (hanswers : e.answers = false) : Fair { module := [] } (es ++ [e]) :=
      hes.concat hopened fun result he => by rw [he] at hanswers; cases hanswers
    have hkey (key : String) {es : List Event} (hes : Fair { module := [] } es) :
        Fair { module := [] } (es ++ [.key (Text.ofString key)]) :=
      hother _ hes nofun rfl
    have hbooted (result : Except Failure Started) {es : List Event}
        (hes : Fair { module := [] } es) (hawaited : answered es < asked { module := [] } es) :
        Fair { module := [] } (es ++ [.booted result]) :=
      hes.concat nofun fun _ _ => hawaited
    have hfirst := hbooted (.error .foreign) (fair_opened _) (by decide)
    have hsecond := hbooted (.ok emptyRun) (hother .tick (hkey "r" hfirst) nofun rfl) (by decide)
    have hthird := hbooted (.ok emptyRun) (hkey "r" (hkey "u" (hkey "d" hsecond))) (by decide)
    exact hkey "q" hthird
  obtain ⟨-, -, -, -, -, hends⟩ := starts_alternate [] hfair
  have hlast : (({ module := [] } : DevHost).after evening).shutdown.ended = none := rfl
  rw [hlast, Option.toList_none, List.append_nil] at hends
  exact ⟨hfair, rfl, hends⟩

end DevHost

end PageBoot.Command
