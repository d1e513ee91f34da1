import Mathlib.Data.List.Nodup
import PageBoot.Bridge.Adapters

/-!
What goes through the adapters of one dispatcher. A `Story` is any sequence of requests and calls;
while the dispatcher handles a call it may go back to the adapters, and answer what it likes. Adapters
are known by their places among those made, so that two requests return the same one exactly when
the places agree. `story_accounted` says what every story comes to: which adapter a request returns,
what each call goes by, what it comes back as, and all that the dispatcher got.
-/

namespace PageBoot.Bridge

/-! ## Adapters that are kept -/

namespace Adapters

variable (a : Adapters) (p n : Int)

/-- The place of the adapter for a key, in the table or at its end. -/
def place : Nat := a.tearOffs.findIdx (·.disp == p)

/-- No key has two adapters. -/
def Distinct : Prop := (a.tearOffs.map (·.disp)).Nodup

theorem tearOff?_eq : a.tearOff? p = a.tearOffs[a.place p]? := List.find?_eq_getElem?_findIdx

theorem tearOff_of_known {t : TearOff} (h : a.tearOff? p = some t) : a.tearOff p n = (t, a) := by
  simp only [tearOff, h]

theorem tearOff_of_new (h : a.tearOff? p = none) :
    a.tearOff p n = (⟨p, n⟩, ⟨a.tearOffs ++ [⟨p, n⟩]⟩) := by
  simp only [tearOff, h]

/-- The place of a key that is new is the end of the table. -/
theorem place_of_new (h : a.tearOff? p = none) : a.place p = a.tearOffs.length := by
  have hle : a.place p ≤ a.tearOffs.length := List.findIdx_le_length
  rw [tearOff?_eq, List.getElem?_eq_none_iff] at h
  omega

/-- A request leaves all places as they are, but for the one that it may add. -/
theorem getElem?_tearOff (x : Nat) :
    (a.tearOff p n).2.tearOffs[x]? =
      (a.tearOffs[x]?).or (if a.place p = x then some ⟨p, n⟩ else none) := by
  cases h : a.tearOff? p with
  | some t =>
    rw [a.tearOff_of_known p n h]
    split
    · next hx =>
      rw [← hx, ← tearOff?_eq, h]
      rfl
    · rw [Option.or_none]
  | none =>
    rw [a.tearOff_of_new p n h, a.place_of_new p h, List.getElem?_append, List.getElem?_singleton]
    split
    · next hlt => simp [List.getElem?_eq_getElem hlt]
    · next hge =>
      rw [List.getElem?_eq_none (Nat.le_of_not_lt hge), Option.none_or]
      congr 1
      exact propext (by omega)

/-- The adapter that a request returns stands at its place. -/
theorem getElem?_place : (a.tearOff p n).2.tearOffs[a.place p]? = some (a.tearOff p n).1 := by
  cases h : a.tearOff? p with
  | some t => rw [a.tearOff_of_known p n h, ← tearOff?_eq, h]
  | none =>
    rw [getElem?_tearOff, ← tearOff?_eq, a.tearOff_of_new p n h, h, if_pos rfl]
    rfl

theorem mem_tearOff {t : TearOff} (ht : t ∈ (a.tearOff p n).2.tearOffs) :
    t ∈ a.tearOffs ∨ t = ⟨p, n⟩ := by
  cases h : a.tearOff? p with
  | some u =>
    rw [a.tearOff_of_known p n h] at ht
    exact .inl ht
  | none =>
    rw [a.tearOff_of_new p n h] at ht
    exact (List.mem_append.mp ht).imp_right List.mem_singleton.mp

theorem disp_tearOff : (a.tearOff p n).1.disp = p := by
  cases h : a.tearOff? p with
  | some t =>
    rw [a.tearOff_of_known p n h]
    exact beq_iff_eq.mp (List.find?_some (p := fun u : TearOff => u.disp == p) h)
  | none => rw [a.tearOff_of_new p n h]

theorem Distinct.tearOff {a : Adapters} (h : a.Distinct) (p n : Int) : (a.tearOff p n).2.Distinct := by
  cases hp : a.tearOff? p with
  | some t => rwa [a.tearOff_of_known p n hp]
  | none =>
    have hnew : p ∉ a.tearOffs.map (·.disp) := by
      intro hmem
      obtain ⟨t, ht, rfl⟩ := List.mem_map.mp hmem
      exact List.find?_eq_none.mp hp t ht (beq_self_eq_true t.disp)
    rw [a.tearOff_of_new p n hp, Distinct, List.map_append, List.map_singleton, ← List.concat_eq_append]
    exact List.Nodup.concat hnew h

theorem Distinct.place_unique {a : Adapters} (h : a.Distinct) {x y : Nat} {t u : TearOff}
    (ht : a.tearOffs[x]? = some t) (hu : a.tearOffs[y]? = some u) : x = y ↔ t.disp = u.disp := by
  constructor
  · rintro rfl
    rw [ht] at hu
    exact congrArg TearOff.disp (Option.some.inj hu)
  · intro heq
    have hlt : x < (a.tearOffs.map (·.disp)).length := by
      rw [List.length_map]
      exact (List.getElem?_eq_some_iff.mp ht).1
    apply (List.getElem?_inj hlt h).mp
    simp [ht, hu, heq]

end Adapters

/-! ## Stories -/

/-- A call that the dispatcher got. -/
structure Dispatched where
  disp : Int
  this : Value
  args : List Value

/-- An adapter that is called. An invoker is told the dispatch id with each call. -/
inductive Handle where
  | invoker (place : Nat) (disp : Int)
  | tearOff (place : Nat)

/-- Requests and calls, in order of time. A call that the dispatcher gets has a story of its own, which
ends before the call does, and the result that the dispatcher gives. -/
inductive Story where
  | done
  | invoker (arity : Int) (next : Story)
  | tearOff (disp arity : Int) (next : Story)
  | call (callee : Handle) (this : Value) (args : List Value) (within : Story) (result : Result)
      (next : Story)

/-- What came of a request or a call. -/
inductive Event where
  | invoker (arity : Int) (place : Nat)
  | tearOff (disp arity : Int) (place : Nat) (shown : TearOff)
  | called (callee : Handle) (this : Value) (args : List Value) (result : Result)
      (answer : Except Failure Value)

/-- The adapters of a dispatcher, invokers under their number of arguments and tear-offs under their
dispatch id, and the calls that it got. -/
structure Desk where
  byArity : Adapters := {}
  byDisp : Adapters := {}
  dispatched : List Dispatched := []

namespace Desk

/-- The dispatch id and arity that an adapter goes by. -/
def target? (k : Desk) : Handle → Option TearOff
  | .invoker x disp => (k.byArity.tearOffs[x]?).map fun t => { disp, arity := t.arity }
  | .tearOff x => k.byDisp.tearOffs[x]?

def noted (k : Desk) (d : Dispatched) : Desk := { k with dispatched := k.dispatched ++ [d] }

end Desk

/-- A dispatcher that notes what it gets, has `within` happen and gives the result. -/
def handling (within : Desk → List Event × Desk) (result : Result) : Dispatcher (List Event × Desk) :=
  fun disp this args (before, k) =>
    let (events, k) := within (k.noted { disp, this, args })
    (result, before ++ events, k)

/-- What comes of a story, with each call before what happens within it. Nobody can call an adapter
that was not made. -/
def Story.run : Story → Desk → List Event × Desk
  | .done, k => ([], k)
  | .invoker n next, k =>
    let (_, a) := k.byArity.tearOff n n
    let (events, last) := next.run { k with byArity := a }
    (.invoker n (k.byArity.place n) :: events, last)
  | .tearOff p n next, k =>
    let (t, a) := k.byDisp.tearOff p n
    let (events, last) := next.run { k with byDisp := a }
    (.tearOff p n (k.byDisp.place p) t :: events, last)
  | .call callee this args within result next, k =>
    match k.target? callee with
    | none => next.run k
    | some t =>
      let (answer, inner, k) := dispatch (handling within.run result) t.disp t.arity this args ([], k)
      let (events, last) := next.run k
      (.called callee this args result answer :: (inner ++ events), last)

/-! ## What a story comes to -/

namespace Event

/-- What a request asked for, if it returned the invoker at place `x`. -/
def asInvoker? (x : Nat) : Event → Option TearOff
  | .invoker n y => if y = x then some ⟨n, n⟩ else none
  | _ => none

/-- What a request asked for, if it returned the tear-off at place `x`. -/
def asTearOff? (x : Nat) : Event → Option TearOff
  | .tearOff p n y _ => if y = x then some ⟨p, n⟩ else none
  | _ => none

/-- The arity that a request for a tear-off of `p` asked for. -/
def arityFor? (p : Int) : Event → Option Int
  | .tearOff q n _ _ => if q = p then some n else none
  | _ => none

end Event

/-- What an adapter goes by: the dispatch id and arity of the first request that returned it. An
invoker takes the dispatch id from the call. -/
def goesBy? (events : List Event) : Handle → Option TearOff
  | .invoker x disp => (events.findSome? (·.asInvoker? x)).map fun t => { disp, arity := t.arity }
  | .tearOff x => events.findSome? (·.asTearOff? x)

theorem goesBy?_append (es es' : List Event) (callee : Handle) :
    goesBy? (es ++ es') callee = (goesBy? es callee).or (goesBy? es' callee) := by
  cases callee <;> simp only [goesBy?, List.findSome?_append, Option.map_or]

/-- The arity that the first request for a dispatch id asked for. -/
def firstArity? (events : List Event) (p : Int) : Option Int := events.findSome? (·.arityFor? p)

/-- What a call with so many arguments comes back as, with the result that the dispatcher gives. -/
def TearOff.reply (t : TearOff) (given : Nat) (r : Result) : Except Failure Value :=
  let subject : Text := "dispatch " ++ Text.ofInt t.disp
  if (given : Int) ≠ t.arity then
    .error (.report .invoke .arity subject
      ("expected " ++ Text.ofInt t.arity ++ " arguments, got " ++ Text.ofNat given) .null none)
  else if r.exception then .error (.report .invoke .exception subject r.value.written r.value none)
  else .ok r.value

/-- An event is right when adapters go by `target?`. -/
def Event.Right (target? : Handle → Option TearOff) : Event → Prop
  | .invoker n x => ∀ p, target? (.invoker x p) = some ⟨p, n⟩
  | .tearOff p _ x t => target? (.tearOff x) = some t ∧ t.disp = p
  | .called callee _ args r answer => ∃ t, target? callee = some t ∧ answer = t.reply args.length r

/-- What the dispatcher gets of an event when adapters go by `target?`. -/
def Event.dispatched? (target? : Handle → Option TearOff) : Event → Option Dispatched
  | .called callee this args _ _ =>
    (target? callee).bind fun t =>
      if (args.length : Int) = t.arity then some { disp := t.disp, this, args } else none
  | _ => none

namespace Event

variable {f g : Handle → Option TearOff} {e : Event}

theorem Right.mono (hfg : ∀ callee t, f callee = some t → g callee = some t) (h : e.Right f) :
    e.Right g := by
  cases e with
  | invoker n x => exact fun p => hfg _ _ (h p)
  | tearOff p n x t => exact ⟨hfg _ _ h.1, h.2⟩
  | called callee this args r answer =>
    obtain ⟨t, ht, hanswer⟩ := h
    exact ⟨t, hfg _ _ ht, hanswer⟩

theorem Right.dispatched?_eq (hfg : ∀ callee t, f callee = some t → g callee = some t)
    (h : e.Right f) : e.dispatched? g = e.dispatched? f := by
  cases e with
  | called callee this args r answer =>
    obtain ⟨t, ht, -⟩ := h
    simp only [dispatched?, ht, hfg _ _ ht]
  | _ => rfl

end Event

namespace Desk

/-- What holds of the adapters at all times. -/
structure Sound (k : Desk) : Prop where
  distinct : k.byDisp.Distinct
  square : ∀ t ∈ k.byArity.tearOffs, t.arity = t.disp

theorem Sound.noted {k : Desk} (hk : k.Sound) (d : Dispatched) : (k.noted d).Sound :=
  ⟨hk.distinct, hk.square⟩

/-- The events lead from one desk to another. -/
structure Leads (k : Desk) (events : List Event) (last : Desk) : Prop where
  target? (callee : Handle) : last.target? callee = (k.target? callee).or (goesBy? events callee)
  sound : last.Sound
  right : ∀ e ∈ events, e.Right last.target?
  dispatched : last.dispatched = k.dispatched ++ events.filterMap (·.dispatched? last.target?)

theorem Leads.refl {k : Desk} (hk : k.Sound) : k.Leads [] k where
  target? callee := by cases callee <;> exact (Option.or_none).symm
  sound := hk
  right := nofun
  dispatched := (List.append_nil _).symm

/-- What an adapter goes by, it goes by for good. -/
theorem Leads.stays {k last : Desk} {es : List Event} (h : k.Leads es last) (callee : Handle)
    (t : TearOff) (ht : k.target? callee = some t) : last.target? callee = some t := by
  rw [h.target?, ht]
  rfl

theorem Leads.trans {k mid last : Desk} {es es' : List Event} (h : k.Leads es mid)
    (h' : mid.Leads es' last) : k.Leads (es ++ es') last where
  target? callee := by rw [h'.target?, h.target?, Option.or_assoc, goesBy?_append]
  sound := h'.sound
  right e he := by
    rcases List.mem_append.mp he with he | he
    · exact (h.right e he).mono h'.stays
    · exact h'.right e he
  dispatched := by
    have hsame : es.filterMap (·.dispatched? last.target?) = es.filterMap (·.dispatched? mid.target?) :=
      List.filterMap_congr fun e he => (h.right e he).dispatched?_eq h'.stays
    rw [h'.dispatched, h.dispatched, List.filterMap_append, hsame, List.append_assoc]

theorem leads_invoker {k : Desk} (hk : k.Sound) (n : Int) :
    k.Leads [.invoker n (k.byArity.place n)] { k with byArity := (k.byArity.tearOff n n).2 } := by
  have hsquare : ∀ t ∈ (k.byArity.tearOff n n).2.tearOffs, t.arity = t.disp := by
    intro t ht
    rcases k.byArity.mem_tearOff n n ht with ht | rfl
    · exact hk.square t ht
    · rfl
  constructor
  · intro callee
    cases callee with
    | invoker x p =>
      simp only [target?, Adapters.getElem?_tearOff, Option.map_or, goesBy?,
        List.findSome?_singleton, Event.asInvoker?]
    | tearOff x => exact (Option.or_none).symm
  · exact ⟨hk.distinct, hsquare⟩
  · intro e he
    obtain rfl := List.mem_singleton.mp he
    intro p
    have hplace := k.byArity.getElem?_place n n
    have harity := hsquare _ (List.mem_of_getElem? hplace)
    rw [k.byArity.disp_tearOff n n] at harity
    simp only [target?, hplace, Option.map_some, harity]
  · exact (List.append_nil _).symm

theorem leads_tearOff {k : Desk} (hk : k.Sound) (p n : Int) :
    k.Leads [.tearOff p n (k.byDisp.place p) (k.byDisp.tearOff p n).1]
      { k with byDisp := (k.byDisp.tearOff p n).2 } := by
  constructor
  · intro callee
    cases callee with
    | invoker x p => exact (Option.or_none).symm
    | tearOff x =>
      simp only [target?, Adapters.getElem?_tearOff, goesBy?, List.findSome?_singleton,
        Event.asTearOff?]
  · exact ⟨hk.distinct.tearOff p n, hk.square⟩
  · intro e he
    obtain rfl := List.mem_singleton.mp he
    exact ⟨k.byDisp.getElem?_place p n, k.byDisp.disp_tearOff p n⟩
  · exact (List.append_nil _).symm

/-- A call that the dispatcher gets leads to where what happens within it leads. -/
theorem Leads.entered {k last : Desk} {events : List Event} {callee : Handle} {t : TearOff}
    {this : Value} {args : List Value} (ht : k.target? callee = some t)
    (hargs : (args.length : Int) = t.arity)
    (h : (k.noted { disp := t.disp, this, args }).Leads events last) (r : Result) :
    k.Leads (.called callee this args r (outcomeOf t.disp r) :: events) last where
  target? callee := h.target? callee
  sound := h.sound
  right e he := by
    rcases List.mem_cons.mp he with rfl | he
    · refine ⟨t, h.stays callee t ht, ?_⟩
      rw [TearOff.reply, if_neg (not_not_intro hargs)]
      rfl
    · exact h.right e he
  dispatched := by
    have hlast := h.stays callee t ht
    rw [h.dispatched, List.filterMap_cons_some (b := { disp := t.disp, this, args })]
    · exact List.append_assoc _ _ _
    · simp only [Event.dispatched?, hlast, Option.bind_some, if_pos hargs]

/-- A call with a wrong number of arguments leads nowhere. -/
theorem leads_refused {k : Desk} (hk : k.Sound) {callee : Handle} {t : TearOff} {args : List Value}
    (ht : k.target? callee = some t) (hargs : (args.length : Int) ≠ t.arity) (this : Value)
    (r : Result) :
    k.Leads [.called callee this args r (.error (arityFailure t.disp t.arity args.length))] k where
  target? callee := by cases callee <;> exact (Option.or_none).symm
  sound := hk
  right e he := by
    obtain rfl := List.mem_singleton.mp he
    refine ⟨t, ht, ?_⟩
    rw [TearOff.reply, if_pos hargs]
    rfl
  dispatched := by
    simp [Event.dispatched?, ht, hargs]

end Desk

theorem dispatch_of_eq {σ : Type} (d : Dispatcher σ) {disp arity : Int} {this : Value}
    {args : List Value} (h : (args.length : Int) = arity) (s : σ) :
    dispatch d disp arity this args s =
      (outcomeOf disp (d disp this args s).1, (d disp this args s).2) :=
  if_neg (not_not_intro h)

theorem dispatch_of_ne {σ : Type} (d : Dispatcher σ) {disp arity : Int} {this : Value}
    {args : List Value} (h : (args.length : Int) ≠ arity) (s : σ) :
    dispatch d disp arity this args s = (.error (arityFailure disp arity args.length), s) :=
  if_pos h

theorem Story.run_leads (story : Story) {k : Desk} (hk : k.Sound) :
    k.Leads (story.run k).1 (story.run k).2 := by
  induction story generalizing k with
  | done => exact .refl hk
  | invoker n next ih =>
    have hfirst := Desk.leads_invoker hk n
    exact hfirst.trans (ih hfirst.sound)
  | tearOff p n next ih =>
    have hfirst := Desk.leads_tearOff hk p n
    exact hfirst.trans (ih hfirst.sound)
  | call callee this args within r next ihwithin ih =>
    rw [run]
    cases ht : k.target? callee with
    | none => exact ih hk
    | some t =>
      by_cases hargs : (args.length : Int) = t.arity
      · have hnoted := hk.noted { disp := t.disp, this, args }
        have hfirst := Desk.Leads.entered ht hargs (ihwithin hnoted) r
        simp only [dispatch_of_eq _ hargs, handling]
        exact hfirst.trans (ih hfirst.sound)
      · have hfirst := Desk.leads_refused hk ht hargs this r
        simp only [dispatch_of_ne _ hargs]
        exact hfirst.trans (ih hk)

/-! ## The account of a story -/

/-- Behind the events `before`, every request of a story has its event, and every call of an adapter
that was returned before has one, in order of time. What is to happen within a call happens when the
dispatcher gets the call. -/
inductive Unfolds : List Event → Story → List Event → Prop
  | done {before : List Event} : Unfolds before .done []
  | invoker {before events : List Event} {n : Int} {x : Nat} {next : Story}
      (rest : Unfolds (before ++ [.invoker n x]) next events) :
      Unfolds before (.invoker n next) (.invoker n x :: events)
  | tearOff {before events : List Event} {p n : Int} {x : Nat} {t : TearOff} {next : Story}
      (rest : Unfolds (before ++ [.tearOff p n x t]) next events) :
      Unfolds before (.tearOff p n next) (.tearOff p n x t :: events)
  | entered {before inner events : List Event} {callee : Handle} {t : TearOff} {this : Value}
      {args : List Value} {within next : Story} {r : Result} {answer : Except Failure Value}
      (returned : goesBy? before callee = some t) (count : (args.length : Int) = t.arity)
      (meanwhile : Unfolds (before ++ [.called callee this args r answer]) within inner)
      (rest : Unfolds (before ++ .called callee this args r answer :: inner) next events) :
      Unfolds before (.call callee this args within r next)
        (.called callee this args r answer :: (inner ++ events))
  | refused {before events : List Event} {callee : Handle} {t : TearOff} {this : Value}
      {args : List Value} {within next : Story} {r : Result} {answer : Except Failure Value}
      (returned : goesBy? before callee = some t) (count : (args.length : Int) ≠ t.arity)
      (rest : Unfolds (before ++ [.called callee this args r answer]) next events) :
      Unfolds before (.call callee this args within r next)
        (.called callee this args r answer :: events)
  | missing {before events : List Event} {callee : Handle} {this : Value} {args : List Value}
      {within next : Story} {r : Result} (returned : goesBy? before callee = none)
      (rest : Unfolds before next events) :
      Unfolds before (.call callee this args within r next) events

theorem Desk.Leads.goesBy? {k last : Desk} {before events : List Event} (h : k.Leads events last)
    (hk : ∀ callee, k.target? callee = goesBy? before callee) (callee : Handle) :
    last.target? callee = goesBy? (before ++ events) callee := by
  rw [h.target?, hk, goesBy?_append]

theorem Story.run_unfolds (story : Story) {k : Desk} {before : List Event} (hk : k.Sound)
    (hbefore : ∀ callee, k.target? callee = goesBy? before callee) :
    Unfolds before story (story.run k).1 := by
  induction story generalizing k before with
  | done => exact .done
  | invoker n next ih =>
    have hfirst := Desk.leads_invoker hk n
    exact .invoker (ih hfirst.sound (hfirst.goesBy? hbefore))
  | tearOff p n next ih =>
    have hfirst := Desk.leads_tearOff hk p n
    exact .tearOff (ih hfirst.sound (hfirst.goesBy? hbefore))
  | call callee this args within r next ihwithin ih =>
    rw [run]
    cases ht : k.target? callee with
    | none =>
      rw [hbefore] at ht
      exact .missing ht (ih hk hbefore)
    | some t =>
      have hreturned : goesBy? before callee = some t := (hbefore callee).symm.trans ht
      by_cases hargs : (args.length : Int) = t.arity
      · have hnoted := hk.noted { disp := t.disp, this, args }
        have hfirst := Desk.Leads.entered ht hargs (within.run_leads hnoted) r
        have hcalled (answer : Except Failure Value) (callee' : Handle) :
            (k.noted { disp := t.disp, this, args }).target? callee' =
              goesBy? (before ++ [.called callee this args r answer]) callee' := by
          rw [goesBy?_append, ← hbefore]
          cases callee' <;> exact (Option.or_none).symm
        simp only [dispatch_of_eq _ hargs, handling]
        exact .entered hreturned hargs (ihwithin hnoted (hcalled _))
          (ih hfirst.sound (hfirst.goesBy? hbefore))
      · have hfirst := Desk.leads_refused hk ht hargs this r
        simp only [dispatch_of_ne _ hargs]
        exact .refused hreturned hargs (ih hk (hfirst.goesBy? hbefore))

/-- All that is to be known of the events of a story, and of the calls that the dispatcher got. -/
structure Accounted (story : Story) (events : List Event) (dispatched : List Dispatched) : Prop where
  unfolds : Unfolds [] story events
  /-- Two requests for tear-offs return one object when they are for one dispatch id, and only then. -/
  same {p q m n : Int} {x y : Nat} {t u : TearOff} (hp : .tearOff p m x t ∈ events)
    (hq : .tearOff q n y u ∈ events) : x = y ↔ p = q
  /-- That object shows the arity that the first request for its dispatch id asked for. -/
  first {p m : Int} {x : Nat} {t : TearOff} (h : .tearOff p m x t ∈ events) :
    firstArity? events p = some t.arity
  /-- What a request shows of its adapter is what the adapter goes by in all calls. -/
  right : ∀ e ∈ events, e.Right (goesBy? events)
  /-- The dispatcher got each call with the right number of arguments once, as it was, and no other. -/
  dispatched_eq : dispatched = events.filterMap (·.dispatched? (goesBy? events))

/-- When objects and dispatch ids go together, the first request that returned an object is the first
for its dispatch id. -/
theorem goesBy?_tearOff {events : List Event} {p : Int} {x : Nat}
    (h : ∀ q n y t, Event.tearOff q n y t ∈ events → (y = x ↔ q = p)) :
    goesBy? events (.tearOff x) = (firstArity? events p).map (TearOff.mk p) := by
  rw [goesBy?, firstArity?, List.map_findSome?, ← List.head?_filterMap, ← List.head?_filterMap]
  congr 1
  apply List.filterMap_congr
  intro e he
  cases e with
  | tearOff q n y t =>
    have hiff := h q n y t he
    by_cases hq : q = p
    · simp [Event.asTearOff?, Event.arityFor?, hiff.mpr hq, hq]
    · simp [Event.asTearOff?, Event.arityFor?, hiff, hq]
  | _ => rfl

/-- **Every story is accounted for**, whatever the dispatcher asks and calls while it handles a call. A
request for a tear-off returns the one object of its dispatch id, which keeps the arity that was asked for
first. A call with as many arguments as its adapter takes is dispatched once and comes back as the
dispatcher answered; any other is refused and not dispatched. -/
theorem story_accounted (story : Story) :
    Accounted story (story.run {}).1 (story.run {}).2.dispatched := by
  have hempty : Desk.Sound {} := ⟨List.nodup_nil, nofun⟩
  have hnothing (callee : Handle) : Desk.target? {} callee = goesBy? [] callee := by
    cases callee <;> rfl
  have hrun := story.run_leads hempty
  have htarget : (story.run {}).2.target? = goesBy? (story.run {}).1 :=
    funext (hrun.goesBy? hnothing)
  have hright := hrun.right
  have hdispatched := hrun.dispatched
  rw [htarget] at hright hdispatched
  have hsame {p q m n : Int} {x y : Nat} {t u : TearOff}
      (hp : .tearOff p m x t ∈ (story.run {}).1) (hq : .tearOff q n y u ∈ (story.run {}).1) :
      x = y ↔ p = q := by
    obtain ⟨hx, rfl⟩ := hrun.right _ hp
    obtain ⟨hy, rfl⟩ := hrun.right _ hq
    exact hrun.sound.distinct.place_unique hx hy
  constructor
  · exact story.run_unfolds hempty hnothing
  · exact hsame
  · intro p m x t ht
    have hgoes := (hright _ ht).1
    rw [goesBy?_tearOff fun q n y u hu => hsame hu ht] at hgoes
    obtain ⟨arity, hfirst, hshown⟩ := Option.map_eq_some_iff.mp hgoes
    rw [hfirst, ← hshown]
  · exact hright
  · exact hdispatched

/-- While the dispatcher handles a call of the tear-off, another request asks for its dispatch id. -/
example :
    ((Story.tearOff 11 1 (.call (.tearOff 0) .null [.int 5]
      (.tearOff 11 3 (.call (.tearOff 0) .null [] .done ⟨false, .null⟩ .done))
      ⟨false, .int 1⟩ .done)).run {}).1 =
    [.tearOff 11 1 0 ⟨11, 1⟩, .called (.tearOff 0) .null [.int 5] ⟨false, .int 1⟩ (.ok (.int 1)),
      .tearOff 11 3 0 ⟨11, 1⟩,
      .called (.tearOff 0) .null [] ⟨false, .null⟩ (.error (arityFailure 11 1 0))] := rfl

end PageBoot.Bridge
