import PageBoot.Failure

/-!
Call adapters across the bridge. A page function is called under a guard that turns a failure
or a thrown value into an exception. In the other direction a dispatcher is called by dispatch
id; an adapter checks the number of arguments first. The tear-off of a dispatch id keeps the
arity of its first request.
-/

namespace PageBoot.Bridge

/-- A value, or a thrown value when `exception` is set. -/
structure Result where
  exception : Bool
  value : Value

/-- How a page function ends. -/
inductive Outcome where
  | returned (v : Value)
  | failed (f : Failure)
  | threw (v : Value)

abbrev PageFunction := Value → List Value → Outcome

/-- Calls a page function; every way of not returning is an exception. -/
def guardedCall (fn : Option PageFunction) (this : Value) (args : List Value) : Result :=
  match fn with
  | none => ⟨true, .failure (.notFound .invoke "function" "<nil>")⟩
  | some fn =>
    match fn this args with
    | .returned v => ⟨false, v⟩
    | .failed f => ⟨true, .failure f⟩
    | .threw v => ⟨true, v⟩

abbrev Dispatcher (σ : Type) := Int → Value → List Value → σ → Result × σ

/-- What a dispatched call comes back as. -/
def outcomeOf (disp : Int) (r : Result) : Except Failure Value :=
  if r.exception then
    .error (.report .invoke .exception ("dispatch " ++ Text.ofInt disp) r.value.written r.value none)
  else .ok r.value

def arityFailure (disp : Int) (arity : Int) (given : Nat) : Failure :=
  .report .invoke .arity ("dispatch " ++ Text.ofInt disp)
    ("expected " ++ Text.ofInt arity ++ " arguments, got " ++ Text.ofNat given) .null none

/-- Calls a dispatcher if the number of arguments is right. -/
def dispatch {σ : Type} (d : Dispatcher σ) (disp arity : Int) (this : Value) (args : List Value)
    (s : σ) : Except Failure Value × σ :=
  if (args.length : Int) ≠ arity then (.error (arityFailure disp arity args.length), s)
  else
    let (r, s) := d disp this args s
    (outcomeOf disp r, s)

structure TearOff where
  disp : Int
  arity : Int
  deriving DecidableEq, Repr

/-- The tear-offs made so far, one for each dispatch id. -/
structure Adapters where
  tearOffs : List TearOff := []

namespace Adapters

def tearOff? (a : Adapters) (disp : Int) : Option TearOff := a.tearOffs.find? (·.disp == disp)

/-- The tear-off of a dispatch id, made on the first request. -/
def tearOff (a : Adapters) (disp arity : Int) : TearOff × Adapters :=
  match a.tearOff? disp with
  | some t => (t, a)
  | none =>
    let t : TearOff := { disp, arity }
    (t, ⟨a.tearOffs ++ [t]⟩)

/-- The arity of the adapter for a dispatch id: that of its tear-off, or the one asked for. -/
def adapter (a : Adapters) (disp arity : Int) (tearOff : Bool) : Int × Adapters :=
  if tearOff then
    let (t, a) := a.tearOff disp arity
    (t.arity, a)
  else (arity, a)

end Adapters

end PageBoot.Bridge
