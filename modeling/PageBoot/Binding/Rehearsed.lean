import PageBoot.Binding.Engine
import PageBoot.Dict

/-!
Rehearsed providers: they answer from a list of values, the last one repeating, and keep a
record of the calls made. They stand in for providers whose answer changes from call to call.
-/

namespace PageBoot.Binding

inductive Call where
  | computed (property : Text)
  | reported (property : Text) (allowed : List Text) (value : Text)
  deriving DecidableEq, Repr

/-- Calls so far, oldest first, and how many answers each property has used up. -/
structure Rehearsal where
  calls : List Call := []
  used : Dict Nat := []

namespace Rehearsal

/-- The answer after `n` earlier ones; the last value repeats. -/
def answer (values : List Text) (n : Nat) : Text :=
  (values[n]?).getD (values.getLast?.getD [])

def provider (name : Text) (values : List Text) : Provider Rehearsal := fun r =>
  let n := (r.used.get? name).getD 0
  (answer values n,
    { calls := r.calls ++ [.computed name], used := r.used.set name (n + 1) })

def handler : Handler Rehearsal := fun name allowed value r =>
  { r with calls := r.calls ++ [.reported name allowed value] }

end Rehearsal

end PageBoot.Binding
