import PageBoot.Failure

/-!
How work ends that may crash: with an answer, with a failure, or in a crash that the caller has to
catch.
-/

namespace PageBoot

theorem bind_eq_ok {ε α β : Type} {x : Except ε α} {f : α → Except ε β} {b : β} :
    x >>= f = .ok b ↔ ∃ a, x = .ok a ∧ f a = .ok b := by
  cases x <;> simp [bind, Except.bind]

theorem mapError_eq_ok {ε ε' α : Type} {x : Except ε α} {f : ε → ε'} {a : α} :
    x.mapError f = .ok a ↔ x = .ok a := by
  cases x with
  | error e => exact ⟨nofun, nofun⟩
  | ok b =>
    constructor <;> intro h <;> cases h <;> rfl

inductive Reply (α : Type) where
  | answer (a : α)
  | failure (f : Failure)
  | crash (text : Text)

namespace Reply

variable {α β : Type}

def map (f : α → β) : Reply α → Reply β
  | .answer a => .answer (f a)
  | .failure e => .failure e
  | .crash t => .crash t

def ofExcept : Except Failure α → Reply α
  | .ok a => .answer a
  | .error f => .failure f

/-- Goes on with the answer, if there is one. -/
def bind (r : Reply α) (f : α → Reply β) : Reply β :=
  match r with
  | .answer a => f a
  | .failure e => .failure e
  | .crash t => .crash t

instance : Monad Reply where
  pure := .answer
  bind := bind

instance : MonadLift (Except Failure) Reply where
  monadLift := ofExcept

end Reply

end PageBoot
