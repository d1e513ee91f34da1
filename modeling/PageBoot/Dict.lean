import PageBoot.Text.Basic

/-!
Finite maps from texts: a list of entries with distinct keys, in the order the keys were first
set.
-/

namespace PageBoot

abbrev Dict (α : Type) := List (Text × α)

namespace Dict

variable {α : Type}

def get? (d : Dict α) (k : Text) : Option α := (d.find? (·.1 == k)).map (·.2)

def contains (d : Dict α) (k : Text) : Bool := (d.get? k).isSome

/-- Sets the value of a key, in place when the key is there and at the end otherwise. -/
def set : Dict α → Text → α → Dict α
  | [], k, v => [(k, v)]
  | (k', v') :: d, k, v => if k' = k then (k, v) :: d else (k', v') :: set d k v

theorem get?_set (d : Dict α) (j k : Text) (v : α) :
    (d.set k v).get? j = if k = j then some v else d.get? j := by
  induction d with
  | nil => by_cases h : k = j <;> simp [set, get?, h]
  | cons e d ih =>
    obtain ⟨k', v'⟩ := e
    simp only [get?] at ih
    by_cases hk : k' = k
    · subst hk
      by_cases hj : k' = j <;> simp [set, get?, hj]
    · by_cases hj : k' = j
      · subst hj
        simp [set, get?, hk, Ne.symm hk]
      · simp [set, get?, hk, hj, ih]

def erase (d : Dict α) (k : Text) : Dict α := d.filter (·.1 != k)

def keys (d : Dict α) : List Text := d.map (·.1)

/-- Sets every entry of `changes`, later ones last. -/
def override (d changes : Dict α) : Dict α := changes.foldl (fun d (k, v) => d.set k v) d

/-- Entries in byte order of their keys. -/
def sorted (d : Dict α) : Dict α := d.mergeSort fun a b => Text.le a.1 b.1

end Dict

end PageBoot
