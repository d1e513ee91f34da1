import Mathlib.Data.Finmap
import PageBoot.Proofs.Bridge.Coherence

/-!
The table of objects is a finite map. A `Ledger` is the map that a table stands for, read off the
calls and their answers alone. `transcript_conforms` says that every answer of a table is right by
its ledger, whatever the calls.
-/

namespace PageBoot.Bridge

namespace ObjectTable

/-! ## Calls and answers -/

inductive Call where
  | put (v : Value)
  | get (id : Int)
  | free (id : Int)
  | len
  | close

inductive Answer where
  | given (id : Int)
  | refused (f : Failure)
  | value (v : Option Value)
  | count (n : Nat)
  /-- The values that were still live. -/
  | closed (vs : List Value)

def answer (t : ObjectTable) : Call → Answer × ObjectTable
  | .put v =>
    match t.put v with
    | .ok (id, u) => (.given id, u)
    | .error f => (.refused f, t)
  | .get id => (.value (t.live? id), t)
  | .free id => (.value (t.free id).1, (t.free id).2)
  | .len => (.count t.size, t)
  | .close => (.closed t.close.1, t.close.2)

/-- The calls of a run with the answers they get. -/
def transcript : ObjectTable → List Call → List (Call × Answer)
  | _, [] => []
  | t, c :: cs => (c, (t.answer c).1) :: (t.answer c).2.transcript cs

end ObjectTable

open ObjectTable (Call Answer)

/-! ## Ledgers -/

/-- The live ids with their values, and whether the table was closed. -/
structure Ledger where
  live : Finmap fun _ : Int => Value
  closed : Bool

namespace Ledger

def empty : Ledger := ⟨∅, false⟩

/-- A value equal to `v` is live under `id`. Only comparable values that are equal to themselves
are equal to anything. -/
def Knows (l : Ledger) (v : Value) (id : Int) : Prop :=
  ∃ w, l.live.lookup id = some w ∧ w.same v = true

/-- The right answers. -/
def Allows (l : Ledger) : Call → Answer → Prop
  | .put .null, a => a = .refused (.invalidInput .invoke "cannot reference a nil object")
  | .put v, a =>
    if l.closed then a = .refused (.invalidState .invoke "closed" "put")
    else ∃ id : Int, a = .given id ∧ 1 ≤ id ∧
      (l.Knows v id ∨ (∀ k, ¬ l.Knows v k) ∧ id ∉ l.live)
  | .get id, a => a = .value (l.live.lookup id)
  | .free id, a => a = .value (l.live.lookup id)
  | .len, a => a = .count l.live.keys.card
  | .close, a => ∃ vs, a = .closed vs ∧ ∀ v, v ∈ vs ↔ ∃ id, l.live.lookup id = some v

/-- The ledger after a call: a value that was given an id not live before is now live under it, a
freed id is live no more, and closing ends all. -/
def after (l : Ledger) : Call → Answer → Ledger
  | .put v, .given id =>
    match l.live.lookup id with
    | some _ => l
    | none => { l with live := l.live.insert id v }
  | .free id, _ => { l with live := l.live.erase id }
  | .close, _ => ⟨∅, true⟩
  | _, _ => l

/-- Every answer is right by the ledger that the calls before it leave. -/
def Conforms : Ledger → List (Call × Answer) → Prop
  | _, [] => True
  | l, (c, a) :: rest => l.Allows c a ∧ (l.after c a).Conforms rest

end Ledger

namespace ObjectTable

/-! ## Tables and their ledgers -/

/-- The table `t` is in order and stands for the map `l`. -/
structure Mirrors (t : ObjectTable) (l : Ledger) : Prop where
  coherent : t.Coherent
  lookup : ∀ id, l.live.lookup id = t.live? id
  card : l.live.keys.card + t.freed.length = t.entries.length
  closed : l.closed = t.closed

theorem mirrors_empty : empty.Mirrors .empty where
  coherent := coherent_empty
  lookup id := by simp [Ledger.empty, live?, slot?_of_nil (t := empty) rfl]
  card := rfl
  closed := rfl

theorem put_of_closed {t : ObjectTable} {v : Value} (hv : v ≠ .null) (h : t.closed = true) :
    t.put v = .error (.invalidState .invoke "closed" "put") := by
  unfold put
  split
  · exact absurd rfl hv
  · simp [h]

theorem put_of_open {t : ObjectTable} {v : Value} (hv : v ≠ .null) (h : t.closed = false) :
    t.put v = .ok (match t.idOf? v with
      | some id => (id, t)
      | none => t.allocate v) := by
  unfold put
  split
  · exact absurd rfl hv
  · cases t.idOf? v <;> simp [h]

theorem Mirrors.knows_iff {t : ObjectTable} {l : Ledger} (h : t.Mirrors l) {v : Value} {id : Int} :
    l.Knows v id ↔ ∃ k : Nat, id = k ∧ t.idOf? v = some k := by
  unfold Ledger.Knows
  rw [h.lookup]
  constructor
  · rintro ⟨w, hw, hs⟩
    obtain ⟨e, he, -⟩ := Option.map_eq_some_iff.mp hw
    have hpos := (slot?_eq_some.mp he).1
    have hcast : id = (id.toNat : Int) := by omega
    exact ⟨id.toNat, hcast, h.coherent.idOf?_eq_some.mpr ⟨w, hcast ▸ hw, hs⟩⟩
  · rintro ⟨k, rfl, hk⟩
    exact h.coherent.idOf?_eq_some.mp hk

theorem Mirrors.allocate {t : ObjectTable} {l : Ledger} (h : t.Mirrors l) {v : Value}
    (hopen : t.closed = false) (hmiss : t.idOf? v = none) :
    (t.allocate v).2.Mirrors { l with live := l.live.insert (t.allocate v).1 v } where
  coherent := h.coherent.allocate hopen hmiss
  lookup id := by
    unfold live?
    rw [h.coherent.slot?_allocate v]
    split
    · rename_i hid
      rw [hid, Finmap.lookup_insert]
      rfl
    · rename_i hid
      rw [Finmap.lookup_insert_of_ne _ hid, h.lookup]
      rfl
  card := by
    have hnew : ((t.allocate v).1 : Int) ∉ l.live.keys := by
      rw [Finmap.mem_keys, ← Finmap.lookup_eq_none, h.lookup]
      simp [live?, (h.coherent.allocate_fresh v).2]
    have hkeys : (l.live.insert ((t.allocate v).1 : Int) v).keys =
        insert ((t.allocate v).1 : Int) l.live.keys := by
      ext id
      simp [Finmap.mem_keys, Finmap.mem_insert]
    have hcard := h.card
    rw [hkeys, Finset.card_insert_of_notMem hnew]
    cases hf : t.freed with
    | nil => simp [ObjectTable.allocate, hf] at hcard ⊢; omega
    | cons k freed => simp [ObjectTable.allocate, hf] at hcard ⊢; omega
  closed := h.closed.trans (allocate_closed t v).symm

theorem Mirrors.free {t : ObjectTable} {l : Ledger} (h : t.Mirrors l) (k : Int) :
    (t.free k).2.Mirrors { l with live := l.live.erase k } where
  coherent := h.coherent.free k
  lookup id := by
    unfold live?
    rw [slot?_free]
    split
    · rename_i hid
      rw [hid, Finmap.lookup_erase]
      rfl
    · rename_i hid
      rw [Finmap.lookup_erase_ne hid, h.lookup]
      rfl
  card := by
    have hcard := h.card
    cases hk : t.slot? k with
    | none =>
      have hdead : k ∉ l.live.keys := by
        rw [Finmap.mem_keys, ← Finmap.lookup_eq_none, h.lookup]
        simp [live?, hk]
      rw [Finmap.keys_erase, Finset.erase_eq_of_notMem hdead, free_of_vacant hk]
      exact hcard
    | some e =>
      have hlive : k ∈ l.live.keys := by
        rw [Finmap.mem_keys, ← Finmap.lookup_isSome, h.lookup]
        simp [live?, hk]
      have hpos := Finset.card_pos.mpr ⟨k, hlive⟩
      rw [Finmap.keys_erase, Finset.card_erase_of_mem hlive]
      simp only [ObjectTable.free, hk, List.length_cons, List.length_set]
      omega
  closed := by
    rw [h.closed]
    unfold ObjectTable.free
    split <;> rfl

theorem Mirrors.close {t : ObjectTable} {l : Ledger} (h : t.Mirrors l) :
    t.close.2.Mirrors ⟨∅, true⟩ where
  coherent := h.coherent.close
  lookup id := by simp [live?, slot?_of_nil h.coherent.close_eq.1]
  card := by simp [h.coherent.close_eq]
  closed := h.coherent.close_eq.2.2.symm

/-! ## Every call -/

theorem Mirrors.answer_put {t : ObjectTable} {l : Ledger} (h : t.Mirrors l) (v : Value) :
    l.Allows (.put v) (t.answer (.put v)).1 ∧
      (t.answer (.put v)).2.Mirrors (l.after (.put v) (t.answer (.put v)).1) := by
  by_cases hv : v = .null
  · subst hv
    exact ⟨rfl, h⟩
  have hallows : ∀ a, l.Allows (.put v) a ↔
      if l.closed then a = .refused (.invalidState .invoke "closed" "put")
      else ∃ id : Int, a = .given id ∧ 1 ≤ id ∧
        (l.Knows v id ∨ (∀ k, ¬ l.Knows v k) ∧ id ∉ l.live) := by
    intro a
    cases v with
    | null => exact absurd rfl hv
    | _ => exact Iff.rfl
  rw [hallows, h.closed]
  cases hc : t.closed with
  | true =>
    have hput : t.answer (.put v) = (.refused (.invalidState .invoke "closed" "put"), t) := by
      simp [answer, put_of_closed hv hc]
    rw [hput]
    exact ⟨rfl, h⟩
  | false =>
    cases hid : t.idOf? v with
    | some id =>
      have hput : t.answer (.put v) = (.given id, t) := by
        simp [answer, put_of_open hv hc, hid]
      obtain ⟨w, hw, hs⟩ : l.Knows v id := h.knows_iff.mpr ⟨id, rfl, hid⟩
      obtain ⟨e, he, -⟩ := Option.map_eq_some_iff.mp (h.lookup id ▸ hw)
      rw [hput]
      refine ⟨⟨id, rfl, (slot?_eq_some.mp he).1, .inl ⟨w, hw, hs⟩⟩, ?_⟩
      simpa [Ledger.after, hw] using h
    | none =>
      have hput : t.answer (.put v) = (.given (t.allocate v).1, (t.allocate v).2) := by
        simp [answer, put_of_open hv hc, hid]
      obtain ⟨hpos, hfresh⟩ := h.coherent.allocate_fresh v
      have hdead : l.live.lookup ((t.allocate v).1 : Int) = none := by
        rw [h.lookup]
        simp [live?, hfresh]
      rw [hput]
      refine ⟨⟨_, rfl, by exact_mod_cast hpos, .inr ⟨?_, Finmap.lookup_eq_none.mp hdead⟩⟩, ?_⟩
      · intro k hk
        obtain ⟨n, -, hn⟩ := h.knows_iff.mp hk
        simp [hid] at hn
      · simpa [Ledger.after, hdead] using h.allocate hc hid

/-- One call: the answer is right by the ledger, and the table keeps up with it. -/
theorem Mirrors.answer {t : ObjectTable} {l : Ledger} (h : t.Mirrors l) (c : Call) :
    l.Allows c (t.answer c).1 ∧ (t.answer c).2.Mirrors (l.after c (t.answer c).1) := by
  cases c with
  | put v => exact h.answer_put v
  | get id => exact ⟨congrArg Answer.value (h.lookup id).symm, h⟩
  | free id =>
    refine ⟨congrArg Answer.value ?_, h.free id⟩
    rw [h.lookup, live?]
    unfold ObjectTable.free
    split <;> simp_all
  | len =>
    refine ⟨congrArg Answer.count ?_, h⟩
    have hcard := h.card
    unfold size
    omega
  | close =>
    refine ⟨⟨_, rfl, fun v => ?_⟩, h.close⟩
    simp only [h.coherent.mem_close, h.lookup]

theorem Mirrors.conforms {t : ObjectTable} {l : Ledger} (h : t.Mirrors l) (calls : List Call) :
    l.Conforms (t.transcript calls) := by
  induction calls generalizing t l with
  | nil => trivial
  | cons c calls ih =>
    obtain ⟨hright, hnext⟩ := h.answer c
    exact ⟨hright, ih hnext⟩

/-- **A table of objects is a finite map.** Whatever is asked of a new table, in whatever order,
each answer is right by the map that the earlier calls leave: a value is found under the id it was
given last until that id is freed or the table closed, values equal to a live one share its id,
all others get an id that was not live, and the size is the number of live ids. -/
theorem transcript_conforms (calls : List Call) :
    Ledger.empty.Conforms (empty.transcript calls) :=
  mirrors_empty.conforms calls

end ObjectTable

end PageBoot.Bridge
