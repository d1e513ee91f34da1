import Mathlib.Data.List.Nodup
import PageBoot.Bridge.ObjectTable

/-!
How the parts of the table of objects belong together. `Coherent` ties the entries, the dead ids
and the index to one another; allocation, release and closing keep it. What each of them does to
the table is said once, by what stands under every id afterwards.
-/

namespace PageBoot.Bridge

/-! ## The index -/

namespace Index

theorem get?_erase (ix : Index) (v w : Value) :
    (ix.erase v).get? w = if v.same w then none else ix.get? w := by
  induction ix with
  | nil => simp [erase, get?]
  | cons e ix ih =>
    simp only [erase, get?, List.filter_cons, List.find?_cons] at ih ⊢
    cases hv : e.1.same v <;> cases hw : e.1.same w
    · simpa [hw] using ih
    · have hne : v.same w = false := by
        by_contra h
        rw [Bool.not_eq_false, Value.same_comm] at h
        simp [Value.same_trans hw h] at hv
      simp [hw, hne]
    · simpa using ih
    · have hs : v.same w = true := Value.same_trans (Value.same_comm v e.1 ▸ hv) hw
      simpa [hs] using ih

theorem get?_set (ix : Index) (v w : Value) (id : Nat) :
    (ix.set v id).get? w = if v.same w then some id else ix.get? w := by
  have he := get?_erase ix v w
  simp only [set, get?, List.find?_cons] at he ⊢
  cases h : v.same w
  · simpa [h] using he
  · simp

end Index

namespace ObjectTable

/-! ## Entries -/

theorem slot?_of_nil {t : ObjectTable} (h : t.entries = []) (id : Int) : t.slot? id = none := by
  simp [slot?, h]

theorem slot?_eq_some {t : ObjectTable} {id : Int} {e : Entry} :
    t.slot? id = some e ↔ 1 ≤ id ∧ t.entries[id.toNat - 1]? = some (some e) := by
  unfold slot?
  split
  · simp; omega
  · simp [Option.join_eq_some_iff]; omega

theorem slot?_set {t u : ObjectTable} {k : Nat} {e : Option Entry} (hk : 1 ≤ k)
    (hlen : k ≤ t.entries.length) (hu : u.entries = t.entries.set (k - 1) e) (id : Int) :
    u.slot? id = if id = k then e else t.slot? id := by
  unfold slot?
  rw [hu]
  by_cases hid : id < 1
  · have hne : id ≠ k := by omega
    simp [hid, hne]
  · rw [if_neg hid, if_neg hid, List.getElem?_set]
    by_cases hne : id = k
    · have hlt : k - 1 < t.entries.length := by omega
      simp [hne, hlt]
    · have hplace : ¬ k - 1 = id.toNat - 1 := by omega
      simp [hne, hplace]

theorem slot?_append {t u : ObjectTable} {e : Entry} (hu : u.entries = t.entries ++ [some e])
    (id : Int) :
    u.slot? id = if id = (t.entries.length + 1 : Nat) then some e else t.slot? id := by
  unfold slot?
  rw [hu]
  by_cases hid : id < 1
  · have hne : id ≠ (t.entries.length + 1 : Nat) := by omega
    simp only [hid, hne, if_true, if_false]
  · rw [if_neg hid, if_neg hid, List.getElem?_append]
    split
    · have hne : id ≠ (t.entries.length + 1 : Nat) := by omega
      rw [if_neg hne]
    · by_cases hne : id = (t.entries.length + 1 : Nat)
      · simp [hne]
      · have hout : t.entries.length ≤ id.toNat - 1 := by omega
        have hpast : [some e].length ≤ id.toNat - 1 - t.entries.length := by simp; omega
        rw [if_neg hne, List.getElem?_eq_none hpast, List.getElem?_eq_none hout]

/-! ## How the parts of a table belong together -/

/-- The dead ids are exactly the vacant places, each once, and the index finds exactly the values
that were entered in it and still live. A closed table has no ids at all. -/
structure Coherent (t : ObjectTable) : Prop where
  freed_nodup : t.freed.Nodup
  mem_freed : ∀ id : Nat, id ∈ t.freed ↔ 1 ≤ id ∧ t.entries[id - 1]? = some none
  keyed : ∀ (id : Int) (e : Entry), t.slot? id = some e → e.keyed = e.value.comparable
  ids : ∀ (v : Value) (id : Nat), t.ids.get? v = some id ↔
    ∃ e, t.slot? id = some e ∧ e.keyed = true ∧ e.value.same v = true
  closed : t.closed = true → t.entries = []

theorem coherent_empty : empty.Coherent where
  freed_nodup := List.nodup_nil
  mem_freed id := by simp [empty]
  keyed id e h := by simp [empty, slot?] at h
  ids v id := by simp [empty, slot?, Index.get?]
  closed h := by cases h

theorem Coherent.bounded_of_mem_freed {t : ObjectTable} (ht : t.Coherent) {id : Nat}
    (h : id ∈ t.freed) : 1 ≤ id ∧ id ≤ t.entries.length := by
  obtain ⟨hpos, hplace⟩ := (ht.mem_freed id).mp h
  obtain ⟨hlt, -⟩ := List.getElem?_eq_some_iff.mp hplace
  omega

/-- The index knows a value exactly if an equal one is live. -/
theorem Coherent.idOf?_eq_some {t : ObjectTable} (ht : t.Coherent) {v : Value} {id : Nat} :
    t.idOf? v = some id ↔ ∃ w, t.live? id = some w ∧ w.same v = true := by
  have hids := ht.ids v id
  constructor
  · intro h
    unfold idOf? at h
    split at h
    · obtain ⟨e, he, -, hs⟩ := hids.mp h
      exact ⟨e.value, by simp [live?, he], hs⟩
    · cases h
  · rintro ⟨w, hw, hs⟩
    obtain ⟨e, he, rfl⟩ := Option.map_eq_some_iff.mp hw
    have hcv : v.comparable = true := Value.comparable_of_same (Value.same_comm _ _ ▸ hs)
    have hce : e.keyed = true := by rw [ht.keyed _ _ he]; exact Value.comparable_of_same hs
    simp only [idOf?, hcv, if_true]
    exact hids.mpr ⟨e, he, hce, hs⟩

/-! ## Allocation -/

theorem allocate_closed (t : ObjectTable) (v : Value) : (t.allocate v).2.closed = t.closed := by
  unfold allocate
  split <;> rfl

theorem allocate_ids (t : ObjectTable) (v : Value) :
    (t.allocate v).2.ids =
      if v.comparable then t.ids.set v (t.allocate v).1 else t.ids := by
  unfold allocate
  split <;> rfl

/-- Allocation takes a dead id or the next new one, and changes nothing under any other id. -/
theorem Coherent.slot?_allocate {t : ObjectTable} (ht : t.Coherent) (v : Value) (id : Int) :
    (t.allocate v).2.slot? id =
      if id = (t.allocate v).1 then some ⟨v, v.comparable⟩ else t.slot? id := by
  cases hf : t.freed with
  | nil =>
    have hid : (t.allocate v).1 = t.entries.length + 1 := by simp [allocate, hf]
    rw [hid]
    exact slot?_append (by simp [allocate, hf]) id
  | cons k freed =>
    have hdead : k ∈ t.freed := by simp [hf]
    have hk := ht.bounded_of_mem_freed hdead
    have hid : (t.allocate v).1 = k := by simp [allocate, hf]
    rw [hid]
    exact slot?_set hk.1 hk.2 (by simp [allocate, hf]) id

/-- The id that allocation takes is a proper one and was not live. -/
theorem Coherent.allocate_fresh {t : ObjectTable} (ht : t.Coherent) (v : Value) :
    1 ≤ (t.allocate v).1 ∧ t.slot? (t.allocate v).1 = none := by
  cases hf : t.freed with
  | nil =>
    have hid : (t.allocate v).1 = t.entries.length + 1 := by simp [allocate, hf]
    simp [hid, slot?]
  | cons k freed =>
    have hk := (ht.mem_freed k).mp (by simp [hf])
    have hid : (t.allocate v).1 = k := by simp [allocate, hf]
    have hslot : ∀ e, t.slot? k ≠ some e := by
      intro e he
      have := (slot?_eq_some.mp he).2
      simp [hk.2] at this
    exact ⟨hid ▸ hk.1, hid ▸ Option.eq_none_iff_forall_ne_some.mpr hslot⟩

theorem Coherent.mem_freed_allocate {t : ObjectTable} (ht : t.Coherent) (v : Value) (id : Nat) :
    id ∈ (t.allocate v).2.freed ↔
      1 ≤ id ∧ (t.allocate v).2.entries[id - 1]? = some none := by
  have hmem := ht.mem_freed id
  cases hf : t.freed with
  | nil =>
    rw [hf] at hmem
    simp only [List.not_mem_nil, false_iff] at hmem
    simp only [allocate, hf, List.not_mem_nil, false_iff, List.getElem?_append]
    split
    · exact hmem
    · intro h
      rw [List.getElem?_singleton] at h
      split at h <;> simp at h
  | cons k freed =>
    have hdead : k ∈ t.freed := by simp [hf]
    have hk := ht.bounded_of_mem_freed hdead
    have hnd := ht.freed_nodup
    rw [hf, List.nodup_cons] at hnd
    rw [hf, List.mem_cons] at hmem
    simp only [allocate, hf, List.getElem?_set]
    by_cases hid : id = k
    · have hlt : k - 1 < t.entries.length := by omega
      subst hid
      simp [hnd.1, hlt]
    · by_cases hpos : 1 ≤ id
      · have hplace : ¬ k - 1 = id - 1 := by omega
        simpa [hid, hplace] using hmem
      · simp only [hid, false_or, hpos, false_and, iff_false] at hmem
        simp [hmem, hpos]

/-- The index finds the new value under the new id, and all others where they were. -/
theorem Coherent.ids_allocate {t : ObjectTable} (ht : t.Coherent) {v : Value}
    (hmiss : t.idOf? v = none) (w : Value) (id : Nat) :
    (t.allocate v).2.ids.get? w = some id ↔
      ∃ e, (t.allocate v).2.slot? id = some e ∧ e.keyed = true ∧ e.value.same w = true := by
  have hold := ht.ids w id
  have hfresh := (ht.allocate_fresh v).2
  rw [allocate_ids, ht.slot?_allocate v]
  by_cases hid : id = (t.allocate v).1
  · -- the new id: nothing was found under it before
    rw [← hid] at hfresh
    simp only [hfresh, reduceCtorEq, false_and, exists_false, iff_false] at hold
    cases hc : v.comparable <;> cases hs : v.same w <;> simp [Index.get?_set, hid, hs, hid ▸ hold]
  · have hne : ((id : Nat) : Int) ≠ (t.allocate v).1 := by exact_mod_cast hid
    rw [if_neg hne, ← hold]
    split
    · rw [Index.get?_set]
      split
      · -- a live value equal to `w` would be equal to `v`, and `v` was not found
        rename_i hs
        have hno : t.ids.get? w ≠ some id := by
          intro h
          obtain ⟨e, he, hk, hew⟩ := hold.mp h
          have hev : e.value.same v = true := Value.same_trans hew (Value.same_comm v w ▸ hs)
          have hfound : t.idOf? v = some id :=
            ht.idOf?_eq_some.mpr ⟨e.value, by simp [live?, he], hev⟩
          simp [hmiss] at hfound
        simp only [Option.some.injEq, hno, iff_false]
        exact fun h => hid h.symm
      · exact Iff.rfl
    · exact Iff.rfl

theorem Coherent.allocate {t : ObjectTable} (ht : t.Coherent) {v : Value}
    (hopen : t.closed = false) (hmiss : t.idOf? v = none) : (t.allocate v).2.Coherent where
  freed_nodup := by
    have hnd := ht.freed_nodup
    cases hf : t.freed with
    | nil => simp [ObjectTable.allocate, hf]
    | cons k freed =>
      rw [hf] at hnd
      simpa [ObjectTable.allocate, hf] using (List.nodup_cons.mp hnd).2
  mem_freed := ht.mem_freed_allocate v
  keyed id e h := by
    rw [ht.slot?_allocate v] at h
    split at h
    · cases h
      rfl
    · exact ht.keyed id e h
  ids := ht.ids_allocate hmiss
  closed h := by
    rw [allocate_closed, hopen] at h
    cases h

/-! ## Release -/

theorem free_of_vacant {t : ObjectTable} {k : Int} (h : t.slot? k = none) :
    t.free k = (none, t) := by
  simp [free, h]

theorem slot?_free (t : ObjectTable) (k id : Int) :
    (t.free k).2.slot? id = if id = k then none else t.slot? id := by
  cases hk : t.slot? k with
  | none =>
    rw [free_of_vacant hk]
    by_cases h : id = k
    · simp [h, hk]
    · simp [h]
  | some e =>
    obtain ⟨hpos, hplace⟩ := slot?_eq_some.mp hk
    obtain ⟨hlt, -⟩ := List.getElem?_eq_some_iff.mp hplace
    have hcast : k = (k.toNat : Int) := by omega
    rw [hcast]
    exact slot?_set (t := t) (by omega) (by omega) (by rw [← hcast]; simp [free, hk]) id

theorem Coherent.mem_freed_free {t : ObjectTable} (ht : t.Coherent) {k : Int} {e : Entry}
    (hk : t.slot? k = some e) (id : Nat) :
    id ∈ (t.free k).2.freed ↔ 1 ≤ id ∧ (t.free k).2.entries[id - 1]? = some none := by
  obtain ⟨hpos, hplace⟩ := slot?_eq_some.mp hk
  obtain ⟨hlt, -⟩ := List.getElem?_eq_some_iff.mp hplace
  have hmem := ht.mem_freed id
  simp only [free, hk, List.mem_cons, List.getElem?_set]
  by_cases hid : id = k.toNat
  · subst hid
    have hone : 1 ≤ k.toNat := by omega
    simp [hlt, hone]
  · by_cases hone : 1 ≤ id
    · have hne : ¬ k.toNat - 1 = id - 1 := by omega
      simpa [hid, hne] using hmem
    · simp only [hone, false_and, iff_false] at hmem
      simp [hid, hmem, hone]

/-- The index no longer finds the dropped value, and all others where they were. -/
theorem Coherent.ids_free {t : ObjectTable} (ht : t.Coherent) {k : Int} {e : Entry}
    (hk : t.slot? k = some e) (w : Value) (id : Nat) :
    (t.free k).2.ids.get? w = some id ↔
      ∃ e, (t.free k).2.slot? id = some e ∧ e.keyed = true ∧ e.value.same w = true := by
  have hold := ht.ids w id
  have hids : (t.free k).2.ids = if e.keyed then t.ids.erase e.value else t.ids := by
    simp [free, hk]
  rw [hids, slot?_free]
  by_cases hid : (id : Int) = k
  · -- whatever was found under the dropped id is erased
    rw [hid, hk] at hold
    simp only [hid, if_true, reduceCtorEq, false_and, exists_false, iff_false]
    split
    · rename_i hkey
      rw [Index.get?_erase]
      split
      · exact nofun
      · rename_i hs
        simpa [hkey, hs] using hold
    · rename_i hkey
      simpa [hkey] using hold
  · rw [if_neg hid, ← hold]
    split
    · rename_i hkey
      rw [Index.get?_erase]
      split
      · -- a value equal to the dropped one was found under the dropped id only
        rename_i hs
        have hcast : (k.toNat : Int) = k := by
          have hpos := (slot?_eq_some.mp hk).1
          omega
        have hfound := (ht.ids w k.toNat).mpr ⟨e, by rw [hcast]; exact hk, hkey, hs⟩
        simp only [hfound, Option.some.injEq, reduceCtorEq, false_iff]
        omega
      · exact Iff.rfl
    · exact Iff.rfl

theorem Coherent.free {t : ObjectTable} (ht : t.Coherent) (k : Int) : (t.free k).2.Coherent := by
  cases hk : t.slot? k with
  | none =>
    rw [free_of_vacant hk]
    exact ht
  | some e =>
    have hplace := (slot?_eq_some.mp hk).2
    constructor
    case freed_nodup =>
      have hlive : k.toNat ∉ t.freed := by
        rw [ht.mem_freed, hplace]
        simp
      simpa [ObjectTable.free, hk] using ⟨hlive, ht.freed_nodup⟩
    case mem_freed => exact ht.mem_freed_free hk
    case keyed =>
      intro id e' h
      rw [slot?_free] at h
      split at h
      · cases h
      · exact ht.keyed id e' h
    case ids => exact ht.ids_free hk
    case closed =>
      intro h
      have hclosed : t.closed = true := by simpa [ObjectTable.free, hk] using h
      simp [ht.closed hclosed] at hplace

/-! ## Closing -/

/-- However it came to be closed, a closed table is always the same. -/
theorem Coherent.close_eq {t : ObjectTable} (ht : t.Coherent) :
    t.close.2.entries = [] ∧ t.close.2.freed = [] ∧ t.close.2.closed = true := by
  unfold ObjectTable.close
  split
  · rename_i h
    have hnil := ht.closed h
    refine ⟨hnil, ?_, h⟩
    rw [List.eq_nil_iff_forall_not_mem]
    intro id hid
    have := (ht.mem_freed id).mp hid
    simp [hnil] at this
  · exact ⟨rfl, rfl, rfl⟩

theorem Coherent.close {t : ObjectTable} (ht : t.Coherent) : t.close.2.Coherent := by
  unfold ObjectTable.close
  split
  · exact ht
  · exact { coherent_empty with closed := fun _ => rfl }

/-- Closing hands back exactly the values that were live. -/
theorem Coherent.mem_close {t : ObjectTable} (ht : t.Coherent) (v : Value) :
    v ∈ t.close.1 ↔ ∃ id, t.live? id = some v := by
  have hlive : v ∈ t.entries.filterMap (·.map (·.value)) ↔ ∃ id, t.live? id = some v := by
    simp only [List.mem_filterMap, live?, Option.map_eq_some_iff, slot?_eq_some]
    constructor
    · rintro ⟨_, hmem, e, rfl, rfl⟩
      obtain ⟨i, hi⟩ := List.mem_iff_getElem?.mp hmem
      exact ⟨i + 1, e, ⟨by omega, by simpa using hi⟩, rfl⟩
    · rintro ⟨id, e, ⟨-, hplace⟩, rfl⟩
      exact ⟨some e, List.mem_of_getElem? hplace, e, rfl, rfl⟩
  rw [← hlive]
  unfold ObjectTable.close
  split
  · rename_i h
    simp [ht.closed h]
  · exact Iff.rfl

end ObjectTable

end PageBoot.Bridge
