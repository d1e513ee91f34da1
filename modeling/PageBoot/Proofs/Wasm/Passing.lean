import PageBoot.Proofs.Bridge.FiniteMap
import PageBoot.Proofs.Wasm.Heap

/-!
How values cross to a guest. Each crosses by an id of the table (`Names`): one that equals a value in
the table by the id that value has, and any other by one of its own, without disturbing those that
have one. The ids of arguments are laid out in the guest's memory one after another
(`Standing.writeIds`).
-/

namespace PageBoot

/-! ## Values and their ids -/

namespace Bridge.ObjectTable

/-- A table that takes values, and whose parts belong together. -/
structure Open (t : ObjectTable) : Prop where
  coherent : t.Coherent
  opened : t.closed = false

/-- `u` is the value `v` itself, or a value equal to it that is live in the table. -/
def Matches (t : ObjectTable) (v u : Value) : Prop :=
  u = v ∨ u.same v = true ∧ ∃ id, t.live? id = some u

/-- No value crosses under zero, and any other under the id of a value that matches it in the table
before, and is live in the table after. -/
def Names (before after : ObjectTable) (v : Value) (id : Nat) : Prop :=
  v = .null ∧ id = 0 ∨
    1 ≤ id ∧ id ≤ after.entries.length ∧ ∃ u, after.live? id = some u ∧ before.Matches v u

/-- Nothing that is live goes away or changes. -/
structure Grows (t t' : ObjectTable) : Prop where
  length : t.entries.length ≤ t'.entries.length
  live : ∀ id u, t.live? id = some u → t'.live? id = some u

theorem Grows.refl (t : ObjectTable) : Grows t t := ⟨Nat.le_refl _, fun _ _ => id⟩

theorem Grows.trans {t t' t'' : ObjectTable} (h : Grows t t') (h' : Grows t' t'') : Grows t t'' :=
  ⟨Nat.le_trans h.length h'.length, fun id u hu => h'.live id u (h.live id u hu)⟩

theorem Names.grows {t t' t'' : ObjectTable} {v : Value} {id : Nat} (h : Names t t' v id)
    (hgrows : Grows t' t'') : Names t t'' v id := by
  rcases h with hnull | ⟨hpos, hle, u, hlive, hmatches⟩
  · exact .inl hnull
  · exact .inr ⟨hpos, Nat.le_trans hle hgrows.length, u, hgrows.live _ _ hlive, hmatches⟩

theorem le_length_of_live {t : ObjectTable} {id : Nat} {u : Value} (h : t.live? id = some u) :
    1 ≤ id ∧ id ≤ t.entries.length := by
  obtain ⟨e, hslot, -⟩ := Option.map_eq_some_iff.mp h
  obtain ⟨hpos, hentry⟩ := slot?_eq_some.mp hslot
  obtain ⟨hlt, -⟩ := List.getElem?_eq_some_iff.mp hentry
  omega

theorem Coherent.live?_allocate {t : ObjectTable} (ht : t.Coherent) (v : Value) (id : Int) :
    (t.allocate v).2.live? id = if id = (t.allocate v).1 then some v else t.live? id := by
  simp only [live?, ht.slot?_allocate v id]
  split <;> rfl

theorem length_allocate (t : ObjectTable) (v : Value) :
    t.entries.length ≤ (t.allocate v).2.entries.length := by
  unfold allocate
  split <;> simp

/-- A value that is entered gets an id of its own. -/
theorem Open.allocate {t : ObjectTable} (ht : t.Open) {v : Value} (hmiss : t.idOf? v = none) :
    (t.allocate v).2.Open ∧ Grows t (t.allocate v).2 ∧
      Names t (t.allocate v).2 v (t.allocate v).1 := by
  obtain ⟨hpos, hfresh⟩ := ht.coherent.allocate_fresh v
  have hlive := ht.coherent.live?_allocate v
  have hnew : (t.allocate v).2.live? (t.allocate v).1 = some v := by rw [hlive, if_pos rfl]
  have hopen : (t.allocate v).2.closed = false := by rw [allocate_closed, ht.opened]
  refine ⟨⟨ht.coherent.allocate ht.opened hmiss, hopen⟩, ⟨length_allocate t v, fun id u hu => ?_⟩,
    .inr ⟨hpos, (le_length_of_live hnew).2, v, hnew, .inl rfl⟩⟩
  have hne : id ≠ (t.allocate v).1 := by
    rintro rfl
    simp [live?, hfresh] at hu
  rw [hlive, if_neg hne, hu]

end Bridge.ObjectTable

namespace Wasm.Plugin

open Bridge
open Bridge.ObjectTable

/-- A value is entered, if there is none in the table that equals it. -/
theorem reference_open {t : ObjectTable} (ht : t.Open) (v : Value) :
    ∃ id t', reference t v = .ok (id, t') ∧ t'.Open ∧ Grows t t' ∧ Names t t' v id ∧
      ∀ k u, t'.live? k = some u → u = v ∨ t.live? k = some u := by
  by_cases hv : v = .null
  · subst hv
    exact ⟨0, t, rfl, ht, .refl t, .inl ⟨rfl, rfl⟩, fun _ _ h => .inr h⟩
  · have hreference : reference t v = t.put v := by
      cases v with
      | null => exact absurd rfl hv
      | _ => rfl
    rw [hreference, put_of_open hv ht.opened]
    cases hid : t.idOf? v with
    | some id =>
      obtain ⟨u, hlive, hsame⟩ := ht.coherent.idOf?_eq_some.mp hid
      obtain ⟨hpos, hle⟩ := le_length_of_live hlive
      exact ⟨id, t, rfl, ht, .refl t, .inr ⟨hpos, hle, u, hlive, .inr ⟨hsame, id, hlive⟩⟩,
        fun _ _ h => .inr h⟩
    | none =>
      obtain ⟨hopen, hgrows, hnames⟩ := ht.allocate hid
      refine ⟨(t.allocate v).1, (t.allocate v).2, rfl, hopen, hgrows, hnames, fun k u hk => ?_⟩
      rw [ht.coherent.live?_allocate] at hk
      split at hk
      · cases hk
        exact .inl rfl
      · exact .inr hk

/-- Values are entered one after another; what was entered first is still there at the end. -/
theorem references_open {t : ObjectTable} (ht : t.Open) (vs : List Value) :
    ∃ ids t', references t vs = (.ok ids, t') ∧ t'.Open ∧ Grows t t' ∧
      ∀ v ∈ vs.head?, ∃ id, ids.head? = some id ∧ Names t t' v id := by
  induction vs generalizing t with
  | nil => exact ⟨[], t, rfl, ht, .refl t, by simp⟩
  | cons v vs ih =>
    obtain ⟨id, t₁, hreference, hopen, hgrows, hnames, -⟩ := reference_open ht v
    obtain ⟨ids, t₂, hrest, hlast, hgrows', -⟩ := ih hopen
    refine ⟨id :: ids, t₂, by simp only [references, hreference, hrest]; rfl, hlast,
      hgrows.trans hgrows', fun w hw => ?_⟩
    obtain rfl : v = w := by simpa using hw
    exact ⟨id, rfl, hnames.grows hgrows'⟩

end Wasm.Plugin

/-! ## Ids in memory -/

namespace Wasm

namespace Memory

theorem length_bytes32 (n : Nat) : (bytes32 n).length = 4 := rfl

/-- The four bytes of a number are loaded as that number, in 32 bits. -/
theorem load32?_of_read? {m : Memory} {a n : Nat} (h : m.read? a 4 = some (bytes32 n)) :
    m.load32? a = some (UInt64.ofNat (Plugin.word32 n)) := by
  unfold read? at h
  split at h
  · next hle =>
    have hbytes : [m.byte a, m.byte (a + 1), m.byte (a + 2), m.byte (a + 3)] = bytes32 n :=
      Option.some.inj h
    simp only [bytes32, List.cons.injEq] at hbytes
    obtain ⟨h₀, h₁, h₂, h₃, -⟩ := hbytes
    rw [load32?, if_pos hle, h₀, h₁, h₂, h₃]
    simp only [UInt8.toNat_ofNat', Plugin.word32, UInt32.size]
    congr 2
    omega
  · cases h

end Memory

namespace Guest

variable {b : Behavior} {used : Nat} {m : Memory} {p : Plugin}

/-- Ids are written to the places after `base`, each to its own, and to no other. -/
theorem Standing.writeIds_from (h : Standing b used m p) {base : Nat} (k : Nat) (ids : List Nat)
    (hbase : 1024 ≤ base) (hroom : base + 4 * (k + ids.length) ≤ 1024 + used)
    (hfits : used ≤ 64512) :
    ∃ m', Standing b used m'
        ((ids.zipIdx k).foldl (fun p (r, i) =>
          p.writeMemory (Plugin.word32 (base + 4 * i)) (Memory.bytes32 r)) p) ∧
      Memory.Keeps (base + 4 * k) m m' ∧
      ∀ i (hi : i < ids.length), m'.read? (base + 4 * (k + i)) 4 = some (Memory.bytes32 ids[i]) := by
  induction ids generalizing k m p with
  | nil => exact ⟨m, h, .refl _ _, fun i hi => absurd hi (Nat.not_lt_zero i)⟩
  | cons r ids ih =>
    simp only [List.length_cons] at hroom
    have hword : Plugin.word32 (base + 4 * k) = base + 4 * k := word32_of_lt (by omega)
    have hsize := h.size
    have hone : Standing b used (m.write (base + 4 * k) (Memory.bytes32 r))
        (p.writeMemory (base + 4 * k) (Memory.bytes32 r)) :=
      h.writeMemory (.inr ⟨by omega, by rw [Memory.length_bytes32]; omega⟩)
    obtain ⟨m', hlast, hkeeps, hread⟩ := ih hone (k := k + 1) (by omega)
    have hkept := (Memory.keeps_write m (base + 4 * k) (Memory.bytes32 r)).trans hkeeps (by omega)
    refine ⟨m', by simpa only [List.zipIdx_cons, List.foldl_cons, hword] using hlast, hkept,
      fun i hi => ?_⟩
    cases i with
    | zero =>
      have hwrite := Memory.read?_write (m := m) (a := base + 4 * k) (t := Memory.bytes32 r)
        (by rw [Memory.length_bytes32]; omega)
      exact (hkeeps.read? (by omega)).trans hwrite
    | succ i =>
      have hplace : k + (i + 1) = k + 1 + i := by omega
      simpa only [hplace, List.getElem_cons_succ] using hread i (by simpa using hi)

/-- The first of some ids is loaded from where they were laid out, and zero if there are none. -/
theorem Standing.writeIds (h : Standing b used m p) {before : Nat} (ids : List Nat)
    (hused : used = before + 4 * ids.length) (hfits : Fits before (4 * ids.length)) :
    ∃ m', Standing b used m' (p.writeIds (place before (4 * ids.length)) ids) ∧
      m'.load32? (place before (4 * ids.length)) =
        some (UInt64.ofNat (Plugin.word32 (ids.headD 0))) := by
  cases ids with
  | nil =>
    refine ⟨m, h, ?_⟩
    have hzero : ∀ x, x < 1024 → (m.byte x).toNat = 0 := fun x hx => by
      rw [h.blank x (.inl hx)]
      rfl
    have hle : 0 + 4 ≤ m.size := by
      rw [h.size]
      decide
    show m.load32? 0 = _
    rw [Memory.load32?, if_pos hle, hzero 0 (by decide), hzero (0 + 1) (by decide),
      hzero (0 + 2) (by decide), hzero (0 + 3) (by decide)]
    rfl
  | cons r ids =>
    simp only [List.length_cons] at hused hfits
    have hplace : place before (4 * (r :: ids).length) = 1024 + before := if_neg (by simp)
    have hroom : used ≤ 64512 := by
      unfold Fits at hfits
      omega
    have hbase : 1024 ≤ 1024 + before := Nat.le_add_right _ _
    obtain ⟨m', hlast, -, hread⟩ := h.writeIds_from 0 (r :: ids) hbase
      (by simp only [List.length_cons]; omega) hroom
    rw [hplace]
    exact ⟨m', hlast, Memory.load32?_of_read? (hread 0 (by simp))⟩

end Guest

end Wasm

end PageBoot
