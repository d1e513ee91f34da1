import Mathlib.Data.Finset.Lattice.Fold
import Mathlib.Order.Lattice.Nat
import PageBoot.Proofs.Bridge.References

/-!
Ids are used again before new ones are made. What was given, what is live and what was freed is read off
the calls and their answers alone. The invariant of a run is that the table has one place for each object
of its fullest moment, and that its dead ids are those freed and not given since, the last one first
(`Tallied`). So the largest id is the greatest number of objects that were live at one time
(`ids_reach_peak`).
-/

namespace PageBoot.Bridge

open ObjectTable (Call Answer)

/-! ## What calls and answers tell -/

/-- The ledger after some calls with their answers. -/
def Ledger.through (l : Ledger) (past : List (Call × Answer)) : Ledger :=
  past.foldl (fun l x => l.after x.1 x.2) l

namespace ObjectTable

/-- The id that a value was given. -/
def givenId? : Call × Answer → Option Int
  | (.put _, .given id) => some id
  | _ => none

/-- The largest id given so far, zero if there is none. -/
def highest (past : List (Call × Answer)) : Int := (past.filterMap givenId?).foldl max 0

/-- How many objects are live. -/
def population (past : List (Call × Answer)) : Nat := (Ledger.empty.through past).live.keys.card

/-- The greatest number of objects that were live at one time. -/
def peak (past : List (Call × Answer)) : Nat :=
  (Finset.range (past.length + 1)).sup fun n => population (past.take n)

/-- The ids that were freed and not given since, the one freed last first. -/
def unused (past : List (Call × Answer)) : List Int :=
  past.foldl (fun ids x =>
    match x with
    | (.free id, .value (some _)) => id :: ids
    | (.put _, .given id) => ids.erase id
    | _ => ids) []

section Past

variable (past : List (Call × Answer)) (x : Call × Answer)

theorem through_concat (l : Ledger) : l.through (past ++ [x]) = (l.through past).after x.1 x.2 := by
  simp [Ledger.through]

theorem highest_of_given {c : Call} {a : Answer} {id : Int} (h : givenId? (c, a) = some id) :
    highest (past ++ [(c, a)]) = max (highest past) id := by
  simp [highest, List.filterMap_append, h]

theorem highest_of_silent (h : givenId? x = none) : highest (past ++ [x]) = highest past := by
  simp [highest, List.filterMap_append, h]

theorem peak_concat : peak (past ++ [x]) = max (population (past ++ [x])) (peak past) := by
  unfold peak
  rw [List.length_append, List.length_singleton, Finset.range_add_one, Finset.sup_insert]
  have hall : (past ++ [x]).take (past.length + 1) = past ++ [x] := List.take_of_length_le (by simp)
  rw [hall]
  congr 1
  apply Finset.sup_congr rfl
  intro n hn
  have hshort : n ≤ past.length := by
    have := Finset.mem_range.mp hn
    omega
  rw [List.take_append_of_le_length hshort]

theorem population_le_peak : population past ≤ peak past := by
  have hlast : past.length ∈ Finset.range (past.length + 1) := by simp
  have hle := Finset.le_sup (f := fun n => population (past.take n)) hlast
  rwa [List.take_length] at hle

end Past

/-! ## One call -/

/-- What a call does to the places and the dead ids of a table. -/
inductive Turn (t : ObjectTable) : Call → Answer → ObjectTable → Prop
  | silent {c : Call} {a : Answer} (hgiven : givenId? (c, a) = none)
      (hunused : ∀ past, unused (past ++ [(c, a)]) = unused past) : Turn t c a t
  | known {v w : Value} {id : Nat} (hlive : t.live? id = some w) : Turn t (.put v) (.given id) t
  | reused {v : Value} {k : Nat} {rest : List Nat} {u : ObjectTable} (hfreed : t.freed = k :: rest)
      (hopen : t.closed = false) (hentries : u.entries.length = t.entries.length) (hrest : u.freed = rest) :
      Turn t (.put v) (.given k) u
  | grown {v : Value} {u : ObjectTable} (hfreed : t.freed = []) (hopen : t.closed = false)
      (hentries : u.entries.length = t.entries.length + 1) (hnone : u.freed = []) :
      Turn t (.put v) (.given (t.entries.length + 1 : Nat)) u
  | freed {v : Value} {k : Nat} {u : ObjectTable} (hentries : u.entries.length = t.entries.length)
      (hfreed : u.freed = k :: t.freed) : Turn t (.free k) (.value (some v)) u
  | closed {vs : List Value} {u : ObjectTable} (hclosed : u.closed = true) : Turn t .close (.closed vs) u

theorem turn_put {t : ObjectTable} (ht : t.Coherent) (v : Value) :
    Turn t (.put v) (t.answer (.put v)).1 (t.answer (.put v)).2 := by
  have hrefused (f : Failure) : Turn t (.put v) (.refused f) t :=
    .silent rfl fun past => by simp [unused]
  by_cases hv : v = .null
  · subst hv
    exact hrefused _
  cases hc : t.closed with
  | true =>
    simp only [answer, put_of_closed hv hc]
    exact hrefused _
  | false =>
    simp only [answer, put_of_open hv hc]
    cases hid : t.idOf? v with
    | some id =>
      obtain ⟨w, hw, -⟩ := ht.idOf?_eq_some.mp hid
      exact .known hw
    | none =>
      cases hf : t.freed with
      | nil =>
        have hid : (t.allocate v).1 = t.entries.length + 1 := by simp [allocate, hf]
        rw [hid]
        exact .grown hf hc (by simp [allocate, hf]) (by simp [allocate, hf])
      | cons k rest =>
        have hid : (t.allocate v).1 = k := by simp [allocate, hf]
        rw [hid]
        exact .reused hf hc (by simp [allocate, hf]) (by simp [allocate, hf])

theorem turn_free (t : ObjectTable) (k : Int) :
    Turn t (.free k) (t.answer (.free k)).1 (t.answer (.free k)).2 := by
  cases hk : t.slot? k with
  | none =>
    simp only [answer, free_of_vacant hk]
    exact .silent rfl fun past => by simp [unused]
  | some e =>
    have hcast : k = (k.toNat : Int) := by
      have hpos := (slot?_eq_some.mp hk).1
      omega
    have hvalue : (t.free k).1 = some e.value := by simp [ObjectTable.free, hk]
    have hafter : (t.free k).2.entries.length = t.entries.length ∧
        (t.free k).2.freed = k.toNat :: t.freed := by simp [ObjectTable.free, hk]
    simp only [answer, hvalue]
    rw [hcast] at hafter ⊢
    exact .freed hafter.1 hafter.2

theorem turn_answer {t : ObjectTable} (ht : t.Coherent) (c : Call) :
    Turn t c (t.answer c).1 (t.answer c).2 := by
  cases c with
  | put v => exact turn_put ht v
  | get id => exact .silent rfl fun past => by simp [unused]
  | free k => exact turn_free t k
  | len => exact .silent rfl fun past => by simp [unused]
  | close => exact .closed ht.close_eq.2.2

/-! ## Calls one after another -/

theorem after_concat (t : ObjectTable) (calls : List Call) (c : Call) :
    t.after (calls ++ [c]) = ((t.after calls).answer c).2 := by
  simp [ObjectTable.after, react]

theorem transcript_concat (t : ObjectTable) (calls : List Call) (c : Call) :
    t.transcript (calls ++ [c]) = t.transcript calls ++ [(c, ((t.after calls).answer c).1)] := by
  induction calls generalizing t with
  | nil => rfl
  | cons d calls ih =>
    rw [List.cons_append, transcript, ih, transcript, List.cons_append]
    rfl

/-- The table `t` as the past tells it. While it is open it has a place for each object of the fullest
moment, and its dead ids are those that were freed and not given since. -/
structure Tallied (t : ObjectTable) (past : List (Call × Answer)) : Prop where
  mirrors : t.Mirrors (Ledger.empty.through past)
  tops : highest past = peak past
  places : t.closed = false → peak past = t.entries.length
  spare : t.closed = false → unused past = t.freed.map Int.ofNat

theorem tallied_empty : empty.Tallied [] where
  mirrors := mirrors_empty
  tops := rfl
  places _ := rfl
  spare _ := rfl

section Tallied

variable {t u : ObjectTable} {past : List (Call × Answer)} {c : Call} {a : Answer}

theorem Mirrors.population_eq (h : t.Mirrors (Ledger.empty.through past)) :
    population past + t.freed.length = t.entries.length := h.card

/-- A call by which the table gets no new place leaves the peak as it was. -/
theorem Tallied.peak_of_places (h : t.Tallied past) (hopen : t.closed = false)
    (hu : u.Mirrors (Ledger.empty.through (past ++ [(c, a)])))
    (hplaces : u.entries.length = t.entries.length) :
    peak (past ++ [(c, a)]) = peak past := by
  have hcard := hu.population_eq
  have hpeak := h.places hopen
  rw [peak_concat]
  omega

/-- A call that changes nothing keeps the tally. -/
theorem Tallied.silent (h : t.Tallied past) (hgiven : givenId? (c, a) = none)
    (hunused : unused (past ++ [(c, a)]) = unused past)
    (hu : t.Mirrors (Ledger.empty.through (past ++ [(c, a)]))) : t.Tallied (past ++ [(c, a)]) := by
  have hpeak : peak (past ++ [(c, a)]) = peak past := by
    have hbefore := h.mirrors.population_eq
    have hafter := hu.population_eq
    have hle := population_le_peak past
    rw [peak_concat]
    omega
  refine ⟨hu, ?_, ?_, ?_⟩
  · rw [highest_of_silent _ _ hgiven, hpeak, h.tops]
  · rw [hpeak]
    exact h.places
  · rw [hunused]
    exact h.spare

theorem unused_given (past : List (Call × Answer)) (v : Value) (id : Int) :
    unused (past ++ [(.put v, .given id)]) = (unused past).erase id := by
  simp [unused]

theorem unused_freed (past : List (Call × Answer)) (id : Int) (v : Value) :
    unused (past ++ [(.free id, .value (some v))]) = id :: unused past := by
  simp [unused]

/-- A live id is within the places of its table and not among the dead ones. -/
theorem Coherent.bounded_of_live (ht : t.Coherent) {id : Nat} {w : Value} (h : t.live? id = some w) :
    id ≤ t.entries.length ∧ id ∉ t.freed := by
  obtain ⟨e, he, -⟩ := Option.map_eq_some_iff.mp h
  obtain ⟨hpos, hplace⟩ := slot?_eq_some.mp he
  obtain ⟨hlt, -⟩ := List.getElem?_eq_some_iff.mp hplace
  refine ⟨by omega, fun hfreed => ?_⟩
  have hdead := ((ht.mem_freed id).mp hfreed).2
  simp only [Int.toNat_natCast] at hplace
  rw [hplace] at hdead
  cases hdead

theorem Tallied.known (h : t.Tallied past) {v w : Value} {id : Nat} (hlive : t.live? id = some w)
    (hu : t.Mirrors (Ledger.empty.through (past ++ [(.put v, .given id)]))) :
    t.Tallied (past ++ [(.put v, .given id)]) := by
  obtain ⟨hle, hnot⟩ := h.mirrors.coherent.bounded_of_live hlive
  have hopen : t.closed = false := by
    cases hc : t.closed with
    | false => rfl
    | true =>
      have hnone := slot?_of_nil (h.mirrors.coherent.closed hc) id
      simp [live?, hnone] at hlive
  have hplaces := h.places hopen
  have hpeak := h.peak_of_places hopen hu rfl
  refine ⟨hu, ?_, fun _ => hpeak.trans hplaces, fun _ => ?_⟩
  · rw [highest_of_given _ rfl, h.tops, hpeak]
    omega
  · rw [unused_given, h.spare hopen]
    apply List.erase_of_not_mem
    intro hmem
    obtain ⟨k, hk, hsame⟩ := List.mem_map.mp hmem
    exact hnot (Int.ofNat.inj hsame ▸ hk)

theorem Tallied.reused (h : t.Tallied past) {v : Value} {k : Nat} {rest : List Nat}
    (hfreed : t.freed = k :: rest) (hopen : t.closed = false)
    (hentries : u.entries.length = t.entries.length) (hrest : u.freed = rest)
    (hu : u.Mirrors (Ledger.empty.through (past ++ [(.put v, .given k)]))) :
    u.Tallied (past ++ [(.put v, .given k)]) := by
  have hmem : k ∈ t.freed := by simp [hfreed]
  have hk := h.mirrors.coherent.bounded_of_mem_freed hmem
  have hplaces := h.places hopen
  have hpeak := h.peak_of_places hopen hu hentries
  refine ⟨hu, ?_, fun _ => ?_, fun _ => ?_⟩
  · rw [highest_of_given _ rfl, h.tops, hpeak]
    omega
  · rw [hpeak, hplaces, hentries]
  · rw [unused_given, h.spare hopen, hfreed, hrest]
    simp

theorem Tallied.grown (h : t.Tallied past) {v : Value} (hfreed : t.freed = []) (hopen : t.closed = false)
    (hentries : u.entries.length = t.entries.length + 1) (hnone : u.freed = [])
    (hu : u.Mirrors (Ledger.empty.through (past ++ [(.put v, .given (t.entries.length + 1 : Nat))]))) :
    u.Tallied (past ++ [(.put v, .given (t.entries.length + 1 : Nat))]) := by
  have hcard := hu.population_eq
  rw [hnone, List.length_nil] at hcard
  have hplaces := h.places hopen
  have hpeak : peak (past ++ [(.put v, .given (t.entries.length + 1 : Nat))]) = t.entries.length + 1 := by
    rw [peak_concat]
    omega
  refine ⟨hu, ?_, fun _ => ?_, fun _ => ?_⟩
  · rw [highest_of_given _ rfl, h.tops, hpeak]
    omega
  · rw [hpeak, hentries]
  · rw [unused_given, h.spare hopen, hfreed, hnone]
    rfl

theorem Tallied.freed (h : t.Tallied past) {v : Value} {k : Nat}
    (hentries : u.entries.length = t.entries.length) (hfreed : u.freed = k :: t.freed)
    (hu : u.Mirrors (Ledger.empty.through (past ++ [(.free k, .value (some v))]))) :
    u.Tallied (past ++ [(.free k, .value (some v))]) := by
  have hopen : t.closed = false := by
    cases hc : t.closed with
    | false => rfl
    | true =>
      have hcard := hu.population_eq
      rw [hentries, h.mirrors.coherent.closed hc, hfreed] at hcard
      simp at hcard
  have hplaces := h.places hopen
  have hpeak := h.peak_of_places hopen hu hentries
  refine ⟨hu, ?_, fun _ => ?_, fun _ => ?_⟩
  · rw [highest_of_silent _ _ rfl, h.tops, hpeak]
  · rw [hpeak, hplaces, hentries]
  · rw [unused_freed, h.spare hopen, hfreed]
    rfl

/-- One call keeps the tally. -/
theorem Tallied.answer (h : t.Tallied past) (c : Call) :
    (t.answer c).2.Tallied (past ++ [(c, (t.answer c).1)]) := by
  have hu := (h.mirrors.answer c).2
  rw [← through_concat past (c, (t.answer c).1)] at hu
  have hturn := turn_answer h.mirrors.coherent c
  generalize (t.answer c).1 = a, (t.answer c).2 = u at hturn hu ⊢
  cases hturn with
  | silent hgiven hunused => exact h.silent hgiven (hunused past) hu
  | known hlive => exact h.known hlive hu
  | reused hfreed hopen hentries hrest => exact h.reused hfreed hopen hentries hrest hu
  | grown hfreed hopen hentries hnone => exact h.grown hfreed hopen hentries hnone hu
  | freed hentries hfreed => exact h.freed hentries hfreed hu
  | closed hclosed =>
    have hcard := hu.population_eq
    rw [hu.coherent.closed hclosed] at hcard
    have hzero : population (past ++ [(.close, .closed _)]) = 0 := Nat.eq_zero_of_add_eq_zero_right hcard
    refine ⟨hu, ?_, ?_, ?_⟩
    · rw [highest_of_silent _ _ rfl, peak_concat, hzero, Nat.zero_max, h.tops]
    · intro hopen
      rw [hclosed] at hopen
      cases hopen
    · intro hopen
      rw [hclosed] at hopen
      cases hopen

end Tallied

theorem tallied_after (calls : List Call) : (empty.after calls).Tallied (empty.transcript calls) := by
  induction calls using List.reverseRecOn with
  | nil => exact tallied_empty
  | append_singleton calls c ih =>
    rw [after_concat, transcript_concat]
    exact ih.answer c

/-! ## The largest id -/

theorem closed_after (l : Ledger) {c : Call} (h : c ≠ .close) (a : Answer) :
    (l.after c a).closed = l.closed := by
  cases c with
  | close => exact absurd rfl h
  | put v =>
    cases a with
    | given id =>
      simp only [Ledger.after]
      split <;> rfl
    | _ => rfl
  | _ => rfl

theorem open_of_not_closed {calls : List Call} (h : Call.close ∉ calls) :
    (empty.after calls).closed = false := by
  rw [← (tallied_after calls).mirrors.closed]
  induction calls using List.reverseRecOn with
  | nil => rfl
  | append_singleton calls c ih =>
    obtain ⟨hcalls, hc⟩ : Call.close ∉ calls ∧ c ≠ .close := by
      simpa [List.mem_append, not_or, eq_comm] using h
    rw [transcript_concat, through_concat, closed_after _ hc]
    exact ih hcalls

theorem Tallied.mem_unused {t : ObjectTable} {past : List (Call × Answer)} (h : t.Tallied past)
    (hopen : t.closed = false) (id : Int) :
    id ∈ unused past ↔
      1 ≤ id ∧ id ≤ highest past ∧ id ∉ (Ledger.empty.through past).live := by
  have hcoherent := h.mirrors.coherent
  rw [h.spare hopen, h.tops, h.places hopen, ← Finmap.lookup_eq_none, h.mirrors.lookup, List.mem_map]
  constructor
  · rintro ⟨k, hk, rfl⟩
    have hbounds := hcoherent.bounded_of_mem_freed hk
    refine ⟨by simp; omega, by simp; omega, ?_⟩
    rw [Option.eq_none_iff_forall_ne_some]
    intro w hw
    exact (hcoherent.bounded_of_live hw).2 hk
  · rintro ⟨hpos, hle, hdead⟩
    refine ⟨id.toNat, (hcoherent.mem_freed _).mpr ⟨by omega, ?_⟩, by simp; omega⟩
    have hlt : id.toNat - 1 < t.entries.length := by omega
    rw [live?, Option.map_eq_none_iff, slot?, if_neg (by omega), List.getElem?_eq_getElem hlt,
      Option.join_some] at hdead
    rw [List.getElem?_eq_getElem hlt, hdead]

/-- What is not known gets the dead id that was freed last, or the next new one. -/
theorem Tallied.answer_put {t : ObjectTable} {past : List (Call × Answer)} (h : t.Tallied past)
    (hopen : t.closed = false) {v : Value} (hv : v ≠ .null)
    (hnew : ∀ id, ¬ (Ledger.empty.through past).Knows v id) :
    (t.answer (.put v)).1 = .given ((unused past).head?.getD (highest past + 1)) := by
  have hmiss : t.idOf? v = none := by
    rw [Option.eq_none_iff_forall_ne_some]
    intro id hid
    exact hnew id (h.mirrors.knows_iff.mpr ⟨id, rfl, hid⟩)
  rw [ObjectTable.answer, put_of_open hv hopen, hmiss, h.spare hopen, h.tops, h.places hopen]
  cases hfreed : t.freed <;> simp [ObjectTable.allocate, hfreed]

/-- As long as there is a dead id, no new one is given. -/
theorem Tallied.highest_put {t : ObjectTable} {past : List (Call × Answer)} (h : t.Tallied past)
    (hopen : t.closed = false) (hspare : unused past ≠ []) (v : Value) :
    highest (past ++ [(.put v, (t.answer (.put v)).1)]) = highest past := by
  have hdead : t.freed ≠ [] := by
    rw [h.spare hopen] at hspare
    simpa using hspare
  have htops := h.tops
  have hplaces := h.places hopen
  have hturn := turn_answer h.mirrors.coherent (.put v)
  generalize (t.answer (.put v)).1 = a, (t.answer (.put v)).2 = u at hturn ⊢
  cases hturn with
  | silent hgiven => rw [highest_of_silent _ _ hgiven]
  | known hlive =>
    have hle := (h.mirrors.coherent.bounded_of_live hlive).1
    rw [highest_of_given _ rfl]
    omega
  | @reused _ k rest _ hfreed =>
    have hmem : k ∈ t.freed := by simp [hfreed]
    have hle := h.mirrors.coherent.bounded_of_mem_freed hmem
    rw [highest_of_given _ rfl]
    omega
  | grown hfreed => exact absurd hfreed hdead

/-- **Ids are used again.** Whatever is asked of a new table, the largest id that it ever gives is the
greatest number of objects that were live at one time. Until it is closed, the dead ids up to the largest
one are those that were freed and not given since; an object that is not in the table yet gets the one of
them that was freed last, and a new id only if there is none. -/
theorem ids_reach_peak (calls : List Call) :
    let past := empty.transcript calls
    let ledger := Ledger.empty.through past
    highest past = peak past ∧
      (Call.close ∉ calls →
        (unused past).Nodup ∧
        (∀ id, id ∈ unused past ↔ 1 ≤ id ∧ id ≤ highest past ∧ id ∉ ledger.live) ∧
        (∀ v, v ≠ .null → (∀ id, ¬ ledger.Knows v id) → empty.transcript (calls ++ [.put v]) =
          past ++ [(.put v, .given ((unused past).head?.getD (highest past + 1)))]) ∧
        (unused past ≠ [] → ∀ v, highest (empty.transcript (calls ++ [.put v])) = highest past)) := by
  intro past ledger
  have htally : (empty.after calls).Tallied past := tallied_after calls
  refine ⟨htally.tops, fun hnever => ?_⟩
  have hopen := open_of_not_closed hnever
  refine ⟨?_, htally.mem_unused hopen, ?_, ?_⟩
  · rw [htally.spare hopen]
    exact htally.mirrors.coherent.freed_nodup.map fun _ _ => Int.ofNat.inj
  · intro v hv hnew
    rw [transcript_concat, htally.answer_put hopen hv hnew]
  · intro hspare v
    rw [transcript_concat]
    exact htally.highest_put hopen hspare v

end ObjectTable

end PageBoot.Bridge
