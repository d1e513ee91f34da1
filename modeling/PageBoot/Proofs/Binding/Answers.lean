import Mathlib.Data.Finset.Card
import Mathlib.Data.List.Nodup
import PageBoot.Binding.Table

/-!
The answers tree agrees with a flat list. `Uniform` says that every strong name stands at one
depth and that no level has two branches for a value; adding keeps it. For such a tree the rows are
strictly increasing and are exactly what lookup finds. `addAll_agrees` compares a table, after any
additions, with the list of those that were accepted.
-/

namespace PageBoot.Binding

namespace Answers

/-! ## One level -/

/-- All strong names stand `n` levels down, and the branches of each level differ. -/
def Uniform : Nat → Answers → Prop
  | 0, .leaf _ => True
  | _ + 1, .stop => True
  | n + 1, .branch k below next => Uniform n below ∧ child? k next = none ∧ Uniform (n + 1) next
  | _, _ => False

@[simp] theorem child?_stop (k : Text) : child? k .stop = none := rfl

theorem child?_place (j k : Text) (f : Answers → Answers) (t : Answers) :
    child? j (place k f t) =
      if j = k then some (f ((child? k t).getD .stop)) else child? j t := by
  induction t with
  | branch key below next _ ih =>
    by_cases hk : key = k
    · subst hk
      by_cases hj : j = key
      · simp [place, child?, hj]
      · have hj' : ¬ key = j := fun h => hj h.symm
        simp [place, child?, hj, hj']
    · by_cases hj : key = j
      · have hjk : ¬ j = k := fun h => hk (hj.trans h)
        simp [place, child?, hj, hjk]
      · simp [place, child?, hk, hj, ih]
  | _ =>
    by_cases hj : j = k
    · simp [place, child?, hj]
    · have hj' : ¬ k = j := fun h => hj h.symm
      simp [place, child?, hj, hj']

theorem Uniform.child? {n : Nat} {t u : Answers} {k : Text} (h : Uniform (n + 1) t)
    (hu : child? k t = some u) : Uniform n u := by
  induction t with
  | branch key below next _ ih =>
    obtain ⟨hbelow, -, hnext⟩ := h
    simp only [Answers.child?] at hu
    split at hu
    · cases hu
      exact hbelow
    · exact ih hnext hu
  | _ => cases hu

theorem Uniform.place {n : Nat} {t : Answers} {k : Text} {f : Answers → Answers}
    (h : Uniform (n + 1) t) (hf : ∀ u, Uniform n u ∨ u = .stop → Uniform n (f u)) :
    Uniform (n + 1) (place k f t) := by
  induction t with
  | stop => exact ⟨hf .stop (.inr rfl), rfl, trivial⟩
  | leaf s => cases h
  | branch key below next _ ih =>
    obtain ⟨hbelow, hfresh, hnext⟩ := h
    by_cases hk : key = k
    · simp only [Answers.place, hk, if_true]
      exact ⟨hf below (.inl hbelow), hk ▸ hfresh, hnext⟩
    · simp only [Answers.place, hk, if_false]
      refine ⟨hbelow, ?_, ih hnext⟩
      rw [child?_place, if_neg hk]
      exact hfresh

/-! ## Paths -/

theorem Uniform.insert (strong : Text) {ks : List Text} {t : Answers}
    (h : Uniform ks.length t ∨ t = .stop) : Uniform ks.length (insert strong ks t) := by
  induction ks generalizing t with
  | nil => trivial
  | cons k ks ih =>
    have ht : Uniform (ks.length + 1) t := by
      rcases h with h | rfl
      · exact h
      · trivial
    exact ht.place fun u hu => ih hu

@[simp] theorem get?_stop (ks : List Text) : get? ks .stop = none := by
  cases ks <;> rfl

theorem get?_cons (k : Text) (ks : List Text) (t : Answers) :
    get? (k :: ks) t = (child? k t).bind (get? ks) := by
  cases h : child? k t <;> simp [get?, node?, h]

/-- Adding a tuple changes what is found under it and under no other tuple of its length. -/
theorem get?_insert (strong : Text) {ks js : List Text} (hlen : js.length = ks.length)
    (t : Answers) : get? js (insert strong ks t) = if js = ks then some strong else get? js t := by
  induction ks generalizing js t with
  | nil =>
    obtain rfl := List.eq_nil_of_length_eq_zero hlen
    rfl
  | cons k ks ih =>
    cases js with
    | nil => simp at hlen
    | cons j js =>
      have htail : js.length = ks.length := by simpa using hlen
      rw [get?_cons, get?_cons, insert, child?_place]
      by_cases hj : j = k
      · subst hj
        cases child? j t <;> simp [ih htail]
      · simp [hj]

/-- In a uniform tree a node that a path leads to is uniform, by the levels left. -/
theorem Uniform.node? {m : Nat} {ks : List Text} {t u : Answers}
    (h : Uniform (ks.length + m) t) (hu : node? ks t = some u) : Uniform m u := by
  induction ks generalizing t with
  | nil =>
    cases hu
    simpa using h
  | cons k ks ih =>
    obtain ⟨v, hv, hu⟩ := Option.bind_eq_some_iff.mp hu
    rw [List.length_cons, Nat.add_right_comm] at h
    exact ih (h.child? hv) hu

theorem Uniform.zero_iff {t : Answers} : Uniform 0 t ↔ ∃ s, t = .leaf s := by
  cases t <;> simp [Uniform]

theorem Uniform.eq_zero_of_leaf {n : Nat} {s : Text} (h : Uniform n (.leaf s)) : n = 0 := by
  cases n with
  | zero => rfl
  | succ n => cases h

/-- Strong names stand at the depth of the tree only. -/
theorem Uniform.length_of_leaf {n : Nat} {ks : List Text} {t : Answers} {s : Text}
    (h : Uniform n t) (hu : Answers.node? ks t = some (.leaf s)) : ks.length = n := by
  induction ks generalizing n t with
  | nil =>
    cases hu
    exact h.eq_zero_of_leaf.symm
  | cons k ks ih =>
    obtain ⟨v, hv, hu⟩ := Option.bind_eq_some_iff.mp hu
    cases n with
    | zero =>
      obtain ⟨s, rfl⟩ := Uniform.zero_iff.mp h
      cases hv
    | succ n => simp [ih (h.child? hv) hu]

/-- A whole path ends at a strong name or nowhere. -/
theorem Uniform.isSome_node? {ks : List Text} {t : Answers} (h : Uniform ks.length t) :
    (Answers.node? ks t).isSome = (get? ks t).isSome := by
  cases hn : Answers.node? ks t with
  | none => simp [get?, hn]
  | some u =>
    have h0 : Uniform (ks.length + 0) t := h
    obtain ⟨s, rfl⟩ := Uniform.zero_iff.mp (h0.node? hn)
    simp [get?, hn, strong?]

/-! ## Rows -/

theorem rows_stop : rows .stop = [] := by
  simp [rows, collect, arms]

theorem arms_cons (k : Text) (below next : Answers) :
    arms (.branch k below next) = (k, rows below) :: arms next := rfl

theorem mem_arms_of_child? {t u : Answers} {k : Text} (h : child? k t = some u) :
    (k, rows u) ∈ arms t := by
  induction t with
  | branch key below next _ ih =>
    rw [arms_cons]
    simp only [child?] at h
    split at h
    · rename_i hk
      cases h
      simp [hk]
    · exact List.mem_cons_of_mem _ (ih h)
  | _ => cases h

theorem Uniform.child?_of_mem_arms {n : Nat} {t : Answers} {a : Text × List Row}
    (h : Uniform (n + 1) t) (ha : a ∈ arms t) :
    ∃ u, Answers.child? a.1 t = some u ∧ a.2 = rows u := by
  induction t with
  | branch key below next _ ih =>
    obtain ⟨-, hfresh, hnext⟩ := h
    rw [arms_cons] at ha
    rcases List.mem_cons.mp ha with rfl | ha
    · exact ⟨below, by simp [Answers.child?], rfl⟩
    · obtain ⟨u, hu, hrows⟩ := ih hnext ha
      have hne : ¬ key = a.1 := by
        rintro rfl
        simp [hfresh] at hu
      exact ⟨u, by simp [Answers.child?, hne, hu], hrows⟩
  | _ => cases ha

theorem Uniform.nodup_arms {n : Nat} {t : Answers} (h : Uniform (n + 1) t) :
    ((arms t).map Prod.fst).Nodup := by
  induction t with
  | branch key below next _ ih =>
    obtain ⟨-, hfresh, hnext⟩ := h
    rw [arms_cons, List.map_cons, List.nodup_cons]
    refine ⟨?_, ih hnext⟩
    intro hmem
    obtain ⟨a, ha, hkey⟩ := List.mem_map.mp hmem
    obtain ⟨u, hu, -⟩ := hnext.child?_of_mem_arms ha
    simp [hkey, hfresh] at hu
  | _ => exact List.nodup_nil

theorem Uniform.rows_eq {n : Nat} {t : Answers} (h : Uniform (n + 1) t) :
    rows t = ((arms t).mergeSort fun a b => Text.le a.1 b.1).flatMap fun a => under a.1 a.2 := by
  cases t with
  | leaf s => cases h
  | _ => rfl

theorem mem_under {k : Text} {rs : List Row} {r : Row} :
    r ∈ under k rs ↔ ∃ ks, r.1 = k :: ks ∧ (ks, r.2) ∈ rs := by
  unfold under
  rw [List.mem_map]
  constructor
  · rintro ⟨q, hq, rfl⟩
    exact ⟨q.1, rfl, hq⟩
  · rintro ⟨ks, hks, hr⟩
    exact ⟨(ks, r.2), hr, by rw [← hks]⟩

/-- The rows of a tree are exactly what lookup finds in it. -/
theorem Uniform.mem_rows {n : Nat} {t : Answers} (h : Uniform n t) (ks : List Text) (s : Text) :
    (ks, s) ∈ rows t ↔ ks.length = n ∧ get? ks t = some s := by
  induction n generalizing t ks with
  | zero =>
    obtain ⟨s', rfl⟩ := Uniform.zero_iff.mp h
    cases ks with
    | nil => simp [rows, collect, get?, Answers.node?, strong?, eq_comm]
    | cons k ks => simp [rows, collect]
  | succ n ih =>
    simp only [h.rows_eq, List.mem_flatMap, List.mem_mergeSort, mem_under]
    constructor
    · rintro ⟨a, ha, js, rfl, hs⟩
      obtain ⟨u, hu, hrows⟩ := h.child?_of_mem_arms ha
      rw [hrows, ih (h.child? hu)] at hs
      exact ⟨by simp [hs.1], by simp [get?_cons, hu, hs.2]⟩
    · rintro ⟨hlen, hs⟩
      cases ks with
      | nil => simp at hlen
      | cons k js =>
        rw [get?_cons] at hs
        obtain ⟨u, hu, hs⟩ := Option.bind_eq_some_iff.mp hs
        exact ⟨(k, rows u), mem_arms_of_child? hu, js, rfl,
          (ih (h.child? hu) js).mpr ⟨by simpa using hlen, hs⟩⟩

/-- The rows of a tree are in strictly increasing order of their tuples. -/
theorem Uniform.pairwise_rows {n : Nat} {t : Answers} (h : Uniform n t) :
    (rows t).Pairwise fun r s => r.1 < s.1 := by
  induction n generalizing t with
  | zero =>
    obtain ⟨s, rfl⟩ := Uniform.zero_iff.mp h
    exact List.pairwise_singleton _ _
  | succ n ih =>
    rw [h.rows_eq, List.pairwise_flatMap]
    constructor
    · -- below one branch the tuples agree in their first value
      intro a ha
      obtain ⟨u, hu, hrows⟩ := h.child?_of_mem_arms (List.mem_mergeSort.mp ha)
      rw [under, List.pairwise_map, hrows]
      refine (ih (h.child? hu)).imp ?_
      intro r s hrs
      exact List.cons_lt_cons_iff.mpr (.inr ⟨rfl, hrs⟩)
    · -- from branch to branch the first value grows
      refine (Text.pairwise_lt_mergeSort Prod.fst h.nodup_arms).imp ?_
      intro a b hab r hr s hs
      obtain ⟨ks, hks, -⟩ := mem_under.mp hr
      obtain ⟨js, hjs, -⟩ := mem_under.mp hs
      rw [hks, hjs]
      exact List.cons_lt_cons_iff.mpr (.inl hab)

end Answers

namespace Table

open Answers (Row)

/-! ## Tables after any additions -/

/-- Adds a row; a refused one leaves the table as it is. -/
def tryAdd (t : Table) (r : Row) : Table :=
  match t.add r.1 r.2 with
  | .ok u => u
  | .error _ => t

def addAll (t : Table) (rs : List Row) : Table := rs.foldl tryAdd t

/-- The rows that a table of the given depth takes. -/
def Takes (depth : Int) (r : Row) : Prop := r.1.length = depth ∧ r.2 ≠ [] ∧ depth ≠ 0

instance (depth : Int) : DecidablePred (Takes depth) := fun r =>
  inferInstanceAs (Decidable (r.1.length = depth ∧ r.2 ≠ [] ∧ depth ≠ 0))

/-- The strong name that the last row with the given tuple sets. -/
def lastOf (ks : List Text) (rs : List Row) : Option Text :=
  (rs.reverse.find? (·.1 = ks)).map (·.2)

theorem lastOf_concat (ks : List Text) (rs : List Row) (r : Row) :
    lastOf ks (rs ++ [r]) = if r.1 = ks then some r.2 else lastOf ks rs := by
  by_cases h : r.1 = ks <;> simp [lastOf, h]

theorem lastOf_isSome {ks : List Text} {rs : List Row} :
    (lastOf ks rs).isSome = true ↔ ks ∈ rs.map Prod.fst := by
  simp [lastOf, List.find?_isSome]

theorem add_eq_ok {t : Table} {r : Row} (h : Takes t.depth r) :
    t.add r.1 r.2 = .ok { t with
      size := if (t.root.node? r.1).isSome then t.size else t.size + 1
      root := t.root.insert r.2 r.1 } := by
  obtain ⟨hlen, hstrong, hdepth⟩ := h
  simp [add, hlen, hstrong, hdepth]

theorem add_eq_error {t : Table} {r : Row} (h : ¬ Takes t.depth r) :
    ∃ f, t.add r.1 r.2 = .error f := by
  unfold add
  split
  · exact ⟨_, rfl⟩
  · split
    · exact ⟨_, rfl⟩
    · split
      · exact ⟨_, rfl⟩
      · rename_i hlen hstrong hdepth
        exact absurd ⟨not_not.mp hlen, by simpa using hstrong, hdepth⟩ h

/-- The table holds the rows `rs`: its tree has one depth, and its size counts the tuples. -/
structure Holds (t : Table) (rs : List Row) : Prop where
  uniform : Answers.Uniform t.depth.toNat t.root ∧ 0 < t.depth ∨ t.root = .stop ∧ t.depth ≤ 0
  lookup : ∀ ks, t.lookup ks = lastOf ks rs
  size : t.size = (rs.map Prod.fst).toFinset.card

theorem holds_empty (depth : Int) : (empty depth).Holds [] where
  uniform := by
    by_cases h : 0 < depth
    · obtain ⟨n, hn⟩ : ∃ n, depth.toNat = n + 1 := ⟨depth.toNat - 1, by omega⟩
      left
      simp [empty, hn, h, Answers.Uniform]
    · exact .inr ⟨rfl, Int.not_lt.mp h⟩
  lookup ks := by
    unfold Table.lookup
    split
    · exact Answers.get?_stop ks
    · rfl
  size := rfl

theorem tryAdd_of_takes {t : Table} {r : Row} (h : Takes t.depth r) :
    t.tryAdd r = { t with
      size := if (t.root.node? r.1).isSome then t.size else t.size + 1
      root := t.root.insert r.2 r.1 } := by
  simp [tryAdd, add_eq_ok h]

theorem tryAdd_of_not_takes {t : Table} {r : Row} (h : ¬ Takes t.depth r) : t.tryAdd r = t := by
  obtain ⟨f, hf⟩ := add_eq_error h
  simp [tryAdd, hf]

theorem tryAdd_depth (t : Table) (r : Row) : (t.tryAdd r).depth = t.depth := by
  by_cases h : Takes t.depth r
  · rw [tryAdd_of_takes h]
  · rw [tryAdd_of_not_takes h]

theorem Takes.toNat_eq {depth : Int} {r : Row} (h : Takes depth r) :
    depth.toNat = r.1.length ∧ 0 < depth := by
  obtain ⟨hlen, -, hdepth⟩ := h
  omega

theorem Holds.uniform_of_takes {t : Table} {rs : List Row} (h : t.Holds rs) {r : Row}
    (hr : Takes t.depth r) : Answers.Uniform r.1.length t.root := by
  rcases h.uniform with ⟨hu, -⟩ | ⟨-, hdepth⟩
  · exact hr.toNat_eq.1 ▸ hu
  · exact absurd hr.toNat_eq.2 (Int.not_lt.mpr hdepth)

/-- One addition that is taken. -/
theorem Holds.tryAdd {t : Table} {rs : List Row} (h : t.Holds rs) {r : Row}
    (hr : Takes t.depth r) : (t.tryAdd r).Holds (rs ++ [r]) := by
  have hu := h.uniform_of_takes hr
  rw [tryAdd_of_takes hr]
  refine ⟨.inl ⟨?_, hr.toNat_eq.2⟩, ?_, ?_⟩
  · simp only [hr.toNat_eq.1]
    exact Answers.Uniform.insert r.2 (.inl hu)
  · intro ks
    rw [lastOf_concat, ← h.lookup ks]
    simp only [Table.lookup]
    by_cases hks : (ks.length : Int) = t.depth
    · have hlen : ks.length = r.1.length := by
        have := hr.1
        omega
      simp only [hks, if_true, Answers.get?_insert r.2 hlen, eq_comm]
    · have hne : ¬ r.1 = ks := by
        rintro rfl
        exact hks hr.1
      simp [hks, hne]
  · have hfound : (t.root.node? r.1).isSome = true ↔ r.1 ∈ rs.map Prod.fst := by
      rw [hu.isSome_node?, ← lastOf_isSome, ← h.lookup, Table.lookup, if_pos hr.1]
    have hset : ((rs ++ [r]).map Prod.fst).toFinset =
        insert r.1 (rs.map Prod.fst).toFinset := by
      ext ks
      simp
    simp only [hset, h.size]
    by_cases hmem : r.1 ∈ rs.map Prod.fst
    · rw [if_pos (hfound.mpr hmem), Finset.insert_eq_of_mem (List.mem_toFinset.mpr hmem)]
    · rw [if_neg (mt hfound.mp hmem),
        Finset.card_insert_of_notMem (mt List.mem_toFinset.mp hmem)]

theorem Holds.addAll {t : Table} {rs : List Row} (h : t.Holds rs) (more : List Row) :
    (t.addAll more).Holds (rs ++ more.filter (Takes t.depth)) := by
  induction more generalizing t rs with
  | nil => simpa [Table.addAll] using h
  | cons r more ih =>
    have hstep : t.addAll (r :: more) = (t.tryAdd r).addAll more := rfl
    rw [hstep]
    by_cases hr : Takes t.depth r
    · have hrest := ih (h.tryAdd hr)
      rw [tryAdd_depth] at hrest
      simpa [hr] using hrest
    · rw [tryAdd_of_not_takes hr]
      simpa [hr] using ih h

theorem addAll_depth (t : Table) (rs : List Row) : (t.addAll rs).depth = t.depth := by
  induction rs generalizing t with
  | nil => rfl
  | cons r rs ih => exact (ih (t.tryAdd r)).trans (tryAdd_depth t r)

/-! ## What the flat list tells -/

theorem Holds.pairwise_walk {t : Table} {rs : List Row} (h : t.Holds rs) :
    t.walk.Pairwise fun r s => r.1 < s.1 := by
  rcases h.uniform with ⟨hu, -⟩ | ⟨hstop, -⟩
  · exact hu.pairwise_rows
  · rw [walk, hstop, Answers.rows_stop]
    exact .nil

theorem Holds.mem_walk {t : Table} {rs : List Row} (h : t.Holds rs) (ks : List Text) (s : Text) :
    (ks, s) ∈ t.walk ↔ lastOf ks rs = some s := by
  rw [← h.lookup, walk, Table.lookup]
  rcases h.uniform with ⟨hu, hpos⟩ | ⟨hstop, -⟩
  · have hlen : ks.length = t.depth.toNat ↔ (ks.length : Int) = t.depth := by omega
    rw [hu.mem_rows, hlen]
    by_cases hks : (ks.length : Int) = t.depth <;> simp [hks]
  · simp [hstop, Answers.rows_stop]

theorem Holds.length_of_leaf {t : Table} {rs : List Row} (h : t.Holds rs) {ks : List Text}
    {s : Text} (hs : t.root.node? ks = some (.leaf s)) : (ks.length : Int) = t.depth := by
  rcases h.uniform with ⟨hu, hpos⟩ | ⟨hstop, -⟩
  · have := hu.length_of_leaf hs
    omega
  · rw [hstop] at hs
    cases ks <;> cases hs

/-- A table and the flat list of the rows it took. -/
structure Agrees (t : Table) (rs : List Row) : Prop where
  lookup : ∀ ks, t.lookup ks = lastOf ks rs
  size : t.size = (rs.map Prod.fst).toFinset.card
  walk_sorted : t.walk.Pairwise fun r s => r.1 < s.1
  mem_walk : ∀ ks s, (ks, s) ∈ t.walk ↔ lastOf ks rs = some s
  refuses : ∀ r, (∃ f, t.add r.1 r.2 = .error f) ↔ ¬ Takes t.depth r
  refused_unchanged : ∀ r, ¬ Takes t.depth r → t.tryAdd r = t
  leaf_depth : ∀ ks s, t.root.node? ks = some (.leaf s) → (ks.length : Int) = t.depth
  /-- An addition passes no strong name on its way and ends at one or at nothing. -/
  path : ∀ r, Takes t.depth r →
    (∀ ks, ks <+: r.1 → ks ≠ r.1 → ∀ s, t.root.node? ks ≠ some (.leaf s)) ∧
      ∀ u, t.root.node? r.1 = some u → ∃ s, u = .leaf s

theorem Holds.agrees {t : Table} {rs : List Row} (h : t.Holds rs) : t.Agrees rs where
  lookup := h.lookup
  size := h.size
  walk_sorted := h.pairwise_walk
  mem_walk := h.mem_walk
  refuses r := by
    refine ⟨?_, add_eq_error⟩
    rintro ⟨f, hf⟩ hr
    rw [add_eq_ok hr] at hf
    cases hf
  refused_unchanged r := tryAdd_of_not_takes
  leaf_depth ks s hs := h.length_of_leaf hs
  path r hr := by
    constructor
    · intro ks hpre hne s hs
      have hdepth := h.length_of_leaf hs
      have hlen := hr.1
      exact hne (hpre.eq_of_length (by omega))
    · intro u hu
      have hlevel : Answers.Uniform (r.1.length + 0) t.root := h.uniform_of_takes hr
      exact Answers.Uniform.zero_iff.mp (hlevel.node? hu)

/-- **The answers tree is a flat list.** After any additions to a new table of any depth, lookup,
size and walk are those of the flat list of the rows that were taken, where the last row of a
tuple counts; rows that are refused change nothing, and strong names stand at the table's depth
only. -/
theorem addAll_agrees (depth : Int) (rs : List Row) :
    ((empty depth).addAll rs).depth = depth ∧
      ((empty depth).addAll rs).Agrees (rs.filter (Takes depth)) :=
  ⟨addAll_depth _ rs, ((holds_empty depth).addAll rs).agrees⟩

end Table

end PageBoot.Binding
