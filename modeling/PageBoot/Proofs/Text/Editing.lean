import Mathlib.Order.Bounds.Defs
import Mathlib.Order.MinMax
import PageBoot.Text.EditDistance

/-!
The distance of two texts is the least number of edits that lead from the code points of the one to those
of the other (`distance_isLeast`). Edits may come in any order and may undo one another; what they amount
to can be had from left to right with no more of them (`Edits.exists_aligned`), and the least cost of that
obeys the recursion whose values fill the rows.
-/

namespace PageBoot.Text

variable {s t u : List Nat} {n : Nat}

/-! ## Edits -/

/-- One insertion, deletion or replacement, at the front or further on. -/
inductive Edit : List Nat → List Nat → Prop
  | insert (c : Nat) (t : List Nat) : Edit t (c :: t)
  | delete (c : Nat) (t : List Nat) : Edit (c :: t) t
  | replace (c d : Nat) (t : List Nat) : Edit (c :: t) (d :: t)
  | later (c : Nat) {s t : List Nat} : Edit s t → Edit (c :: s) (c :: t)

/-- So many edits lead from one sequence to another. -/
inductive Edits : Nat → List Nat → List Nat → Prop
  | refl (s : List Nat) : Edits 0 s s
  | step {n : Nat} {s t u : List Nat} : Edits n s t → Edit t u → Edits (n + 1) s u

theorem Edit.behind (h : Edit s t) (front : List Nat) : Edit (front ++ s) (front ++ t) := by
  induction front with
  | nil => exact h
  | cons c front ih => exact ih.later c

theorem Edit.before (h : Edit s t) (back : List Nat) : Edit (s ++ back) (t ++ back) := by
  induction h with
  | insert c t => exact .insert c (t ++ back)
  | delete c t => exact .delete c (t ++ back)
  | replace c d t => exact .replace c d (t ++ back)
  | later c _ ih => exact ih.later c

theorem Edit.reverse (h : Edit s t) : Edit s.reverse t.reverse := by
  induction h with
  | insert c t =>
    rw [List.reverse_cons]
    simpa using (Edit.insert c []).behind t.reverse
  | delete c t =>
    rw [List.reverse_cons]
    simpa using (Edit.delete c []).behind t.reverse
  | replace c d t =>
    rw [List.reverse_cons, List.reverse_cons]
    exact (Edit.replace c d []).behind t.reverse
  | later c _ ih =>
    rw [List.reverse_cons, List.reverse_cons]
    exact ih.before [c]

theorem Edits.reverse (h : Edits n s t) : Edits n s.reverse t.reverse := by
  induction h with
  | refl s => exact .refl s.reverse
  | step _ hedit ih => exact ih.step hedit.reverse

theorem edits_reverse_iff : Edits n s.reverse t.reverse ↔ Edits n s t := by
  constructor
  · intro h
    rw [← List.reverse_reverse s, ← List.reverse_reverse t]
    exact h.reverse
  · exact Edits.reverse

theorem Edits.later (c : Nat) (h : Edits n s t) : Edits n (c :: s) (c :: t) := by
  induction h with
  | refl s => exact .refl (c :: s)
  | step _ hedit ih => exact ih.step (hedit.later c)

/-! ## Edits from left to right -/

/-- Two sequences read side by side, with the number of places where they differ. -/
inductive Aligned : Nat → List Nat → List Nat → Prop
  | nil : Aligned 0 [] []
  | keep (c : Nat) {n : Nat} {s t : List Nat} : Aligned n s t → Aligned n (c :: s) (c :: t)
  | insert (d : Nat) {n : Nat} {s t : List Nat} : Aligned n s t → Aligned (n + 1) s (d :: t)
  | delete (c : Nat) {n : Nat} {s t : List Nat} : Aligned n s t → Aligned (n + 1) (c :: s) t
  | replace (c d : Nat) {n : Nat} {s t : List Nat} : Aligned n s t → Aligned (n + 1) (c :: s) (d :: t)

namespace Aligned

theorem refl (s : List Nat) : Aligned 0 s s := by
  induction s with
  | nil => exact .nil
  | cons c s ih => exact ih.keep c

theorem symm (h : Aligned n s t) : Aligned n t s := by
  induction h with
  | nil => exact .nil
  | keep c _ ih => exact ih.keep c
  | insert d _ ih => exact ih.delete d
  | delete c _ ih => exact ih.insert c
  | replace c d _ ih => exact ih.replace d c

theorem length_le (h : Aligned n s t) : t.length ≤ s.length + n := by
  induction h <;> simp only [List.length_cons, List.length_nil] <;> omega

/-- A further edit is taken in where it stands, at the price of one more place. -/
theorem edit (h : Aligned n s t) (hedit : Edit t u) : ∃ m ≤ n + 1, Aligned m s u := by
  induction h generalizing u with
  | nil =>
    cases hedit with
    | insert c => exact ⟨1, by omega, .insert c .nil⟩
  | @keep c n s t h ih =>
    cases hedit with
    | insert d => exact ⟨n + 1, by omega, .insert d (h.keep c)⟩
    | delete => exact ⟨n + 1, by omega, h.delete c⟩
    | replace _ d => exact ⟨n + 1, by omega, h.replace c d⟩
    | later _ hedit =>
      obtain ⟨m, hm, h'⟩ := ih hedit
      exact ⟨m, by omega, h'.keep c⟩
  | @insert d n s t h ih =>
    cases hedit with
    | insert e => exact ⟨n + 2, by omega, .insert e (h.insert d)⟩
    | delete => exact ⟨n, by omega, h⟩
    | replace _ e => exact ⟨n + 1, by omega, h.insert e⟩
    | later _ hedit =>
      obtain ⟨m, hm, h'⟩ := ih hedit
      exact ⟨m + 1, by omega, h'.insert d⟩
  | @delete c n s t h ih =>
    obtain ⟨m, hm, h'⟩ := ih hedit
    exact ⟨m + 1, by omega, h'.delete c⟩
  | @replace c d n s t h ih =>
    cases hedit with
    | insert e => exact ⟨n + 2, by omega, .insert e (h.replace c d)⟩
    | delete => exact ⟨n + 1, by omega, h.delete c⟩
    | replace _ e => exact ⟨n + 1, by omega, h.replace c e⟩
    | later _ hedit =>
      obtain ⟨m, hm, h'⟩ := ih hedit
      exact ⟨m + 1, by omega, h'.replace c d⟩

theorem edits (h : Aligned n s t) : Edits n s t := by
  induction h with
  | nil => exact .refl []
  | keep c _ ih => exact ih.later c
  | @insert d n s t _ ih => exact ih.step (.insert d t)
  | @delete c n s t _ ih => exact (ih.later c).step (.delete c t)
  | @replace c d n s t _ ih => exact (ih.later c).step (.replace c d t)

end Aligned

theorem Edits.exists_aligned (h : Edits n s t) : ∃ m ≤ n, Aligned m s t := by
  induction h with
  | refl s => exact ⟨0, by omega, .refl s⟩
  | step _ hedit ih =>
    obtain ⟨m, hm, haligned⟩ := ih
    obtain ⟨k, hk, haligned'⟩ := haligned.edit hedit
    exact ⟨k, by omega, haligned'⟩

/-! ## The least number of edits -/

/-- The least number of places where two sequences that are read side by side differ. Equal points at
the front are always best kept. -/
def gap : List Nat → List Nat → Nat
  | [], t => t.length
  | _ :: s, [] => s.length + 1
  | c :: s, d :: t => if c = d then gap s t else min (gap s t) (min (gap (c :: s) t) (gap s (d :: t))) + 1
termination_by s t => s.length + t.length

@[simp] theorem gap_nil (t : List Nat) : gap [] t = t.length := by rw [gap]

@[simp] theorem gap_nil_right (s : List Nat) : gap s [] = s.length := by cases s <;> simp [gap]

theorem gap_cons (c d : Nat) (s t : List Nat) : gap (c :: s) (d :: t) =
    if c = d then gap s t else min (gap s t) (min (gap (c :: s) t) (gap s (d :: t))) + 1 := by
  rw [gap]

theorem aligned_nil (t : List Nat) : Aligned t.length [] t := by
  induction t with
  | nil => exact .nil
  | cons d t ih => exact ih.insert d

theorem aligned_gap (s t : List Nat) : Aligned (gap s t) s t := by
  fun_induction gap s t with
  | case1 t => exact aligned_nil t
  | case2 c s => exact (aligned_nil (c :: s)).symm
  | case3 s d t ih => exact ih.keep d
  | case4 c s d t hne hreplace hinsert hdelete =>
    rcases min_choice (gap s t) (min (gap (c :: s) t) (gap s (d :: t))) with hmin | hmin
    · rw [hmin]
      exact hreplace.replace c d
    · rw [hmin]
      rcases min_choice (gap (c :: s) t) (gap s (d :: t)) with hmin | hmin
      · rw [hmin]
        exact hinsert.insert d
      · rw [hmin]
        exact hdelete.delete c

theorem Aligned.gap_le (h : Aligned n s t) : gap s t ≤ n := by
  fun_induction gap s t generalizing n with
  | case1 t => simpa using h.length_le
  | case2 c s => simpa using h.symm.length_le
  | case3 s d t ih =>
    -- what does not keep the equal points can be turned into what does for one edit
    cases h with
    | keep _ h => exact ih h
    | replace _ _ h => exact Nat.le_succ_of_le (ih h)
    | insert _ h =>
      obtain ⟨m, hm, h'⟩ := h.symm.edit (.delete d s)
      exact Nat.le_trans (ih h'.symm) hm
    | delete _ h =>
      obtain ⟨m, hm, h'⟩ := h.edit (.delete d t)
      exact Nat.le_trans (ih h') hm
  | case4 c s d t hne hreplace hinsert hdelete =>
    cases h with
    | keep _ _ => exact absurd rfl hne
    | replace _ _ h =>
      have := hreplace h
      omega
    | insert _ h =>
      have := hinsert h
      omega
    | delete _ h =>
      have := hdelete h
      omega

theorem gap_isLeast (s t : List Nat) : IsLeast {n | Edits n s t} (gap s t) := by
  constructor
  · exact (aligned_gap s t).edits
  · intro n h
    obtain ⟨m, hm, haligned⟩ := h.exists_aligned
    exact Nat.le_trans haligned.gap_le hm

/-! ## The rows -/

/-- Distances of `p` from `q` with more and more points in front of it. -/
def gaps (p q : List Nat) : List Nat → List Nat
  | [] => []
  | d :: ds => gap p (d :: q) :: gaps p (d :: q) ds

theorem fillRow_eq (c : Nat) (p q ds : List Nat) :
    fillRow c ds (gap p q) (gap (c :: p) q) (gaps p q ds) = gaps (c :: p) q ds := by
  induction ds generalizing q with
  | nil => rfl
  | cons d ds ih =>
    simp only [gaps, fillRow]
    rw [← gap_cons, ih]

theorem nextRow_eq (c : Nat) (p t : List Nat) :
    nextRow c t (gap p [] :: gaps p [] t) = gap (c :: p) [] :: gaps (c :: p) [] t := by
  have hfirst : gap p [] + 1 = gap (c :: p) [] := by simp
  rw [nextRow, hfirst, fillRow_eq]

theorem foldl_nextRow (s p t : List Nat) :
    s.foldl (fun row c => nextRow c t row) (gap p [] :: gaps p [] t) =
      gap (s.reverse ++ p) [] :: gaps (s.reverse ++ p) [] t := by
  induction s generalizing p with
  | nil => rfl
  | cons c s ih =>
    rw [List.foldl_cons, nextRow_eq, ih, List.reverse_cons, List.append_assoc, List.singleton_append]

theorem range'_eq_gaps (q ds : List Nat) : List.range' (q.length + 1) ds.length = gaps [] q ds := by
  induction ds generalizing q with
  | nil => rfl
  | cons d ds ih =>
    rw [List.length_cons, List.range'_succ, gaps, ← ih (d :: q), gap_nil, List.length_cons]

theorem getLast?_gaps (p q ds : List Nat) :
    (gap p q :: gaps p q ds).getLast? = some (gap p (ds.reverse ++ q)) := by
  induction ds generalizing q with
  | nil => rfl
  | cons d ds ih =>
    rw [gaps, List.getLast?_cons_cons, ih, List.reverse_cons, List.append_assoc, List.singleton_append]

/-- The points are read from the left, so a row is about the sequences backwards. -/
theorem distanceCodes_eq (s t : List Nat) : distanceCodes s t = gap s.reverse t.reverse := by
  have hstart : List.range (t.length + 1) = gap [] [] :: gaps [] [] t := by
    rw [List.range_eq_range', List.range'_succ, gap_nil, ← range'_eq_gaps]
    rfl
  rw [distanceCodes, hstart, foldl_nextRow, getLast?_gaps, List.append_nil, List.append_nil, Option.getD_some]

/-- **The distance of two texts** is the least number of insertions, deletions and replacements of code
points that lead from the one to the other. -/
theorem distance_isLeast (s t : Text) : IsLeast {n | Edits n s.codes t.codes} (distance s t) := by
  have hleast := gap_isLeast s.codes.reverse t.codes.reverse
  simp only [edits_reverse_iff] at hleast
  rw [distance, distanceCodes_eq]
  exact hleast

end PageBoot.Text
