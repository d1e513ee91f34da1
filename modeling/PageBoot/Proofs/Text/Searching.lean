import Mathlib.Data.Bool.AllAny
import Mathlib.Data.List.Infix
import PageBoot.Text.Basic

/-!
Searching and cutting texts. What is searched for is found at its first occurrence, `FirstBehind`,
which no occurrence overlaps that a separator would have to stand in; a text is cut at its first
separator.
-/

namespace PageBoot

/-- What holds of the numbers below 256 holds of all bytes. -/
theorem forall_byte {P : UInt8 → Prop} (h : ∀ n : Nat, n < 256 → P (UInt8.ofNat n)) (b : UInt8) : P b := by
  have hb := h b.toNat b.toNat_lt
  rwa [UInt8.ofNat_toNat] at hb

namespace Text

/-! ## Occurrences -/

theorem includes_iff {t needle : Text} : t.includes needle = true ↔ needle <:+: t := by
  unfold includes
  induction t with
  | nil =>
    simp only [find?, List.infix_nil]
    split <;> simp_all
  | cons b t ih =>
    rw [List.infix_cons_iff, ← ih, ← List.isPrefixOf_iff_prefix, find?]
    split
    · simp [*]
    · simp [*]

/-- `needle` stands behind `p`, and nowhere before that. -/
def FirstBehind (needle p : Text) : Prop := ∀ q r, p ++ needle = q ++ needle ++ r → r = []

theorem FirstBehind.tail {needle p : Text} {b : UInt8} (h : FirstBehind needle (b :: p)) :
    FirstBehind needle p := by
  intro q r hq
  exact h (b :: q) r (by simp [hq])

/-- It does not begin before. -/
theorem FirstBehind.not_prefix_cons {needle p : Text} {b : UInt8} (h : FirstBehind needle (b :: p)) (t : Text) :
    ¬ needle <+: b :: (p ++ needle ++ t) := by
  intro hprefix
  have hshort : needle.length ≤ (b :: (p ++ needle)).length := by simp; omega
  have hinner : needle <+: b :: (p ++ needle) :=
    List.prefix_of_prefix_length_le hprefix ⟨t, by simp⟩ hshort
  obtain ⟨r, hr⟩ := hinner
  have hnil : r = [] := h [] r (by simp [hr])
  have hlength := congrArg List.length hr
  simp [hnil] at hlength
  omega

theorem FirstBehind.cons {needle p : Text} {b : UInt8} (h : FirstBehind needle p)
    (hb : ¬ needle <+: b :: (p ++ needle)) : FirstBehind needle (b :: p) := by
  intro q r hq
  cases q with
  | nil => exact absurd ⟨r, hq.symm⟩ hb
  | cons c q => exact h q r (List.cons.inj hq).2

/-- No occurrence reaches over a separator that is not in it. -/
theorem FirstBehind.append {needle a p : Text} {sep : UInt8} (hsep : sep ∉ needle) (ha : ¬ needle <:+: a)
    (h : FirstBehind needle p) : FirstBehind needle (a ++ sep :: p) := by
  have hover (a t : Text) (ha : ¬ needle <:+: a) : ¬ needle <+: a ++ sep :: t := by
    intro hprefix
    rcases Nat.lt_or_ge a.length needle.length with hlong | hshort
    · have hreach : a ++ [sep] <+: needle :=
        List.prefix_of_prefix_length_le ⟨t, by simp⟩ hprefix (by simp; omega)
      exact hsep (hreach.subset (by simp))
    · exact ha (List.prefix_of_prefix_length_le hprefix (List.prefix_append a _) hshort).isInfix
  induction a with
  | nil => exact h.cons (hover [] _ ha)
  | cons b a ih =>
    have hinner : ¬ needle <:+: a := fun hin => ha (List.infix_cons hin)
    refine (ih hinner).cons ?_
    rw [List.append_assoc, ← List.cons_append]
    exact hover (b :: a) _ ha

/-- What ends with a byte that is not before stands first. -/
theorem firstBehind_of_last {w p : Text} {c : UInt8} (hw : c ∉ w) (hp : c ∉ p) :
    FirstBehind (w ++ [c]) p := by
  intro q r hq
  have hsplit : (p ++ w) ++ c :: [] = (q ++ w) ++ c :: r := by simpa using hq
  have hnone : c ∉ p ++ w := by simp [hp, hw]
  exact ((List.append_cons_inj_of_notMem hnone List.not_mem_nil).mp hsplit).2.2.symm

theorem FirstBehind.find?_eq {needle p : Text} (h : FirstBehind needle p) (t : Text) :
    find? needle (p ++ needle ++ t) = some p.length := by
  induction p with
  | nil =>
    have hprefix := List.prefix_append needle t
    rw [List.nil_append]
    cases hcase : needle ++ t with
    | nil =>
      rw [(List.append_eq_nil_iff.mp hcase).1]
      rfl
    | cons b u =>
      rw [hcase, ← List.isPrefixOf_iff_prefix] at hprefix
      simp only [find?, hprefix, if_true, List.length_nil]
  | cons b p ih =>
    have hno : needle.isPrefixOf (b :: (p ++ needle ++ t)) = false := by
      rw [Bool.eq_false_iff, Ne, List.isPrefixOf_iff_prefix]
      exact h.not_prefix_cons t
    simp only [List.cons_append, find?, hno, Bool.false_eq_true, if_false, ih h.tail,
      Option.map_some, List.length_cons]

theorem firstBehind_nil (needle : Text) : FirstBehind needle [] := by
  intro q r hq
  have hlength := congrArg List.length hq
  simp only [List.nil_append, List.length_append] at hlength
  exact List.length_eq_zero_iff.mp (by omega)

/-- It does not stand before. -/
theorem FirstBehind.not_infix_before {needle p : Text} (hne : needle ≠ []) (h : FirstBehind needle p) :
    ¬ needle <:+: p := by
  rintro ⟨q, r, rfl⟩
  have hnil := h q (r ++ needle) (by simp)
  exact hne (List.append_eq_nil_iff.mp hnil).2

theorem find?_eq_none {needle t : Text} (h : ¬ needle <:+: t) : find? needle t = none := by
  cases hfind : find? needle t with
  | none => rfl
  | some i =>
    refine absurd (includes_iff.mp ?_) h
    rw [includes, hfind]
    rfl

/-- What a text holds is found in it where it stands first. -/
theorem exists_firstBehind {needle t : Text} (h : needle <:+: t) :
    ∃ p s, t = p ++ needle ++ s ∧ FirstBehind needle p := by
  induction t with
  | nil =>
    obtain rfl := List.infix_nil.mp h
    exact ⟨[], [], rfl, fun q r hq => (by simpa using hq : q = [] ∧ r = []).2⟩
  | cons b t ih =>
    by_cases hprefix : needle <+: b :: t
    · obtain ⟨s, hs⟩ := hprefix
      exact ⟨[], s, by simp [hs], firstBehind_nil needle⟩
    · obtain ⟨p, s, rfl, hfirst⟩ := ih ((List.infix_cons_iff.mp h).resolve_left hprefix)
      refine ⟨b :: p, s, rfl, fun q r hq => ?_⟩
      cases q with
      | nil =>
        refine absurd ⟨r ++ s, ?_⟩ hprefix
        rw [← List.append_assoc, ← List.nil_append needle, ← hq]
        simp
      | cons c q => exact hfirst q r (List.cons.inj hq).2

theorem firstBehind_of_find? {needle p : Text} (h : find? needle (p ++ needle) = some p.length) :
    FirstBehind needle p := by
  obtain ⟨q, s, hq, hfirst⟩ := exists_firstBehind (List.suffix_append p needle).isInfix
  rw [hq, hfirst.find?_eq s, Option.some.injEq] at h
  have hsame := List.append_inj (hq.trans (List.append_assoc q needle s)) h.symm
  rwa [hsame.1]

/-! ## Cuts -/

theorem cut_of_not_mem {sep : UInt8} {a : Text} (h : sep ∉ a) : cut sep a = (a, none) := by
  induction a with
  | nil => rfl
  | cons b a ih =>
    have hb : (b == sep) = false := by simpa using (List.ne_of_not_mem_cons h).symm
    simp only [cut, hb, Bool.false_eq_true, if_false, ih (List.not_mem_of_not_mem_cons h)]

theorem cut_append {sep : UInt8} {a : Text} (h : sep ∉ a) (t : Text) :
    cut sep (a ++ sep :: t) = (a, some t) := by
  induction a with
  | nil => simp [cut]
  | cons b a ih =>
    have hb : (b == sep) = false := by simpa using (List.ne_of_not_mem_cons h).symm
    simp only [List.cons_append, cut, hb, Bool.false_eq_true, if_false,
      ih (List.not_mem_of_not_mem_cons h)]

/-- What ends a piece: nothing more, or a separator. -/
def EndsAt (sep : UInt8) (t : Text) : Prop := t = [] ∨ ∃ u, t = sep :: u

theorem cut_fst_append {sep : UInt8} {a t : Text} (h : sep ∉ a) (ht : EndsAt sep t) :
    (cut sep (a ++ t)).1 = a := by
  rcases ht with rfl | ⟨u, rfl⟩
  · rw [List.append_nil, cut_of_not_mem h]
  · rw [cut_append h]

/-- Every text begins with the piece that is cut off. -/
theorem exists_cut (sep : UInt8) (t : Text) : ∃ a s, t = a ++ s ∧ sep ∉ a ∧ EndsAt sep s := by
  induction t with
  | nil => exact ⟨[], [], rfl, List.not_mem_nil, .inl rfl⟩
  | cons b t ih =>
    by_cases hb : b = sep
    · exact ⟨[], b :: t, rfl, List.not_mem_nil, .inr ⟨t, by rw [hb]⟩⟩
    · obtain ⟨a, s, rfl, ha, hs⟩ := ih
      exact ⟨b :: a, s, rfl, List.not_mem_cons_of_ne_of_not_mem (Ne.symm hb) ha, hs⟩

end Text

end PageBoot
