import Mathlib.Data.List.Infix
import PageBoot.Proofs.Lists
import PageBoot.Text.Case

/-!
Reading and trimming texts. A text is put together again from its scalars, and a run of them that is
taken out reads as it did inside: no sequence of it goes on behind it, and none begins that was not
there. So what trimming leaves is a part of the text that has nothing more to trim.
-/

namespace PageBoot.Text

/-! ## Sequences -/

section Sequence

variable {a b c d : UInt8} {t : Text} {n k : Nat}

theorem toNat_ofNat {n : Nat} (h : n.isValidChar) : (Char.ofNat n).val.toNat = n := by
  rw [Char.ofNat, dif_pos h]
  rfl

theorem ofNat_eq {b : UInt8} {m : Nat} (h : m = b.toNat) : UInt8.ofNat m = b := by
  rw [h, UInt8.ofNat_toNat]

theorem toNat_of_isTail (h : isTail b = true) : 128 ≤ b.toNat ∧ b.toNat ≤ 191 := by
  simpa [isTail, UInt8.le_iff_toNat_le] using h

theorem toNat_range {lo hi : UInt8} (h : lo ≤ a ∧ a ≤ hi) : lo.toNat ≤ a.toNat ∧ a.toNat ≤ hi.toNat :=
  h.imp UInt8.le_iff_toNat_le.mp UInt8.le_iff_toNat_le.mp

theorem encode_one (ha : a < 0x80) : String.utf8EncodeChar (Char.ofNat a.toNat) = [a] := by
  have hn : a.toNat < 128 := UInt8.lt_iff_toNat_lt.mp ha
  rw [String.utf8EncodeChar, toNat_ofNat (.inl (by omega)), if_pos (by omega), UInt8.ofNat_toNat]

theorem encode_two (ha : 0xC2 ≤ a ∧ a ≤ 0xDF) (hb : isTail b = true) :
    String.utf8EncodeChar (Char.ofNat (a.toNat % 32 * 64 + low6 b)) = [a, b] := by
  have ha := toNat_range ha
  have hb := toNat_of_isTail hb
  simp only [UInt8.reduceToNat] at ha
  rw [String.utf8EncodeChar, low6, toNat_ofNat (.inl (by omega)), if_neg (by omega), if_pos (by omega),
    ofNat_eq (b := a) (by omega), ofNat_eq (b := b) (by omega)]

/-- The second byte of a long sequence, between bounds that a first byte `x` or `y` makes narrower. -/
theorem toNat_second {x y lo hi : UInt8}
    (h : (if a = x then lo else 0x80) ≤ b ∧ b ≤ (if a = y then hi else 0xBF))
    (hlo : 128 ≤ lo.toNat) (hhi : hi.toNat ≤ 191) :
    (128 ≤ b.toNat ∧ b.toNat ≤ 191) ∧ (a.toNat = x.toNat → lo.toNat ≤ b.toNat) ∧
      (a.toNat = y.toNat → b.toNat ≤ hi.toNat) := by
  have hrange := toNat_range h
  simp only [apply_ite UInt8.toNat, ← UInt8.toNat_inj, UInt8.reduceToNat] at hrange
  grind

theorem encode_three (ha : 0xE0 ≤ a ∧ a ≤ 0xEF)
    (hb : (if a = 0xE0 then 0xA0 else 0x80) ≤ b ∧ b ≤ (if a = 0xED then 0x9F else 0xBF))
    (hc : isTail c = true) :
    String.utf8EncodeChar (Char.ofNat ((a.toNat % 16 * 64 + low6 b) * 64 + low6 c)) = [a, b, c] := by
  have ha := toNat_range ha
  have hb := toNat_second hb (by decide) (by decide)
  have hc := toNat_of_isTail hc
  simp only [UInt8.reduceToNat] at ha hb
  rw [low6, low6, String.utf8EncodeChar, toNat_ofNat (by rw [Nat.isValidChar]; omega), if_neg (by omega),
    if_neg (by omega), if_pos (by omega), ofNat_eq (b := a) (by omega), ofNat_eq (b := b) (by omega),
    ofNat_eq (b := c) (by omega)]

theorem encode_four (ha : 0xF0 ≤ a ∧ a ≤ 0xF4)
    (hb : (if a = 0xF0 then 0x90 else 0x80) ≤ b ∧ b ≤ (if a = 0xF4 then 0x8F else 0xBF))
    (hc : isTail c = true) (hd : isTail d = true) :
    String.utf8EncodeChar (Char.ofNat (((a.toNat % 8 * 64 + low6 b) * 64 + low6 c) * 64 + low6 d)) =
      [a, b, c, d] := by
  have ha := toNat_range ha
  have hb := toNat_second hb (by decide) (by decide)
  have hc := toNat_of_isTail hc
  have hd := toNat_of_isTail hd
  simp only [UInt8.reduceToNat] at ha hb
  rw [low6, low6, low6, String.utf8EncodeChar, toNat_ofNat (by rw [Nat.isValidChar]; omega),
    if_neg (by omega), if_neg (by omega), if_neg (by omega), ofNat_eq (b := a) (by omega),
    ofNat_eq (b := b) (by omega), ofNat_eq (b := c) (by omega), ofNat_eq (b := d) (by omega)]

/-- The bytes of a character, the first apart; what is behind them does not change how they read. -/
structure Sequence (a : UInt8) (n : Nat) (tail : Text) : Prop where
  bytes : String.utf8EncodeChar (Char.ofNat n) = a :: tail
  stable u : sequence? a (tail ++ u) = some (n, tail.length)

theorem exists_sequence (h : sequence? a t = some (n, k)) :
    ∃ tail rest, t = tail ++ rest ∧ k = tail.length ∧ Sequence a n tail := by
  unfold sequence? at h
  split at h
  · next ha =>
    cases h
    exact ⟨[], t, rfl, rfl, encode_one ha, fun u => by simp only [sequence?, if_pos ha, List.length_nil]⟩
  split at h
  · next ha hrange =>
    match t, h with
    | b :: t, h =>
      obtain ⟨hb, heq⟩ := Option.ite_none_right_eq_some.mp h
      cases heq
      exact ⟨[b], t, rfl, rfl, encode_two hrange hb, fun u => by
        simp only [sequence?, List.cons_append, if_neg ha, if_pos hrange, if_pos hb]
        rfl⟩
  split at h
  · next ha htwo hrange =>
    match t, h with
    | b :: c :: t, h =>
      obtain ⟨hb, heq⟩ := Option.ite_none_right_eq_some.mp h
      cases heq
      exact ⟨[b, c], t, rfl, rfl, encode_three hrange ⟨hb.1, hb.2.1⟩ hb.2.2, fun u => by
        simp only [sequence?, List.cons_append, if_neg ha, if_neg htwo, if_pos hrange, if_pos hb]
        rfl⟩
  split at h
  · next ha htwo hthree hrange =>
    match t, h with
    | b :: c :: d :: t, h =>
      obtain ⟨hb, heq⟩ := Option.ite_none_right_eq_some.mp h
      cases heq
      exact ⟨[b, c, d], t, rfl, rfl, encode_four hrange ⟨hb.1, hb.2.1⟩ hb.2.2.1 hb.2.2.2, fun u => by
        simp only [sequence?, List.cons_append, if_neg ha, if_neg htwo, if_neg hthree, if_pos hrange,
          if_pos hb]
        rfl⟩
  · cases h

/-- A sequence would be there with more behind it, too. -/
theorem sequence?_of_append {u : Text} (h : sequence? a (t ++ u) = none) : sequence? a t = none := by
  rw [Option.eq_none_iff_forall_ne_some]
  rintro ⟨n, k⟩ hsome
  obtain ⟨tail, rest, rfl, rfl, hsequence⟩ := exists_sequence hsome
  rw [List.append_assoc, hsequence.stable] at h
  cases h

end Sequence

/-! ## Readings -/

/-- How a text reads. -/
inductive Reads : Text → List Scalar → Prop
  | nil : Reads [] []
  | char {a : UInt8} {n : Nat} {tail t : Text} {ss : List Scalar} (h : Sequence a n tail)
      (hrest : Reads t ss) : Reads (a :: (tail ++ t)) (.char (Char.ofNat n) :: ss)
  | stray {a : UInt8} {t : Text} {ss : List Scalar} (h : sequence? a t = none) (hrest : Reads t ss) :
      Reads (a :: t) (.stray a :: ss)

section Reads

variable {t : Text} {ss xs ys : List Scalar}

theorem scalarsAfter_eq (k : Nat) (t : Text) : scalarsAfter k t = scalars (t.drop k) := by
  induction t generalizing k with
  | nil => cases k <;> rfl
  | cons a t ih =>
    cases k with
    | zero => rfl
    | succ k => exact ih k

theorem reads_scalars : (t : Text) → Reads t (scalars t)
  | [] => .nil
  | a :: t => by
    cases h : sequence? a t with
    | none =>
      have hread : scalars (a :: t) = .stray a :: scalars t := by simp only [scalars, scalarsAfter, h]
      rw [hread]
      exact .stray h (reads_scalars t)
    | some found =>
      obtain ⟨n, k⟩ := found
      obtain ⟨tail, rest, htext, rfl, hsequence⟩ := exists_sequence h
      have hshort : rest.length ≤ t.length := by simp [htext]
      have hread : scalars (a :: t) = .char (Char.ofNat n) :: scalars rest := by
        simp only [scalars, scalarsAfter, h]
        rw [htext, scalarsAfter_eq, List.drop_left]
        rfl
      rw [hread, htext]
      exact .char hsequence (reads_scalars rest)
termination_by t => t.length
decreasing_by
  · exact Nat.lt_succ_self t.length
  · exact Nat.lt_succ_of_le hshort

theorem Reads.scalars_eq (h : Reads t ss) : scalars t = ss := by
  induction h with
  | nil => rfl
  | char h hrest ih =>
    simp only [scalars, scalarsAfter, h.stable]
    rw [scalarsAfter_eq, List.drop_left, ih]
  | stray h hrest ih =>
    simp only [scalars, scalarsAfter, h]
    exact congrArg _ ih

theorem Reads.ofScalars_eq (h : Reads t ss) : ofScalars ss = t := by
  induction h with
  | nil => rfl
  | char h hrest ih => simpa [ofScalars, Scalar.bytes, h.bytes] using ih
  | stray h hrest ih => simpa [ofScalars, Scalar.bytes] using ih

@[simp] theorem ofScalars_append (xs ys : List Scalar) :
    ofScalars (xs ++ ys) = ofScalars xs ++ ofScalars ys := List.flatMap_append

/-- Both parts of a reading are readings. -/
theorem Reads.split (h : Reads t (xs ++ ys)) : Reads (ofScalars xs) xs ∧ Reads (ofScalars ys) ys := by
  induction xs generalizing t with
  | nil =>
    have hys : Reads t ys := h
    exact ⟨.nil, by rwa [hys.ofScalars_eq]⟩
  | cons x xs ih =>
    cases h with
    | char h hrest =>
      obtain ⟨hxs, hys⟩ := ih hrest
      refine ⟨?_, hys⟩
      have htext : ofScalars (.char (Char.ofNat _) :: xs) = _ :: (_ ++ ofScalars xs) :=
        congrArg (· ++ ofScalars xs) h.bytes
      rw [htext]
      exact .char h hxs
    | stray h hrest =>
      obtain ⟨hxs, hys⟩ := ih hrest
      rw [← hrest.ofScalars_eq] at h
      exact ⟨.stray (sequence?_of_append ((congrArg _ (ofScalars_append xs ys)).symm.trans h)) hxs, hys⟩

end Reads

theorem ofScalars_scalars (t : Text) : ofScalars (scalars t) = t := (reads_scalars t).ofScalars_eq

/-! ## Trimming -/

theorem exists_scalars_trim (t : Text) : ∃ front back, scalars t = front ++ scalars (trim t) ++ back ∧
    scalars (trim t) = ((scalars t).dropWhile isBlank).rdropWhile isBlank := by
  obtain ⟨front, hfront⟩ := List.dropWhile_suffix (l := scalars t) isBlank
  obtain ⟨back, hback⟩ := List.rdropWhile_prefix isBlank ((scalars t).dropWhile isBlank)
  have hsplit : scalars t = front ++ (((scalars t).dropWhile isBlank).rdropWhile isBlank ++ back) := by
    rw [hback, hfront]
  have hread := reads_scalars t
  rw [hsplit] at hread
  have hmiddle : scalars (trim t) = ((scalars t).dropWhile isBlank).rdropWhile isBlank :=
    hread.split.2.split.1.scalars_eq
  exact ⟨front, back, by rw [hmiddle, List.append_assoc]; exact hsplit, hmiddle⟩

theorem trim_isInfix (t : Text) : trim t <:+: t := by
  obtain ⟨front, back, hsplit, -⟩ := exists_scalars_trim t
  refine ⟨ofScalars front, ofScalars back, ?_⟩
  have htext := congrArg ofScalars hsplit
  simp only [ofScalars_append, ofScalars_scalars] at htext
  exact htext.symm

theorem trim_trim (t : Text) : trim (trim t) = trim t := by
  obtain ⟨-, -, -, hmiddle⟩ := exists_scalars_trim t
  have hagain :
      trim (trim t) = ofScalars (((scalars (trim t)).dropWhile isBlank).rdropWhile isBlank) := rfl
  rw [hagain, hmiddle, List.dropWhile_rdropWhile, List.rdropWhile_idempotent]
  rfl

theorem not_mem_trim {b : UInt8} {t : Text} (h : b ∉ t) : b ∉ trim t :=
  fun hb => h ((trim_isInfix t).subset hb)

end PageBoot.Text
