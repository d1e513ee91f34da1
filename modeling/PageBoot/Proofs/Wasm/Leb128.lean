import PageBoot.Wasm.Leb128
import Mathlib.Tactic.Ring

/-!
Reading integers back from their LEB128 form. An encoding is read up to its last byte, whatever
follows it; with `7 * k` bits already read there is room for the `32 - 7 * k` that are left.
-/

namespace PageBoot.Wasm

/-! ## Unsigned -/

theorem encodeU_of_lt {n : Nat} (h : n < 128) : encodeU n = [UInt8.ofNat n] := by
  rw [encodeU, if_pos h]

theorem encodeU_of_ge {n : Nat} (h : 128 ≤ n) :
    encodeU n = UInt8.ofNat (n % 128 + 128) :: encodeU (n / 128) := by
  rw [encodeU, if_neg (by omega)]

theorem encodeU_ne_nil (n : Nat) : encodeU n ≠ [] := by
  rcases Nat.lt_or_ge n 128 with h | h
  · simp [encodeU_of_lt h]
  · simp [encodeU_of_ge h]

/-- Low seven bits of a byte that is followed by others. -/
theorem toNat_continued (n : Nat) : (UInt8.ofNat (n % 128 + 128)).toNat = n % 128 + 128 := by
  rw [UInt8.toNat_ofNat']
  omega

theorem toNat_last {n : Nat} (h : n < 128) : (UInt8.ofNat n).toNat = n := by
  rw [UInt8.toNat_ofNat']
  omega

/-- A number that is not written in one byte has room for another group of seven bits. -/
theorem lt_of_room {k n : Nat} (hk : k ≤ 4) (h : n < 2 ^ (32 - 7 * k)) (hn : 16 ≤ n) : k < 4 := by
  rcases Nat.lt_or_ge k 4 with hlt | hge
  · exact hlt
  · obtain rfl : k = 4 := by omega
    norm_num at h
    omega

theorem div_lt_of_room {k n : Nat} (hk : k < 4) (h : n < 2 ^ (32 - 7 * k)) :
    n / 128 < 2 ^ (32 - 7 * (k + 1)) := by
  have hpow : 2 ^ (32 - 7 * k) = 2 ^ (32 - 7 * (k + 1)) * 128 := by
    rw [show (128 : Nat) = 2 ^ 7 from rfl, ← pow_add]
    congr 1
    omega
  rw [Nat.div_lt_iff_lt_mul (by decide)]
  omega

theorem decodeUFrom_encodeU {k n : Nat} (hk : k ≤ 4) (h : n < 2 ^ (32 - 7 * k)) (rest : Text) :
    decodeUFrom (7 * k) (encodeU n ++ rest) = some (n <<< (7 * k), rest) := by
  induction n using encodeU.induct generalizing k with
  | case1 n hn =>
    have hfits : ¬ (7 * k > 28 ∨ 7 * k = 28 ∧ n ≥ 16) := by
      rintro (hbig | ⟨heq, hge⟩)
      · omega
      · have := lt_of_room hk h hge
        omega
    simp only [encodeU_of_lt hn, List.singleton_append, decodeUFrom, toNat_last hn,
      Nat.mod_eq_of_lt hn, if_neg hfits, if_pos hn]
  | case2 n hn ih =>
    have hk' : k < 4 := lt_of_room hk h (by omega)
    have hfits : ¬ (7 * k > 28 ∨ 7 * k = 28 ∧ n % 128 ≥ 16) := by omega
    have hlow : (n % 128 + 128) % 128 = n % 128 := by omega
    have hrest := ih (k := k + 1) (by omega) (div_lt_of_room hk' h)
    rw [Nat.mul_add] at hrest
    simp only [encodeU_of_ge (Nat.le_of_not_lt hn), List.cons_append, decodeUFrom,
      toNat_continued, hlow, if_neg hfits, hrest]
    rw [if_neg (by omega)]
    have hsplit : n = 128 * (n / 128) + n % 128 := (Nat.div_add_mod n 128).symm
    simp only [Option.map_some, Nat.shiftLeft_eq, Nat.mul_one, pow_add, Option.some.injEq,
      Prod.mk.injEq, and_true]
    conv_rhs => rw [hsplit]
    ring

/-- An unsigned integer of 32 bits is read back, and what follows it is left. -/
theorem decodeU_encodeU {n : Nat} (h : n < 2 ^ 32) (rest : Text) :
    decodeU (encodeU n ++ rest) = some (n, rest) := by
  simpa [decodeU] using decodeUFrom_encodeU (k := 0) (by omega) h rest

/-- A number for which there is no room is refused, not cut short. -/
theorem decodeUFrom_encodeU_of_big {k n : Nat} (hk : k ≤ 4) (h : 2 ^ (32 - 7 * k) ≤ n)
    (rest : Text) : decodeUFrom (7 * k) (encodeU n ++ rest) = none := by
  induction n using encodeU.induct generalizing k with
  | case1 n hn =>
    have hlast : k = 4 := by
      have hpow : 2 ^ (32 - 7 * k) < 2 ^ 7 := by omega
      have := (Nat.pow_lt_pow_iff_right (by decide)).mp hpow
      omega
    have hfull : 7 * k > 28 ∨ 7 * k = 28 ∧ n ≥ 16 := by
      rw [hlast] at h ⊢
      exact .inr ⟨rfl, h⟩
    simp only [encodeU_of_lt hn, List.singleton_append, decodeUFrom, toNat_last hn,
      Nat.mod_eq_of_lt hn]
    rw [if_pos hfull]
  | case2 n hn ih =>
    simp only [encodeU_of_ge (Nat.le_of_not_lt hn), List.cons_append, decodeUFrom,
      toNat_continued]
    split
    · rfl
    · next hfits =>
      rw [if_neg (by omega)]
      rcases Nat.lt_or_ge k 4 with hlt | hge
      · have hdiv : 2 ^ (32 - 7 * (k + 1)) ≤ n / 128 := by
          rw [Nat.le_div_iff_mul_le (by decide), show (128 : Nat) = 2 ^ 7 from rfl, ← pow_add]
          rwa [show 32 - 7 * (k + 1) + 7 = 32 - 7 * k by omega]
        have hrest := ih (k := k + 1) hlt hdiv
        rw [Nat.mul_add] at hrest
        rw [hrest]
        rfl
      · obtain rfl : k = 4 := by omega
        have hnone : ∀ t : Text, decodeUFrom 35 t = none := by
          intro t
          cases t <;> simp [decodeUFrom]
        rw [show 7 * 4 + 7 = 35 from rfl, hnone]
        rfl

theorem decodeU_encodeU_of_big {n : Nat} (h : 2 ^ 32 ≤ n) (rest : Text) :
    decodeU (encodeU n ++ rest) = none := decodeUFrom_encodeU_of_big (k := 0) (by omega) h rest

/-! ## Signed -/

/-- Whether a signed integer is written in one byte. -/
def IsShort (v : Int) : Prop :=
  (v / 128 = 0 ∧ (v % 128).toNat < 64) ∨ (v / 128 = -1 ∧ 64 ≤ (v % 128).toNat)

theorem encodeS_of_short {v : Int} (h : IsShort v) : encodeS v = [UInt8.ofNat (v % 128).toNat] := by
  rw [encodeS]
  exact if_pos h

theorem encodeS_of_long {v : Int} (h : ¬ IsShort v) :
    encodeS v = UInt8.ofNat ((v % 128).toNat + 128) :: encodeS (v / 128) := by
  rw [encodeS]
  exact if_neg h

/-- Induction over the groups of seven bits that a signed integer is written in. -/
theorem groups_induction {motive : Int → Prop} (short : ∀ v, IsShort v → motive v)
    (long : ∀ v, ¬ IsShort v → motive (v / 128) → motive v) (v : Int) : motive v :=
  encodeS.induct motive short long v

theorem isShort_iff {v : Int} : IsShort v ↔ -64 ≤ v ∧ v < 64 := by
  unfold IsShort
  omega

/-- The value of the last byte. -/
theorem last_eq {v : Int} (h : IsShort v) :
    (if (v % 128).toNat < 64 then ((v % 128).toNat : Int) else ((v % 128).toNat : Int) - 128) = v := by
  unfold IsShort at h
  split <;> omega

theorem lt_of_signed_room {k : Nat} {v : Int} (hk : k ≤ 4)
    (h : -2 ^ (31 - 7 * k) ≤ v ∧ v < 2 ^ (31 - 7 * k)) (hv : v < -8 ∨ 8 ≤ v) : k < 4 := by
  rcases Nat.lt_or_ge k 4 with hlt | hge
  · exact hlt
  · obtain rfl : k = 4 := by omega
    norm_num at h
    omega

theorem div_signed_room {k : Nat} {v : Int} (hk : k < 4)
    (h : -2 ^ (31 - 7 * k) ≤ v ∧ v < 2 ^ (31 - 7 * k)) :
    -2 ^ (31 - 7 * (k + 1)) ≤ v / 128 ∧ v / 128 < 2 ^ (31 - 7 * (k + 1)) := by
  have hpow : (2 : Int) ^ (31 - 7 * k) = 2 ^ (31 - 7 * (k + 1)) * 128 := by
    rw [show (128 : Int) = 2 ^ 7 from rfl, ← pow_add]
    congr 1
    omega
  omega

theorem decodeSFrom_encodeS {k : Nat} {v : Int} (hk : k ≤ 4)
    (h : -2 ^ (31 - 7 * k) ≤ v ∧ v < 2 ^ (31 - 7 * k)) (rest : Text) :
    decodeSFrom (7 * k) (encodeS v ++ rest) = some (v <<< (7 * k), rest) := by
  induction v using groups_induction generalizing k with
  | short v hshort =>
    have hlow : (v % 128).toNat < 128 := by omega
    have hfits : ¬ (7 * k > 28 ∨ 7 * k = 28 ∧ 8 ≤ (v % 128).toNat ∧ (v % 128).toNat < 120) := by
      rintro (hbig | ⟨heq, hmiddle⟩)
      · omega
      · have := lt_of_signed_room hk h (by omega)
        omega
    simp only [encodeS_of_short hshort, List.singleton_append, decodeSFrom, toNat_last hlow,
      Nat.mod_eq_of_lt hlow, if_neg hfits, if_pos hlow, last_eq hshort]
  | long v hlong ih =>
    have hk' : k < 4 := by
      rw [isShort_iff] at hlong
      exact lt_of_signed_room hk h (by omega)
    have hlow : (v % 128).toNat < 128 := by omega
    have hbyte : (UInt8.ofNat ((v % 128).toNat + 128)).toNat = (v % 128).toNat + 128 := by
      rw [UInt8.toNat_ofNat']
      omega
    have hmod : ((v % 128).toNat + 128) % 128 = (v % 128).toNat := by omega
    have hfits : ¬ (7 * k > 28 ∨ 7 * k = 28 ∧ 8 ≤ (v % 128).toNat ∧ (v % 128).toNat < 120) := by
      omega
    have hrest := ih (k := k + 1) (by omega) (div_signed_room hk' h)
    rw [Nat.mul_add] at hrest
    simp only [encodeS_of_long hlong, List.cons_append, decodeSFrom, hbyte, hmod, if_neg hfits]
    rw [if_neg (by omega), hrest]
    have hsplit : v = 128 * (v / 128) + ((v % 128).toNat : Int) := by omega
    simp only [Option.map_some, Int.shiftLeft_eq, Nat.mul_one, Option.some.injEq, Prod.mk.injEq,
      and_true]
    conv_rhs => rw [hsplit]
    ring

/-- A signed integer of 32 bits is read back, and what follows it is left. -/
theorem decodeS_encodeS {v : Int} (h : -2 ^ 31 ≤ v ∧ v < 2 ^ 31) (rest : Text) :
    decodeS (encodeS v ++ rest) = some (v, rest) := by
  simpa [decodeS] using decodeSFrom_encodeS (k := 0) (by omega) h rest

end PageBoot.Wasm
