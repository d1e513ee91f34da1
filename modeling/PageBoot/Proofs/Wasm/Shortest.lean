import PageBoot.Proofs.Text.Searching
import PageBoot.Proofs.Wasm.Leb128
import Mathlib.Tactic.IntervalCases

/-!
Integers of 32 bits in their LEB128 forms. `Denotes` says which integer some bytes stand for, in
either form, however many bytes they are. The readers take in what denotes an integer of 32 bits in
at most five bytes and nothing else, and the written forms are the shortest that denote it. On
machine words the forms are written by loops, round by round, which come to an end with those very
bytes.
-/

namespace PageBoot.Wasm

/-! ## What bytes stand for -/

section
variable {α : Type} [Semiring α] {worth : Nat → α}

/-- Bytes denote an integer in groups of seven bits, the least group first. All but the last byte
are marked; what the last one is worth is the difference between the forms. -/
inductive Denotes (worth : Nat → α) : Text → α → Prop
  | last {b : UInt8} (hb : b.toNat < 128) : Denotes worth [b] (worth b.toNat)
  | group {b : UInt8} {t : Text} {v : α} (hb : 128 ≤ b.toNat) (ht : Denotes worth t v) :
      Denotes worth (b :: t) ((b.toNat % 128 : Nat) + 128 * v)

theorem Denotes.length_pos {t : Text} {v : α} (h : Denotes worth t v) : 0 < t.length := by
  cases h <;> exact Nat.succ_pos _

theorem denotes_unmarked_iff {b : UInt8} {t : Text} {v : α} (hb : b.toNat < 128) :
    Denotes worth (b :: t) v ↔ t = [] ∧ v = worth b.toNat := by
  constructor
  · intro h
    cases h with
    | last => exact ⟨rfl, rfl⟩
    | group hmarked => omega
  · rintro ⟨rfl, rfl⟩
    exact .last hb

theorem denotes_marked_iff {b : UInt8} {t : Text} {v : α} (hb : 128 ≤ b.toNat) :
    Denotes worth (b :: t) v ↔
      ∃ u, Denotes worth t u ∧ v = (b.toNat % 128 : Nat) + 128 * u := by
  constructor
  · intro h
    cases h with
    | last hlast => omega
    | group _ ht => exact ⟨_, ht, rfl⟩
  · rintro ⟨u, hu, rfl⟩
    exact .group hb hu

/-- The bytes denote the integer, and no fewer bytes do. -/
structure Shortest (worth : Nat → α) (t : Text) (v : α) : Prop where
  denotes : Denotes worth t v
  length_le : ∀ u, Denotes worth u v → t.length ≤ u.length

end

/-- Bit six of the last byte is the sign of a signed integer. -/
def signed (low : Nat) : Int := if low < 64 then low else (low : Int) - 128

/-! ## What the readers take in -/

section
variable {α : Type} [CommSemiring α] {worth : Nat → α} {fits : Nat → α → Prop}
  {read : Nat → Text → Option (α × Text)}

/-- A reader that takes in one group after another, five at most. `fits k v` says that `v` has room
behind `k` groups. -/
structure Groupwise (worth : Nat → α) (fits : Nat → α → Prop)
    (read : Nat → Text → Option (α × Text)) : Prop where
  nil (k : Nat) : read (7 * k) [] = none
  full (t : Text) : read (7 * 5) t = none
  last {k : Nat} {b : UInt8} (hk : k ≤ 4) (hb : b.toNat < 128) (t rest : Text) (x : α) :
    read (7 * k) (b :: t) = some (x, rest) ↔
      t = rest ∧ fits k (worth b.toNat) ∧ x = worth b.toNat * 2 ^ (7 * k)
  group {k : Nat} {b : UInt8} (hk : k ≤ 4) (hb : 128 ≤ b.toNat) (t rest : Text) (x : α) :
    read (7 * k) (b :: t) = some (x, rest) ↔
      ∃ y, read (7 * (k + 1)) t = some (y, rest) ∧ x = (b.toNat % 128 : Nat) * 2 ^ (7 * k) + y
  room {k low : Nat} (hk : k < 4) (hlow : low < 128) (v : α) :
    fits k (low + 128 * v) ↔ fits (k + 1) v

theorem Groupwise.read_eq_some_iff (h : Groupwise worth fits read) {k : Nat} (hk : k ≤ 5)
    {t rest : Text} {x : α} :
    read (7 * k) t = some (x, rest) ↔
      ∃ s v, t = s ++ rest ∧ Denotes worth s v ∧ s.length + k ≤ 5 ∧ fits k v ∧
        x = v * 2 ^ (7 * k) := by
  induction t generalizing k x with
  | nil =>
    rw [h.nil]
    constructor
    · nofun
    · rintro ⟨s, v, hs, hv, -⟩
      obtain ⟨rfl, -⟩ := List.append_eq_nil_iff.mp hs.symm
      exact absurd hv.length_pos (Nat.lt_irrefl 0)
  | cons b t ih =>
    rcases Nat.lt_or_ge 4 k with hfull | hroom
    · obtain rfl : k = 5 := by omega
      rw [h.full]
      constructor
      · nofun
      · rintro ⟨s, v, -, hv, hlen, -⟩
        have hpos := hv.length_pos
        omega
    rcases Nat.lt_or_ge b.toNat 128 with hb | hb
    · rw [h.last hroom hb]
      constructor
      · rintro ⟨rfl, hfits, rfl⟩
        refine ⟨[b], _, rfl, .last hb, ?_, hfits, rfl⟩
        rw [List.length_singleton]
        omega
      · rintro ⟨s, v, hs, hv, -, hfits, rfl⟩
        cases s with
        | nil => exact absurd hv.length_pos (Nat.lt_irrefl 0)
        | cons c s =>
          obtain ⟨rfl, rfl⟩ := List.cons_eq_cons.mp hs
          obtain ⟨rfl, rfl⟩ := (denotes_unmarked_iff hb).mp hv
          exact ⟨rfl, hfits, rfl⟩
    · have hlow : b.toNat % 128 < 128 := Nat.mod_lt _ (by decide)
      have hpow (v : α) : v * 2 ^ (7 * (k + 1)) = 128 * v * 2 ^ (7 * k) := by
        rw [Nat.mul_succ, pow_add]
        norm_num
        ring
      rw [h.group hroom hb]
      constructor
      · rintro ⟨y, hy, rfl⟩
        obtain ⟨s, v, rfl, hv, hlen, hfits, rfl⟩ := (ih (by omega)).mp hy
        have hpos := hv.length_pos
        refine ⟨b :: s, _, rfl, .group hb hv, ?_, (h.room (by omega) hlow v).mpr hfits, ?_⟩
        · rw [List.length_cons]
          omega
        · rw [hpow, add_mul]
      · rintro ⟨s, v, hs, hv, hlen, hfits, rfl⟩
        cases s with
        | nil => exact absurd hv.length_pos (Nat.lt_irrefl 0)
        | cons c s =>
          obtain ⟨rfl, rfl⟩ := List.cons_eq_cons.mp hs
          obtain ⟨u, hu, rfl⟩ := (denotes_marked_iff hb).mp hv
          have hpos := hu.length_pos
          rw [List.length_cons] at hlen
          have hfits' : fits (k + 1) u := (h.room (by omega) hlow u).mp hfits
          refine ⟨u * 2 ^ (7 * (k + 1)),
            (ih (by omega)).mpr ⟨s, u, rfl, hu, by omega, hfits', rfl⟩, ?_⟩
          rw [hpow, add_mul]

end

theorem groupwise_decodeU : Groupwise id (fun k n => n < 2 ^ (32 - 7 * k)) decodeUFrom where
  nil k := rfl
  full t := by cases t <;> simp [decodeUFrom]
  last {k b} hk hb t rest x := by
    have hfits : b.toNat < 2 ^ (32 - 7 * k) ↔ ¬ (7 * k > 28 ∨ 7 * k = 28 ∧ b.toNat ≥ 16) := by
      interval_cases k <;> omega
    simp only [decodeUFrom, Nat.mod_eq_of_lt hb, id, hfits, if_pos hb, Nat.shiftLeft_eq]
    split
    · next hover => simp [hover]
    · next hroom => simp [hroom, and_comm, eq_comm]
  group {k b} hk hb t rest x := by
    have hfull : 7 * k > 28 ∨ 7 * k = 28 ∧ b.toNat % 128 ≥ 16 →
        decodeUFrom (7 * (k + 1)) t = none := by
      intro h
      obtain rfl : k = 4 := by omega
      cases t <;> simp [decodeUFrom]
    simp only [decodeUFrom, if_neg (Nat.not_lt.mpr hb), Nat.shiftLeft_eq]
    split
    · next hover => simp [hfull hover]
    · simp [Nat.mul_add, eq_comm]
  room {k low} hk hlow n := by
    interval_cases k <;> simp <;> omega

theorem groupwise_decodeS :
    Groupwise signed (fun k v => -2 ^ (31 - 7 * k) ≤ v ∧ v < 2 ^ (31 - 7 * k)) decodeSFrom where
  nil k := rfl
  full t := by cases t <;> simp [decodeSFrom]
  last {k b} hk hb t rest x := by
    have hfits : (-2 ^ (31 - 7 * k) ≤ signed b.toNat ∧ signed b.toNat < 2 ^ (31 - 7 * k)) ↔
        ¬ (7 * k > 28 ∨ 7 * k = 28 ∧ 8 ≤ b.toNat ∧ b.toNat < 120) := by
      unfold signed
      interval_cases k <;> split <;> omega
    simp only [decodeSFrom, Nat.mod_eq_of_lt hb, hfits, if_pos hb, Int.shiftLeft_eq]
    split
    · next hover => simp [hover]
    · next hroom => simp [hroom, and_comm, eq_comm, signed]
  group {k b} hk hb t rest x := by
    have hfull : 7 * k > 28 ∨ 7 * k = 28 ∧ 8 ≤ b.toNat % 128 ∧ b.toNat % 128 < 120 →
        decodeSFrom (7 * (k + 1)) t = none := by
      intro h
      obtain rfl : k = 4 := by omega
      cases t <;> simp [decodeSFrom]
    simp only [decodeSFrom, if_neg (Nat.not_lt.mpr hb), Int.shiftLeft_eq]
    split
    · next hover => simp [hfull hover]
    · simp [Nat.mul_add, eq_comm]
  room {k low} hk hlow v := by
    interval_cases k <;> simp <;> omega

/-! ## Shortest forms -/

/-- If a group more makes at most one byte more, no bytes that denote an integer are fewer than those
it is written in. -/
theorem length_le_of_denotes {α : Type} [Semiring α] {worth : Nat → α} {encode : α → Text}
    (hlast : ∀ low < 128, (encode (worth low)).length ≤ 1)
    (hgroup : ∀ low < 128, ∀ v : α, (encode ((low : Nat) + 128 * v)).length ≤ (encode v).length + 1)
    {t : Text} {v : α} (h : Denotes worth t v) : (encode v).length ≤ t.length := by
  induction h with
  | last hb => exact hlast _ hb
  | @group b t v _ _ ih =>
    have hmore := hgroup (b.toNat % 128) (Nat.mod_lt _ (by decide)) v
    rw [List.length_cons]
    omega

theorem length_encodeU_le {t : Text} {n : Nat} (h : Denotes id t n) :
    (encodeU n).length ≤ t.length := by
  apply length_le_of_denotes _ _ h
  · intro low hlow
    simp [encodeU_of_lt hlow]
  · intro low hlow n
    rcases Nat.lt_or_ge (low + 128 * n) 128 with hshort | hlong
    · simp [encodeU_of_lt hshort]
    · have hdiv : (low + 128 * n) / 128 = n := by omega
      simp [encodeU_of_ge hlong, hdiv]

theorem length_encodeS_le {t : Text} {v : Int} (h : Denotes signed t v) :
    (encodeS v).length ≤ t.length := by
  apply length_le_of_denotes _ _ h
  · intro low hlow
    have hshort : IsShort (signed low) := by
      rw [isShort_iff, signed]
      split <;> omega
    simp [encodeS_of_short hshort]
  · intro low hlow v
    by_cases hshort : IsShort (low + 128 * v)
    · simp [encodeS_of_short hshort]
    · have hdiv : ((low : Int) + 128 * v) / 128 = v := by omega
      simp [encodeS_of_long hshort, hdiv]

/-! ## Loops on machine words -/

section
variable {ω : Type} {round : ω → UInt8 × Option ω} {v u : ω} {b : UInt8} {t : Text}

/-- Rounds of a loop from a word on come to an end, with the bytes they made. A round makes a byte,
and the word for the next round unless it is the last. -/
inductive Ends (round : ω → UInt8 × Option ω) : ω → Text → Prop
  | stop {v : ω} {b : UInt8} (h : round v = (b, none)) : Ends round v [b]
  | next {v u : ω} {b : UInt8} {t : Text} (h : round v = (b, some u)) (ht : Ends round u t) :
      Ends round v (b :: t)

theorem ends_iff_of_stop (h : round v = (b, none)) : Ends round v t ↔ t = [b] := by
  constructor
  · intro ht
    cases ht with
    | stop h' => simp_all
    | next h' => simp_all
  · rintro rfl
    exact .stop h

theorem ends_iff_of_next (h : round v = (b, some u)) :
    Ends round v t ↔ ∃ s, Ends round u s ∧ t = b :: s := by
  constructor
  · intro ht
    cases ht with
    | stop h' => simp_all
    | next h' hs =>
      obtain ⟨rfl, rfl⟩ : _ = b ∧ _ = u := by simpa [h'] using h
      exact ⟨_, hs, rfl⟩
  · rintro ⟨s, hs, rfl⟩
    exact .next h hs

end

/-- One round on an unsigned word. -/
def roundU (v : UInt32) : UInt8 × Option UInt32 :=
  if 0x80 ≤ v then (v.toUInt8 ||| 0x80, some (v >>> 7)) else (v.toUInt8, none)

/-- One round on a signed word, whose sign fills what is shifted in. The byte is the last when what
is left is but the sign that the byte itself shows. -/
def roundS (v : Int32) : UInt8 × Option Int32 :=
  let low := v.toUInt32.toUInt8 &&& 0x7F
  let rest := v >>> 7
  let isNegative := low &&& 0x40 ≠ 0
  if (rest = 0 ∧ ¬ isNegative) ∨ (rest = -1 ∧ isNegative) then (low, none)
  else (low ||| 0x80, some rest)

theorem mark_eq (b : UInt8) : b ||| 0x80 = UInt8.ofNat (b.toNat % 128 + 128) := by
  revert b
  exact forall_byte (by decide +kernel)

theorem low_eq (b : UInt8) : b &&& 0x7F = UInt8.ofNat (b.toNat % 128) := by
  revert b
  exact forall_byte (by decide +kernel)

theorem sign_iff (b : UInt8) : (b &&& 0x7F) &&& 0x40 ≠ 0 ↔ 64 ≤ b.toNat % 128 := by
  revert b
  exact forall_byte (by decide +kernel)

theorem roundU_eq (v : UInt32) :
    roundU v = if v.toNat < 128 then (UInt8.ofNat v.toNat, none)
      else (UInt8.ofNat (v.toNat % 128 + 128), some (v >>> 7)) := by
  have hlow : v.toUInt8.toNat % 128 = v.toNat % 128 := by
    rw [UInt32.toNat_toUInt8]
    omega
  have hle : 0x80 ≤ v ↔ ¬ v.toNat < 128 := by
    rw [UInt32.le_iff_toNat_le]
    exact Nat.not_lt.symm
  unfold roundU
  simp only [hle, mark_eq, hlow]
  exact ite_not _ _ _

theorem toNat_shiftRight_group (v : UInt32) : (v >>> 7).toNat = v.toNat / 128 := by
  rw [UInt32.toNat_shiftRight]
  exact Nat.shiftRight_eq_div_pow v.toNat 7

theorem toInt_shiftRight_group (w : Int32) : (w >>> 7).toInt = w.toInt / 128 := by
  have hcount : (7 : Int32).toBitVec.smod 32 = 7#32 := by decide
  rw [← Int32.toInt_toBitVec, Int32.toBitVec_shiftRight, hcount, BitVec.sshiftRight',
    BitVec.toInt_sshiftRight, Int.shiftRight_eq_div_pow]
  rfl

theorem toNat_word_mod (w : Int32) : w.toUInt32.toUInt8.toNat % 128 = (w.toInt % 128).toNat := by
  have hword := BitVec.toInt_eq_toNat_cond w.toBitVec
  rw [UInt32.toNat_toUInt8, ← UInt32.toNat_toBitVec, Int32.toBitVec_toUInt32, ← Int32.toInt_toBitVec]
  split at hword <;> omega

theorem roundS_eq (w : Int32) :
    roundS w = if (w.toInt / 128 = 0 ∧ (w.toInt % 128).toNat < 64) ∨
        (w.toInt / 128 = -1 ∧ 64 ≤ (w.toInt % 128).toNat) then
        (UInt8.ofNat (w.toInt % 128).toNat, none)
      else (UInt8.ofNat ((w.toInt % 128).toNat + 128), some (w >>> 7)) := by
  have hrest (n : Int32) : w >>> 7 = n ↔ w.toInt / 128 = n.toInt := by
    rw [← toInt_shiftRight_group, Int32.toInt_inj]
  have hlow : (UInt8.ofNat (w.toInt % 128).toNat).toNat % 128 = (w.toInt % 128).toNat := by
    rw [toNat_last (by omega)]
    omega
  -- the sign is read off before the byte it stands in is rewritten
  simp only [roundS, sign_iff]
  simp only [toNat_word_mod, hrest, mark_eq, low_eq, Nat.not_le, hlow]
  rfl

theorem ends_roundU {v : UInt32} {t : Text} : Ends roundU v t ↔ t = encodeU v.toNat := by
  induction hn : v.toNat using encodeU.induct generalizing v t with
  | case1 n hlt =>
    subst hn
    rw [encodeU_of_lt hlt, ends_iff_of_stop (by rw [roundU_eq, if_pos hlt])]
  | case2 n hge ih =>
    subst hn
    rw [encodeU_of_ge (Nat.le_of_not_lt hge), ends_iff_of_next (by rw [roundU_eq, if_neg hge])]
    simp [ih (toNat_shiftRight_group v)]

theorem ends_roundS {w : Int32} {t : Text} : Ends roundS w t ↔ t = encodeS w.toInt := by
  induction hv : w.toInt using groups_induction generalizing w t with
  | short v hshort =>
    subst hv
    rw [encodeS_of_short hshort, ends_iff_of_stop (by rw [roundS_eq]; exact if_pos hshort)]
  | long v hlong ih =>
    subst hv
    rw [encodeS_of_long hlong, ends_iff_of_next (by rw [roundS_eq]; exact if_neg hlong)]
    simp [ih (toInt_shiftRight_group w)]

/-! ## Both forms -/

/-- The reader takes in bytes that denote an integer with room, five at most, and leaves what
follows them; it refuses all else. -/
def IsReader {α : Type} [Semiring α] (worth : Nat → α) (fits : α → Prop)
    (read : Text → Option (α × Text)) : Prop :=
  ∀ t x rest, read t = some (x, rest) ↔
    ∃ s, t = s ++ rest ∧ Denotes worth s x ∧ s.length ≤ 5 ∧ fits x

theorem Groupwise.isReader {α : Type} [CommSemiring α] {worth : Nat → α} {fits : Nat → α → Prop}
    {read : Nat → Text → Option (α × Text)} (h : Groupwise worth fits read) :
    IsReader worth (fits 0) (read 0) := by
  intro t x rest
  have hread : read (7 * 0) t = some (x, rest) ↔ _ := h.read_eq_some_iff (Nat.zero_le 5)
  simpa using hread

theorem isReader_decodeU : IsReader id (· < 2 ^ 32) decodeU := groupwise_decodeU.isReader

theorem isReader_decodeS : IsReader signed (fun v => -2 ^ 31 ≤ v ∧ v < 2 ^ 31) decodeS :=
  groupwise_decodeS.isReader

/-- What a word is written as. -/
structure Writing {ω α : Type} [Semiring α] (worth : Nat → α) (round : ω → UInt8 × Option ω)
    (read : Text → Option (α × Text)) (word : ω) (value : α) (t : Text) : Prop where
  /-- The rounds come to an end, and have made these bytes. -/
  ends : ∀ u, Ends round word u ↔ u = t
  /-- The word is read back, and what follows it is left. -/
  read_append : ∀ rest, read (t ++ rest) = some (value, rest)
  shortest : Shortest worth t value
  length_le : t.length ≤ 5

theorem IsReader.writing {ω α : Type} [Semiring α] {worth : Nat → α} {fits : α → Prop}
    {read : Text → Option (α × Text)} (h : IsReader worth fits read)
    {round : ω → UInt8 × Option ω} {word : ω} {value : α} {t : Text}
    (hends : ∀ u, Ends round word u ↔ u = t)
    (hread : ∀ rest, read (t ++ rest) = some (value, rest))
    (hle : ∀ u, Denotes worth u value → t.length ≤ u.length) :
    Writing worth round read word value t := by
  obtain ⟨s, hs, hdenotes, hlen, -⟩ := (h (t ++ []) value []).mp (hread [])
  obtain rfl : t = s := List.append_cancel_right hs
  exact ⟨hends, hread, ⟨hdenotes, hle⟩, hlen⟩

/-- **Words are read in any form and written in the shortest.** The readers take in all that denotes a word
in at most five bytes and nothing else. The loops that write a word end, and what they have written is read
back and is no longer than anything else that denotes the word. -/
theorem words_written_shortest :
    IsReader id (· < 2 ^ 32) decodeU ∧
      IsReader signed (fun v => -2 ^ 31 ≤ v ∧ v < 2 ^ 31) decodeS ∧
      (∀ v : UInt32, Writing id roundU decodeU v v.toNat (encodeU v.toNat)) ∧
      ∀ w : Int32, Writing signed roundS decodeS w w.toInt (encodeS w.toInt) := by
  refine ⟨isReader_decodeU, isReader_decodeS, ?_, ?_⟩
  · intro v
    apply isReader_decodeU.writing
    · intro t
      exact ends_roundU
    · intro rest
      exact decodeU_encodeU v.toNat_lt rest
    · intro t ht
      exact length_encodeU_le ht
  · intro w
    apply isReader_decodeS.writing
    · intro t
      exact ends_roundS
    · intro rest
      exact decodeS_encodeS ⟨w.le_toInt, w.toInt_lt⟩ rest
    · intro t ht
      exact length_encodeS_le ht

end PageBoot.Wasm
