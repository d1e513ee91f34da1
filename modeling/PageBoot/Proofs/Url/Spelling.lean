import PageBoot.Proofs.Text.Searching
import PageBoot.Url.Escape

/-!
Percent escapes read back. What a text of escapes stands for is said by `Spells`, and what makes it
malformed by `Malformed`: a text is read exactly as what it spells (`unescape?_eq_some_iff`), and not
read exactly if it is malformed (`unescape?_eq_none_iff`). What is written by `escape` is read back in
the part it was written for (`unescape?_escape`).
-/

namespace PageBoot

namespace Url

theorem unescape?_escaped (part : Part) {x y hi lo : UInt8} (hx : Text.hexDigit? x = some hi)
    (hy : Text.hexDigit? y = some lo) (rest : Text) :
    unescape? part (37 :: x :: y :: rest) =
      if escapeAllowed part (hi * 16 + lo) then (unescape? part rest).map ((hi * 16 + lo) :: ·)
      else none := by
  rw [unescape?]
  simp only [hx, hy, Option.bind_eq_bind, Option.bind_some]
  split
  · cases unescape? part rest <;> rfl
  · rfl

theorem unescape?_plain (part : Part) {b : UInt8} (hb : b ≠ 37) (rest : Text) :
    unescape? part (b :: rest) =
      if b = 43 ∧ part = .query then (unescape? part rest).map (32 :: ·)
      else if plainAllowed part b then (unescape? part rest).map (b :: ·) else none := by
  rw [unescape?]
  · rw [if_neg hb]
  · intro x y rest' heq
    exact absurd heq hb

/-! ## Texts with escapes -/

/-- `e` writes `a` with some of its bytes as escapes, in either case; a percent sign always is one. -/
inductive Spells : Text → Text → Prop
  | nil : Spells [] []
  | plain {b : UInt8} {e a : Text} (hb : b ≠ 37) (rest : Spells e a) : Spells (b :: e) (b :: a)
  | escaped {x y hi lo : UInt8} {e a : Text} (hx : Text.hexDigit? x = some hi)
      (hy : Text.hexDigit? y = some lo) (rest : Spells e a) :
      Spells (37 :: x :: y :: e) ((hi * 16 + lo) :: a)

/-- The text with a plus sign for each space. -/
def plussed (t : Text) : Text := t.map fun b => if b = 32 then 43 else b

/-- Behind some percent sign there are no two hexadecimal digits. -/
def Malformed (e : Text) : Prop :=
  ∃ before after, e = before ++ 37 :: after ∧
    ∀ x y rest, after = x :: y :: rest → Text.hexDigit? x = none ∨ Text.hexDigit? y = none

theorem malformed_cons_iff {b : UInt8} (hb : b ≠ 37) {e : Text} : Malformed (b :: e) ↔ Malformed e := by
  constructor
  · rintro ⟨before, after, he, hbad⟩
    cases before with
    | nil => exact absurd (List.cons.inj he).1 hb
    | cons c before => exact ⟨before, after, (List.cons.inj he).2, hbad⟩
  · rintro ⟨before, after, rfl, hbad⟩
    exact ⟨b :: before, after, rfl, hbad⟩

theorem ne_percent_of_hexDigit? {x n : UInt8} (hx : Text.hexDigit? x = some n) : x ≠ 37 := by
  rintro rfl
  cases hx

theorem lt_of_hexDigit? {x n : UInt8} (hx : Text.hexDigit? x = some n) : n < 16 := by
  unfold Text.hexDigit? at hx
  split at hx
  · cases hx
    grind
  · split at hx
    · cases hx
      grind
    · split at hx
      · cases hx
        grind
      · cases hx

theorem malformed_escaped_iff {x y hi lo : UInt8} (hx : Text.hexDigit? x = some hi)
    (hy : Text.hexDigit? y = some lo) {e : Text} : Malformed (37 :: x :: y :: e) ↔ Malformed e := by
  have hdigits : Malformed (x :: y :: e) ↔ Malformed e :=
    (malformed_cons_iff (ne_percent_of_hexDigit? hx)).trans
      (malformed_cons_iff (ne_percent_of_hexDigit? hy))
  rw [← hdigits]
  constructor
  · rintro ⟨before, after, he, hbad⟩
    cases before with
    | nil =>
      rcases hbad x y e (List.cons.inj he).2.symm with hno | hno
      · rw [hx] at hno
        cases hno
      · rw [hy] at hno
        cases hno
    | cons c before => exact ⟨before, after, (List.cons.inj he).2, hbad⟩
  · rintro ⟨before, after, he, hbad⟩
    exact ⟨37 :: before, after, congrArg (37 :: ·) he, hbad⟩

/-- **What a text with escapes reads as.** -/
theorem unescape?_eq_some_iff {e a : Text} : unescape? .segment e = some a ↔ Spells e a := by
  constructor
  · intro h
    fun_induction unescape? .segment e generalizing a with
    | case1 =>
      cases h
      exact .nil
    | case2 x y rest ih =>
      obtain ⟨hi, hx, h⟩ := Option.bind_eq_some_iff.mp h
      obtain ⟨lo, hy, h⟩ := Option.bind_eq_some_iff.mp h
      simp only [escapeAllowed, if_true] at h
      obtain ⟨t, ht, h⟩ := Option.bind_eq_some_iff.mp h
      cases h
      exact .escaped hx hy (ih ht)
    | case3 => cases h
    | case4 b rest hcase hb hplus ih => exact absurd hplus.2 (by decide)
    | case5 b rest hcase hb hplus hallowed ih =>
      obtain ⟨t, ht, rfl⟩ := Option.map_eq_some_iff.mp h
      exact .plain hb (ih ht)
    | case6 => cases h
  · intro h
    induction h with
    | nil => rfl
    | plain hb rest ih =>
      rw [unescape?_plain .segment hb, if_neg (fun hplus => absurd hplus.2 (by decide)), ih]
      rfl
    | escaped hx hy rest ih =>
      rw [unescape?_escaped .segment hx hy, ih]
      rfl

/-- **Which texts with escapes are not read.** -/
theorem unescape?_eq_none_iff {e : Text} : unescape? .segment e = none ↔ Malformed e := by
  fun_induction unescape? .segment e with
  | case1 =>
    refine iff_of_false (by simp) ?_
    rintro ⟨before, after, he, -⟩
    exact absurd he (by simp)
  | case2 x y rest ih =>
    cases hx : Text.hexDigit? x with
    | none => exact iff_of_true rfl ⟨[], x :: y :: rest, rfl, fun _ _ _ heq => by cases heq; exact .inl hx⟩
    | some hi =>
      cases hy : Text.hexDigit? y with
      | none => exact iff_of_true rfl ⟨[], x :: y :: rest, rfl, fun _ _ _ heq => by cases heq; exact .inr hy⟩
      | some lo =>
        rw [malformed_escaped_iff hx hy, ← ih]
        cases unescape? .segment rest <;> simp [escapeAllowed]
  | case3 rest hshort =>
    exact iff_of_true rfl ⟨[], rest, rfl, fun x y rest' heq => (hshort x y rest' rfl heq).elim⟩
  | case4 b rest hcase hb hplus ih => exact absurd hplus.2 (by decide)
  | case5 b rest hcase hb hplus hallowed ih => rw [malformed_cons_iff hb, ← ih, Option.map_eq_none_iff]
  | case6 b rest hcase hb hplus hallowed => exact absurd rfl hallowed

/-! ## Bytes that stand for themselves -/

theorem mem_of_among {s : String} {b : UInt8} (h : among s b = true) : b ∈ Text.ofString s :=
  List.contains_iff_mem.mp h

theorem alnum_bounds {b : UInt8} (h : isAlnum b = true) : 48 ≤ b ∧ b ≤ 122 := by
  simp only [isAlnum, Bool.or_eq_true, Bool.and_eq_true, decide_eq_true_eq] at h
  grind

theorem mustEscape_of_alnum {part : Part} {b : UInt8} (h : isAlnum b = true) : mustEscape part b = false := by
  simp [mustEscape, h]

/-- A byte that stands for itself is printable, and neither a number sign nor a percent sign. -/
theorem printable_of_not_mustEscape {part : Part} {b : UInt8} (h : mustEscape part b = false) :
    32 < b ∧ b < 127 ∧ b ≠ 35 ∧ b ≠ 37 := by
  have hamong {s : String} (hs : ∀ c ∈ Text.ofString s, 32 < c ∧ c < 127 ∧ c ≠ 35 ∧ c ≠ 37)
      (hb : among s b = true) : 32 < b ∧ b < 127 ∧ b ≠ 35 ∧ b ≠ 37 := hs b (mem_of_among hb)
  unfold mustEscape at h
  split at h
  · next halnum =>
    obtain ⟨hlow, hhigh⟩ := alnum_bounds halnum
    grind
  · split at h
    · next hhost => exact hamong (List.all_iff_forall_prop.mp (by decide)) (Bool.and_eq_true_iff.mp hhost).2
    · split at h
      · next hmark => exact hamong (List.all_iff_forall_prop.mp (by decide)) hmark
      · split at h
        · next hsign => exact hamong (List.all_iff_forall_prop.mp (by decide)) hsign
        · split at h
          · next hfragment =>
            exact hamong (List.all_iff_forall_prop.mp (by decide)) (Bool.and_eq_true_iff.mp hfragment).2
          · cases h

theorem mustEscape_zone (b : UInt8) : mustEscape .zone b = mustEscape .host b := by
  simp [mustEscape]

/-! ## Written escapes -/

theorem escape_append (part : Part) (s t : Text) : escape part (s ++ t) = escape part s ++ escape part t :=
  List.flatMap_append

/-- What holds of the bytes that are written for one byte holds of all that is written. -/
theorem forall_mem_escape {part : Part} {Q : UInt8 → Prop} (h : ∀ b, ∀ c ∈ escapeByte part b, Q c)
    (t : Text) : ∀ c ∈ escape part t, Q c := by
  intro c hc
  obtain ⟨b, -, hcb⟩ := List.mem_flatMap.mp hc
  exact h b c hcb

theorem high_lt (b : UInt8) : b / 16 < 16 := by
  have hb := b.toNat_lt
  rw [UInt8.lt_iff_toNat_lt, UInt8.toNat_div]
  exact Nat.div_lt_of_lt_mul hb

theorem low_lt (b : UInt8) : b % 16 < 16 := by
  rw [UInt8.lt_iff_toNat_lt, UInt8.toNat_mod]
  exact Nat.mod_lt _ (by decide)

theorem high_add_low (b : UInt8) : b / 16 * 16 + b % 16 = b := by
  have hb := b.toNat_lt
  apply UInt8.toNat_inj.mp
  simp only [UInt8.toNat_add, UInt8.toNat_mul, UInt8.toNat_div, UInt8.toNat_mod, UInt8.reduceToNat]
  omega

/-- The digits of an escape are figures and the first capital letters. -/
theorem alnum_upperHex {n : UInt8} (h : n < 16) : isAlnum (upperHex n) = true ∧ upperHex n ≤ 70 := by
  have hall : ∀ k : Nat, k < 16 → isAlnum (upperHex (.ofNat k)) = true ∧ upperHex (.ofNat k) ≤ 70 := by decide
  simpa using hall n.toNat (UInt8.lt_iff_toNat_lt.mp h)

theorem hexDigit?_upperHex {n : UInt8} (h : n < 16) : Text.hexDigit? (upperHex n) = some n := by
  have hall : ∀ k : Nat, k < 16 → Text.hexDigit? (upperHex (.ofNat k)) = some (.ofNat k) := by decide
  simpa using hall n.toNat (UInt8.lt_iff_toNat_lt.mp h)

/-- The bytes that are written for a byte: itself, if it may stand there, or those of its escape. -/
theorem mem_escapeByte {part : Part} {b c : UInt8} (h : c ∈ escapeByte part b) :
    c = b ∧ mustEscape part b = false ∨ c = 43 ∧ part = .query ∨ c = 37 ∨ isAlnum c = true ∧ c ≤ 70 := by
  unfold escapeByte at h
  split at h
  · split at h
    · next hspace => exact .inr (.inl ⟨List.mem_singleton.mp h, hspace.2⟩)
    · simp only [List.mem_cons, List.not_mem_nil, or_false] at h
      obtain rfl | rfl | rfl := h
      · exact .inr (.inr (.inl rfl))
      · exact .inr (.inr (.inr (alnum_upperHex (high_lt b))))
      · exact .inr (.inr (.inr (alnum_upperHex (low_lt b))))
  · next hmust => exact .inl ⟨List.mem_singleton.mp h, by simpa using hmust⟩

/-- A sign that no escape is made of stands in what is written only for itself. -/
theorem mem_of_mem_escape {part : Part} {k : UInt8} (hk : isAlnum k = false ∧ k ≠ 43 ∧ k ≠ 37) {t : Text}
    (h : k ∈ escape part t) : k ∈ t ∧ mustEscape part k = false := by
  obtain ⟨halnum, hplus, hpercent⟩ := hk
  obtain ⟨b, hb, hkb⟩ := List.mem_flatMap.mp h
  rcases mem_escapeByte hkb with ⟨rfl, hmust⟩ | ⟨rfl, -⟩ | rfl | ⟨hdigit, -⟩
  · exact ⟨hb, hmust⟩
  · exact absurd rfl hplus
  · exact absurd rfl hpercent
  · rw [halnum] at hdigit
    cases hdigit

theorem not_mem_escape {part : Part} {k : UInt8} (hk : isAlnum k = false ∧ k ≠ 43 ∧ k ≠ 37)
    (hmust : mustEscape part k = true) (t : Text) : k ∉ escape part t := by
  intro hmem
  rw [(mem_of_mem_escape hk hmem).2] at hmust
  cases hmust

theorem mustEscape_percent (part : Part) : mustEscape part 37 = true := by
  cases part <;> rfl

theorem mustEscape_plus_query : mustEscape .query 43 = true := rfl

theorem unescape?_upperHex (part : Part) (b : UInt8) (rest : Text) :
    unescape? part (37 :: upperHex (b / 16) :: upperHex (b % 16) :: rest) =
      if escapeAllowed part b then (unescape? part rest).map (b :: ·) else none := by
  rw [unescape?_escaped part (hexDigit?_upperHex (high_lt b)) (hexDigit?_upperHex (low_lt b)), high_add_low]

/-- The byte is read back where it is written: it stands for itself, or its escape is admitted. -/
def Readable (part : Part) (b : UInt8) : Prop := mustEscape part b = true → escapeAllowed part b = true

instance (part : Part) (b : UInt8) : Decidable (Readable part b) := inferInstanceAs (Decidable (_ → _))

theorem unescape?_escapeByte {part : Part} {b : UInt8} (hb : Readable part b) (rest : Text) :
    unescape? part (escapeByte part b ++ rest) = (unescape? part rest).map (b :: ·) := by
  unfold escapeByte
  split
  · next hmust =>
    split
    · next hspace =>
      obtain ⟨rfl, rfl⟩ := hspace
      rw [List.cons_append, List.nil_append, unescape?_plain .query (by decide), if_pos ⟨rfl, rfl⟩]
    · rw [List.cons_append, List.cons_append, List.cons_append, List.nil_append, unescape?_upperHex,
        if_pos (hb hmust)]
  · next hmust =>
    have hpercent : b ≠ 37 := by
      rintro rfl
      exact hmust (mustEscape_percent part)
    have hplus : ¬ (b = 43 ∧ part = .query) := by
      rintro ⟨rfl, rfl⟩
      exact hmust mustEscape_plus_query
    have hallowed : plainAllowed part b = true := by
      cases part <;> simp [plainAllowed, hmust]
    rw [List.cons_append, List.nil_append, unescape?_plain part hpercent, if_neg hplus, if_pos hallowed]

theorem unescape?_escape_append {part : Part} {t : Text} (h : ∀ b ∈ t, Readable part b) (rest : Text) :
    unescape? part (escape part t ++ rest) = (unescape? part rest).map (t ++ ·) := by
  induction t with
  | nil => simp [escape]
  | cons b t ih =>
    obtain ⟨hb, ht⟩ := List.forall_mem_cons.mp h
    have hcons : escape part (b :: t) ++ rest = escapeByte part b ++ (escape part t ++ rest) := by
      simp [escape]
    rw [hcons, unescape?_escapeByte hb, ih ht, Option.map_map]
    rfl

/-- **What is written is read back.** -/
theorem unescape?_escape {part : Part} {t : Text} (h : ∀ b ∈ t, Readable part b) :
    unescape? part (escape part t) = some t := by
  have happend := unescape?_escape_append h []
  rw [List.append_nil] at happend
  simpa [unescape?] using happend

end Url

end PageBoot
