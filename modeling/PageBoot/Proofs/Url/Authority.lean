import PageBoot.Proofs.Url.Spelling
import PageBoot.Url.Basic

/-!
Authorities that are written and read again. A host that was read is written so that it is read back,
unless it has a zone with bytes beyond ASCII: these are written as escapes, which are not read in a zone
(`parseHost?_escape`). A user is read back from the text before the last `@`, so an authority is read
again if its host is (`parseAuthority?_written`).
-/

namespace PageBoot

namespace Url

/-! ## Separators -/

theorem lastIndex?_of_not_mem {b : UInt8} {t : Text} (h : b ∉ t) : lastIndex? b t = none := by
  simp [lastIndex?, h]

theorem lastIndex?_append {b : UInt8} {s : Text} (h : b ∉ s) (t : Text) :
    lastIndex? b (t ++ b :: s) = some t.length := by
  have hdrop : (s.reverse ++ b :: t.reverse).dropWhile (· != b) = b :: t.reverse := by
    rw [List.dropWhile_append_of_pos]
    · simp
    · intro c hc
      simp only [bne_iff_ne]
      rintro rfl
      exact h (List.mem_reverse.mp hc)
  have hupto : Text.uptoLast b (t ++ b :: s) = t ++ [b] := by
    simp [Text.uptoLast, hdrop]
  simp [lastIndex?, hupto]

theorem exists_of_lastIndex? {b : UInt8} {t : Text} {i : Nat} (h : lastIndex? b t = some i) :
    ∃ p s, t = p ++ b :: s ∧ b ∉ s ∧ p.length = i := by
  have hmem : b ∈ t := by
    by_contra hno
    rw [lastIndex?_of_not_mem hno] at h
    cases h
  obtain ⟨s, p, hsplit, hs⟩ := List.eq_append_cons_of_mem (List.mem_reverse.mpr hmem)
  have ht : t = p.reverse ++ b :: s.reverse := by
    rw [← List.reverse_reverse t, hsplit]
    simp
  have hs' : b ∉ s.reverse := by simpa using hs
  rw [ht, lastIndex?_append hs', Option.some.injEq] at h
  exact ⟨p.reverse, s.reverse, ht, hs', h⟩

/-- A byte that is no digit of an escape parts a text with escapes. -/
theorem unescape?_append_cons (part : Part) {c : UInt8} (hc : Text.hexDigit? c = none) (p s : Text) :
    unescape? part (p ++ c :: s) =
      (unescape? part p).bind fun a => (unescape? part (c :: s)).map (a ++ ·) := by
  fun_induction unescape? part p with
  | case1 => simp
  | case2 x y rest ih =>
    cases hx : Text.hexDigit? x with
    | none => simp [unescape?, hx]
    | some hi =>
      cases hy : Text.hexDigit? y with
      | none => simp [unescape?, hx, hy]
      | some lo =>
        rw [List.cons_append, List.cons_append, List.cons_append, unescape?_escaped part hx hy, ih]
        by_cases hallowed : escapeAllowed part (hi * 16 + lo) = true
        · cases unescape? part rest <;> simp [hallowed, Function.comp_def]
        · simp [hallowed]
  | case3 rest hshort =>
    have hnone : unescape? part (37 :: (rest ++ c :: s)) = none := by
      cases rest with
      | nil => cases s <;> simp [unescape?, hc]
      | cons x rest =>
        cases rest with
        | nil => cases hx : Text.hexDigit? x <;> simp [unescape?, hc, hx]
        | cons y rest => exact (hshort x y rest rfl rfl).elim
    simpa using hnone
  | case4 b rest hcase hb hplus ih =>
    rw [List.cons_append, unescape?_plain part hb, if_pos hplus, ih]
    cases unescape? part rest <;> simp [Function.comp_def]
  | case5 b rest hcase hb hplus hallowed ih =>
    rw [List.cons_append, unescape?_plain part hb, if_neg hplus, if_pos hallowed, ih]
    cases unescape? part rest <;> simp [Function.comp_def]
  | case6 b rest hcase hb hplus hallowed =>
    rw [List.cons_append, unescape?_plain part hb, if_neg hplus, if_neg hallowed]
    rfl

/-- A byte that is read stands for itself, or its escape is admitted. -/
theorem mem_of_unescape? {part : Part} (hpart : part ≠ .query) {e t : Text} (h : unescape? part e = some t)
    {b : UInt8} (hb : b ∈ t) : escapeAllowed part b = true ∨ b ∈ e ∧ plainAllowed part b = true := by
  fun_induction unescape? part e generalizing t with
  | case1 =>
    cases h
    cases hb
  | case2 x y rest ih =>
    obtain ⟨hi, -, h⟩ := Option.bind_eq_some_iff.mp h
    obtain ⟨lo, -, h⟩ := Option.bind_eq_some_iff.mp h
    simp only at h
    split at h
    · next hallowed =>
      obtain ⟨t', ht', h⟩ := Option.bind_eq_some_iff.mp h
      cases h
      rcases List.mem_cons.mp hb with rfl | hb
      · exact .inl hallowed
      · exact (ih ht' hb).imp_right fun hplain => ⟨by simp [hplain.1], hplain.2⟩
    · cases h
  | case3 => cases h
  | case4 c rest hcase hc hplus ih => exact absurd hplus.2 hpart
  | case5 c rest hcase hc hplus hallowed ih =>
    obtain ⟨t', ht', rfl⟩ := Option.map_eq_some_iff.mp h
    rcases List.mem_cons.mp hb with rfl | hb
    · exact .inr ⟨List.mem_cons_self, hallowed⟩
    · exact (ih ht' hb).imp_right fun hplain => ⟨List.mem_cons_of_mem _ hplain.1, hplain.2⟩
  | case6 => cases h

theorem unescape?_eq_self {part : Part} {t : Text} (h : ∀ b ∈ t, mustEscape part b = false) :
    unescape? part t = some t ∧ escape part t = t := by
  have hescape : escape part t = t := by
    induction t with
    | nil => rfl
    | cons b t ih =>
      obtain ⟨hb, ht⟩ := List.forall_mem_cons.mp h
      rw [escape, List.flatMap_cons, ← escape, ih ht]
      simp [escapeByte, hb]
  refine ⟨?_, hescape⟩
  have hread : unescape? part (escape part t) = some t :=
    unescape?_escape fun b hb hmust => by simp [h b hb] at hmust
  rwa [hescape] at hread

/-! ## Hosts -/

theorem readable_host_of_unescape? {e t : Text} (h : unescape? .host e = some t) :
    ∀ b ∈ t, Readable .host b := by
  intro b hb hmust
  rcases mem_of_unescape? (by decide) h hb with hallowed | ⟨-, hplain⟩
  · exact hallowed
  · simp only [plainAllowed, hmust, Bool.not_true, Bool.or_false] at hplain
    simp [escapeAllowed, hplain]

theorem mem_of_unescape?_host {e t : Text} (h : unescape? .host e = some t) {b : UInt8}
    (hb : b ∈ t) (hno : escapeAllowed .host b = false) : b ∈ e := by
  rcases mem_of_unescape? (by decide) h hb with hallowed | hplain
  · rw [hno] at hallowed
    cases hallowed
  · exact hplain.1

/-- A zone in a host: what follows its first percent sign. It is foreign if it has a byte beyond ASCII
and the host is a literal address. -/
def ForeignZone (host : Text) : Prop :=
  host.head? = some 91 ∧ ∃ z, (Text.cut 37 host).2 = some z ∧ ∃ b ∈ z, 128 ≤ b

/-- A port is written as it is. -/
theorem validPort_plain {port : Text} (h : validPort port = true) :
    ∀ b ∈ port, mustEscape .host b = false ∧ b ≠ 93 ∧ b ≠ 37 ∧ ¬ 128 ≤ b := by
  have hdigit (d : UInt8) (hd : 48 ≤ d ∧ d ≤ 57) :
      mustEscape .host d = false ∧ d ≠ 93 ∧ d ≠ 37 ∧ ¬ 128 ≤ d := by
    refine ⟨mustEscape_of_alnum (by simp [isAlnum, hd]), ?_⟩
    grind
  cases port with
  | nil => exact List.forall_mem_nil _
  | cons c ds =>
    obtain ⟨rfl, hds⟩ : c = 58 ∧ ∀ d ∈ ds, 48 ≤ d ∧ d ≤ 57 := by simpa [validPort] using h
    exact List.forall_mem_cons.mpr ⟨by decide, fun d hd => hdigit d (hds d hd)⟩

theorem parseHost?_name {e : Text} (h : 91 ∉ e) :
    parseHost? e =
      match lastIndex? 58 e with
      | some i => if validPort (e.drop i) then unescape? .host e else none
      | none => unescape? .host e := by
  unfold parseHost?
  exact if_neg (by simpa using h)

theorem parseHost?_literal {port : Text} (h : 93 ∉ port) (inside : Text) :
    parseHost? (91 :: (inside ++ 93 :: port)) =
      (unescapeLiteral? inside).bind fun address =>
        if validPort port && isAddress address then some (91 :: (address ++ 93 :: port)) else none := by
  have hlast : lastIndex? 93 (91 :: (inside ++ 93 :: port)) = some (inside.length + 1) := by
    rw [← List.cons_append, lastIndex?_append h]
    rfl
  have hport : (91 :: (inside ++ 93 :: port)).drop (inside.length + 1 + 1) = port := by
    simp
  unfold parseHost?
  rw [if_pos (by simp), hlast]
  simp only [hport, Nat.add_sub_cancel, List.take_left]
  have hshape (a : Text) : Text.ofString "[" ++ a ++ Text.ofString "]" ++ port = 91 :: (a ++ 93 :: port) := by
    simp [Text.ofString, Text.ofChars]
    rfl
  cases unescapeLiteral? inside with
  | none => rfl
  | some a =>
    simp only [Option.bind_eq_bind, Option.bind_some, hshape]
    rfl

/-- A name with a port, or without one. -/
theorem parseHost?_escape_name {e h : Text} (hname : 91 ∉ e) (hread : parseHost? e = some h) :
    h.head? ≠ some 91 ∧ parseHost? (escape .host h) = some h := by
  rw [parseHost?_name hname] at hread
  have hplain : unescape? .host e = some h := by
    split at hread
    · split at hread
      · exact hread
      · cases hread
    · exact hread
  have hbracket : 91 ∉ h := fun hmem => hname (mem_of_unescape?_host hplain hmem rfl)
  have hwritten : 91 ∉ escape .host h := fun hmem =>
    hbracket (mem_of_mem_escape (by decide) hmem).1
  have hback : unescape? .host (escape .host h) = some h :=
    unescape?_escape (readable_host_of_unescape? hplain)
  refine ⟨fun hhead => hbracket (List.mem_of_mem_head? (by simp [hhead])), ?_⟩
  rw [parseHost?_name hwritten]
  cases hcolon : lastIndex? 58 e with
  | none =>
    have hnone : 58 ∉ escape .host h := by
      intro hmem
      have hh := (mem_of_mem_escape (by decide) hmem).1
      have he : 58 ∈ e := mem_of_unescape?_host hplain hh rfl
      simp [lastIndex?, he] at hcolon
    rw [lastIndex?_of_not_mem hnone]
    exact hback
  | some i =>
    obtain ⟨p, ds, rfl, hds, rfl⟩ := exists_of_lastIndex? hcolon
    have hport : validPort (58 :: ds) = true := by
      simp only [hcolon, List.drop_left] at hread
      by_contra hbad
      simp [hbad] at hread
    obtain ⟨hsame, hkept⟩ := unescape?_eq_self fun b hb => (validPort_plain hport b hb).1
    rw [unescape?_append_cons .host rfl, hsame] at hplain
    obtain ⟨a, ha, hh⟩ := Option.bind_eq_some_iff.mp hplain
    obtain rfl : a ++ 58 :: ds = h := by simpa using hh
    rw [escape_append, hkept] at hback ⊢
    rw [lastIndex?_append hds]
    simp only [List.drop_left, hport, if_true]
    exact hback

/-! ## Literal addresses -/

/-- What a percent sign is written as. -/
def zoneMark : Text := "%25"

/-- A percent sign is escaped in one way. -/
theorem eq_of_escaped_percent {x y hi lo : UInt8} (hx : Text.hexDigit? x = some hi)
    (hy : Text.hexDigit? y = some lo) (h : hi * 16 + lo = 37) : x = 50 ∧ y = 53 := by
  have hvalue := congrArg UInt8.toNat h
  have hhi : hi.toNat < 16 := UInt8.lt_iff_toNat_lt.mp (lt_of_hexDigit? hx)
  have hlo : lo.toNat < 16 := UInt8.lt_iff_toNat_lt.mp (lt_of_hexDigit? hy)
  have hmul : (hi * 16 + lo).toNat = hi.toNat * 16 + lo.toNat := by
    simp only [UInt8.toNat_add, UInt8.toNat_mul, UInt8.reduceToNat]
    omega
  rw [hmul] at hvalue
  have htwo : hi = 2 := UInt8.toNat_inj.mp (by simp at hvalue ⊢; omega)
  have hfive : lo = 5 := UInt8.toNat_inj.mp (by simp at hvalue ⊢; omega)
  have hdigits : ∀ b : UInt8, (Text.hexDigit? b = some 2 → b = 50) ∧ (Text.hexDigit? b = some 5 → b = 53) :=
    forall_byte (by decide +kernel)
  exact ⟨(hdigits x).1 (htwo ▸ hx), (hdigits y).2 (hfive ▸ hy)⟩

theorem percent_not_mem_of_unescape? {e a : Text} (h : unescape? .host e = some a) (he : ¬ zoneMark <:+: e) :
    37 ∉ a := by
  fun_induction unescape? .host e generalizing a with
  | case1 =>
    cases h
    exact List.not_mem_nil
  | case2 x y rest ih =>
    obtain ⟨hi, hx, h⟩ := Option.bind_eq_some_iff.mp h
    obtain ⟨lo, hy, h⟩ := Option.bind_eq_some_iff.mp h
    simp only at h
    split at h
    · obtain ⟨t, ht, h⟩ := Option.bind_eq_some_iff.mp h
      cases h
      have hrest : ¬ zoneMark <:+: rest := fun hin =>
        he (List.infix_cons (List.infix_cons (List.infix_cons hin)))
      refine List.not_mem_cons_of_ne_of_not_mem ?_ (ih ht hrest)
      intro hv
      obtain ⟨rfl, rfl⟩ := eq_of_escaped_percent hx hy hv.symm
      exact he ⟨[], rest, rfl⟩
    · cases h
  | case3 => cases h
  | case4 c rest hcase hc hplus ih => exact absurd hplus.2 (by decide)
  | case5 c rest hcase hc hplus hallowed ih =>
    obtain ⟨t, ht, rfl⟩ := Option.map_eq_some_iff.mp h
    exact List.not_mem_cons_of_ne_of_not_mem (Ne.symm hc) (ih ht fun hin => he (List.infix_cons hin))
  | case6 => cases h

/-- A zone is written like the rest of a host. -/
theorem escape_zone (z : Text) : escape .zone z = escape .host z := by
  have hbyte (b : UInt8) : escapeByte .zone b = escapeByte .host b := by
    simp only [escapeByte, mustEscape_zone, reduceCtorEq, and_false, if_false]
  simp only [escape, funext hbyte]

/-- The bytes of a zone are ASCII, or stood for themselves. -/
theorem readable_zone_of_unescape? {e z : Text} (h : unescape? .zone e = some z) :
    ∀ b ∈ z, ¬ 128 ≤ b → Readable .zone b := by
  intro b hb hsmall hmust
  rcases mem_of_unescape? (by decide) h hb with hallowed | ⟨-, hplain⟩
  · exact hallowed
  · simp [plainAllowed, hmust, hsmall] at hplain

theorem not_readable_zone {b : UInt8} (hb : 128 ≤ b) : ¬ Readable .zone b := by
  have hescaped : mustEscape .host b = true := by
    by_contra hmust
    have hsmall := (printable_of_not_mustEscape (eq_false_of_ne_true hmust)).2.1
    grind
  intro hread
  have hallowed := hread ((mustEscape_zone b).trans hescaped)
  simp only [escapeAllowed, hescaped, Bool.not_true, Bool.or_false, Bool.or_eq_true, beq_iff_eq] at hallowed
  rcases hallowed with rfl | rfl <;> exact absurd hb (by decide)

/-- What cannot be read back spoils all that is written. -/
theorem unescape?_escape_eq_none {part : Part} {t : Text} {b : UInt8} (hb : b ∈ t) (hbad : ¬ Readable part b) :
    unescape? part (escape part t) = none := by
  induction t with
  | nil => cases hb
  | cons c t ih =>
    have hcons : escape part (c :: t) = escapeByte part c ++ escape part t := rfl
    rw [hcons]
    by_cases hc : Readable part c
    · have hne : c ≠ b := by
        rintro rfl
        exact hbad hc
      rw [unescape?_escapeByte hc, ih ((List.mem_cons.mp hb).resolve_left (Ne.symm hne))]
      rfl
    · obtain ⟨hmust, hrefused⟩ := Classical.not_imp.mp hc
      have hquery : ¬ (c = 32 ∧ part = .query) := by
        rintro ⟨rfl, rfl⟩
        exact hrefused rfl
      rw [escapeByte, if_pos hmust, if_neg hquery, List.cons_append, List.cons_append, List.cons_append,
        List.nil_append, unescape?_upperHex, if_neg hrefused]

/-- An escape in a host is that of a byte beyond ASCII, and no percent sign. -/
theorem firstBehind_zoneMark {a : Text} (hread : ∀ b ∈ a, Readable .host b) (ha : 37 ∉ a) :
    Text.FirstBehind zoneMark (escape .host a) := by
  have hmust {b : UInt8} (hb : Readable .host b) (hne : b ≠ 37) (hescaped : mustEscape .host b = true) :
      128 ≤ b := by
    simpa [escapeAllowed, hne] using hb hescaped
  have hdigits : ∀ b : UInt8, 128 ≤ b →
      upperHex (b / 16) ≠ 50 ∧ upperHex (b / 16) ≠ 37 ∧ upperHex (b % 16) ≠ 37 :=
    forall_byte (by decide +kernel)
  induction a with
  | nil => exact Text.firstBehind_nil _
  | cons b a ih =>
    obtain ⟨hb, hothers⟩ := List.forall_mem_cons.mp hread
    have hne : b ≠ 37 := fun heq => ha (heq ▸ List.mem_cons_self)
    have hrest := ih hothers (List.not_mem_of_not_mem_cons ha)
    have hcons : escape .host (b :: a) = escapeByte .host b ++ escape .host a := rfl
    have hstart {c : UInt8} (hc : c ≠ 37) (t : Text) : ¬ zoneMark <+: c :: t := fun hprefix =>
      hc (List.cons_prefix_cons.mp hprefix).1.symm
    rw [hcons]
    by_cases hescaped : mustEscape .host b = true
    · obtain ⟨htwo, hx, hy⟩ := hdigits b (hmust hb hne hescaped)
      rw [escapeByte, if_pos hescaped, if_neg (by simp)]
      refine ((hrest.cons (hstart hy _)).cons (hstart hx _)).cons fun hprefix => ?_
      exact htwo (List.cons_prefix_cons.mp (List.cons_prefix_cons.mp hprefix).2).1.symm
    · rw [escapeByte, if_neg hescaped]
      exact hrest.cons (hstart hne _)

/-- Without the mark all is address. -/
theorem unescapeLiteral?_of_unmarked {t : Text} (h : ¬ zoneMark <:+: t) :
    unescapeLiteral? t = unescape? .host t := by
  have hfind : Text.find? "%25" t = none := Text.find?_eq_none h
  unfold unescapeLiteral?
  simp only [hfind, Option.getD_none, List.take_length, List.drop_length]
  cases unescape? .host t <;> simp [unescape?]

/-- From the first mark on it is zone. -/
theorem unescapeLiteral?_of_firstBehind {p : Text} (h : Text.FirstBehind zoneMark p) (s : Text) :
    unescapeLiteral? (p ++ zoneMark ++ s) =
      (unescape? .host p).bind fun a => (unescape? .zone s).map fun z => a ++ 37 :: z := by
  have hfind : Text.find? "%25" (p ++ zoneMark ++ s) = some p.length := h.find?_eq s
  have hmark : unescape? .zone (zoneMark ++ s) = (unescape? .zone s).map (37 :: ·) :=
    unescape?_escaped .zone (show Text.hexDigit? 50 = some 2 from rfl)
      (show Text.hexDigit? 53 = some 5 from rfl) s
  unfold unescapeLiteral?
  have htake : (p ++ zoneMark ++ s).take p.length = p := by simp
  have hdrop : (p ++ zoneMark ++ s).drop p.length = zoneMark ++ s := by simp
  simp only [hfind, Option.getD_some, htake, hdrop, hmark]
  cases unescape? .host p <;> cases unescape? .zone s <;> rfl

/-- What is between the brackets: an address, and a zone behind a percent sign if there is one. -/
theorem unescapeLiteral?_cases {t a : Text} (h : unescapeLiteral? t = some a) :
    (∀ b ∈ a, Readable .host b) ∧ 37 ∉ a ∨
      ∃ address zone, a = address ++ 37 :: zone ∧ (∀ b ∈ address, Readable .host b) ∧ 37 ∉ address ∧
        ∀ b ∈ zone, ¬ 128 ≤ b → Readable .zone b := by
  by_cases hmark : zoneMark <:+: t
  · obtain ⟨p, s, rfl, hfirst⟩ := Text.exists_firstBehind hmark
    rw [unescapeLiteral?_of_firstBehind hfirst] at h
    obtain ⟨address, haddress, h⟩ := Option.bind_eq_some_iff.mp h
    obtain ⟨zone, hzone, rfl⟩ := Option.map_eq_some_iff.mp h
    exact .inr ⟨address, zone, rfl, readable_host_of_unescape? haddress,
      percent_not_mem_of_unescape? haddress (hfirst.not_infix_before (by decide)), readable_zone_of_unescape? hzone⟩
  · rw [unescapeLiteral?_of_unmarked hmark] at h
    exact .inl ⟨readable_host_of_unescape? h, percent_not_mem_of_unescape? h hmark⟩

/-- An address without a zone is read back. -/
theorem unescapeLiteral?_escape {a : Text} (hread : ∀ b ∈ a, Readable .host b) (ha : 37 ∉ a) :
    unescapeLiteral? (escape .host a) = some a := by
  rw [unescapeLiteral?_of_unmarked ((firstBehind_zoneMark hread ha).not_infix_before (by decide))]
  exact unescape?_escape hread

/-- An address with a zone is read back if the zone is. -/
theorem unescapeLiteral?_escape_zone {a : Text} (hread : ∀ b ∈ a, Readable .host b) (ha : 37 ∉ a)
    (z : Text) : unescapeLiteral? (escape .host (a ++ 37 :: z)) =
      (unescape? .zone (escape .zone z)).map fun z => a ++ 37 :: z := by
  have hsplit : escape .host (a ++ 37 :: z) = escape .host a ++ zoneMark ++ escape .zone z := by
    rw [escape_append, List.append_assoc, escape_zone]
    rfl
  rw [hsplit, unescapeLiteral?_of_firstBehind (firstBehind_zoneMark hread ha), unescape?_escape hread]
  rfl

/-! ## Hosts that are written -/

/-- A host with a bracket is a literal address with or without a port. -/
theorem exists_literal {e h : Text} (hbracket : 91 ∈ e) (hread : parseHost? e = some h) :
    ∃ inside port a, e = 91 :: (inside ++ 93 :: port) ∧ 93 ∉ port ∧ validPort port = true ∧
      isAddress a = true ∧ unescapeLiteral? inside = some a ∧ h = 91 :: (a ++ 93 :: port) := by
  obtain ⟨inside, port, rfl, hport⟩ : ∃ inside port, e = 91 :: (inside ++ 93 :: port) ∧ 93 ∉ port := by
    have hcontains : e.contains 91 = true := by simpa using hbracket
    unfold parseHost? at hread
    rw [if_pos hcontains] at hread
    split at hread
    · next rest i hlast =>
      obtain ⟨p, port, hsplit, hport, -⟩ := exists_of_lastIndex? hlast
      cases p with
      | nil => simp at hsplit
      | cons c inside =>
        obtain ⟨rfl, hrest⟩ := List.cons.inj hsplit
        exact ⟨inside, port, congrArg (91 :: ·) hrest, hport⟩
    · cases hread
  rw [parseHost?_literal hport] at hread
  obtain ⟨a, ha, hread⟩ := Option.bind_eq_some_iff.mp hread
  split at hread
  · next hboth =>
    simp only [Bool.and_eq_true] at hboth
    exact ⟨inside, port, a, rfl, hport, hboth.1, hboth.2, ha, (Option.some.inj hread).symm⟩
  · cases hread

theorem not_foreignZone_of_not_mem {host : Text} (h : 37 ∉ host) : ¬ ForeignZone host := by
  rintro ⟨-, z, hz, -⟩
  rw [Text.cut_of_not_mem h] at hz
  cases hz

theorem foreignZone_iff {address port : Text} (haddress : 37 ∉ address) (hport : ∀ b ∈ port, ¬ 128 ≤ b)
    (zone : Text) : ForeignZone (91 :: (address ++ 37 :: zone ++ 93 :: port)) ↔ ∃ b ∈ zone, 128 ≤ b := by
  have hcut : (Text.cut 37 (91 :: (address ++ 37 :: zone ++ 93 :: port))).2 = some (zone ++ 93 :: port) := by
    have hfree : 37 ∉ 91 :: address := by simp [haddress]
    have hshape : 91 :: (address ++ 37 :: zone ++ 93 :: port) =
        91 :: address ++ 37 :: (zone ++ 93 :: port) := by simp
    rw [hshape, Text.cut_append hfree]
  constructor
  · rintro ⟨-, z, hz, b, hb, hlarge⟩
    rw [hcut, Option.some.injEq] at hz
    subst hz
    rcases List.mem_append.mp hb with hb | hb
    · exact ⟨b, hb, hlarge⟩
    · rcases List.mem_cons.mp hb with rfl | hb
      · exact absurd hlarge (by decide)
      · exact absurd hlarge (hport b hb)
  · rintro ⟨b, hb, hlarge⟩
    exact ⟨rfl, _, hcut, b, List.mem_append_left _ hb, hlarge⟩

/-- **A host is written so that it is read back, unless it has a foreign zone.** -/
theorem parseHost?_escape {e h : Text} (hread : parseHost? e = some h) :
    (ForeignZone h → parseHost? (escape .host h) = none) ∧
      (¬ ForeignZone h → parseHost? (escape .host h) = some h) := by
  by_cases hname : 91 ∈ e
  · obtain ⟨inside, port, a, rfl, hport, hvalid, haddress, ha, rfl⟩ := exists_literal hname hread
    have hplain := validPort_plain hvalid
    have hkept : escape .host port = port := (unescape?_eq_self fun b hb => (hplain b hb).1).2
    have hwritten : escape .host (91 :: (a ++ 93 :: port)) = 91 :: (escape .host a ++ 93 :: port) := by
      have hcons (b : UInt8) (t : Text) : escape .host (b :: t) = escapeByte .host b ++ escape .host t := rfl
      rw [hcons, escape_append, hcons, hkept]
      rfl
    rw [hwritten, parseHost?_literal hport, hvalid]
    rcases unescapeLiteral?_cases ha with ⟨hread, hpercent⟩ | ⟨address, zone, rfl, hread, hpercent, hzone⟩
    · rw [unescapeLiteral?_escape hread hpercent]
      have hnone : 37 ∉ 91 :: (a ++ 93 :: port) := by
        have hport37 : 37 ∉ port := fun hmem => (hplain _ hmem).2.2.1 rfl
        simp [hpercent, hport37]
      exact ⟨fun hforeign => absurd hforeign (not_foreignZone_of_not_mem hnone), fun _ => by simp [haddress]⟩
    · rw [unescapeLiteral?_escape_zone hread hpercent, foreignZone_iff hpercent fun b hb => (hplain b hb).2.2.2]
      refine ⟨?_, fun hplainZone => ?_⟩
      · rintro ⟨b, hb, hlarge⟩
        rw [unescape?_escape_eq_none hb (not_readable_zone hlarge)]
        rfl
      · have hreadZone : ∀ b ∈ zone, Readable .zone b := fun b hb =>
          hzone b hb fun hlarge => hplainZone ⟨b, hb, hlarge⟩
        rw [unescape?_escape hreadZone]
        simp [haddress]
  · obtain ⟨hhead, hback⟩ := parseHost?_escape_name hname hread
    exact ⟨fun hforeign => absurd hforeign.1 hhead, fun _ => hback⟩

/-! ## Users -/

theorem readable_user (b : UInt8) : Readable .user b := fun _ => rfl

/-- What is written for a user, with the sign behind it. -/
def userText : Option UserInfo → Text
  | some i => UserInfo.toText i ++ "@"
  | none => []

/-- A byte that stands for itself in a name or a password may stand in a user. -/
theorem validUser_of_not_mustEscape {b : UInt8} (h : mustEscape .user b = false) :
    (isAlnum b || (Text.ofString "-._:~!$&'()*+,;=%@").contains b) = true := by
  rw [Bool.or_eq_true, List.contains_iff_mem]
  unfold mustEscape at h
  split at h
  · next halnum => exact .inl halnum
  · rw [if_neg (by simp)] at h
    have hmark : ∀ c ∈ Text.ofString "-_.~", c ∈ Text.ofString "-._:~!$&'()*+,;=%@" :=
      List.all_iff_forall_prop.mp (by decide)
    have hsign : ∀ c ∈ Text.ofString "$&+,/:;=?@", among "@/?:" c = false →
        c ∈ Text.ofString "-._:~!$&'()*+,;=%@" := List.all_iff_forall_prop.mp (by decide)
    split at h
    · next hamong => exact .inr (hmark b (mem_of_among hamong))
    · split at h
      · next hamong => exact .inr (hsign b (mem_of_among hamong) h)
      · rw [if_neg (by simp)] at h
        cases h

/-- What is written of a name or a password may stand in a user. -/
theorem validUser_escape (t : Text) : validUser (escape .user t) = true := by
  refine List.all_eq_true.mpr (forall_mem_escape (fun b c hc => ?_) t)
  rcases mem_escapeByte hc with ⟨rfl, hmust⟩ | ⟨-, hquery⟩ | rfl | ⟨halnum, -⟩
  · exact validUser_of_not_mustEscape hmust
  · cases hquery
  · rfl
  · rw [halnum]
    rfl

theorem userInfo_toText (i : UserInfo) :
    UserInfo.toText i = escape .user i.name ++ (i.password.map (58 :: escape .user ·)).getD [] := by
  obtain ⟨name, password⟩ := i
  cases password with
  | none => cases name <;> simp [UserInfo.toText, escape]
  | some p =>
    have hcolon : Text.ofString ":" = [58] := rfl
    simp [UserInfo.toText, hcolon]

theorem validUser_toText (i : UserInfo) : validUser (UserInfo.toText i) = true := by
  rw [validUser, List.all_eq_true, userInfo_toText]
  intro b hb
  rcases List.mem_append.mp hb with hname | hpassword
  · exact List.all_eq_true.mp (validUser_escape _) b hname
  · cases hp : i.password with
    | none => simp [hp] at hpassword
    | some p =>
      rw [hp] at hpassword
      rcases List.mem_cons.mp hpassword with rfl | hmem
      · decide
      · exact List.all_eq_true.mp (validUser_escape _) b hmem

/-- An authority that is written is read as its user, and as its host is read. -/
theorem parseAuthority?_written (user : Option UserInfo) {e : Text} (he : 64 ∉ e) :
    parseAuthority? (userText user ++ e) = (parseHost? e).map fun h => (user, h) := by
  cases user with
  | none => simp only [userText, List.nil_append, parseAuthority?, lastIndex?_of_not_mem he]
  | some i =>
    have hshape : userText (some i) ++ e = UserInfo.toText i ++ 64 :: e := by
      rw [userText, List.append_assoc]
      rfl
    have hdrop : (UserInfo.toText i ++ 64 :: e).drop ((UserInfo.toText i).length + 1) = e := by
      rw [List.append_cons, ← List.length_singleton (a := (64 : UInt8)), ← List.length_append, List.drop_left]
    have hname : 58 ∉ escape .user i.name := not_mem_escape (by decide) rfl _
    have hread (t : Text) : unescape? .user (escape .user t) = some t :=
      unescape?_escape fun b _ => readable_user b
    rw [hshape]
    simp only [parseAuthority?, lastIndex?_append he, hdrop, List.take_left, validUser_toText, Bool.not_true,
      Bool.false_eq_true, if_false]
    obtain ⟨name, password⟩ := i
    cases password with
    | none =>
      have hcut : Text.cut 58 (UserInfo.toText ⟨name, none⟩) = (escape .user name, none) := by
        rw [userInfo_toText]
        simpa using Text.cut_of_not_mem hname
      rw [hcut]
      cases parseHost? e <;> simp [hread]
    | some p =>
      have hcut : Text.cut 58 (UserInfo.toText ⟨name, some p⟩) = (escape .user name, some (escape .user p)) := by
        rw [userInfo_toText]
        exact Text.cut_append hname _
      rw [hcut]
      cases parseHost? e <;> simp [hread]

end Url

end PageBoot
