import Mathlib.Data.List.TakeWhile
import PageBoot.Proofs.Url.Authority

/-!
URLs that are written with another query and read again. What was read is `Sound`, and what is written
of a sound URL is read again, with the query it was given, unless its host has a foreign zone, or its
path begins with two slashes where the host would be and none can be read there (`parse?_toText`).
-/

namespace PageBoot

namespace Url

/-! ## What stands before a query -/

/-- A byte that may stand before a query: it begins neither a query nor a fragment, and is no control. -/
def Inner (b : UInt8) : Prop := b ≠ 63 ∧ b ≠ 35 ∧ ¬ (b < 32 ∨ b = 127)

instance : DecidablePred Inner := fun _ => inferInstanceAs (Decidable (_ ∧ _))

theorem hasControl_eq_false {t : Text} (h : ∀ b ∈ t, ¬ (b < 32 ∨ b = 127)) : hasControl t = false := by
  simpa [hasControl, not_or] using h

theorem inner_of_not_mustEscape {part : Part} (h : part ≠ .fragment) {b : UInt8}
    (hb : mustEscape part b = false) : Inner b := by
  obtain ⟨hlow, hhigh, hnumber, -⟩ := printable_of_not_mustEscape hb
  refine ⟨?_, hnumber, ?_⟩
  · rintro rfl
    cases part <;> first | exact absurd rfl h | cases hb
  · grind

theorem inner_escape {part : Part} (h : part ≠ .fragment) (t : Text) : ∀ c ∈ escape part t, Inner c := by
  refine forall_mem_escape (fun b c hc => ?_) t
  rcases mem_escapeByte hc with ⟨rfl, hmust⟩ | ⟨rfl, -⟩ | rfl | ⟨halnum, -⟩
  · exact inner_of_not_mustEscape h hmust
  · decide
  · decide
  · exact inner_of_not_mustEscape h (mustEscape_of_alnum halnum)

theorem readable_path (b : UInt8) : Readable .path b := fun _ => rfl

/-- A path is written so that it is read back, whichever of its forms is taken. -/
theorem unescape?_escapedPath (u : Url) : unescape? .path u.escapedPath = some u.path := by
  unfold escapedPath
  split
  · next hraw =>
    simp only [Bool.and_eq_true, beq_iff_eq] at hraw
    exact hraw.2
  · split
    · next hstar =>
      rw [beq_iff_eq.mp hstar]
      rfl
    · exact unescape?_escape fun b _ => readable_path b

theorem inner_escapedPath (u : Url) : ∀ b ∈ u.escapedPath, Inner b := by
  unfold escapedPath
  split
  · next hraw =>
    simp only [Bool.and_eq_true] at hraw
    have hsigns : ∀ b ∈ Text.ofString "!$&'()*+,;=:@[]%", Inner b := List.all_iff_forall_prop.mp (by decide)
    intro b hb
    rcases Bool.or_eq_true_iff.mp (List.all_eq_true.mp hraw.1.2 b hb) with hsign | hplain
    · exact hsigns b (List.contains_iff_mem.mp hsign)
    · have hmust : mustEscape .path b = false := by simpa using hplain
      exact inner_of_not_mustEscape (by decide) hmust
  · split
    · exact List.all_iff_forall_prop.mp (by decide)
    · exact inner_escape (by decide) _

/-! ## Schemes -/

/-- A letter, and then letters, digits, plus, minus and points. -/
structure IsScheme (s : Text) : Prop where
  letter : ∃ b ∈ s.head?, isLetter b = true
  bytes : ∀ b ∈ s, (isAlnum b || b == 43 || b == 45 || b == 46) = true

theorem eq_takeWhile_append {p : UInt8 → Bool} {t rest : Text}
    (h : t.drop (t.takeWhile p).length = rest) : t = t.takeWhile p ++ rest := by
  have hsplit : t.takeWhile p ++ t.dropWhile p = t := List.takeWhile_append_dropWhile
  have hdrop : (t.takeWhile p ++ t.dropWhile p).drop (t.takeWhile p).length = t.dropWhile p := List.drop_left
  rw [hsplit, h] at hdrop
  rw [hdrop, hsplit]

theorem splitScheme?_append {s : Text} (h : IsScheme s) (rest : Text) :
    splitScheme? (s ++ 58 :: rest) = some (s, rest) := by
  have htake : (s ++ 58 :: rest).takeWhile (fun b => isAlnum b || b == 43 || b == 45 || b == 46) = s := by
    rw [List.takeWhile_append_of_pos h.bytes]
    simp [isAlnum]
  obtain ⟨b, hb, hletter⟩ := h.letter
  cases s with
  | nil => cases hb
  | cons c s =>
    cases hb
    unfold splitScheme?
    simp only [htake, List.drop_left]
    simp [hletter]

/-- Without a colon before its first slash a text has no scheme. -/
theorem splitScheme?_of_not_mem {t : Text} (h : 58 ∉ (Text.cut 47 t).1) (q : Text) :
    splitScheme? (t ++ 63 :: q) = some ([], t ++ 63 :: q) := by
  obtain ⟨a, s, rfl, hslash, hends⟩ := Text.exists_cut 47 t
  rw [Text.cut_fst_append hslash hends] at h
  obtain ⟨c, w, hc, hw⟩ : ∃ c w, (c = 47 ∨ c = 63) ∧ s ++ 63 :: q = c :: w := by
    rcases hends with rfl | ⟨u, rfl⟩
    · exact ⟨63, q, .inr rfl, rfl⟩
    · exact ⟨47, u ++ 63 :: q, .inl rfl, rfl⟩
  rw [List.append_assoc, hw]
  unfold splitScheme?
  simp only
  split
  · next rest hdrop =>
    exfalso
    have hsplit := eq_takeWhile_append hdrop
    have hhead : ∀ b ∈ (a ++ c :: w).takeWhile fun b => isAlnum b || b == 43 || b == 45 || b == 46,
        b ≠ c := by
      rintro b hb rfl
      have hscheme := List.mem_takeWhile_imp hb
      rcases hc with rfl | rfl <;> exact absurd hscheme (by decide)
    rcases List.append_eq_append_iff.mp hsplit with ⟨a', htake, hrest⟩ | ⟨c', ha, hrest⟩
    · cases a' with
      | nil =>
        obtain ⟨rfl, -⟩ := List.cons.inj hrest
        rcases hc with hc | hc <;> exact absurd hc (by decide)
      | cons d a' =>
        obtain ⟨rfl, -⟩ := List.cons.inj hrest
        exact hhead c (htake ▸ List.mem_append_right _ List.mem_cons_self) rfl
    · cases c' with
      | nil =>
        obtain ⟨rfl, -⟩ := List.cons.inj hrest
        rcases hc with hc | hc <;> exact absurd hc (by decide)
      | cons d c' =>
        obtain ⟨rfl, -⟩ := List.cons.inj hrest
        exact h (ha ▸ List.mem_append_right _ List.mem_cons_self)
  · rfl

/-- The scheme that is read. -/
theorem splitScheme?_cases {t s rest : Text} (h : splitScheme? t = some (s, rest)) :
    s = [] ∧ rest = t ∨ IsScheme s ∧ t = s ++ 58 :: rest := by
  unfold splitScheme? at h
  simp only at h
  split at h
  · next rest' hdrop =>
    have hsplit := eq_takeWhile_append hdrop
    have hbytes : ∀ b ∈ t.takeWhile (fun b => isAlnum b || b == 43 || b == 45 || b == 46),
        (isAlnum b || b == 43 || b == 45 || b == 46) = true := by
      intro b hb
      have hscheme := List.mem_takeWhile_imp hb
      exact hscheme
    cases htake : t.takeWhile fun b => isAlnum b || b == 43 || b == 45 || b == 46 with
    | nil => simp [htake] at h
    | cons b head =>
      rw [htake] at hsplit hbytes
      simp only [htake] at h
      split at h
      · next hletter =>
        cases h
        exact .inr ⟨⟨⟨b, rfl, hletter⟩, hbytes⟩, hsplit⟩
      · cases h
        exact .inl ⟨rfl, rfl⟩
  · cases h
    exact .inl ⟨rfl, rfl⟩

theorem IsScheme.not_control {s : Text} (h : IsScheme s) : ∀ b ∈ s, ¬ (b < 32 ∨ b = 127) := by
  have hbyte : ∀ b : UInt8, (isAlnum b || b == 43 || b == 45 || b == 46) = true → ¬ (b < 32 ∨ b = 127) :=
    forall_byte (by decide +kernel)
  exact fun b hb => hbyte b (h.bytes b hb)

theorem IsScheme.toLowerAscii {s : Text} (h : IsScheme s) : IsScheme s.toLowerAscii := by
  have hbyte : ∀ b : UInt8, ((isAlnum b || b == 43 || b == 45 || b == 46) = true →
      (isAlnum (Text.lowerByte b) || Text.lowerByte b == 43 || Text.lowerByte b == 45 ||
        Text.lowerByte b == 46) = true) ∧ (isLetter b = true → isLetter (Text.lowerByte b) = true) :=
    forall_byte (by decide +kernel)
  obtain ⟨b, hb, hletter⟩ := h.letter
  constructor
  · exact ⟨Text.lowerByte b, by simp [Text.toLowerAscii, Option.mem_def.mp hb], (hbyte b).2 hletter⟩
  · intro c hc
    obtain ⟨d, hd, rfl⟩ := List.mem_map.mp hc
    exact (hbyte d).1 (h.bytes d hd)

/-! ## Reading behind a scheme -/

/-- Reads what follows a scheme, parted at its query. -/
def parseRest? (scheme : Text) (parts : Text × Bool × Text) : Option Url :=
  let rest := parts.1
  let u : Url := { scheme, forceQuery := parts.2.1, query := parts.2.2 }
  if rest.head? != some 47 then
    if !scheme.isEmpty then some { u with opaquePart := rest }
    else if (Text.cut 47 rest).1.contains 58 then none
    else u.withPath? rest
  else if (!scheme.isEmpty || !(Text.ofString "///").isPrefixOf rest) &&
      (Text.ofString "//").isPrefixOf rest then
    let authority := (rest.drop 2).takeWhile (· != 47)
    (parseAuthority? authority).bind fun e =>
      withPath? { u with user := e.1, host := e.2 } ((rest.drop 2).drop authority.length)
  else withPath? { u with omitHost := !scheme.isEmpty } rest

theorem parseBody?_eq {t : Text} (hcontrol : hasControl t = false) (hstar : t ≠ Text.ofString "*") :
    parseBody? t = (splitScheme? t).bind fun e => parseRest? e.1.toLowerAscii (splitQuery e.2) := by
  unfold parseBody?
  rw [hcontrol, if_neg (by simp), if_neg (by simpa using hstar)]
  cases splitScheme? t <;> rfl

theorem withPath?_eq_some {u v : Url} {p : Text} (h : u.withPath? p = some v) :
    ∃ path, unescape? .path p = some path ∧
      v = { u with path, rawPath := if escape .path path == p then [] else p } := by
  obtain ⟨path, hpath, rfl⟩ := Option.map_eq_some_iff.mp h
  exact ⟨path, hpath, rfl⟩

theorem endsAt_drop_takeWhile (sep : UInt8) (t : Text) :
    Text.EndsAt sep (t.drop (t.takeWhile (· != sep)).length) := by
  induction t with
  | nil => exact .inl rfl
  | cons b t ih =>
    by_cases hb : b = sep
    · exact .inr ⟨t, by simp [hb]⟩
    · simpa [List.takeWhile_cons, hb] using ih

/-- A path that is read from a slash on, or from nothing, is written so. -/
theorem endsAt_escapedPath {u : Url} {p path : Text} (hread : unescape? .path p = some path)
    (hp : Text.EndsAt 47 p) (hpath : u.path = path)
    (hraw : u.rawPath = if escape .path path == p then [] else p) : Text.EndsAt 47 u.escapedPath := by
  rcases hp with rfl | ⟨p, rfl⟩
  · cases hread
    simp [escapedPath, hpath, hraw, escape, Text.EndsAt, Text.ofString, Text.ofChars]
  · rw [unescape?_plain .path (by decide), if_neg (by simp),
      if_pos (show plainAllowed .path 47 = true from rfl)] at hread
    obtain ⟨rest, -, rfl⟩ := Option.map_eq_some_iff.mp hread
    unfold escapedPath
    split
    · next htaken =>
      rw [hraw] at htaken ⊢
      split
      · next hsame => simp [hsame] at htaken
      · exact .inr ⟨p, rfl⟩
    · have hstar : ¬ (u.path == Text.ofString "*") = true := by
        rw [hpath, beq_iff_eq]
        intro heq
        exact absurd (congrArg List.head? heq) (by simp; decide)
      rw [if_neg hstar, hpath]
      exact .inr ⟨escape .path rest, rfl⟩

/-! ## What was read -/

/-- What holds of a URL that was read. -/
structure Sound (u : Url) : Prop where
  scheme : u.scheme = [] ∨ IsScheme u.scheme
  opaquePart : u.opaquePart ≠ [] → u.scheme ≠ [] ∧ u.host = [] ∧ u.opaquePart.head? ≠ some 47
  inner : ∀ b ∈ u.opaquePart, Inner b
  omitHost : u.omitHost = true → u.scheme ≠ [] ∧ u.host = [] ∧ u.user = none
  path : lacksAuthority u = false → Text.EndsAt 47 u.escapedPath
  host : ∃ e, parseHost? e = some u.host

/-- The host of an authority was read. -/
theorem exists_parseHost? {t host : Text} {user : Option UserInfo}
    (h : parseAuthority? t = some (user, host)) : ∃ e, parseHost? e = some host := by
  unfold parseAuthority? at h
  split at h
  · obtain ⟨host, hhost, heq⟩ := Option.map_eq_some_iff.mp h
    cases heq
    exact ⟨_, hhost⟩
  · obtain ⟨host', hhost, h⟩ := Option.bind_eq_some_iff.mp h
    refine ⟨_, hhost.trans (congrArg some ?_)⟩
    simp only at h
    split at h
    · cases h
    · split at h
      · obtain ⟨n, -, h⟩ := Option.bind_eq_some_iff.mp h
        cases h
        rfl
      · obtain ⟨n, -, h⟩ := Option.bind_eq_some_iff.mp h
        obtain ⟨p, -, h⟩ := Option.bind_eq_some_iff.mp h
        cases h
        rfl

theorem sound_parseRest? {scheme : Text} {parts : Text × Bool × Text} {u : Url}
    (h : parseRest? scheme parts = some u) (hscheme : scheme = [] ∨ IsScheme scheme)
    (hinner : ∀ b ∈ parts.1, Inner b) : Sound u := by
  obtain ⟨rest, forceQuery, query⟩ := parts
  have hnone : ∃ e, parseHost? e = some [] := ⟨[], rfl⟩
  unfold parseRest? at h
  simp only at h
  split at h
  · next hhead =>
    split at h
    · next hsome =>
      cases h
      have hne : scheme ≠ [] := by simpa using hsome
      exact ⟨hscheme, fun _ => ⟨hne, rfl, by simpa using hhead⟩, hinner, nofun, fun _ => .inl rfl, hnone⟩
    · split at h
      · cases h
      · next hempty _ =>
        obtain ⟨path, -, rfl⟩ := withPath?_eq_some h
        obtain rfl : scheme = [] := by simpa using hempty
        exact ⟨hscheme, nofun, nofun, nofun, nofun, hnone⟩
  · split at h
    · obtain ⟨⟨user, host⟩, hauthority, h⟩ := Option.bind_eq_some_iff.mp h
      obtain ⟨path, hpath, rfl⟩ := withPath?_eq_some h
      refine ⟨hscheme, nofun, nofun, nofun, fun _ => ?_, ?_⟩
      · exact endsAt_escapedPath hpath (endsAt_drop_takeWhile 47 _) rfl rfl
      · exact exists_parseHost? hauthority
    · obtain ⟨path, -, rfl⟩ := withPath?_eq_some h
      refine ⟨hscheme, nofun, nofun, fun homit => ⟨by simpa using homit, rfl, rfl⟩, fun hlacks => ?_, hnone⟩
      cases scheme <;> cases hlacks

theorem splitQuery_fst (t : Text) : (splitQuery t).1 = (Text.cut 63 t).1 := by
  unfold splitQuery
  split
  · next h => rw [h]
  · next h => rw [h]
  · next h => rw [h]

theorem sound_parseBody? {t : Text} {u : Url} (h : parseBody? t = some u) (hfragment : 35 ∉ t) :
    Sound u := by
  by_cases hcontrol : hasControl t = true
  · simp [parseBody?, hcontrol] at h
  by_cases hstar : t = Text.ofString "*"
  · have hread : parseBody? (Text.ofString "*") = some { path := "*" } := rfl
    rw [hstar, hread] at h
    cases h
    exact ⟨.inl rfl, nofun, nofun, nofun, nofun, [], rfl⟩
  rw [Bool.not_eq_true] at hcontrol
  rw [parseBody?_eq hcontrol hstar] at h
  obtain ⟨⟨scheme, rest⟩, hsplit, h⟩ := Option.bind_eq_some_iff.mp h
  have hrest : ∀ b ∈ rest, b ∈ t := by
    rcases splitScheme?_cases hsplit with ⟨-, rfl⟩ | ⟨-, rfl⟩
    · exact fun b hb => hb
    · exact fun b hb => List.mem_append_right _ (List.mem_cons_of_mem _ hb)
  have hscheme : scheme.toLowerAscii = [] ∨ IsScheme scheme.toLowerAscii := by
    rcases splitScheme?_cases hsplit with ⟨rfl, -⟩ | ⟨hscheme, -⟩
    · exact .inl rfl
    · exact .inr hscheme.toLowerAscii
  refine sound_parseRest? h hscheme fun b hb => ?_
  obtain ⟨a, s, hcut, hquery, hends⟩ := Text.exists_cut 63 rest
  rw [splitQuery_fst, hcut, Text.cut_fst_append hquery hends] at hb
  have hmem : b ∈ t := hrest b (hcut ▸ List.mem_append_left _ hb)
  refine ⟨fun heq => hquery (heq ▸ hb), fun heq => hfragment (heq ▸ hmem), ?_⟩
  have hall : ∀ b ∈ t, ¬ (b < 32 ∨ b = 127) := by simpa [hasControl, not_or] using hcontrol
  exact hall b hmem

/-- **What was read is sound.** -/
theorem sound_parse? {t : Text} {u : Url} (h : parse? t = some u) : Sound u := by
  obtain ⟨a, s, rfl, hfragment, hends⟩ := Text.exists_cut 35 t
  have hcut : (Text.cut 35 (a ++ s)).1 = a := Text.cut_fst_append hfragment hends
  obtain ⟨v, hbody, h⟩ := Option.bind_eq_some_iff.mp h
  rw [hcut] at hbody
  have hv := sound_parseBody? hbody hfragment
  split at h
  · cases h
    exact hv
  · cases h
    exact hv
  · obtain ⟨fragment, -, h⟩ := Option.bind_eq_some_iff.mp h
    cases h
    exact ⟨hv.scheme, hv.opaquePart, hv.inner, hv.omitHost, hv.path, hv.host⟩

/-! ## What is written -/

/-- What stands between the scheme and the query. -/
def body (u : Url) : Text := if u.opaquePart.isEmpty then hierarchicalText u else u.opaquePart

variable {u : Url} {q : Text}

theorem toText_eq (hq : q ≠ []) :
    toText { u with query := q } = Text.when (!u.scheme.isEmpty) (u.scheme ++ ":") ++ u.body ++ 63 :: q ++
      Text.when (!u.fragment.isEmpty) ("#" ++ u.escapedFragment) := by
  have hmark : Text.ofString "?" ++ q = 63 :: q := rfl
  have hwhen : Text.when (u.forceQuery || !q.isEmpty) (Text.ofString "?" ++ q) = 63 :: q := by
    rw [hmark]
    cases q with
    | nil => exact absurd rfl hq
    | cons b q => simp [Text.when]
  have hbody : ({ u with query := q } : Url).body = u.body := rfl
  show _ ++ ({ u with query := q } : Url).body ++ _ ++ _ = _
  rw [hbody, hwhen]
  rfl

theorem exists_unescape?_escapedFragment (u : Url) :
    ∃ f, unescape? .fragment u.escapedFragment = some f := by
  unfold escapedFragment
  split
  · next hraw =>
    simp only [Bool.and_eq_true, beq_iff_eq] at hraw
    exact ⟨_, hraw.2⟩
  · exact ⟨_, unescape?_escape fun b _ _ => rfl⟩

/-- The fragment that is written behind a query does not change what is read of the rest. -/
theorem parse?_map_query {t : Text} (ht : 35 ∉ t) (u : Url) :
    (parse? (t ++ Text.when (!u.fragment.isEmpty) ("#" ++ u.escapedFragment))).map (·.query) =
      (parseBody? t).map (·.query) := by
  obtain ⟨f, hf⟩ := exists_unescape?_escapedFragment u
  have hmark : Text.ofString "#" ++ u.escapedFragment = 35 :: u.escapedFragment := rfl
  rw [hmark]
  cases hempty : u.fragment.isEmpty with
  | true =>
    simp only [Bool.not_true, Text.when, Bool.false_eq_true, if_false, List.append_nil, parse?,
      Text.cut_of_not_mem ht]
    cases parseBody? t <;> rfl
  | false =>
    simp only [Bool.not_false, Text.when, if_true, parse?, Text.cut_append ht]
    cases parseBody? t with
    | none => rfl
    | some v =>
      cases hwritten : u.escapedFragment with
      | nil => rfl
      | cons b rest =>
        rw [hwritten] at hf
        simp [hf]

theorem splitQuery_append {body : Text} (hmark : 63 ∉ body) (hq : q ≠ []) :
    splitQuery (body ++ 63 :: q) = (body, false, q) := by
  unfold splitQuery
  rw [Text.cut_append hmark]
  cases q with
  | nil => exact absurd rfl hq
  | cons b q => rfl

/-- What is written is read by what is behind the scheme. -/
theorem parseBody?_written {scheme : Text} (hscheme : scheme = [] ∨ IsScheme scheme) {body : Text}
    (hbody : ∀ b ∈ body, Inner b) (hcolon : scheme = [] → 58 ∉ (Text.cut 47 body).1) (hq : q ≠ [])
    (hplain : ∀ b ∈ q, Inner b) :
    parseBody? (Text.when (!scheme.isEmpty) (scheme ++ ":") ++ body ++ 63 :: q) =
      parseRest? scheme.toLowerAscii (body, false, q) := by
  have hsplit := splitQuery_append (fun hmem => (hbody _ hmem).1 rfl) hq
  have hbytes : ∀ b ∈ body ++ 63 :: q, ¬ (b < 32 ∨ b = 127) := by
    intro b hb
    rcases List.mem_append.mp hb with hb | hb
    · exact (hbody b hb).2.2
    · rcases List.mem_cons.mp hb with rfl | hb
      · decide
      · exact (hplain b hb).2.2
  have hstar (s : Text) : s ++ (body ++ 63 :: q) ≠ Text.ofString "*" := by
    intro heq
    have hmem : (63 : UInt8) ∈ s ++ (body ++ 63 :: q) := by simp
    rw [heq] at hmem
    exact absurd hmem (by decide)
  rcases hscheme with rfl | hscheme
  · have hcontrol := hasControl_eq_false hbytes
    have hread := splitScheme?_of_not_mem (hcolon rfl) q
    simp only [Text.when, List.isEmpty_nil, Bool.not_true, Bool.false_eq_true, if_false, List.nil_append]
    rw [parseBody?_eq hcontrol (hstar []), hread, Option.bind_some, hsplit]
  · have hne : scheme.isEmpty = false := by
      obtain ⟨b, hb, -⟩ := hscheme.letter
      cases scheme with
      | nil => cases hb
      | cons c s => rfl
    have hshape : Text.when (!scheme.isEmpty) (scheme ++ ":") ++ body ++ 63 :: q =
        scheme ++ 58 :: (body ++ 63 :: q) := by
      have hcolon : Text.ofString ":" = [58] := rfl
      simp [Text.when, hne, hcolon]
    have hcontrol : hasControl (scheme ++ 58 :: (body ++ 63 :: q)) = false := by
      refine hasControl_eq_false fun b hb => ?_
      rcases List.mem_append.mp hb with hb | hb
      · exact hscheme.not_control b hb
      · rcases List.mem_cons.mp hb with rfl | hb
        · decide
        · exact hbytes b hb
    have hother : scheme ++ 58 :: (body ++ 63 :: q) ≠ Text.ofString "*" := by
      rw [List.append_cons]
      exact hstar _
    rw [hshape, parseBody?_eq hcontrol hother, splitScheme?_append hscheme, Option.bind_some, hsplit]

/-! ## What is read of it -/

theorem withPath?_map_query (u : Url) {p path : Text} (h : unescape? .path p = some path) :
    (u.withPath? p).map (·.query) = some u.query := by
  simp [withPath?, h]

/-- A text that does not begin with a slash is read as it is, behind a scheme or as a path. -/
theorem parseRest?_of_head {scheme t : Text} (hhead : t.head? ≠ some 47)
    (hread : scheme = [] → 58 ∉ (Text.cut 47 t).1 ∧ ∃ path, unescape? .path t = some path) :
    (parseRest? scheme (t, false, q)).map (·.query) = some q := by
  unfold parseRest?
  simp only
  rw [if_pos (by simpa using hhead)]
  cases scheme with
  | nil =>
    obtain ⟨hcolon, path, hpath⟩ := hread rfl
    rw [if_neg (by simp), if_neg (by simpa using hcolon), withPath?_map_query _ hpath]
  | cons b s => rfl

theorem beginsAuthority_iff {scheme t : Text} :
    ((!scheme.isEmpty || !(Text.ofString "///").isPrefixOf t) && (Text.ofString "//").isPrefixOf t) = true ↔
      (scheme ≠ [] ∨ ¬ Text.ofString "///" <+: t) ∧ Text.ofString "//" <+: t := by
  rw [← List.isPrefixOf_iff_prefix, ← List.isPrefixOf_iff_prefix]
  generalize List.isPrefixOf (Text.ofString "///") t = three
  generalize List.isPrefixOf (Text.ofString "//") t = two
  cases scheme <;> cases three <;> simp

/-- A text that begins with a slash, but not as an authority does, is a path. -/
theorem parseRest?_of_path {scheme t path : Text} (hhead : t.head? = some 47)
    (hplain : ¬ ((scheme ≠ [] ∨ ¬ Text.ofString "///" <+: t) ∧ Text.ofString "//" <+: t))
    (hpath : unescape? .path t = some path) :
    (parseRest? scheme (t, false, q)).map (·.query) = some q := by
  unfold parseRest?
  simp only
  rw [if_neg (by simpa using hhead), if_neg (mt beginsAuthority_iff.mp hplain),
    withPath?_map_query _ hpath]

/-- An authority is read up to its path. -/
theorem parseRest?_of_authority {scheme authority p path : Text} (hslash : 47 ∉ authority)
    (hends : Text.EndsAt 47 p) (hpath : unescape? .path p = some path)
    (hthree : scheme ≠ [] ∨ ¬ Text.ofString "///" <+: 47 :: 47 :: (authority ++ p)) :
    (parseRest? scheme (47 :: 47 :: (authority ++ p), false, q)).map (·.query) =
      (parseAuthority? authority).map fun _ => q := by
  have htake : (authority ++ p).takeWhile (· != 47) = authority := by
    have hall : ∀ b ∈ authority, (b != 47) = true := by
      intro b hb
      rw [bne_iff_ne]
      rintro rfl
      exact hslash hb
    rw [List.takeWhile_append_of_pos hall]
    rcases hends with rfl | ⟨rest, rfl⟩ <;> simp
  unfold parseRest?
  simp only
  have htwo : Text.ofString "//" <+: 47 :: 47 :: (authority ++ p) := ⟨authority ++ p, rfl⟩
  have hdrop : (47 :: 47 :: (authority ++ p)).drop 2 = authority ++ p := rfl
  rw [if_neg (by simp), if_pos (beginsAuthority_iff.mpr ⟨hthree, htwo⟩), hdrop, htake, List.drop_left]
  cases parseAuthority? authority with
  | none => rfl
  | some e => simpa using withPath?_map_query _ hpath

/-! ## URLs that are lost -/

/-- Without a scheme and a host, the path begins like an authority. -/
structure Rehosted (u : Url) : Prop where
  scheme : u.scheme = []
  host : u.host = []
  user : u.user = none
  two : Text.ofString "//" <+: u.escapedPath
  three : ¬ Text.ofString "///" <+: u.escapedPath

/-- What is written of the URL is not read again: its zone is foreign, or its path begins with what
should be an authority and is none. -/
def Lost (u : Url) : Prop :=
  ForeignZone u.host ∨
    Rehosted u ∧ parseAuthority? ((u.escapedPath.drop 2).takeWhile (· != 47)) = none

theorem lacksAuthority_iff : lacksAuthority u = true ↔
    (u.scheme = [] ∨ u.omitHost = true) ∧ u.host = [] ∧ u.user = none := by
  simp [lacksAuthority, and_assoc]

/-! ## The body, case by case -/

theorem Lost.rehosted (h : Lost u) (hhost : u.host = []) : Rehosted u ∧
    parseAuthority? ((u.escapedPath.drop 2).takeWhile (· != 47)) = none := by
  refine h.resolve_left ?_
  rw [hhost]
  exact not_foreignZone_of_not_mem List.not_mem_nil

/-- How a URL without an opaque part is read. -/
def Reads (u : Url) (q : Text) : Prop :=
  (∀ b ∈ hierarchicalText u, Inner b) ∧
    (u.scheme = [] → 58 ∉ (Text.cut 47 (hierarchicalText u)).1) ∧
    (Lost u → (parseRest? u.scheme.toLowerAscii (hierarchicalText u, false, q)).map (·.query) = none) ∧
    (¬ Lost u → (parseRest? u.scheme.toLowerAscii (hierarchicalText u, false, q)).map (·.query) = some q)

theorem cut_slash_of_head {t : Text} (h : t.head? = some 47) : (Text.cut 47 t).1 = [] := by
  cases t with
  | nil => cases h
  | cons b t =>
    cases h
    rfl

/-- What begins like an authority is read as one. -/
theorem Rehosted.parseRest?_eq (h : Rehosted u) :
    (parseRest? [] (u.escapedPath, false, q)).map (·.query) =
      (parseAuthority? ((u.escapedPath.drop 2).takeWhile (· != 47))).map fun _ => q := by
  obtain ⟨t, ht⟩ := h.two
  have hpath : u.escapedPath = 47 :: 47 :: t := ht.symm
  have hsplit : t = t.takeWhile (· != 47) ++ t.drop (t.takeWhile (· != 47)).length := eq_takeWhile_append rfl
  have hslash : 47 ∉ t.takeWhile (· != 47) := fun hmem => by
    have hne := List.mem_takeWhile_imp hmem
    simp at hne
  have hread := unescape?_escapedPath u
  obtain ⟨path, hrest⟩ : ∃ path, unescape? .path (t.drop (t.takeWhile (· != 47)).length) = some path := by
    rw [hpath, unescape?_plain .path (by decide), unescape?_plain .path (by decide), hsplit] at hread
    rcases endsAt_drop_takeWhile 47 t with hnil | ⟨rest, hrest⟩
    · exact ⟨[], by rw [hnil]; rfl⟩
    · rw [hrest, unescape?_append_cons .path rfl] at hread
      rw [hrest]
      cases hread' : unescape? .path (47 :: rest) with
      | some path => exact ⟨path, rfl⟩
      | none => simp [hread'] at hread
  have hthree := h.three
  rw [hpath, hsplit] at hthree
  have hdrop : (47 :: 47 :: t).drop 2 = t := rfl
  rw [hpath, hdrop]
  conv_lhs => rw [hsplit]
  exact parseRest?_of_authority hslash (endsAt_drop_takeWhile 47 t) hrest (.inr hthree)

/-- Nothing but a path. -/
theorem reads_of_no_scheme (hscheme : u.scheme = []) (homit : u.omitHost = false) (hhost : u.host = [])
    (huser : u.user = none) : Reads u q := by
  have hread := unescape?_escapedPath u
  have hshape : hierarchicalText u =
      Text.when ((Text.cut 47 u.escapedPath).1.contains 58) "./" ++ u.escapedPath := by
    simp [hierarchicalText, authorityText, lacksAuthority, hscheme, homit, hhost, huser, Text.when]
  by_cases hcolon : 58 ∈ (Text.cut 47 u.escapedPath).1
  · -- a first segment that would be read as a scheme
    have hdotted : hierarchicalText u = 46 :: 47 :: u.escapedPath := by
      have hdot : Text.ofString "./" = [46, 47] := rfl
      simp [hshape, hcolon, Text.when, hdot]
    have hpath : unescape? .path (46 :: 47 :: u.escapedPath) = some (46 :: 47 :: u.path) := by
      rw [unescape?_plain .path (by decide), unescape?_plain .path (by decide), hread]
      rfl
    have hkept : ¬ Lost u := fun hlost => by
      obtain ⟨t, ht⟩ := (hlost.rehosted hhost).1.two
      have hhead : u.escapedPath.head? = some 47 := by
        rw [← ht]
        rfl
      rw [cut_slash_of_head hhead] at hcolon
      cases hcolon
    have hfirst : 58 ∉ (Text.cut 47 (46 :: 47 :: u.escapedPath)).1 := by simp [Text.cut]
    rw [Reads, hdotted, hscheme]
    refine ⟨?_, fun _ => hfirst, fun hlost => absurd hlost hkept, fun _ => ?_⟩
    · refine List.forall_mem_cons.mpr ⟨by decide, List.forall_mem_cons.mpr ⟨by decide, inner_escapedPath u⟩⟩
    · exact parseRest?_of_head (by simp) fun _ => ⟨hfirst, _, hpath⟩
  · have hplain : hierarchicalText u = u.escapedPath := by
      simp [hshape, hcolon, Text.when]
    rw [Reads, hplain, hscheme, show Text.toLowerAscii [] = [] from rfl]
    refine ⟨inner_escapedPath u, fun _ => hcolon, fun hlost => ?_, fun hkept => ?_⟩
    · obtain ⟨hrehosted, hnone⟩ := hlost.rehosted hhost
      rw [hrehosted.parseRest?_eq, hnone]
      rfl
    · by_cases hrehosted : Rehosted u
      · rw [hrehosted.parseRest?_eq]
        cases hauthority : parseAuthority? ((u.escapedPath.drop 2).takeWhile (· != 47)) with
        | none => exact absurd (.inr ⟨hrehosted, hauthority⟩) hkept
        | some e => rfl
      · by_cases hhead : u.escapedPath.head? = some 47
        · refine parseRest?_of_path hhead (fun hboth => hrehosted ?_) hread
          exact ⟨hscheme, hhost, huser, hboth.2, hboth.1.resolve_left (fun hne => hne rfl)⟩
        · exact parseRest?_of_head hhead fun _ => ⟨hcolon, _, hread⟩

/-- A path behind a scheme. -/
theorem reads_of_omitHost (hscheme : u.scheme ≠ []) (homit : u.omitHost = true) (hhost : u.host = [])
    (huser : u.user = none) : Reads u q := by
  have hread := unescape?_escapedPath u
  have hne : u.scheme.toLowerAscii ≠ [] := by simpa [Text.toLowerAscii] using hscheme
  have hkept : ¬ Lost u := fun hlost => hscheme (hlost.rehosted hhost).1.scheme
  by_cases htwo : Text.ofString "//" <+: u.escapedPath
  · have hshape : hierarchicalText u = 37 :: 50 :: 70 :: u.escapedPath.drop 1 := by
      have htwo' := List.isPrefixOf_iff_prefix.mpr htwo
      have hmark : Text.ofString "%2F" = [37, 50, 70] := rfl
      simp [hierarchicalText, authorityText, lacksAuthority, hscheme, homit, hhost, huser, Text.when,
        htwo', hmark]
    rw [Reads, hshape]
    refine ⟨?_, fun hnone => absurd hnone hscheme, fun hlost => absurd hlost hkept, fun _ => ?_⟩
    · intro b hb
      rcases hb with _ | ⟨_, _ | ⟨_, _ | ⟨_, hb⟩⟩⟩
      · decide
      · decide
      · decide
      · exact inner_escapedPath u b (List.mem_of_mem_drop hb)
    · exact parseRest?_of_head (by simp) fun hnone => absurd hnone hne
  · have hshape : hierarchicalText u = u.escapedPath := by
      have htwo' := mt List.isPrefixOf_iff_prefix.mp htwo
      simp [hierarchicalText, authorityText, lacksAuthority, hscheme, homit, hhost, huser, Text.when, htwo']
    rw [Reads, hshape]
    refine ⟨inner_escapedPath u, fun hnone => absurd hnone hscheme, fun hlost => absurd hlost hkept,
      fun _ => ?_⟩
    by_cases hhead : u.escapedPath.head? = some 47
    · exact parseRest?_of_path hhead (fun hboth => htwo hboth.2) hread
    · exact parseRest?_of_head hhead fun hnone => absurd hnone hne

/-- What holds of the bytes of names and passwords and of the signs between them holds of a user. -/
theorem forall_mem_userText {Q : UInt8 → Prop} (hname : ∀ t, ∀ c ∈ escape .user t, Q c) (hcolon : Q 58)
    (hat : Q 64) (user : Option UserInfo) : ∀ c ∈ userText user, Q c := by
  cases user with
  | none => exact nofun
  | some i =>
    intro c hc
    rw [userText, userInfo_toText] at hc
    rcases List.mem_append.mp hc with hc | hc
    · rcases List.mem_append.mp hc with hc | hc
      · exact hname _ c hc
      · cases hpassword : i.password with
        | none => simp [hpassword] at hc
        | some p =>
          rw [hpassword] at hc
          rcases List.mem_cons.mp hc with rfl | hc
          · exact hcolon
          · exact hname p c hc
    · rw [List.mem_singleton.mp hc]
      exact hat

theorem inner_authority (user : Option UserInfo) (host : Text) :
    ∀ b ∈ userText user ++ escape .host host, Inner b := by
  intro b hb
  rcases List.mem_append.mp hb with hb | hb
  · exact forall_mem_userText (fun t => inner_escape (by decide) t) (by decide) (by decide) user b hb
  · exact inner_escape (by decide) _ b hb

/-- Neither the slash that ends an authority nor the sign behind a user is written for a host. -/
theorem not_mem_escape_host (t : Text) : 47 ∉ escape .host t ∧ 64 ∉ escape .host t :=
  ⟨not_mem_escape (by decide) rfl t, not_mem_escape (by decide) rfl t⟩

theorem slash_not_mem_authority (user : Option UserInfo) (host : Text) :
    47 ∉ userText user ++ escape .host host := by
  have hname (t : Text) : ∀ c ∈ escape .user t, c ≠ 47 := fun c hc heq =>
    not_mem_escape (by decide) rfl t (heq ▸ hc)
  rw [List.mem_append, not_or]
  exact ⟨fun hmem => forall_mem_userText hname (by decide) (by decide) user 47 hmem rfl,
    (not_mem_escape_host _).1⟩

theorem authority_eq_nil {user : Option UserInfo} {host : Text}
    (h : userText user ++ escape .host host = []) : user = none ∧ host = [] := by
  obtain ⟨huser, hhost⟩ := List.append_eq_nil_iff.mp h
  constructor
  · cases user with
    | none => rfl
    | some i => exact absurd (List.append_eq_nil_iff.mp huser).2 (by decide)
  · cases host with
    | nil => rfl
    | cons b t =>
      have hbyte := (List.append_eq_nil_iff.mp (show escapeByte .host b ++ escape .host t = [] from hhost)).1
      unfold escapeByte at hbyte
      split at hbyte
      · split at hbyte <;> cases hbyte
      · cases hbyte

/-- An authority is written with its slashes, unless there is nothing at all behind a scheme. -/
theorem authorityText_cases (hlacks : lacksAuthority u = false) :
    authorityText u = [] ∧ u.host = [] ∧ u.user = none ∧ u.path = [] ∨
      authorityText u = 47 :: 47 :: (userText u.user ++ escape .host u.host) := by
  have hshape : authorityText u = Text.when (!u.host.isEmpty || !u.path.isEmpty || u.user.isSome) "//" ++
      userText u.user ++ escape .host u.host := by
    unfold authorityText
    rw [hlacks, if_neg (by simp)]
    cases u.user <;> rfl
  rw [hshape]
  cases hsome : !u.host.isEmpty || !u.path.isEmpty || u.user.isSome with
  | true => exact .inr rfl
  | false =>
    obtain ⟨⟨hhost, hpath⟩, hnone⟩ : (u.host = [] ∧ u.path = []) ∧ u.user = none := by
      simpa using hsome
    rw [hhost, hnone]
    exact .inl ⟨rfl, rfl, rfl, hpath⟩

/-- Behind an authority there is a path from a slash on, or none. -/
theorem hierarchicalText_of_authority (h : Sound u) (hlacks : lacksAuthority u = false) :
    hierarchicalText u = authorityText u ++ u.escapedPath := by
  have hauthority : (u.scheme.isEmpty && (authorityText u).isEmpty) = false := by
    rcases authorityText_cases hlacks with ⟨-, hhost, huser, -⟩ | hauthority
    · have hscheme : u.scheme ≠ [] := fun hnone => by
        rw [lacksAuthority_iff.mpr ⟨.inl hnone, hhost, huser⟩] at hlacks
        cases hlacks
      simp [hscheme]
    · simp [hauthority]
  have hslash : (!u.escapedPath.isEmpty && u.escapedPath.head? != some 47) = false := by
    rcases h.path hlacks with hnil | ⟨t, ht⟩
    · simp [hnil]
    · simp [ht]
  simp only [hierarchicalText, hlacks, hslash, hauthority, Text.when, Bool.and_false, Bool.false_and,
    Bool.false_eq_true, if_false, List.append_nil]

theorem scheme_ne_nil (hlacks : lacksAuthority u = false) (hhost : u.host = []) (huser : u.user = none) :
    u.scheme ≠ [] := by
  intro hnone
  rw [lacksAuthority_iff.mpr ⟨.inl hnone, hhost, huser⟩] at hlacks
  cases hlacks

theorem lost_iff_foreignZone (hlacks : lacksAuthority u = false) : Lost u ↔ ForeignZone u.host := by
  refine ⟨fun hlost => hlost.resolve_right ?_, .inl⟩
  rintro ⟨hrehosted, -⟩
  exact scheme_ne_nil hlacks hrehosted.host hrehosted.user hrehosted.scheme

/-- Three slashes are read as a path only behind a scheme, where nothing is written between them. -/
theorem scheme_or_not_three (hlacks : lacksAuthority u = false) :
    u.scheme.toLowerAscii ≠ [] ∨
      ¬ Text.ofString "///" <+: 47 :: 47 :: (userText u.user ++ escape .host u.host ++ u.escapedPath) := by
  refine Classical.or_iff_not_imp_left.mpr fun hnone hthree => ?_
  have hnil : u.scheme = [] := by simpa [Text.toLowerAscii] using hnone
  have hfirst : [47] <+: userText u.user ++ escape .host u.host ++ u.escapedPath :=
    (List.cons_prefix_cons.mp (List.cons_prefix_cons.mp hthree).2).2
  have hslash := slash_not_mem_authority u.user u.host
  cases htext : userText u.user ++ escape .host u.host with
  | nil =>
    obtain ⟨huser, hhost⟩ := authority_eq_nil htext
    exact scheme_ne_nil hlacks hhost huser hnil
  | cons b rest =>
    rw [htext] at hfirst hslash
    exact hslash ((List.cons_prefix_cons.mp hfirst).1 ▸ List.mem_cons_self)

/-- A scheme with nothing behind it. -/
theorem reads_of_bare (h : Sound u) (hlacks : lacksAuthority u = false) (hnone : authorityText u = [])
    (hhost : u.host = []) (huser : u.user = none) (hpath : u.path = []) : Reads u q := by
  have hread := unescape?_escapedPath u
  have hempty : u.escapedPath = [] := by
    rcases h.path hlacks with hnil | ⟨t, ht⟩
    · exact hnil
    · rw [ht, hpath, unescape?_plain .path (by decide), if_neg (by simp)] at hread
      simp [plainAllowed] at hread
  have hforeign : ¬ ForeignZone u.host := by
    rw [hhost]
    exact not_foreignZone_of_not_mem List.not_mem_nil
  rw [Reads, hierarchicalText_of_authority h hlacks, hnone, hempty, lost_iff_foreignZone hlacks]
  refine ⟨List.forall_mem_nil _, fun _ => List.not_mem_nil, fun hzone => absurd hzone hforeign, fun _ => ?_⟩
  refine parseRest?_of_head (by simp) fun hnil => absurd ?_ (scheme_ne_nil hlacks hhost huser)
  simpa [Text.toLowerAscii] using hnil

/-- An authority, and a path. -/
theorem reads_of_authority (h : Sound u) (hlacks : lacksAuthority u = false) : Reads u q := by
  rcases authorityText_cases hlacks with ⟨hnone, hhost, huser, hpath⟩ | hauthority
  · exact reads_of_bare h hlacks hnone hhost huser hpath
  · have hshape := hierarchicalText_of_authority h hlacks
    rw [hauthority, List.cons_append, List.cons_append] at hshape
    have hhead : (hierarchicalText u).head? = some 47 := by rw [hshape]; rfl
    have hat : 64 ∉ escape .host u.host := (not_mem_escape_host _).2
    have hauthorityRead := parseRest?_of_authority (q := q) (slash_not_mem_authority u.user u.host)
      (h.path hlacks) (unescape?_escapedPath u) (scheme_or_not_three hlacks)
    rw [parseAuthority?_written u.user hat] at hauthorityRead
    obtain ⟨e, he⟩ := h.host
    obtain ⟨hforeign, hkept⟩ := parseHost?_escape he
    have hlost := lost_iff_foreignZone hlacks
    refine ⟨?_, fun _ => by rw [cut_slash_of_head hhead]; exact List.not_mem_nil, ?_, ?_⟩
    · rw [hshape]
      intro b hb
      rcases hb with _ | ⟨_, _ | ⟨_, hb⟩⟩
      · decide
      · decide
      · rcases List.mem_append.mp hb with hb | hb
        · exact inner_authority _ _ b hb
        · exact inner_escapedPath u b hb
    · intro hzone
      rw [hshape, hauthorityRead, hforeign (hlost.mp hzone)]
      rfl
    · intro hzone
      rw [hshape, hauthorityRead, hkept (mt hlost.mpr hzone)]
      rfl

theorem reads (h : Sound u) : Reads u q := by
  cases hlacks : lacksAuthority u with
  | false => exact reads_of_authority h hlacks
  | true =>
    obtain ⟨hnone, hhost, huser⟩ := lacksAuthority_iff.mp hlacks
    cases homit : u.omitHost with
    | true => exact reads_of_omitHost (h.omitHost homit).1 homit hhost huser
    | false => exact reads_of_no_scheme (hnone.resolve_right (by simp [homit])) homit hhost huser

theorem number_not_mem_scheme {scheme : Text} (h : scheme = [] ∨ IsScheme scheme) :
    35 ∉ Text.when (!scheme.isEmpty) (scheme ++ ":") := by
  rcases h with rfl | hsome
  · simp [Text.when]
  · intro hmem
    have hmem' : 35 ∈ scheme ++ Text.ofString ":" := by
      unfold Text.when at hmem
      split at hmem
      · exact hmem
      · cases hmem
    rcases List.mem_append.mp hmem' with hmem' | hmem'
    · exact absurd (hsome.bytes 35 hmem') (by decide)
    · exact absurd hmem' (by decide)

/-- What is written of the body is read by what is behind the scheme. -/
theorem parse?_written (h : Sound u) (hq : q ≠ []) (hplain : ∀ b ∈ q, Inner b)
    (hinner : ∀ b ∈ u.body, Inner b) (hcolon : u.scheme = [] → 58 ∉ (Text.cut 47 u.body).1) :
    (parse? (toText { u with query := q })).map (·.query) =
      (parseRest? u.scheme.toLowerAscii (u.body, false, q)).map (·.query) := by
  have hfragment : 35 ∉ Text.when (!u.scheme.isEmpty) (u.scheme ++ ":") ++ u.body ++ 63 :: q := by
    simp only [List.mem_append, List.mem_cons, not_or]
    exact ⟨⟨number_not_mem_scheme h.scheme, fun hmem => (hinner _ hmem).2.1 rfl⟩, by decide,
      fun hmem => (hplain _ hmem).2.1 rfl⟩
  rw [toText_eq hq, parse?_map_query hfragment, parseBody?_written h.scheme hinner hcolon hq hplain]

/-- **What is written of a sound URL is read again, with the query it was given, unless it is lost.** -/
theorem parse?_toText (h : Sound u) (hq : q ≠ []) (hplain : ∀ b ∈ q, Inner b) :
    (Lost u → parse? (toText { u with query := q }) = none) ∧
      (¬ Lost u → ∃ v, parse? (toText { u with query := q }) = some v ∧ v.query = q) := by
  have hboth : (Lost u → (parse? (toText { u with query := q })).map (·.query) = none) ∧
      (¬ Lost u → (parse? (toText { u with query := q })).map (·.query) = some q) := by
    by_cases hopaque : u.opaquePart = []
    · obtain ⟨hinner, hcolon, hlost, hkept⟩ := reads (q := q) h
      have hbody : u.body = hierarchicalText u := by simp [body, hopaque]
      rw [← hbody] at hinner hcolon hlost hkept
      rw [parse?_written h hq hplain hinner hcolon]
      exact ⟨hlost, hkept⟩
    · obtain ⟨hscheme, hhost, hhead⟩ := h.opaquePart hopaque
      have hbody : u.body = u.opaquePart := by simp [body, hopaque]
      have hkept : ¬ Lost u := fun hlost => hscheme (hlost.rehosted hhost).1.scheme
      have hinner := h.inner
      rw [← hbody] at hinner hhead
      rw [parse?_written h hq hplain hinner fun hnone => absurd hnone hscheme]
      refine ⟨fun hlost => absurd hlost hkept, fun _ => parseRest?_of_head hhead fun hnil => absurd ?_ hscheme⟩
      simpa [Text.toLowerAscii] using hnil
  refine ⟨fun hlost => Option.map_eq_none_iff.mp (hboth.1 hlost), fun hkept => ?_⟩
  exact Option.map_eq_some_iff.mp (hboth.2 hkept)

end Url

end PageBoot
