import Mathlib.Data.List.Nodup
import PageBoot.Proofs.Url.Naming

/-!
Queries that are read, changed and written again. A query that was read has the values of each key in
their order (`get?_foldl_add`), and is written key by key in byte order (`pairs`). The code server that
a written query names is the value of its first key that ends with the key of the code server, with a
plus sign for each space (`codeServer_encode`).
-/

namespace PageBoot

namespace Dict

variable {α : Type}

theorem keys_set (d : Dict α) (k : Text) (v : α) :
    (d.set k v).keys = if k ∈ d.keys then d.keys else d.keys.concat k := by
  induction d with
  | nil => rfl
  | cons e d ih =>
    obtain ⟨k', v'⟩ := e
    by_cases hk : k' = k
    · simp [set, keys, hk]
    · simp only [keys] at ih
      by_cases hmem : k ∈ d.map (·.1) <;> simp [set, keys, hk, Ne.symm hk, ih, hmem]

theorem nodup_set {d : Dict α} (h : d.keys.Nodup) (k : Text) (v : α) : (d.set k v).keys.Nodup := by
  rw [keys_set]
  split
  · exact h
  · next hfresh => exact h.concat hfresh

theorem mem_iff_get? {d : Dict α} (h : d.keys.Nodup) {k : Text} {v : α} :
    (k, v) ∈ d ↔ d.get? k = some v := by
  induction d with
  | nil => simp [get?]
  | cons e d ih =>
    obtain ⟨k', v'⟩ := e
    obtain ⟨hfresh, hrest⟩ := List.nodup_cons.mp h
    by_cases hk : k' = k
    · subst hk
      have hnot : (k', v) ∉ d := fun hmem => hfresh (List.mem_map_of_mem (f := (·.1)) hmem)
      simp [get?, hnot, eq_comm]
    · have htail : get? ((k', v') :: d) k = get? d k := by simp [get?, hk]
      rw [htail, ← ih hrest]
      simp [Ne.symm hk]

end Dict

namespace Url

open Text (FirstBehind)

namespace Query

theorem get?_add (q : Query) (field : Text × Text) (k : Text) :
    (q.add field).get? k =
      if field.1 = k then some ((q.get? k).getD [] ++ [field.2]) else q.get? k := by
  rw [add, Dict.get?_set]
  split
  · rename_i h
    rw [h]
  · rfl

/-- The values of a key are collected behind those that are there. -/
theorem get?_foldl_add (fs : List (Text × Text)) (q : Query) (k : Text) :
    (fs.foldl add q).get? k =
      if fs.filter (·.1 = k) = [] then q.get? k
      else some ((q.get? k).getD [] ++ (fs.filter (·.1 = k)).map (·.2)) := by
  induction fs generalizing q with
  | nil => simp
  | cons f fs ih =>
    rw [List.foldl_cons, ih, get?_add]
    by_cases hf : f.1 = k
    · by_cases hrest : fs.filter (·.1 = k) = [] <;> simp [hf, hrest]
    · rw [List.filter_cons_of_neg (by simpa using hf), if_neg hf]

theorem first?_parse (raw key : Text) :
    (parse raw).first? key = ((fields raw).find? (·.1 = key)).map (·.2) := by
  rw [first?, parse, get?_foldl_add, ← List.head?_filter]
  cases (fields raw).filter (·.1 = key) with
  | nil => rfl
  | cons f fs => simp [Dict.get?]

theorem nodup_parse (raw : Text) : (parse raw).keys.Nodup := by
  unfold parse
  suffices ∀ q : Query, q.keys.Nodup → ((fields raw).foldl add q).keys.Nodup from this [] List.nodup_nil
  induction fields raw with
  | nil => exact fun q hq => hq
  | cons f fs ih => exact fun q hq => ih _ (Dict.nodup_set hq _ _)

/-! ## Keys and values as they are written -/

/-- Keys with their values, in the order in which they are written. -/
def pairs (q : Query) : List (Text × Text) := q.sorted.flatMap fun e => e.2.map fun v => (e.1, v)

/-- A key with its value as it is written. -/
def written (f : Text × Text) : Text := escape .query f.1 ++ 61 :: escape .query f.2

theorem encode_eq (q : Query) : encode q = Text.join [38] (q.pairs.map written) := by
  have hwritten (k v : Text) : escape .query k ++ Text.ofString "=" ++ escape .query v = written (k, v) :=
    List.append_assoc _ _ _
  simp only [encode, pairs, List.map_flatMap, List.map_map, hwritten]
  rfl

/-- Of the keys with some property the least is written first, with its first value. -/
theorem exists_pairs {q : Query} (hnodup : q.keys.Nodup) {P : Text → Prop} {k v : Text} {vs : List Text}
    (hget : q.get? k = some (v :: vs)) (hleast : ∀ e ∈ q, P e.1 → k ≤ e.1) :
    ∃ before after, q.pairs = before ++ (k, v) :: after ∧ ∀ f ∈ before, ¬ P f.1 := by
  have hmem : (k, v :: vs) ∈ q.sorted := List.mem_mergeSort.mpr ((Dict.mem_iff_get? hnodup).mpr hget)
  have hsorted : q.sorted.Pairwise fun x y => x.1 < y.1 := Text.pairwise_lt_mergeSort (fun e : Text × List Text => e.1) hnodup
  obtain ⟨front, back, hsplit⟩ := List.append_of_mem hmem
  refine ⟨front.flatMap fun e => e.2.map fun v => (e.1, v),
    (vs.map fun v => (k, v)) ++ back.flatMap fun e => e.2.map fun v => (e.1, v), ?_, ?_⟩
  · simp [pairs, hsplit]
  · intro f hf hP
    obtain ⟨e, he, hfe⟩ := List.mem_flatMap.mp hf
    obtain ⟨w, -, rfl⟩ := List.mem_map.mp hfe
    have hlt : e.1 < k := by
      rw [hsplit] at hsorted
      exact (List.pairwise_append.mp hsorted).2.2 e he _ List.mem_cons_self
    have heq : e ∈ q := List.mem_mergeSort.mp (hsplit ▸ List.mem_append_left _ he)
    exact absurd (hleast e heq hP) (List.not_le.mpr hlt)

/-! ## The code server that a written query names -/

theorem spells_escape (v : Text) : Spells (escape .query v) (plussed v) := by
  induction v with
  | nil => exact .nil
  | cons b v ih =>
    have hcons : escape .query (b :: v) = escapeByte .query b ++ escape .query v := rfl
    rw [hcons]
    unfold escapeByte
    split
    · split
      · next hspace =>
        obtain ⟨rfl, -⟩ := hspace
        exact .plain (by decide) ih
      · next hspace =>
        have hb : (if b = 32 then (43 : UInt8) else b) = b / 16 * 16 + b % 16 := by
          rw [if_neg fun h => hspace ⟨h, rfl⟩, high_add_low]
        simp only [plussed, List.map_cons, hb]
        exact .escaped (hexDigit?_upperHex (high_lt b)) (hexDigit?_upperHex (low_lt b)) ih
    · next hmust =>
      have hspace : b ≠ 32 := by
        rintro rfl
        exact hmust rfl
      have hpercent : b ≠ 37 := by
        rintro rfl
        exact hmust rfl
      simp only [plussed, List.map_cons, if_neg hspace]
      exact .plain hpercent ih

/-- Neither sign that separates fields is written for a byte of a key or a value. -/
theorem not_mem_escape_query (t : Text) : 38 ∉ escape .query t ∧ 61 ∉ escape .query t :=
  ⟨not_mem_escape (by decide) rfl t, not_mem_escape (by decide) rfl t⟩

/-- Bytes that end no escape are the end of what is written only if they end what was to be. -/
theorem suffix_of_suffix_escape {w t : Text}
    (hw : ∀ c ∈ w, ∀ b, (escapeByte .query b).getLast? = some c → escapeByte .query b = [b])
    (h : w <:+ escape .query t) : w <:+ t := by
  induction t using List.reverseRecOn generalizing w with
  | nil => exact h
  | append_singleton t b ih =>
    rcases List.eq_nil_or_concat w with rfl | ⟨v, c, rfl⟩
    · exact List.nil_suffix
    · rw [List.concat_eq_append] at hw h ⊢
      have hsplit : escape .query (t ++ [b]) = escape .query t ++ escapeByte .query b := by
        simp [escape]
      have hne : escapeByte .query b ≠ [] := by
        unfold escapeByte
        split
        · split <;> simp
        · simp
      have hlast : (escapeByte .query b).getLast? = some c := by
        obtain ⟨r, hr⟩ := h
        have hends := congrArg List.getLast? (hr.trans hsplit)
        rw [List.getLast?_append_of_ne_nil _ hne] at hends
        simpa using hends.symm
      have hplain := hw c (by simp) b hlast
      have hb : b = c := by simpa [hplain] using hlast
      rw [hsplit, hplain, hb] at h
      obtain hnil | ⟨v', hv', hsuffix⟩ := List.suffix_concat_iff.mp h
      · simp at hnil
      · obtain rfl := List.append_cancel_right hv'
        rw [hb]
        exact List.suffix_concat_iff.mpr
          (.inr ⟨v, rfl, ih (fun c hc => hw c (List.mem_append_left _ hc)) hsuffix⟩)

theorem key_suffix_escape_iff {t : Text} : codeServerKey <:+ escape .query t ↔ codeServerKey <:+ t := by
  constructor
  · refine suffix_of_suffix_escape fun c hc b hlast => ?_
    have hother : ∀ c ∈ codeServerKey, c ≠ 43 ∧ c ≠ 37 ∧ ¬ (isAlnum c = true ∧ c ≤ 70) :=
      List.all_iff_forall_prop.mp (by decide)
    obtain ⟨hplus, hpercent, hdigit⟩ := hother c hc
    rcases mem_escapeByte (List.mem_of_getLast? hlast) with ⟨-, hmust⟩ | ⟨rfl, -⟩ | rfl | halnum
    · rw [escapeByte, hmust]
      rfl
    · exact absurd rfl hplus
    · exact absurd rfl hpercent
    · exact absurd halnum hdigit
  · rintro ⟨s, rfl⟩
    rw [escape_append]
    exact List.suffix_append _ _

/-- The mark stands in a field only behind a key that ends with the key of the code server. -/
theorem not_mark_infix_written {f : Text × Text} (h : ¬ codeServerKey <:+ f.1) :
    ¬ codeServerMark <:+: written f := by
  rintro ⟨q, r, hqr⟩
  have hsplit : escape .query f.1 ++ 61 :: escape .query f.2 = (q ++ codeServerKey) ++ 61 :: r := by
    rw [← written, ← hqr]
    simp [codeServerMark, Text.ofString, Text.ofChars]
    rfl
  have hkey : 61 ∉ escape .query f.1 := (not_mem_escape_query _).2
  have hvalue : 61 ∉ escape .query f.2 := (not_mem_escape_query _).2
  have hsame := ((List.append_cons_inj_of_notMem hkey hvalue).mp hsplit).1
  exact h (key_suffix_escape_iff.mp ⟨q, hsame.symm⟩)

/-- The mark stands first in the first field whose key ends with the key of the code server. -/
theorem firstBehind_written {before : List (Text × Text)} (hbefore : ∀ f ∈ before, ¬ codeServerKey <:+ f.1)
    (k : Text) :
    FirstBehind codeServerMark
      (63 :: (before.flatMap (fun f => written f ++ [38]) ++ escape .query k)) := by
  have hq : (63 : UInt8) ∉ codeServerMark := by decide
  have hamp : (38 : UInt8) ∉ codeServerMark := by decide
  refine FirstBehind.append (a := []) hq (by simp [codeServerMark]; decide) ?_
  induction before with
  | nil =>
    refine Text.firstBehind_of_last (w := codeServerKey) (by decide) ?_
    exact (not_mem_escape_query _).2
  | cons f before ih =>
    obtain ⟨hf, hrest⟩ := List.forall_mem_cons.mp hbefore
    have hnext := FirstBehind.append hamp (not_mark_infix_written hf) (ih hrest)
    simpa using hnext

theorem join_append_cons {sep : Text} (before : List Text) (t : Text) (after : List Text) :
    Text.join sep (before ++ t :: after) =
      before.flatMap (· ++ sep) ++ (t ++ after.flatMap (sep ++ ·)) := by
  induction before with
  | nil =>
    induction after generalizing t with
    | nil => simp [Text.join]
    | cons u after ih =>
      have hrest := ih u
      simp only [List.nil_append, List.flatMap_nil] at hrest ⊢
      simp [Text.join, hrest]
  | cons b before ih =>
    cases hrest : before ++ t :: after with
    | nil => simp at hrest
    | cons c rest =>
      rw [hrest] at ih
      simp [Text.join, hrest, ih]

/-- What a written query is read as by the reader of the key. -/
theorem codeServer_encode {q : Query} {before after : List (Text × Text)} {f : Text × Text}
    (hpairs : q.pairs = before ++ f :: after) (hbefore : ∀ g ∈ before, ¬ codeServerKey <:+ g.1)
    (hf : codeServerKey <:+ f.1) : codeServer (63 :: q.encode) = plussed f.2 := by
  obtain ⟨k, hk⟩ := hf
  have hsplit : 63 :: q.encode =
      63 :: (before.flatMap (fun g => written g ++ [38]) ++ escape .query k) ++ codeServerMark ++
        (escape .query f.2 ++ (after.map written).flatMap ([38] ++ ·)) := by
    rw [encode_eq, hpairs, List.map_append, List.map_cons, join_append_cons]
    have hkey : escape .query codeServerKey = codeServerKey := by decide
    have hmark : codeServerMark = codeServerKey ++ [61] := rfl
    simp [written, ← hk, escape_append, hkey, hmark, List.flatMap_map]
  rw [hsplit]
  refine codeServer_of_spells (firstBehind_written hbefore k) (spells_escape f.2) ?_ ?_
  · exact (not_mem_escape_query _).1
  · cases after with
    | nil => exact .inl rfl
    | cons g after => exact .inr ⟨_, rfl⟩

end Query

end Url

end PageBoot
