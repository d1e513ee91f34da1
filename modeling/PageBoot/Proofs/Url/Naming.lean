import PageBoot.Proofs.Url.Spelling
import PageBoot.Url.Query

/-!
The code server that a query names. It is what is spelled between the first key and the next
ampersand, however it is spelled, and only a malformed spelling falls back to the default server
(`codeServer_named`).
-/

namespace PageBoot

namespace Url

open Text (FirstBehind EndsAt)

/-- The key with the sign that its value follows. -/
def codeServerMark : Text := codeServerKey ++ "="

/-- The value is what stands between the first mark and the next ampersand. -/
theorem codeServer_eq {p v t : Text} (hp : FirstBehind codeServerMark p) (hv : 38 ∉ v) (ht : EndsAt 38 t) :
    codeServer (p ++ codeServerMark ++ (v ++ t)) = (unescape? .segment v).getD defaultCodeServer := by
  have hfind : Text.find? (codeServerKey ++ "=") (p ++ codeServerMark ++ (v ++ t)) = some p.length :=
    hp.find?_eq (v ++ t)
  have hdrop : (p ++ codeServerMark ++ (v ++ t)).drop (p.length + codeServerMark.length) = v ++ t := by
    rw [← List.length_append, List.drop_left]
  rw [codeServer, hfind]
  show (unescape? .segment
    (Text.cut 38 ((p ++ codeServerMark ++ (v ++ t)).drop (p.length + codeServerMark.length))).1).getD
      defaultCodeServer = _
  rw [hdrop, Text.cut_fst_append hv ht]

theorem codeServer_of_spells {p e a t : Text} (hp : FirstBehind codeServerMark p) (he : Spells e a)
    (hamp : 38 ∉ e) (ht : EndsAt 38 t) : codeServer (p ++ codeServerMark ++ (e ++ t)) = a := by
  rw [codeServer_eq hp hamp ht, unescape?_eq_some_iff.mpr he, Option.getD_some]

/-- A search string that has the mark falls into what is before it, the value, and the rest. -/
theorem exists_value {search : Text} (h : hasQueryKey search codeServerKey = true) :
    ∃ p v t, search = p ++ codeServerMark ++ (v ++ t) ∧ FirstBehind codeServerMark p ∧ 38 ∉ v ∧
      EndsAt 38 t := by
  obtain ⟨p, s, rfl, hp⟩ := Text.exists_firstBehind (Text.includes_iff.mp h)
  obtain ⟨v, t, rfl, hv, ht⟩ := Text.exists_cut 38 s
  exact ⟨p, v, t, rfl, hp, hv, ht⟩

/-- **The code server that is named.** Let the key stand first behind `p`. Then every spelling of an
address in which no ampersand stands for itself, up to the end or to the next ampersand, is read as
that address. And whatever search string has the key, it is read as the default server exactly if
what stands between its first key and the next ampersand is malformed, or spells the default server;
else it is read as what is spelled there. -/
theorem codeServer_named :
    (∀ p e a t : Text, FirstBehind codeServerMark p → Spells e a → 38 ∉ e → EndsAt 38 t →
      codeServer (p ++ codeServerMark ++ (e ++ t)) = a) ∧
    ∀ search : Text, hasQueryKey search codeServerKey = true →
      ∃ p v t, search = p ++ codeServerMark ++ (v ++ t) ∧ FirstBehind codeServerMark p ∧ 38 ∉ v ∧
        EndsAt 38 t ∧
        (codeServer search = defaultCodeServer ↔ Malformed v ∨ Spells v defaultCodeServer) ∧
        (Malformed v ∨ Spells v (codeServer search)) := by
  refine ⟨fun p e a t hp he hamp ht => codeServer_of_spells hp he hamp ht, fun search hkey => ?_⟩
  obtain ⟨p, v, t, rfl, hp, hv, ht⟩ := exists_value hkey
  refine ⟨p, v, t, rfl, hp, hv, ht, ?_⟩
  rw [codeServer_eq hp hv ht, ← unescape?_eq_none_iff, ← unescape?_eq_some_iff, ← unescape?_eq_some_iff]
  cases hread : unescape? .segment v with
  | none => exact ⟨iff_of_true rfl (.inl rfl), .inl rfl⟩
  | some a => simp

/-- An address with an ampersand, spelled with escapes in both cases, and a broken escape. -/
theorem codeServer_named_escaped :
    (FirstBehind codeServerMark "?a=gwt.codesvr&" ∧ Spells "%68ost%3a1%2B%26" "host:1+&" ∧
      38 ∉ Text.ofString "%68ost%3a1%2B%26" ∧ EndsAt 38 "&gwt.codesvr=x" ∧
      codeServer (Text.ofString "?a=gwt.codesvr&" ++ codeServerMark ++
        (Text.ofString "%68ost%3a1%2B%26" ++ Text.ofString "&gwt.codesvr=x")) = "host:1+&") ∧
    hasQueryKey "?gwt.codesvr=h%3&y" codeServerKey = true ∧
      codeServer "?gwt.codesvr=h%3&y" = defaultCodeServer := by
  have hfirst : FirstBehind codeServerMark "?a=gwt.codesvr&" := Text.firstBehind_of_find? rfl
  have hspells : Spells "%68ost%3a1%2B%26" "host:1+&" := unescape?_eq_some_iff.mp rfl
  have hamp : 38 ∉ Text.ofString "%68ost%3a1%2B%26" := by decide
  have hend : EndsAt 38 "&gwt.codesvr=x" := .inr ⟨"gwt.codesvr=x", rfl⟩
  have hkey : hasQueryKey "?gwt.codesvr=h%3&y" codeServerKey = true := rfl
  refine ⟨⟨hfirst, hspells, hamp, hend, codeServer_named.1 _ _ _ _ hfirst hspells hamp hend⟩, hkey, ?_⟩
  obtain ⟨p, v, t, -, -, -, -, hdefault, hmalformed | hspelled⟩ := codeServer_named.2 _ hkey
  · exact hdefault.mpr (.inl hmalformed)
  · rfl

end Url

end PageBoot
