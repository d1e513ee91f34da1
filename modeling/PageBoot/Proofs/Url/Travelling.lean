import PageBoot.Page.Basic
import PageBoot.Proofs.Url.Queries
import PageBoot.Proofs.Url.Rereading

/-!
A code server that is put into the location of a page, and read there. The query is written with a plus
sign for each space, and its keys in byte order, but its code server is read with neither in mind:
`codeServer_travels` says what is read in every case, and which locations are lost.
-/

namespace PageBoot

namespace Url

namespace Query

/-- A key that is written before the key of a code server and ends with it. -/
def Hides (k : Text) : Prop := codeServerKey <:+ k ∧ k < codeServerKey

instance : DecidablePred Hides := fun _ => inferInstanceAs (Decidable (_ ∧ _))

theorem mem_join {sep : Text} {ts : List Text} {b : UInt8} (h : b ∈ Text.join sep ts) :
    b ∈ sep ∨ ∃ t ∈ ts, b ∈ t := by
  induction ts with
  | nil => cases h
  | cons t ts ih =>
    cases ts with
    | nil => exact .inr ⟨t, List.mem_singleton_self t, h⟩
    | cons t' ts =>
      simp only [Text.join, List.mem_append] at h
      rcases h with (h | h) | h
      · exact .inr ⟨t, List.mem_cons_self, h⟩
      · exact .inl h
      · refine (ih h).imp_right ?_
        rintro ⟨s, hs, hb⟩
        exact ⟨s, List.mem_cons_of_mem _ hs, hb⟩

theorem inner_written (f : Text × Text) : ∀ b ∈ written f, Inner b := by
  intro b hb
  rcases List.mem_append.mp hb with hb | hb
  · exact inner_escape (by decide) _ b hb
  · rcases List.mem_cons.mp hb with rfl | hb
    · decide
    · exact inner_escape (by decide) _ b hb

theorem inner_encode (q : Query) : ∀ b ∈ q.encode, Inner b := by
  intro b hb
  rw [encode_eq] at hb
  rcases mem_join hb with hb | ⟨t, ht, hb⟩
  · rw [List.mem_singleton.mp hb]
    decide
  · obtain ⟨f, -, rfl⟩ := List.mem_map.mp ht
    exact inner_written f b hb

/-- The query of a location with a code server put into it. -/
def withServer (raw addr : Text) : Query := (parse raw).set codeServerKey [addr]

variable {raw addr : Text}

theorem nodup_withServer : (withServer raw addr).keys.Nodup := Dict.nodup_set (nodup_parse raw) _ _

/-- Every key but the one that was put in is that of a field. -/
theorem exists_field {e : Text × List Text} (h : e ∈ withServer raw addr) (hne : e.1 ≠ codeServerKey) :
    ∃ f ∈ fields raw, f.1 = e.1 := by
  have hget := (Dict.mem_iff_get? nodup_withServer).mp h
  rw [withServer, Dict.get?_set, if_neg (Ne.symm hne), parse, get?_foldl_add] at hget
  split at hget
  · cases hget
  · next hsome =>
    obtain ⟨f, hf⟩ := List.exists_mem_of_ne_nil _ hsome
    obtain ⟨hmem, hname⟩ := List.mem_filter.mp hf
    exact ⟨f, hmem, by simpa using hname⟩

/-- If no key hides it, the code server that was put in is read, with a plus sign for each space. -/
theorem codeServer_withServer (h : ∀ f ∈ fields raw, ¬ Hides f.1) :
    codeServer (63 :: (withServer raw addr).encode) = plussed addr := by
  have hget : (withServer raw addr).get? codeServerKey = some [addr] := by simp [withServer, Dict.get?_set]
  obtain ⟨before, after, hpairs, hbefore⟩ :=
    exists_pairs (P := (codeServerKey <:+ ·)) nodup_withServer hget (by
      intro e he hends
      by_cases hne : e.1 = codeServerKey
      · rw [hne]
        exact List.le_refl _
      · obtain ⟨f, hf, hname⟩ := exists_field he hne
        exact List.not_lt.mp fun hlt => h f hf ⟨hname ▸ hends, hname ▸ hlt⟩)
  exact codeServer_encode hpairs hbefore (List.suffix_refl _)

/-- Else the first value of the least key that hides it is read. -/
theorem codeServer_of_hides {f : Text × Text} (hfirst : (fields raw).find? (·.1 = f.1) = some f)
    (hf : Hides f.1) (hleast : ∀ g ∈ fields raw, Hides g.1 → f.1 ≤ g.1) :
    codeServer (63 :: (withServer raw addr).encode) = plussed f.2 := by
  have hne : codeServerKey ≠ f.1 := fun heq => by
    have hlt := hf.2
    rw [← heq] at hlt
    exact List.lt_irrefl _ hlt
  obtain ⟨vs, hget⟩ : ∃ vs, (withServer raw addr).get? f.1 = some (f.2 :: vs) := by
    rw [← List.head?_filter] at hfirst
    obtain ⟨rest, hrest⟩ : ∃ rest, (fields raw).filter (fun g => g.1 = f.1) = f :: rest := by
      cases hfilter : (fields raw).filter fun g => g.1 = f.1 with
      | nil => simp [hfilter] at hfirst
      | cons g rest =>
        rw [hfilter] at hfirst
        cases hfirst
        exact ⟨rest, rfl⟩
    refine ⟨rest.map (·.2), ?_⟩
    rw [withServer, Dict.get?_set, if_neg hne, parse, get?_foldl_add, hrest]
    rfl
  obtain ⟨before, after, hpairs, hbefore⟩ :=
    exists_pairs (P := (codeServerKey <:+ ·)) nodup_withServer hget (by
      intro e he hends
      by_cases hkey : e.1 = codeServerKey
      · rw [hkey]
        exact List.le_of_lt hf.2
      · obtain ⟨g, hg, hname⟩ := exists_field he hkey
        rw [← hname] at hends ⊢
        by_cases hlt : g.1 < codeServerKey
        · exact hleast g hg ⟨hends, hlt⟩
        · exact List.le_trans (List.le_of_lt hf.2) (List.not_lt.mp hlt))
  exact codeServer_encode hpairs hbefore hf.1

theorem encode_withServer_ne_nil : (withServer raw addr).encode ≠ [] := by
  have hget : (withServer raw addr).get? codeServerKey = some [addr] := by simp [withServer, Dict.get?_set]
  obtain ⟨before, after, hpairs, -⟩ :=
    exists_pairs (P := fun _ => False) nodup_withServer hget fun _ _ => False.elim
  rw [encode_eq, hpairs, List.map_append, List.map_cons, join_append_cons]
  simp [written]

end Query

/-! ## Pages that are opened -/

/-- A page opens at a location that can be read, and keeps it. -/
theorem location_of_open? {markup location agent mode : Text} {page : Page} (hsome : location ≠ [])
    (h : Page.open? markup location agent mode = .ok page) : parse? location = some page.location := by
  have hlocation : location.isEmpty = false := by simpa using hsome
  simp only [Page.open?, hlocation, Bool.false_eq_true, if_false] at h
  cases hread : parse? location with
  | none => simp [hread] at h
  | some u =>
    simp only [hread] at h
    split at h
    · cases h
      rfl
    · cases h

/-- Markup that opens at one location opens at every other that can be read. -/
theorem exists_open? {markup old location agent mode : Text} {u : Url} {before : Page}
    (hopened : Page.open? markup old agent mode = .ok before) (hsome : location ≠ [])
    (h : parse? location = some u) : ∃ page, Page.open? markup location agent mode = .ok page := by
  have hlocation : location.isEmpty = false := by simpa using hsome
  unfold Page.open? at hopened
  simp only at hopened
  split at hopened
  · cases hopened
  · split at hopened
    · next head body hhead hbody =>
      simp only [Page.open?, hlocation, Bool.false_eq_true, if_false, h, hhead, hbody]
      exact ⟨_, rfl⟩
    · cases hopened

theorem exists_open?_empty {location : Text} {u : Url} (hsome : location ≠ []) (h : parse? location = some u) :
    ∃ page, Page.open? Page.emptyMarkup location [] [] = .ok page := by
  have hopened : ∃ page, Page.open? Page.emptyMarkup [] [] [] = .ok page := ⟨_, rfl⟩
  obtain ⟨before, hbefore⟩ := hopened
  exact exists_open? hbefore hsome h

theorem plussed_eq_self_iff {t : Text} : plussed t = t ↔ 32 ∉ t := by
  constructor
  · intro h hmem
    have hplus : (32 : UInt8) ∈ plussed t := h.symm ▸ hmem
    obtain ⟨b, -, hb⟩ := List.mem_map.mp hplus
    split at hb
    · exact absurd hb (by decide)
    · next hne => exact hne hb
  · intro h
    unfold plussed
    conv_rhs => rw [← List.map_id t]
    refine List.map_congr_left fun b hb => if_neg ?_
    rintro rfl
    exact h hb

/-! ## Locations with a code server -/

/-- The location that comes of putting a code server into one. -/
def serving (u : Url) (addr : Text) : Text := toText { u with query := (Query.withServer u.query addr).encode }

variable {location addr : Text} {u : Url}

theorem withCodeServer?_eq (hread : parse? location = some u)
    (hkey : hasQueryKey ("?" ++ u.query) codeServerKey = false) (haddr : addr ≠ []) :
    withCodeServer? location addr = some (u.serving addr) := by
  have hempty : addr.isEmpty = false := by simpa using haddr
  simp only [withCodeServer?, hread, hempty, hkey, Bool.or_self, Bool.false_eq_true, if_false,
    Option.bind_eq_bind, Option.bind_some]
  rfl

theorem serving_ne_nil : u.serving addr ≠ [] := by
  rw [serving, toText_eq Query.encode_withServer_ne_nil]
  simp

theorem parse?_serving (hread : parse? location = some u) :
    (Lost u → parse? (u.serving addr) = none) ∧
      (¬ Lost u → ∃ v, parse? (u.serving addr) = some v ∧ v.query = (Query.withServer u.query addr).encode) :=
  parse?_toText (sound_parse? hread) Query.encode_withServer_ne_nil (Query.inner_encode _)

/-- What a page that opens there shows of its query. -/
theorem search_of_open? (hread : parse? location = some u) {markup agent mode : Text} {page : Page}
    (hpage : Page.open? markup (u.serving addr) agent mode = .ok page) :
    page.search = 63 :: (Query.withServer u.query addr).encode := by
  have hlocation := location_of_open? serving_ne_nil hpage
  obtain ⟨hlost, hkept⟩ := @parse?_serving location addr u hread
  have hquery : page.location.query = (Query.withServer u.query addr).encode := by
    by_cases h : Lost u
    · rw [hlost h] at hlocation
      cases hlocation
    · obtain ⟨v, hv, hquery⟩ := hkept h
      rw [hv, Option.some.injEq] at hlocation
      rw [← hlocation, hquery]
  have hempty : List.isEmpty (Query.withServer u.query addr).encode = false := by
    simpa using Query.encode_withServer_ne_nil
  simp only [Page.search, Url.search, hquery, Text.when, hempty, Bool.not_false, if_true]
  rfl

/-- **What becomes of a code server.** Let a location that can be read name none, and let some address be
put into it. Unless the location that comes of it is lost, all markup that opens at the one opens at the
other. On every page that opens
there, if no key of the location hides it, the address is read with a plus sign for each space, so that
it is read as it was exactly if it has no space; else the first value of the least key that hides it is
read, with a plus sign for each space too. -/
theorem codeServer_travels (hread : parse? location = some u)
    (hkey : hasQueryKey ("?" ++ u.query) codeServerKey = false) (haddr : addr ≠ []) :
    ∃ written, withCodeServer? location addr = some written ∧
      (Lost u → ∀ markup agent mode, ∃ e, Page.open? markup written agent mode = .error e) ∧
      (¬ Lost u → ∀ markup agent mode, (∃ page, Page.open? markup location agent mode = .ok page) →
        ∃ page, Page.open? markup written agent mode = .ok page) ∧
      ∀ markup agent mode page, Page.open? markup written agent mode = .ok page →
        ((∀ f ∈ Query.fields u.query, ¬ Query.Hides f.1) →
          codeServer page.search = plussed addr ∧ (codeServer page.search = addr ↔ 32 ∉ addr)) ∧
        ∀ f, (Query.fields u.query).find? (·.1 = f.1) = some f → Query.Hides f.1 →
          (∀ g ∈ Query.fields u.query, Query.Hides g.1 → f.1 ≤ g.1) →
          codeServer page.search = plussed f.2 := by
  obtain ⟨hlost, hkept⟩ := @parse?_serving location addr u hread
  refine ⟨u.serving addr, withCodeServer?_eq hread hkey haddr, fun h => ?_, fun h => ?_, ?_⟩
  · intro markup agent mode
    have hempty : (u.serving addr).isEmpty = false := by simpa using serving_ne_nil
    simp only [Page.open?, hempty, Bool.false_eq_true, if_false, hlost h]
    exact ⟨_, rfl⟩
  · rintro markup agent mode ⟨before, hopened⟩
    obtain ⟨v, hv, -⟩ := hkept h
    exact exists_open? hopened serving_ne_nil hv
  · intro markup agent mode page hpage
    rw [search_of_open? hread hpage]
    refine ⟨fun h => ?_, fun f hfirst hf hleast => Query.codeServer_of_hides hfirst hf hleast⟩
    rw [Query.codeServer_withServer h]
    exact ⟨rfl, plussed_eq_self_iff⟩

/-- A URL without a bracket in its host is not lost if it has a scheme. -/
theorem not_lost {u : Url} (hscheme : u.scheme ≠ []) (hhost : u.host.head? ≠ some 91) : ¬ Lost u := by
  rintro (hforeign | ⟨hrehosted, -⟩)
  · exact hhost hforeign.1
  · exact hscheme hrehosted.scheme

/-- An address without a space is read on the page that opens, and one that a key without a value hides
is not. -/
theorem codeServer_travels_hidden :
    (∃ written page, withCodeServer? "http://h/a.html?x=1" "[::1]:9997" = some written ∧
      Page.open? Page.emptyMarkup written [] [] = .ok page ∧ codeServer page.search = "[::1]:9997") ∧
    ∃ written page, withCodeServer? "http://h/a.html?agwt.codesvr" "b:1" = some written ∧
      Page.open? Page.emptyMarkup written [] [] = .ok page ∧ codeServer page.search = [] := by
  constructor
  · have hread : parse? "http://h/a.html?x=1" =
        some { scheme := "http", host := "h", path := "/a.html", query := "x=1" } := rfl
    have haddr : Text.ofString "[::1]:9997" ≠ [] := by decide
    obtain ⟨written, hwritten, -, hopen, hpages⟩ := codeServer_travels hread (by decide) haddr
    obtain ⟨page, hpage⟩ := hopen (not_lost (by decide) (by decide)) Page.emptyMarkup [] []
      (exists_open?_empty (by decide) hread)
    have hfields : Query.fields "x=1" = [(Text.ofString "x", Text.ofString "1")] := rfl
    have hshown : ∀ f ∈ Query.fields "x=1", ¬ Query.Hides f.1 := by
      rw [hfields]
      decide
    exact ⟨written, page, hwritten, hpage,
      (((hpages _ _ _ page hpage).1 hshown).2.mpr (by decide))⟩
  · have hread : parse? "http://h/a.html?agwt.codesvr" =
        some { scheme := "http", host := "h", path := "/a.html", query := "agwt.codesvr" } := rfl
    have haddr : Text.ofString "b:1" ≠ [] := by decide
    obtain ⟨written, hwritten, -, hopen, hpages⟩ := codeServer_travels hread (by decide) haddr
    obtain ⟨page, hpage⟩ := hopen (not_lost (by decide) (by decide)) Page.emptyMarkup [] []
      (exists_open?_empty (by decide) hread)
    have hfields : Query.fields "agwt.codesvr" = [(Text.ofString "agwt.codesvr", [])] := rfl
    refine ⟨written, page, hwritten, hpage, (hpages _ _ _ page hpage).2 (Text.ofString "agwt.codesvr", []) ?_ ?_ ?_⟩
    · show (Query.fields "agwt.codesvr").find? _ = _
      rw [hfields]
      decide
    · decide
    · show ∀ g ∈ Query.fields "agwt.codesvr", _
      rw [hfields]
      decide

/-- It is not so that every address is read as it was. -/
theorem codeServer_may_change :
    ¬ ∀ (location addr written markup agent mode : Text) (u : Url) (page : Page), parse? location = some u →
      hasQueryKey ("?" ++ u.query) codeServerKey = false → addr ≠ [] →
      withCodeServer? location addr = some written → Page.open? markup written agent mode = .ok page →
      codeServer page.search = addr := by
  intro h
  have hread : parse? "http://localhost:8888/index.html" =
      some { scheme := "http", host := "localhost:8888", path := "/index.html" } := rfl
  have haddr : Text.ofString "a b" ≠ [] := by decide
  obtain ⟨-, hkept⟩ := @parse?_serving _ "a b" _ hread
  obtain ⟨v, hv, -⟩ := hkept (not_lost (by decide) (by decide))
  obtain ⟨page, hpage⟩ := exists_open?_empty serving_ne_nil hv
  have hsame := h _ _ _ _ _ _ _ page hread (by decide) haddr (withCodeServer?_eq hread (by decide) haddr) hpage
  rw [search_of_open? hread hpage, Query.codeServer_withServer (by decide)] at hsame
  exact absurd hsame (by decide)

end Url

end PageBoot
