import Mathlib.Data.List.Infix
import PageBoot.Loader.Manifest
import PageBoot.Loader.Selection
import PageBoot.Proofs.Loader.Building
import PageBoot.Proofs.Url.Queries

/-!
What a manifest means. `Manifest.reading` reads it directly, against what a page shows: every
property has the value that its provider's words give it, the first property with an illegal value
is the answer if there is one, and otherwise the last variant with all the values is.
`resolve_eq_reading` says that the engine built from the manifest answers the same on every page.
-/

namespace PageBoot

/-- Texts are compared byte by byte. -/
instance : LawfulBEq Text := inferInstance

/-! ## What a page shows -/

namespace Loader

open Binding

/-- What a page shows to a manifest. -/
structure Visit where
  query : Text
  userAgent : Text
  /-- Names and contents of the metas in document order. -/
  metas : List (Text × Text)

namespace Visit

/-- What a page shows whose metas are given. -/
def ofPage (p : Page) (metas : List (Text × Text)) : Visit where
  query := p.location.query
  userAgent := p.userAgent
  metas

/-- The value that a meta gives to a property. -/
def assignment? (entry : Text × Text) : Option (Text × Text) :=
  if entry.1 = MetaSettings.propertyName ∧ entry.2 ≠ [] then
    some ((entry.2.cut 61).1, (entry.2.cut 61).2.getD [])
  else none

/-- The first value of a key in the query. -/
def queryValue? (v : Visit) (key : Text) : Option Text :=
  ((Url.Query.fields v.query).find? (·.1 = key)).map (·.2)

/-- The value of the first rule whose text the user agent has in it, up to case. -/
def agentValue? (v : Visit) (rules : List UserAgentRule) : Option Text :=
  (rules.find? fun r => r.includes.toLower <:+: v.userAgent.toLower).map (·.value)

/-- The last value that a meta gives to a key. -/
def metaValue? (v : Visit) (key : Text) : Option Text :=
  ((v.metas.filterMap assignment?).reverse.find? (·.1 = key)).map (·.2)

end Visit

namespace MetaSettings

variable {table : HandlerTable} {s : MetaSettings} {entry : Text × Text}

theorem property?_add_of_some {a : Text × Text} (h : Visit.assignment? entry = some a) (key : Text) :
    (s.add table entry).property? key = if a.1 = key then some a.2 else s.property? key := by
  obtain ⟨name, content⟩ := entry
  simp only [Visit.assignment?, Option.ite_none_right_eq_some, Option.some.injEq] at h
  obtain ⟨⟨rfl, hcontent⟩, rfl⟩ := h
  simp [add, hcontent, property?, Dict.get?_set]

/-- Contents that are empty, handlers and other metas leave the values alone. -/
theorem property?_add_of_none (h : Visit.assignment? entry = none) (key : Text) :
    (s.add table entry).property? key = s.property? key := by
  obtain ⟨name, content⟩ := entry
  simp only [Visit.assignment?, ite_eq_right_iff, reduceCtorEq, imp_false, not_and, not_not] at h
  by_cases hname : name = propertyName
  · simp [add, h hname]
  · simp only [add, beq_iff_eq, hname, if_false]
    split
    · rfl
    split
    · split <;> rfl
    split
    · split <;> rfl
    · rfl

theorem property?_foldl_add (metas : List (Text × Text)) (key : Text) :
    (metas.foldl (add table) s).property? key =
      (((metas.filterMap Visit.assignment?).reverse.find? (·.1 = key)).map (·.2)).or
        (s.property? key) := by
  induction metas generalizing s with
  | nil => rfl
  | cons entry metas ih =>
    rw [List.foldl_cons, ih]
    cases hentry : Visit.assignment? entry with
    | none => rw [property?_add_of_none hentry, List.filterMap_cons_none hentry]
    | some a =>
      rw [property?_add_of_some hentry, List.filterMap_cons_some hentry, List.reverse_cons,
        List.find?_append]
      by_cases ha : a.1 = key
      · cases (metas.filterMap Visit.assignment?).reverse.find? (·.1 = key) <;> simp [ha]
      · simp [ha]

theorem property?_ofMetas (v : Visit) (key : Text) :
    (ofMetas table v.metas).property? key = v.metaValue? key := by
  rw [ofMetas, property?_foldl_add, Visit.metaValue?]
  exact Option.or_none

end MetaSettings

/-! ## Providers -/

/-- What a provider says of a property. `knows` tells the legal values of a property. -/
def ProviderSpec.meaning (knows : Text → Text → Bool) (v : Visit) (property : Text) :
    ProviderSpec → Text
  | .mk kind key value default_ rules fallback =>
    let key := if key.isEmpty then property else key
    if kind = Text.ofString "constant" then value
    else if kind = Text.ofString "query" then (v.queryValue? key).getD default_
    else if kind = Text.ofString "user_agent" then (v.agentValue? rules).getD default_
    else
      ((v.metaValue? key).filter (knows key)).getD <|
        match fallback with
        | none => default_
        | some f => f.meaning knows v property

theorem ValueRule.value_metaOr (e : Surroundings) (key : Text) (fallback : ValueRule) :
    (ValueRule.metaOr key fallback).value e =
      ((e.settings.property? key).filter (e.isLegal key)).getD (fallback.value e) := by
  rw [value]
  cases e.settings.property? key with
  | none => rfl
  | some v => by_cases hv : e.isLegal key v <;> simp [Option.filter_some, hv]

/-- The rule that a provider stands for gives the value that the provider says. -/
theorem ProviderSpec.value_of_rule {e : Surroundings} {table : HandlerTable}
    {metas : List (Text × Text)} {property : Text} {rule : ValueRule}
    (hsettings : e.settings = .ofMetas table metas) (p : ProviderSpec)
    (h : p.rule property = .ok rule) :
    rule.value e = p.meaning e.isLegal (.ofPage e.page metas) property := by
  have hmeta (key : Text) : e.settings.property? key = Visit.metaValue? (.ofPage e.page metas) key := by
    rw [hsettings]
    exact MetaSettings.property?_ofMetas (.ofPage e.page metas) key
  fun_induction ProviderSpec.rule property p generalizing rule with
  | case1 =>
    cases h
    rw [meaning.eq_def]
    simp only [if_true, ValueRule.value]
  | case2 =>
    rename_i hconstant
    cases h
    rw [meaning.eq_def]
    simp only [if_true, if_neg hconstant, ValueRule.value, Url.Query.first?_parse]
    rfl
  | case3 =>
    rename_i hconstant hquery
    cases h
    rw [meaning.eq_def]
    simp only [if_true, if_neg hconstant, if_neg hquery, ValueRule.value]
    simp [Visit.agentValue?, Visit.ofPage, ← Text.includes_iff]
  | case4 =>
    rename_i hconstant hquery hagent
    cases h
    rw [ValueRule.value_metaOr, hmeta]
    simp only [meaning, if_neg hconstant, if_neg hquery, if_neg hagent, ValueRule.value]
    rfl
  | case5 =>
    rename_i f hconstant hquery hagent ih
    simp only [meaning, if_neg hconstant, if_neg hquery, if_neg hagent]
    cases hf : f.rule property with
    | error e => simp [hf, Except.map] at h
    | ok inner =>
      simp only [hf, Except.map, Except.ok.injEq] at h
      rw [← h, ValueRule.value_metaOr, ih hf, hmeta]
  | case6 => cases h

/-! ## Manifests -/

namespace Manifest

/-- Whether a property has a value among its legal ones. -/
def knows (m : Manifest) (name value : Text) : Bool :=
  m.properties.any fun p => p.name == name && p.values.contains value

/-- The value of a property. -/
def answer (m : Manifest) (v : Visit) (p : PropertySpec) : Text :=
  p.provider.meaning m.knows v p.name

/-- The failure that tells that a property's value is illegal. -/
def illegal (m : Manifest) (v : Visit) (p : PropertySpec) : Failure :=
  .property p.name (m.answer v p) (Text.sort (Text.dedup p.values))

/-- The variant that a manifest chooses on a page. -/
def reading (m : Manifest) (v : Visit) : Except Failure Resolved :=
  match m.properties.find? fun p => m.answer v p ∉ p.values with
  | some p => .error (m.illegal v p)
  | none =>
    let values := m.properties.map (m.answer v)
    match m.permutations.reverse.find? (·.values = values) with
    | some variant => .ok { values, strong := variant.strong }
    | none => .error (.incompleteTable values)

/-- A property of a manifest and the definition made of it. -/
structure Describes (p : PropertySpec) (d : PropertyDef ValueRule) : Prop where
  name : d.name = p.name
  values : d.values = p.values
  provider : ∃ rule, d.provider = some rule ∧ p.provider.rule p.name = .ok rule

theorem propertyDefs_eq_ok {ps : List PropertySpec} {ds : List (PropertyDef ValueRule)}
    (h : propertyDefs ps = .ok ds) : List.Forall₂ Describes ps ds := by
  induction ps generalizing ds with
  | nil =>
    cases h
    exact .nil
  | cons p ps ih =>
    simp only [propertyDefs, List.mapM_cons] at h
    obtain ⟨d, hd, h⟩ := bind_eq_ok.mp h
    obtain ⟨rule, hrule, hd⟩ := bind_eq_ok.mp hd
    obtain ⟨rest, hrest, h⟩ := bind_eq_ok.mp h
    cases hd
    cases h
    exact .cons ⟨rfl, rfl, rule, rfl, hrule⟩ (ih hrest)

theorem build_eq_ok {m : Manifest} {d : ModuleDef ValueRule} (h : m.build = .ok d) :
    List.Forall₂ Describes m.properties d.properties ∧ d.permutations = m.permutations := by
  unfold build at h
  split at h
  · cases h
  · obtain ⟨ds, hds, h⟩ := bind_eq_ok.mp h
    cases h
    exact ⟨propertyDefs_eq_ok hds, rfl⟩

theorem map_name_of_describes {ps : List PropertySpec} {ds : List (PropertyDef ValueRule)}
    (h : List.Forall₂ Describes ps ds) : ps.map (·.name) = ds.map (·.name) := by
  rw [← List.forall₂_eq_eq_eq, List.forall₂_map_left_iff, List.forall₂_map_right_iff]
  exact h.imp fun _ _ hone => hone.name.symm

theorem any_eq_of_describes {ps : List PropertySpec} {ds : List (PropertyDef ValueRule)}
    (h : List.Forall₂ Describes ps ds) (name value : Text) :
    (ds.any fun d => d.name == name && d.values.contains value) =
      ps.any fun p => p.name == name && p.values.contains value := by
  induction h with
  | nil => rfl
  | cons hone _ ih => rw [List.any_cons, List.any_cons, hone.name, hone.values, ih]

section Engine

variable {m : Manifest} {d : ModuleDef ValueRule} {settings : MetaSettings}
  {table : HandlerTable} {e : Engine World} {w : World} {v : Visit}

/-- Where a page shows `v`, the engine computes a property to what the manifest means by it. -/
def Computes (m : Manifest) (v : Visit) (e : Engine World) (w : World) (p : PropertySpec) : Prop :=
  e.compute p.name w =
    (if m.answer v p ∈ p.values then .ok (m.answer v p) else .error (m.illegal v p), w)

theorem computeAll_eq {ps : List PropertySpec} (h : ∀ p ∈ ps, m.Computes v e w p) :
    e.computeAll (ps.map (·.name)) w =
      (match ps.find? fun p => m.answer v p ∉ p.values with
        | some p => .error (m.illegal v p)
        | none => .ok (ps.map (m.answer v)), w) := by
  induction ps with
  | nil => rfl
  | cons p ps ih =>
    have hone : e.compute p.name w = _ := h p (by simp)
    have hrest := ih fun q hq => h q (by simp [hq])
    by_cases hp : m.answer v p ∈ p.values
    · rw [if_pos hp] at hone
      rw [List.find?_cons_of_neg (by simpa using hp)]
      simp only [List.map_cons, Engine.computeAll, hone, hrest]
      cases ps.find? fun p => m.answer v p ∉ p.values <;> rfl
    · rw [if_neg hp] at hone
      rw [List.find?_cons_of_pos (by simpa using hp)]
      simp only [List.map_cons, Engine.computeAll, hone]

theorem computes_of_build {metas : List (Text × Text)} (hbuild : m.build = .ok d)
    (hserves : d.Serves (World.provider d (.ofMetas table metas)) e) (hsilent : e.onError = none)
    {p : PropertySpec} (hp : p ∈ m.properties) : m.Computes (.ofPage w.page metas) e w p := by
  obtain ⟨hall, -⟩ := build_eq_ok hbuild
  obtain ⟨x, hx, hdescribes⟩ := hall.exists_of_mem_left hp
  obtain ⟨rule, hprovider, hrule⟩ := hdescribes.provider
  obtain ⟨f, hf, hcompute⟩ := hserves.compute_eq hx
  have hknows : d.isLegal = m.knows := by
    funext name value
    rw [ModuleDef.isLegal_eq_any hserves.nodup_names, any_eq_of_describes hall, knows]
  have hvalue : f w = (m.answer (.ofPage w.page metas) p, w) := by
    rw [hprovider, Option.bind_some, World.provider, Option.some.injEq] at hf
    rw [← hf, answer, ← hknows]
    exact congrArg (·, w) (ProviderSpec.value_of_rule rfl p.provider hrule)
  obtain ⟨hlegal, hillegal⟩ := hcompute w _ w hvalue
  rw [hdescribes.name, hdescribes.values] at hlegal hillegal
  unfold Computes
  split
  · rename_i hv
    exact hlegal hv
  · rename_i hv
    rw [hillegal hv, hsilent, ModuleDef.illegal, hdescribes.name, hdescribes.values, illegal]
    rfl

theorem order_of_build (hbuild : m.build = .ok d)
    (hserves : d.Serves (World.provider d settings) e) : e.order = m.properties.map (·.name) := by
  rw [hserves.order]
  obtain ⟨hall, -⟩ := build_eq_ok hbuild
  exact (map_name_of_describes hall).symm

theorem lookup_of_build (hbuild : m.build = .ok d)
    (hserves : d.Serves (World.provider d settings) e) (values : List Text) :
    e.table.lookup values =
      (m.permutations.reverse.find? (·.values = values)).map (·.strong) := by
  obtain ⟨-, hpermutations⟩ := build_eq_ok hbuild
  rw [hserves.lookup, hpermutations, Table.lastOf, ← List.map_reverse, List.find?_map,
    Option.map_map]
  rfl

/-- **An engine means what its manifest says.** When a manifest and the engine of its module are
built with the settings of some metas, the engine resolves in every world to the manifest's reading
of what the page shows, and leaves the world as it is. -/
theorem resolve_eq_reading {metas : List (Text × Text)} (hbuild : m.build = .ok d)
    (hengine : (d.build (World.provider d (.ofMetas table metas))).1 = .ok e) (w : World) :
    e.resolve w = (m.reading (.ofPage w.page metas), w) := by
  obtain ⟨hserves, hsilent⟩ := ModuleDef.build_serves hengine
  have hvalues := computeAll_eq fun p hp => computes_of_build (w := w) hbuild hserves hsilent hp
  rw [Engine.resolve, order_of_build hbuild hserves, hvalues, reading]
  cases m.properties.find? fun p => m.answer (.ofPage w.page metas) p ∉ p.values with
  | some p => rfl
  | none =>
    simp only [lookup_of_build hbuild hserves]
    cases m.permutations.reverse.find?
      (·.values = m.properties.map (m.answer (.ofPage w.page metas))) <;> rfl

end Engine

/-- The locale comes from a meta and otherwise from the query, the engine from the user agent. One
combination is listed twice. -/
def localized : Manifest where
  module := "app"
  properties := [
    { name := "locale", values := ["en", "fr"],
      provider := .mk "meta" [] [] [] [] (some (.mk "query" [] [] "en" [] none)) },
    { name := "engine", values := ["gecko", "webkit"],
      provider := .mk "user_agent" [] [] "gecko" [⟨"WebKit", "webkit"⟩] none }]
  permutations := [⟨["fr", "webkit"], "A"⟩, ⟨["en", "gecko"], "B"⟩, ⟨["fr", "webkit"], "C"⟩]

/-- A page that asks for a locale twice in its metas, the second time for an unknown one. -/
def visited : World where
  page := {
    dom := { document := .nil, next := 0 }, head := 0, body := 0
    location := { query := "locale=fr&locale=en" }, userAgent := "AppleWebKit/537" }
  state := { source := Identity.Rounds.source, draws := { values := [] } }

theorem resolve_eq_reading_localized :
    ∃ d e, localized.build = .ok d ∧
      (d.build (World.provider d (.ofMetas {} [("gwt:property", "locale=en"),
        ("gwt:property", "locale=xx")]))).1 = .ok e ∧
      e.resolve visited = (.ok { values := ["fr", "webkit"], strong := "C" }, visited) := by
  refine ⟨_, _, rfl, rfl, ?_⟩
  rw [resolve_eq_reading (m := localized) rfl rfl]
  rfl

end Manifest

end Loader

end PageBoot
