import PageBoot.Proofs.Loader.Reading

/-!
Metas that give a property its value. A provider of this kind asks the metas for a key, and whether a
value is legal is asked of the property that the key names, which need not be the property that gets
the value. `meta_decides` says what the property evaluates to, and when that is what its own legal
values call for; it always is where the key is the property's name. Under another key a meta may
give a property a value that is illegal for it, and so end the choice of a variant.
-/

namespace PageBoot.Loader

open Binding

/-- The key that a property's provider asks for. -/
def PropertySpec.askedKey (p : PropertySpec) : Text :=
  if p.provider.key.isEmpty then p.name else p.provider.key

namespace Manifest

variable {m : Manifest} {d : ModuleDef ValueRule} {table : HandlerTable} {e : Engine World}
  {metas : List (Text × Text)} {p : PropertySpec} {v : Visit} {given : Text}

/-- What a property falls back to when the metas have no say. -/
def fallback (m : Manifest) (v : Visit) (p : PropertySpec) : Text :=
  match p.provider.fallback with
  | none => p.provider.default_
  | some f => f.meaning m.knows v p.name

/-- What a property would be that takes a value from the metas exactly if it is a legal one of its
own. -/
def sound (m : Manifest) (v : Visit) (p : PropertySpec) (given : Text) : Text :=
  if given ∈ p.values then given else m.fallback v p

/-- What is known for the key comes first, then the fallback. -/
theorem answer_of_meta (hkind : p.provider.kind = Text.ofString "meta") :
    m.answer v p =
      ((v.metaValue? p.askedKey).filter (m.knows p.askedKey)).getD (m.fallback v p) := by
  obtain ⟨name, values, provider⟩ := p
  obtain ⟨kind, key, value, default_, rules, fallback⟩ := provider
  obtain rfl : kind = Text.ofString "meta" := hkind
  have hconstant : ¬ Text.ofString "meta" = Text.ofString "constant" := by decide
  have hquery : ¬ Text.ofString "meta" = Text.ofString "query" := by decide
  have hagent : ¬ Text.ofString "meta" = Text.ofString "user_agent" := by decide
  cases fallback with
  | none =>
    simp only [answer, ProviderSpec.meaning, if_neg hconstant, if_neg hquery, if_neg hagent]
    rfl
  | some f =>
    simp only [answer, ProviderSpec.meaning, if_neg hconstant, if_neg hquery, if_neg hagent]
    rfl

theorem answer_of_given (hkind : p.provider.kind = Text.ofString "meta")
    (hgiven : v.metaValue? p.askedKey = some given) :
    m.answer v p = if m.knows p.askedKey given then given else m.fallback v p := by
  rw [answer_of_meta hkind, hgiven, Option.filter_some]
  split <;> rfl

/-- A property that asks for itself by name takes legal values of its own. -/
theorem knows_own (hnames : (m.properties.map (·.name)).Nodup) (hp : p ∈ m.properties)
    (value : Text) : m.knows p.name value = true ↔ value ∈ p.values := by
  simp only [knows, List.any_eq_true, Bool.and_eq_true, beq_iff_eq, List.contains_iff_mem]
  constructor
  · rintro ⟨q, hq, hname, hvalue⟩
    obtain rfl : q = p := List.inj_on_of_nodup_map hnames hq hp hname
    exact hvalue
  · intro hvalue
    exact ⟨p, hp, rfl, hvalue⟩

theorem nodup_names_of_build (hbuild : m.build = .ok d) {settings : MetaSettings}
    (hserves : d.Serves (World.provider d settings) e) : (m.properties.map (·.name)).Nodup := by
  rw [map_name_of_describes (build_eq_ok hbuild).1]
  exact hserves.nodup_names

/-- The first property with an illegal value is what resolving fails for. -/
theorem resolve_of_first_illegal (hbuild : m.build = .ok d)
    (hengine : (d.build (World.provider d (.ofMetas table metas))).1 = .ok e) (w : World)
    {front back : List PropertySpec} (hsplit : m.properties = front ++ p :: back)
    (hfront : ∀ q ∈ front, m.answer (.ofPage w.page metas) q ∈ q.values)
    (hp : m.answer (.ofPage w.page metas) p ∉ p.values) :
    e.resolve w = (.error (m.illegal (.ofPage w.page metas) p), w) := by
  obtain ⟨hserves, hsilent⟩ := ModuleDef.build_serves hengine
  have hvalues := computeAll_eq fun q hq => computes_of_build (w := w) hbuild hserves hsilent hq
  have hfirst : m.properties.find? (fun q => m.answer (.ofPage w.page metas) q ∉ q.values) = some p := by
    rw [hsplit, List.find?_append, List.find?_eq_none.mpr fun q hq => by simpa using hfront q hq,
      List.find?_cons_of_pos (by simpa using hp)]
    rfl
  rw [Engine.resolve, order_of_build hbuild hserves, hvalues, hfirst]

/-- **What a meta decides.** The metas give a value to the key that a property asks for. The property
takes it if it is legal for the property *of that name*, and otherwise falls back. That is what its own
legal values call for exactly if these agree with those of the key on the value, or the fallback is the
same value; it is so for every value if the key is the property's own name. Where the fallback is legal,
the meta makes the property illegal exactly if the value is legal for the key and not for the property,
and resolving then fails for it, if for no earlier property. -/
theorem meta_decides (hbuild : m.build = .ok d)
    (hengine : (d.build (World.provider d (.ofMetas table metas))).1 = .ok e) (w : World)
    (hp : p ∈ m.properties) (hkind : p.provider.kind = Text.ofString "meta")
    (hgiven : (Visit.ofPage w.page metas).metaValue? p.askedKey = some given) :
    let v := Visit.ofPage w.page metas
    let value := if m.knows p.askedKey given then given else m.fallback v p
    let failure := Failure.property p.name value (Text.sort (Text.dedup p.values))
    e.compute p.name w = (if value ∈ p.values then .ok value else .error failure, w) ∧
      (value = m.sound v p given ↔
        (m.knows p.askedKey given = true ↔ given ∈ p.values) ∨ m.fallback v p = given) ∧
      (p.askedKey = p.name → value = m.sound v p given) ∧
      (m.fallback v p ∈ p.values →
        (value ∉ p.values ↔ m.knows p.askedKey given = true ∧ given ∉ p.values)) ∧
      ∀ front back, m.properties = front ++ p :: back → (∀ q ∈ front, m.answer v q ∈ q.values) →
        value ∉ p.values → e.resolve w = (.error failure, w) := by
  intro v value failure
  obtain ⟨hserves, hsilent⟩ := ModuleDef.build_serves hengine
  have hanswer : m.answer v p = value := answer_of_given hkind hgiven
  have hfailure : m.illegal v p = failure := by rw [illegal, hanswer]
  have hagree : value = m.sound v p given ↔
      (m.knows p.askedKey given = true ↔ given ∈ p.values) ∨ m.fallback v p = given := by
    simp only [value, sound]
    by_cases hknown : m.knows p.askedKey given = true <;> by_cases hlegal : given ∈ p.values
    · simp [hknown, hlegal]
    · simp [hknown, hlegal, eq_comm]
    · simp [hknown, hlegal]
    · simp [hknown, hlegal]
  refine ⟨?_, hagree, fun hown => ?_, fun hfallback => ?_, fun front back hsplit hfront hillegal => ?_⟩
  · have hcompute := computes_of_build (w := w) hbuild hserves hsilent hp
    rw [Computes, hanswer, hfailure] at hcompute
    exact hcompute
  · rw [hagree, hown]
    exact .inl (knows_own (nodup_names_of_build hbuild hserves) hp given)
  · simp only [value]
    by_cases hknown : m.knows p.askedKey given = true <;> simp [hknown, hfallback]
  · rw [← hanswer] at hillegal
    rw [← hfailure]
    exact resolve_of_first_illegal hbuild hengine w hsplit hfront hillegal

/-- A page with a theme, and icons that ask for the theme but are there for one theme only. -/
def themed : Manifest where
  module := "app"
  properties := [
    { name := "theme", values := ["light", "dark"], provider := .mk "constant" [] "light" [] [] none },
    { name := "icons", values := ["light"], provider := .mk "meta" "theme" [] "light" [] none }]
  permutations := [⟨["light", "light"], "A"⟩]

def themedIcons : PropertySpec :=
  { name := "icons", values := ["light"], provider := .mk "meta" "theme" [] "light" [] none }

/-- The metas of a page that asks for its dark theme. -/
def darkMetas : List (Text × Text) := [("gwt:property", "theme=dark")]

/-- A meta that asks for a dark theme makes the icons illegal. -/
theorem meta_decides_themed :
    ∃ d e, themed.build = .ok d ∧
      (d.build (World.provider d (.ofMetas {} darkMetas))).1 = .ok e ∧
      e.resolve visited = (.error (.property "icons" "dark" ["light"]), visited) := by
  refine ⟨_, _, rfl, rfl, ?_⟩
  have hgiven : (Visit.ofPage visited.page darkMetas).metaValue? themedIcons.askedKey = some "dark" := rfl
  obtain ⟨-, -, -, -, hresolve⟩ := @meta_decides themed _ {} _ darkMetas themedIcons "dark" rfl rfl visited
    (.tail _ (.head _)) rfl hgiven
  have hsorted : Text.sort (Text.dedup themedIcons.values) = ["light"] := by
    simp [Text.sort, Text.dedup, themedIcons, List.eraseDups_cons]
  rw [hsorted] at hresolve
  exact hresolve [_] [] rfl (by decide) (by decide)

/-- A property with a meta is not decided by its own legal values. -/
theorem illegal_meta_taken :
    ¬ ∀ (m : Manifest) (d : ModuleDef ValueRule) (table : HandlerTable) (metas : List (Text × Text))
      (e : Engine World) (w : World) (p : PropertySpec) (given : Text), m.build = .ok d →
      (d.build (World.provider d (.ofMetas table metas))).1 = .ok e → p ∈ m.properties →
      p.provider.kind = Text.ofString "meta" →
      (Visit.ofPage w.page metas).metaValue? p.askedKey = some given →
      m.fallback (.ofPage w.page metas) p ∈ p.values →
        (e.compute p.name w).1 = .ok (m.sound (.ofPage w.page metas) p given) := by
  intro h
  have hlight := h themed _ {} darkMetas _ visited themedIcons "dark" rfl rfl (.tail _ (.head _)) rfl rfl
    (by decide)
  exact nomatch (congrArg Except.isOk hlight : false = true)

end Manifest

end PageBoot.Loader
