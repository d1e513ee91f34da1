import PageBoot.Loader.Module
import PageBoot.Proofs.Binding.Answers
import PageBoot.Proofs.Binding.Spaces
import PageBoot.Proofs.Lists

/-!
The engine that a module builds. `Serves` says how it stands to the module's own properties and
variants, and `build_serves` that every engine built does so. From there on the engine is known by
what it computes for a declared property (`Serves.compute_eq`) and by the last variant of a tuple
(`Serves.lookup`).
-/

namespace PageBoot.Loader

open Binding

def Variant.row (v : Variant) : Answers.Row := (v.values, v.strong)

namespace ModuleDef

variable {π σ : Type} {make : π → Option (Provider σ)}

/-- A declared property and what is registered for it. -/
structure Registers (make : π → Option (Provider σ)) (p : PropertyDef π) (q : Property σ) :
    Prop where
  name : q.name = p.name
  values : q.values = Text.dedup p.values
  provider : p.provider.bind make = some q.provider

theorem register_eq_ok {ps : List (PropertyDef π)} {s s' : Space σ}
    (hnodup : s.names.Nodup) (h : (register make ps s).1 = .ok s') :
    s'.names.Nodup ∧
      ∃ qs, s'.properties = s.properties ++ qs ∧ List.Forall₂ (Registers make) ps qs := by
  induction ps generalizing s with
  | nil =>
    cases h
    exact ⟨hnodup, [], by simp, .nil⟩
  | cons p ps ih =>
    simp only [register] at h
    cases hspec : p.provider with
    | none => simp [hspec] at h
    | some spec =>
      simp only [hspec] at h
      cases hone : s.register p.name p.values (make spec) with
      | error f => simp [hone] at h
      | ok s₁ =>
        simp only [hone] at h
        obtain ⟨f, hf, hfree, hs₁⟩ := Space.register_eq_ok hone
        have hnodup₁ : s₁.names.Nodup := by
          have hnames : s₁.names = s.names.concat p.name := by simp [Space.names, hs₁]
          rw [hnames]
          exact hnodup.concat hfree
        obtain ⟨hnodup', qs, hqs, hall⟩ := ih hnodup₁ h
        refine ⟨hnodup', ⟨p.name, Text.dedup p.values, f⟩ :: qs, ?_, .cons ⟨rfl, rfl, ?_⟩ hall⟩
        · simp [hqs, hs₁]
        · simp [hspec, hf]

/-- When all variants are added, the table holds their rows. -/
theorem addAll_eq_ok {vs : List Variant} {t t' : Table} {rs : List Answers.Row} (ht : t.Holds rs)
    (h : addAll vs t = .ok t') : t'.Holds (rs ++ vs.map Variant.row) := by
  induction vs generalizing t rs with
  | nil =>
    cases h
    simpa using ht
  | cons v vs ih =>
    by_cases htakes : Table.Takes t.depth v.row
    · have hadd : t.add v.values v.strong = .ok (t.tryAdd v.row) := by
        rw [Table.tryAdd_of_takes htakes]
        exact Table.add_eq_ok htakes
      simp only [addAll, hadd, Except.bind] at h
      simpa using ih (ht.tryAdd htakes) h
    · obtain ⟨f, hf⟩ := Table.add_eq_error htakes
      have hadd : t.add v.values v.strong = .error f := hf
      simp [addAll, hadd, Except.bind] at h

/-- An engine that resolves the properties of a module. -/
structure Serves (m : ModuleDef π) (make : π → Option (Provider σ)) (e : Engine σ) : Prop where
  order : e.order = m.properties.map (·.name)
  nodup : e.space.names.Nodup
  registers : List.Forall₂ (Registers make) m.properties e.space.properties
  lookup : ∀ vs, e.table.lookup vs = Table.lastOf vs (m.permutations.map Variant.row)

/-- Every engine that a module builds serves it, and reports to nobody. -/
theorem build_serves {m : ModuleDef π} {e : Engine σ} (h : (m.build make).1 = .ok e) :
    m.Serves make e ∧ e.onError = none := by
  unfold build at h
  cases hregister : register make m.properties .empty with
  | mk space entries =>
    cases space with
    | error f => simp [hregister] at h
    | ok space =>
      obtain ⟨hnodup, qs, hqs, hall⟩ := register_eq_ok (s := .empty) List.nodup_nil
        (congrArg Prod.fst hregister)
      have hproperties : space.properties = qs := hqs
      simp only [hregister] at h
      cases htable : addAll m.permutations (.empty (m.properties.map (·.name)).length) with
      | error f => simp only [htable, Except.bind, reduceCtorEq] at h
      | ok table =>
        simp only [htable, Except.bind] at h
        have hholds := addAll_eq_ok (Table.holds_empty _) htable
        obtain rfl := Engine.make_eq_ok h
        exact ⟨⟨rfl, hnodup, hproperties ▸ hall, hholds.lookup⟩, rfl⟩

theorem Serves.registers_of_mem {m : ModuleDef π} {e : Engine σ} (h : m.Serves make e)
    {p : PropertyDef π} (hp : p ∈ m.properties) :
    ∃ q, e.space.property? p.name = some q ∧ Registers make p q := by
  obtain ⟨q, hq, hone⟩ := h.registers.exists_of_mem_left hp
  refine ⟨q, ?_, hone⟩
  rw [← hone.name]
  exact Space.property?_of_mem h.nodup hq

/-- An engine asks the providers that the rules of its module stand for. -/
theorem Serves.exists_rule {m : ModuleDef π} {e : Engine σ} (h : m.Serves make e) {q : Property σ}
    (hq : q ∈ e.space.properties) : ∃ rule, make rule = some q.provider := by
  obtain ⟨p, -, hregisters⟩ := h.registers.flip.exists_of_mem_left hq
  obtain ⟨rule, -, hrule⟩ := Option.bind_eq_some_iff.mp hregisters.provider
  exact ⟨rule, hrule⟩

theorem map_name_of_registers {ps : List (PropertyDef π)} {qs : List (Property σ)}
    (h : List.Forall₂ (Registers make) ps qs) : ps.map (·.name) = qs.map (·.name) := by
  rw [← List.forall₂_eq_eq_eq, List.forall₂_map_left_iff, List.forall₂_map_right_iff]
  exact h.imp fun _ _ hone => hone.name.symm

theorem Serves.nodup_names {m : ModuleDef π} {e : Engine σ} (h : m.Serves make e) :
    (m.properties.map (·.name)).Nodup := by
  rw [map_name_of_registers h.registers]
  exact h.nodup

/-- With distinct names a value is legal if some property of the name has it. -/
theorem isLegal_eq_any {m : ModuleDef π} (hnodup : (m.properties.map (·.name)).Nodup)
    (name value : Text) :
    m.isLegal name value = m.properties.any fun p => p.name == name && p.values.contains value := by
  cases hfind : m.properties.find? (·.name == name) with
  | none =>
    have hnone := List.find?_eq_none.mp hfind
    simp only [isLegal, hfind]
    refine (List.any_eq_false.mpr fun p hp => ?_).symm
    simp [hnone p hp]
  | some p =>
    have hp := List.mem_of_find?_eq_some hfind
    have hname : p.name = name := by simpa using List.find?_some hfind
    simp only [isLegal, hfind]
    rw [Bool.eq_iff_iff, List.any_eq_true]
    constructor
    · intro hv
      exact ⟨p, hp, by rw [hname, hv, beq_self_eq_true, Bool.and_self]⟩
    · rintro ⟨q, hq, hboth⟩
      simp only [Bool.and_eq_true, beq_iff_eq] at hboth
      rw [List.inj_on_of_nodup_map hnodup hp hq (hname.trans hboth.1.symm)]
      exact hboth.2

/-- The failure that tells of an illegal value. -/
def illegal (p : PropertyDef π) (v : Text) : Failure :=
  .property p.name v (Text.sort (Text.dedup p.values))

/-- Tells whoever hears of illegal values of one. -/
def report (onError : Option (Handler σ)) (p : PropertyDef π) (v : Text) (s : σ) : σ :=
  onError.elim s fun handler => handler p.name (Text.sort (Text.dedup p.values)) v s

/-- What the engine computes for a declared property: what its provider says, if that is legal. -/
theorem Serves.compute_eq {m : ModuleDef π} {e : Engine σ} (h : m.Serves make e)
    {p : PropertyDef π} (hp : p ∈ m.properties) :
    ∃ f, p.provider.bind make = some f ∧ ∀ s v s', f s = (v, s') →
      (v ∈ p.values → e.compute p.name s = (.ok v, s')) ∧
      (v ∉ p.values → e.compute p.name s = (.error (illegal p v), report e.onError p v s')) := by
  obtain ⟨q, hfound, hregisters⟩ := h.registers_of_mem hp
  have hallows (v : Text) : q.allows v = true ↔ v ∈ p.values := by
    simp [Property.allows, hregisters.values, Text.dedup, List.mem_eraseDups]
  refine ⟨q.provider, hregisters.provider, fun s v s' hf => ⟨fun hv => ?_, fun hv => ?_⟩⟩
  · simp only [Engine.compute, hfound, hf, (hallows v).mpr hv, if_true]
  · simp only [Engine.compute, hfound, hf, mt (hallows v).mp hv]
    cases e.onError <;> simp [report, illegal, Property.sortedValues, hregisters.values]

end ModuleDef

end PageBoot.Loader
