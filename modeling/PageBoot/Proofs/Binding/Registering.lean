import Mathlib.Data.List.Induction
import PageBoot.Proofs.Binding.Spaces

/-!
What registrations leave in a space, whatever they are. A registration can succeed if it has a name,
values and a provider, and the first such one of a name is what the name stands for ever after; all
others are refused and change nothing (`registrations_settle`). The values of a property are the declared
ones, each where it stands first.
-/

namespace PageBoot.Binding

variable {σ : Type}

/-! ## Values -/

theorem dedup_concat (vs : List Text) (v : Text) :
    Text.dedup (vs ++ [v]) = if v ∈ vs then Text.dedup vs else Text.dedup vs ++ [v] := by
  by_cases hv : v ∈ vs <;> simp [Text.dedup, List.eraseDups_append, List.removeAll, hv, List.eraseDups_cons]

/-- Some values, each once, in the order in which they are first declared. -/
structure Firsts (declared values : List Text) : Prop where
  ordered : values.Pairwise fun v w => declared.idxOf v < declared.idxOf w
  mem_iff (v : Text) : v ∈ values ↔ v ∈ declared

theorem firsts_dedup (declared : List Text) : Firsts declared (Text.dedup declared) := by
  induction declared using List.reverseRecOn with
  | nil => exact ⟨.nil, fun v => Iff.rfl⟩
  | append_singleton vs v ih =>
    have hearlier : (Text.dedup vs).Pairwise fun x y => (vs ++ [v]).idxOf x < (vs ++ [v]).idxOf y := by
      apply ih.ordered.imp_of_mem
      intro x y hx hy hlt
      rwa [List.idxOf_append_of_mem ((ih.mem_iff x).mp hx), List.idxOf_append_of_mem ((ih.mem_iff y).mp hy)]
    rw [dedup_concat]
    split
    · next hv =>
      refine ⟨hearlier, fun x => ?_⟩
      rw [ih.mem_iff, List.mem_append, List.mem_singleton]
      exact ⟨.inl, fun h => h.elim id (· ▸ hv)⟩
    · next hv =>
      constructor
      · rw [List.pairwise_append]
        refine ⟨hearlier, List.pairwise_singleton _ _, ?_⟩
        intro x hx y hy
        have hold := (ih.mem_iff x).mp hx
        rw [List.mem_singleton.mp hy, List.idxOf_append_of_mem hold, List.idxOf_append_of_notMem hv]
        have hlt := List.idxOf_lt_length_of_mem hold
        omega
      · intro x
        rw [List.mem_append, List.mem_append, ih.mem_iff]

/-! ## One registration -/

/-- A registration that can succeed. -/
structure Registration.Sound (r : Registration σ) : Prop where
  named : r.name ≠ []
  declared : r.allowed ≠ []
  provided : r.provider.isSome = true

instance : DecidablePred (Registration.Sound (σ := σ)) := fun r =>
  decidable_of_iff (r.name ≠ [] ∧ r.allowed ≠ [] ∧ r.provider.isSome = true)
    ⟨fun ⟨hname, hvalues, hprovider⟩ => ⟨hname, hvalues, hprovider⟩,
      fun h => ⟨h.named, h.declared, h.provided⟩⟩

namespace Space

/-- Why a registration fails, if it does. -/
def refusal? (s : Space σ) (r : Registration σ) : Option Failure :=
  match s.register r.name r.allowed r.provider with
  | .ok _ => none
  | .error f => some f

/-- Some registrations, each with why it fails. -/
def outcomes : Space σ → List (Registration σ) → List (Registration σ × Option Failure)
  | _, [] => []
  | s, r :: rs => (r, s.refusal? r) :: (s.tryRegister r).outcomes rs

theorem mem_names_iff (s : Space σ) (n : Text) : n ∈ s.names ↔ (s.property? n).isSome = true := by
  simp [names, property?, List.find?_isSome]

theorem refusal?_eq_none_iff (s : Space σ) (r : Registration σ) :
    s.refusal? r = none ↔ r.Sound ∧ r.name ∉ s.names := by
  obtain ⟨name, allowed, provider⟩ := r
  rw [mem_names_iff]
  simp only [refusal?, register, List.isEmpty_iff]
  by_cases hname : name = []
  · simp only [hname, if_true]
    exact ⟨nofun, fun h => absurd rfl h.1.named⟩
  by_cases hallowed : allowed = []
  · simp only [hname, hallowed, if_true, if_false]
    exact ⟨nofun, fun h => absurd rfl h.1.declared⟩
  cases provider with
  | none =>
    simp only [hname, hallowed, if_false]
    exact ⟨nofun, fun h => absurd h.1.provided (by simp)⟩
  | some f =>
    simp only [hname, hallowed, if_false]
    split
    · next hset =>
      split at hset
      · cases hset
      · next hfree => exact ⟨fun _ => ⟨⟨hname, hallowed, rfl⟩, hfree⟩, fun _ => rfl⟩
    · next hset =>
      split at hset
      · next htaken => exact ⟨nofun, fun h => absurd htaken h.2⟩
      · cases hset

theorem tryRegister_of_refused {s : Space σ} {r : Registration σ} {f : Failure} (h : s.refusal? r = some f) :
    s.tryRegister r = s := by
  unfold refusal? at h
  unfold tryRegister
  cases hr : s.register r.name r.allowed r.provider with
  | ok s' => simp [hr] at h
  | error f => rfl

theorem tryRegister_of_taken {s : Space σ} {r : Registration σ} (h : s.refusal? r = none) :
    ∃ p, r.Makes p ∧ (s.tryRegister r).properties = s.properties ++ [p] := by
  unfold refusal? at h
  unfold tryRegister
  cases hr : s.register r.name r.allowed r.provider with
  | error f => simp [hr] at h
  | ok s' =>
    obtain ⟨f, hf, -, hs'⟩ := register_eq_ok hr
    exact ⟨_, ⟨rfl, rfl, hf⟩, hs'⟩

/-! ## Registrations one after another -/

theorem ofRegistrations_concat (rs : List (Registration σ)) (r : Registration σ) :
    ofRegistrations (rs ++ [r]) = (ofRegistrations rs).tryRegister r := by
  simp [ofRegistrations]

theorem outcomes_concat (s : Space σ) (rs : List (Registration σ)) (r : Registration σ) :
    s.outcomes (rs ++ [r]) = s.outcomes rs ++ [(r, (rs.foldl tryRegister s).refusal? r)] := by
  induction rs generalizing s with
  | nil => rfl
  | cons q rs ih =>
    rw [List.cons_append, outcomes, ih, outcomes, List.cons_append]
    rfl

/-- The first registration under a name that can succeed. -/
def firstOf? (rs : List (Registration σ)) (n : Text) : Option (Registration σ) :=
  rs.find? fun r => r.name = n ∧ r.Sound

theorem firstOf?_some {rs : List (Registration σ)} {n : Text} {r : Registration σ}
    (h : firstOf? rs n = some r) : r.name = n ∧ r.Sound := by
  simpa using List.find?_some h

theorem firstOf?_concat (rs : List (Registration σ)) (r : Registration σ) (n : Text) :
    firstOf? (rs ++ [r]) n = (firstOf? rs n).or (if r.name = n ∧ r.Sound then some r else none) := by
  rw [firstOf?, List.find?_append, ← firstOf?]
  by_cases hr : r.name = n ∧ r.Sound <;> simp [hr]

theorem property?_append {s t : Space σ} {p : Property σ} (h : t.properties = s.properties ++ [p])
    (n : Text) : t.property? n = (s.property? n).or (if p.name = n then some p else none) := by
  rw [property?, h, List.find?_append, ← property?]
  by_cases hp : p.name = n <;> simp [hp]

/-- A name stands for the first registration under it that can succeed. -/
theorem rel_firstOf? (rs : List (Registration σ)) (n : Text) :
    Option.Rel Registration.Makes (firstOf? rs n) ((ofRegistrations rs).property? n) := by
  induction rs using List.reverseRecOn with
  | nil => exact .none
  | append_singleton rs r ih =>
    rw [ofRegistrations_concat, firstOf?_concat]
    cases hr : (ofRegistrations rs).refusal? r with
    | some f =>
      rw [tryRegister_of_refused hr]
      by_cases hsound : r.name = n ∧ r.Sound
      · -- it is refused for its name, so there was an earlier one
        have htaken : ((ofRegistrations rs).property? n).isSome = true := by
          rw [← mem_names_iff, ← hsound.1]
          by_contra hfree
          have hnone := (refusal?_eq_none_iff _ r).mpr ⟨hsound.2, hfree⟩
          rw [hr] at hnone
          cases hnone
        generalize (ofRegistrations rs).property? n = found, firstOf? rs n = first at ih htaken ⊢
        cases ih with
        | none => cases htaken
        | some hmakes => exact .some hmakes
      · rw [if_neg hsound, Option.or_none]
        exact ih
    | none =>
      obtain ⟨hsound, -⟩ := (refusal?_eq_none_iff _ r).mp hr
      obtain ⟨p, hmakes, happend⟩ := tryRegister_of_taken hr
      rw [property?_append happend]
      generalize (ofRegistrations rs).property? n = found, firstOf? rs n = first at ih ⊢
      cases ih with
      | some hearlier => exact .some hearlier
      | none =>
        rw [hmakes.name, Option.none_or, Option.none_or]
        by_cases hname : r.name = n
        · rw [if_pos ⟨hname, hsound⟩, if_pos hname]
          exact .some hmakes
        · rw [if_neg (fun h => hname h.1), if_neg hname]
          exact .none

theorem names_ofRegistrations (rs : List (Registration σ)) :
    (ofRegistrations rs).names = ((empty.outcomes rs).filter (·.2.isNone)).map (·.1.name) := by
  induction rs using List.reverseRecOn with
  | nil => rfl
  | append_singleton rs r ih =>
    have hlast : empty.outcomes (rs ++ [r]) =
        empty.outcomes rs ++ [(r, (ofRegistrations rs).refusal? r)] := outcomes_concat empty rs r
    rw [ofRegistrations_concat, hlast, List.filter_append, List.map_append, ← ih]
    cases hr : (ofRegistrations rs).refusal? r with
    | some f => simp [tryRegister_of_refused hr]
    | none =>
      obtain ⟨p, hmakes, happend⟩ := tryRegister_of_taken hr
      simp [names, happend, hmakes.name]

end Space

theorem Registration.Makes.unique {r : Registration σ} {p q : Property σ} (hp : r.Makes p) (hq : r.Makes q) :
    p = q := by
  obtain ⟨pname, pvalues, pprovider⟩ := p
  obtain ⟨qname, qvalues, qprovider⟩ := q
  obtain ⟨rfl, rfl, hpf⟩ := hp
  obtain ⟨rfl, rfl, hqf⟩ := hq
  rw [hpf] at hqf
  obtain rfl := Option.some.inj hqf
  rfl

theorem Registration.Makes.shows {r : Registration σ} {p : Property σ} (h : r.Makes p) :
    Firsts r.allowed p.values ∧ p.sortedValues.Pairwise (· < ·) ∧
      (∀ v, v ∈ p.sortedValues ↔ v ∈ r.allowed) ∧ ∀ v, p.allows v = true ↔ v ∈ r.allowed := by
  refine ⟨?_, p.pairwise_sortedValues h.nodup_values, ?_, ?_⟩
  · rw [h.values]
    exact firsts_dedup r.allowed
  · intro v
    rw [p.mem_sortedValues, h.mem_values_iff]
  · intro v
    rw [Property.allows, List.contains_iff_mem, h.mem_values_iff]

namespace Space

theorem property?_eq_some_iff (rs : List (Registration σ)) (n : Text) (p : Property σ) :
    (ofRegistrations rs).property? n = some p ↔ ∃ r, firstOf? rs n = some r ∧ r.Makes p := by
  have hrel := rel_firstOf? rs n
  generalize (ofRegistrations rs).property? n = found, firstOf? rs n = first at hrel ⊢
  cases hrel with
  | none => simp
  | @some r q hmakes =>
    simp only [Option.some.injEq, exists_eq_left']
    constructor
    · rintro rfl
      exact hmakes
    · exact hmakes.unique

theorem firstOf?_append {rs : List (Registration σ)} {n : Text} {r : Registration σ}
    (h : firstOf? rs n = some r) (more : List (Registration σ)) : firstOf? (rs ++ more) n = some r := by
  rw [firstOf?, List.find?_append, ← firstOf?, h]
  rfl

/-- **What registrations leave in a space.** Its names are those of the registrations that succeed, each
once and in order. A registration succeeds if it has a name, values and a provider and its name is free;
otherwise it changes nothing. So a name stands for the first registration under it that can succeed,
whatever comes later. Its property has the declared values, each where it stands first, and in sorted
order; they and no others are legal for it. -/
theorem registrations_settle (rs : List (Registration σ)) :
    let s := ofRegistrations rs
    s.names.Nodup ∧
      s.names = ((empty.outcomes rs).filter (·.2.isNone)).map (·.1.name) ∧
      s.size = s.names.length ∧
      (∀ r, (s.refusal? r = none ↔ r.Sound ∧ r.name ∉ s.names) ∧
        (s.refusal? r ≠ none → ofRegistrations (rs ++ [r]) = s)) ∧
      (∀ n, n ∈ s.names ↔ ∃ p, s.property? n = some p) ∧
      (∀ n p, s.property? n = some p ↔ ∃ r, firstOf? rs n = some r ∧ r.Makes p) ∧
      (∀ n p, s.property? n = some p → ∀ more, (ofRegistrations (rs ++ more)).property? n = some p) ∧
      (∀ n p, s.property? n = some p → p.name = n ∧ ∃ r, firstOf? rs n = some r ∧
        Firsts r.allowed p.values ∧ p.sortedValues.Pairwise (· < ·) ∧
        (∀ v, v ∈ p.sortedValues ↔ v ∈ r.allowed) ∧ ∀ v, p.allows v = true ↔ v ∈ r.allowed) ∧
      ∀ n v, s.isKnownValue n v = true ↔ ∃ r, firstOf? rs n = some r ∧ v ∈ r.allowed := by
  intro s
  have hproperty := property?_eq_some_iff rs
  refine ⟨(ofRegistrations_spec rs).1, names_ofRegistrations rs, (List.length_map _).symm, ?_, ?_, hproperty,
    ?_, ?_, ?_⟩
  · intro r
    refine ⟨refusal?_eq_none_iff s r, fun hrefused => ?_⟩
    obtain ⟨f, hf⟩ := Option.ne_none_iff_exists'.mp hrefused
    rw [ofRegistrations_concat, tryRegister_of_refused hf]
  · intro n
    rw [mem_names_iff, Option.isSome_iff_exists]
  · intro n p hp more
    obtain ⟨r, hr, hmakes⟩ := (hproperty n p).mp hp
    exact (property?_eq_some_iff (rs ++ more) n p).mpr ⟨r, firstOf?_append hr more, hmakes⟩
  · intro n p hp
    obtain ⟨r, hr, hmakes⟩ := (hproperty n p).mp hp
    exact ⟨(property?_eq_some hp).2, r, hr, hmakes.shows⟩
  · intro n v
    rw [isKnownValue]
    cases hp : s.property? n with
    | none =>
      refine ⟨nofun, ?_⟩
      rintro ⟨r, hr, -⟩
      have hrel := rel_firstOf? rs n
      rw [hr, hp] at hrel
      cases hrel
    | some p =>
      obtain ⟨r, hr, hmakes⟩ := (hproperty n p).mp hp
      rw [hmakes.shows.2.2.2 v]
      simp [hr]

end Space

end PageBoot.Binding
