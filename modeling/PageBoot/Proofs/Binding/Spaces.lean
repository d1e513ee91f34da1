import Mathlib.Data.List.Nodup
import PageBoot.Binding.Engine

/-!
Spaces as they come about by registrations, and the engines that are made of them. A name in a space
stands for one property, with the values and the provider of a registration, and the names in the
order of an engine differ and are all registered (`make_spec`). Whatever each provider and the handler
keep, resolving keeps (`Leads.resolve`).
-/

namespace PageBoot.Binding

variable {σ : Type}

namespace Space

/-- A registration that succeeds adds one property, under a name that was free. -/
theorem register_eq_ok {s s' : Space σ} {name : Text} {allowed : List Text}
    {provider : Option (Provider σ)} (h : s.register name allowed provider = .ok s') :
    ∃ f, provider = some f ∧ name ∉ s.names ∧
      s'.properties = s.properties ++ [⟨name, Text.dedup allowed, f⟩] := by
  unfold register at h
  split at h
  · cases h
  split at h
  · cases h
  cases provider with
  | none => cases h
  | some f =>
    simp only at h
    split at h
    · cases h
    · rename_i hfree
      cases h
      refine ⟨f, rfl, ?_, rfl⟩
      simpa [property?, names, List.find?_eq_none] using hfree

/-- With distinct names every property is found under its own. -/
theorem property?_of_mem {s : Space σ} (hnodup : s.names.Nodup) {p : Property σ}
    (hp : p ∈ s.properties) : s.property? p.name = some p := by
  cases hfound : s.property? p.name with
  | none =>
    have hnone := List.find?_eq_none.mp hfound p hp
    simp at hnone
  | some q =>
    have hq : q ∈ s.properties := List.mem_of_find?_eq_some hfound
    have hname : q.name = p.name := by simpa using List.find?_some hfound
    rw [List.inj_on_of_nodup_map hnodup hq hp hname]

theorem property?_eq_some {s : Space σ} {name : Text} {p : Property σ}
    (h : s.property? name = some p) : p ∈ s.properties ∧ p.name = name :=
  ⟨List.mem_of_find?_eq_some h, by simpa using List.find?_some h⟩

end Space

theorem Property.mem_sortedValues (p : Property σ) {v : Text} : v ∈ p.sortedValues ↔ v ∈ p.values := by
  simp [sortedValues, Text.sort]

theorem Property.pairwise_sortedValues (p : Property σ) (h : p.values.Nodup) :
    p.sortedValues.Pairwise (· < ·) :=
  Text.pairwise_lt_mergeSort id (by simpa using h)

/-! ## Registrations one after another -/

/-- A property that is to be registered. -/
structure Registration (σ : Type) where
  name : Text
  allowed : List Text
  provider : Option (Provider σ)

/-- The property is what a registration brings in. -/
structure Registration.Makes (r : Registration σ) (p : Property σ) : Prop where
  name : p.name = r.name
  values : p.values = Text.dedup r.allowed
  provider : r.provider = some p.provider

theorem Registration.Makes.nodup_values {r : Registration σ} {p : Property σ} (h : r.Makes p) :
    p.values.Nodup := by
  rw [h.values]
  exact Text.nodup_dedup _

theorem Registration.Makes.mem_values_iff {r : Registration σ} {p : Property σ} (h : r.Makes p)
    {v : Text} : v ∈ p.values ↔ v ∈ r.allowed := by
  rw [h.values, Text.dedup, List.mem_eraseDups]

namespace Space

/-- A registration that fails leaves the space as it is. -/
def tryRegister (s : Space σ) (r : Registration σ) : Space σ :=
  (s.register r.name r.allowed r.provider).toOption.getD s

/-- The space after some registrations. -/
def ofRegistrations (rs : List (Registration σ)) : Space σ := rs.foldl tryRegister .empty

theorem tryRegister_cases (s : Space σ) (r : Registration σ) :
    s.tryRegister r = s ∨ ∃ p, r.Makes p ∧ p.name ∉ s.names ∧
      (s.tryRegister r).properties = s.properties ++ [p] := by
  unfold tryRegister
  cases h : s.register r.name r.allowed r.provider with
  | error f => exact .inl rfl
  | ok s' =>
    obtain ⟨f, hf, hfree, hs'⟩ := register_eq_ok h
    exact .inr ⟨_, ⟨rfl, rfl, hf⟩, hfree, hs'⟩

/-- Names are registered once, and every property is what some registration brought in. -/
theorem ofRegistrations_spec (rs : List (Registration σ)) :
    (ofRegistrations rs).names.Nodup ∧
      ∀ p ∈ (ofRegistrations rs).properties, ∃ r ∈ rs, r.Makes p := by
  suffices ∀ (s : Space σ), s.names.Nodup → (rs.foldl tryRegister s).names.Nodup ∧
      ∀ p ∈ (rs.foldl tryRegister s).properties, p ∈ s.properties ∨ ∃ r ∈ rs, r.Makes p by
    obtain ⟨hnodup, hall⟩ := this .empty List.nodup_nil
    exact ⟨hnodup, fun p hp => (hall p hp).resolve_left nofun⟩
  induction rs with
  | nil => exact fun s hs => ⟨hs, fun p hp => .inl hp⟩
  | cons r rs ih =>
    intro s hs
    rw [List.foldl_cons]
    rcases s.tryRegister_cases r with hsame | ⟨q, hmakes, hfree, hadded⟩
    · rw [hsame]
      obtain ⟨hnodup, hall⟩ := ih s hs
      exact ⟨hnodup, fun p hp => (hall p hp).imp_right fun ⟨x, hx, h⟩ => ⟨x, .tail _ hx, h⟩⟩
    · have hnames : (s.tryRegister r).names = s.names.concat q.name := by simp [names, hadded]
      obtain ⟨hnodup, hall⟩ := ih (s.tryRegister r) (hnames ▸ hs.concat hfree)
      refine ⟨hnodup, fun p hp => ?_⟩
      rcases hall p hp with hold | ⟨x, hx, h⟩
      · rw [hadded, List.mem_append, List.mem_singleton] at hold
        rcases hold with hold | rfl
        · exact .inl hold
        · exact .inr ⟨r, .head _, hmakes⟩
      · exact .inr ⟨x, .tail _ hx, h⟩

end Space

/-! ## Making an engine -/

namespace Engine

theorem make_eq_ok {space : Space σ} {table : Table} {order : List Text} {e : Engine σ}
    (h : make (some space) (some table) order = .ok e) : e = { space, table, order } := by
  simp only [make] at h
  split at h
  · cases h
  · split at h
    · cases h
    · exact (Except.ok.inj h).symm

/-- An order without a fault names different properties that are registered. -/
theorem orderFault?_eq_none {space : Space σ} {seen order : List Text}
    (h : orderFault? space seen order = none) :
    order.Nodup ∧ (∀ n ∈ order, n ∉ seen) ∧ ∀ n ∈ order, ∃ p, space.property? n = some p := by
  induction order generalizing seen with
  | nil => simp
  | cons n ns ih =>
    simp only [orderFault?] at h
    split at h
    · cases h
    next hseen =>
      split at h
      · cases h
      next hregistered =>
        obtain ⟨hnodup, hfresh, hall⟩ := ih h
        have hn : n ∉ seen := by simpa using hseen
        have hp : ∃ p, space.property? n = some p := by
          simpa [Option.ne_none_iff_exists'] using hregistered
        refine ⟨List.nodup_cons.mpr ⟨fun hmem => hfresh n hmem List.mem_cons_self, hnodup⟩, ?_, ?_⟩
        · exact List.forall_mem_cons.mpr ⟨hn, fun m hm hms => hfresh m hm (.tail _ hms)⟩
        · exact List.forall_mem_cons.mpr ⟨hp, hall⟩

/-- An order of different names that are all registered has no fault. -/
theorem orderFault?_of_nodup {space : Space σ} {seen order : List Text} (hnodup : order.Nodup)
    (hfresh : ∀ n ∈ order, n ∉ seen) (hall : ∀ n ∈ order, n ∈ space.names) :
    orderFault? space seen order = none := by
  induction order generalizing seen with
  | nil => rfl
  | cons n ns ih =>
    obtain ⟨hn, hns⟩ := List.nodup_cons.mp hnodup
    obtain ⟨hseen, hrest⟩ := List.forall_mem_cons.mp hfresh
    obtain ⟨hregistered, hothers⟩ := List.forall_mem_cons.mp hall
    have hfound : space.property? n ≠ none := by
      simpa [Space.property?, Space.names] using hregistered
    have hfault : orderFault? space (n :: seen) ns = none := by
      refine ih hns (fun k hk hmem => ?_) hothers
      rcases List.mem_cons.mp hmem with rfl | hmem
      · exact hn hk
      · exact hrest k hk hmem
    simp [orderFault?, hseen, hfound, hfault]

theorem exists_properties {space : Space σ} {order : List Text}
    (h : ∀ n ∈ order, ∃ p, space.property? n = some p) :
    ∃ ps : List (Property σ), ps.map (·.name) = order ∧ ∀ p ∈ ps, space.property? p.name = some p := by
  induction order with
  | nil => exact ⟨[], rfl, nofun⟩
  | cons n ns ih =>
    obtain ⟨⟨p, hp⟩, hrest⟩ := List.forall_mem_cons.mp h
    obtain ⟨ps, rfl, hps⟩ := ih hrest
    obtain ⟨-, rfl⟩ := Space.property?_eq_some hp
    exact ⟨p :: ps, rfl, List.forall_mem_cons.mpr ⟨hp, hps⟩⟩

/-- The properties that an engine asks for, in its order. -/
theorem make_spec {space : Space σ} {table : Table} {order : List Text} {e : Engine σ}
    (h : make (some space) (some table) order = .ok e) :
    order.Nodup ∧ ∃ ps : List (Property σ), ps.map (·.name) = order ∧
      ∀ p ∈ ps, space.property? p.name = some p := by
  simp only [make] at h
  split at h
  · cases h
  · cases hfault : orderFault? space [] order with
    | some f => simp [hfault] at h
    | none =>
      obtain ⟨hnodup, -, hall⟩ := orderFault?_eq_none hfault
      exact ⟨hnodup, exists_properties hall⟩

/-! ## What resolving keeps -/

/-- Providers that an engine asks, and its handler, only lead along a preorder of states. -/
structure Leads (R : σ → σ → Prop) (e : Engine σ) : Prop where
  refl (s : σ) : R s s
  trans {s t u : σ} (h : R s t) (h' : R t u) : R s u
  provider : ∀ p ∈ e.space.properties, ∀ s, R s (p.provider s).2
  handler : ∀ report ∈ e.onError, ∀ name allowed value s, R s (report name allowed value s)

namespace Leads

variable {R : σ → σ → Prop} {e : Engine σ}

theorem compute (h : e.Leads R) (name : Text) (s : σ) : R s (e.compute name s).2 := by
  simp only [Engine.compute]
  split
  · exact h.refl s
  next p hp =>
    have hasked := h.provider p (Space.property?_eq_some hp).1 s
    split
    · exact hasked
    · split
      next report hreport => exact h.trans hasked (h.handler report hreport _ _ _ _)
      next => exact hasked

theorem computeAll (h : e.Leads R) (names : List Text) (s : σ) : R s (e.computeAll names s).2 := by
  induction names generalizing s with
  | nil => exact h.refl s
  | cons name names ih =>
    have hone := h.compute name s
    cases hname : e.compute name s with
    | mk computed t =>
      rw [hname] at hone
      cases computed with
      | error f => simpa only [Engine.computeAll, hname] using hone
      | ok v =>
        have hrest := h.trans hone (ih t)
        cases hnames : e.computeAll names t with
        | mk rest u =>
          rw [hnames] at hrest
          cases rest <;> simpa only [Engine.computeAll, hname, hnames] using hrest

theorem resolve (h : e.Leads R) (s : σ) : R s (e.resolve s).2 := by
  have hall := h.computeAll e.order s
  cases hvalues : e.computeAll e.order s with
  | mk values t =>
    rw [hvalues] at hall
    cases values with
    | error f => simpa only [Engine.resolve, hvalues] using hall
    | ok vs =>
      simp only [Engine.resolve, hvalues]
      split <;> exact hall

end Leads

end Engine

end PageBoot.Binding
