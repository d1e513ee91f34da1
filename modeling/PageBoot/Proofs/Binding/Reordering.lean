import Mathlib.Data.List.Sort
import PageBoot.Proofs.Binding.Registering

/-!
In what order the values of a property are declared, and how often, makes no difference to an engine:
from registrations that are alike but for that it resolves in the same way, whoever hears of illegal
values (`resolve_reordered`). Who hears of them makes no difference either up to the end, since a
resolution ends with the first of them (`Engine.resolve_heard`).
-/

namespace PageBoot.Binding

variable {σ : Type}

/-! ## Alike but for the order of values -/

/-- Two registrations that differ in the order and the repetitions of their values at most. -/
structure Registration.Alike (r q : Registration σ) : Prop where
  name : r.name = q.name
  values (v : Text) : v ∈ r.allowed ↔ v ∈ q.allowed
  provider : r.provider = q.provider

/-- Two properties that give the same answers. -/
structure Property.Alike (p q : Property σ) : Prop where
  provider : p.provider = q.provider
  sortedValues : p.sortedValues = q.sortedValues
  allows (v : Text) : p.allows v = q.allows v

namespace Registration

variable {r q : Registration σ}

theorem Alike.sound_iff (h : r.Alike q) : r.Sound ↔ q.Sound := by
  have hdeclared : r.allowed = [] ↔ q.allowed = [] := by
    rw [List.eq_nil_iff_forall_not_mem, List.eq_nil_iff_forall_not_mem]
    simp only [h.values]
  constructor
  · intro hr
    exact ⟨h.name ▸ hr.named, fun hq => hr.declared (hdeclared.mpr hq), h.provider ▸ hr.provided⟩
  · intro hq
    exact ⟨h.name ▸ hq.named, fun hr => hq.declared (hdeclared.mp hr), h.provider ▸ hq.provided⟩

theorem Alike.makes {p p' : Property σ} (h : r.Alike q) (hp : r.Makes p) (hp' : q.Makes p') : p.Alike p' := by
  obtain ⟨-, hsorted, hmem, hallows⟩ := hp.shows
  obtain ⟨-, hsorted', hmem', hallows'⟩ := hp'.shows
  constructor
  · apply Option.some.inj
    rw [← hp.provider, ← hp'.provider, h.provider]
  · apply hsorted.eq_of_mem_iff hsorted'
    intro v
    rw [hmem, hmem', h.values]
  · intro v
    rw [Bool.eq_iff_iff, hallows, hallows', h.values]

end Registration

namespace Space

/-- Two spaces with the same names for properties that give the same answers. -/
def Alike (s t : Space σ) : Prop := ∀ n, Option.Rel Property.Alike (s.property? n) (t.property? n)

theorem rel_alike_firstOf? {rs qs : List (Registration σ)} (h : List.Forall₂ Registration.Alike rs qs)
    (n : Text) : Option.Rel Registration.Alike (firstOf? rs n) (firstOf? qs n) := by
  induction h with
  | nil => exact .none
  | @cons r q rs qs hrq _ ih =>
    have hiff : r.name = n ∧ r.Sound ↔ q.name = n ∧ q.Sound := by rw [hrq.name, hrq.sound_iff]
    unfold firstOf?
    by_cases hr : r.name = n ∧ r.Sound
    · rw [List.find?_cons_of_pos (by simpa using hr), List.find?_cons_of_pos (by simpa using hiff.mp hr)]
      exact .some hrq
    · have hq : ¬ (q.name = n ∧ q.Sound) := fun hq => hr (hiff.mpr hq)
      rw [List.find?_cons_of_neg (by simpa using hr), List.find?_cons_of_neg (by simpa using hq)]
      exact ih

theorem alike_ofRegistrations {rs qs : List (Registration σ)} (h : List.Forall₂ Registration.Alike rs qs) :
    (ofRegistrations rs).Alike (ofRegistrations qs) := by
  intro n
  have hfirst := rel_alike_firstOf? h n
  have hr := rel_firstOf? rs n
  have hq := rel_firstOf? qs n
  generalize firstOf? rs n = r, firstOf? qs n = q at hfirst hr hq
  generalize (ofRegistrations rs).property? n = p, (ofRegistrations qs).property? n = p' at hr hq ⊢
  cases hfirst with
  | none =>
    cases hr
    cases hq
    exact .none
  | some halike =>
    cases hr with
    | some hp =>
      cases hq with
      | some hp' => exact .some (halike.makes hp hp')

end Space

namespace Engine

theorem orderFault?_alike {s t : Space σ} (h : s.Alike t) (seen order : List Text) :
    orderFault? t seen order = orderFault? s seen order := by
  induction order generalizing seen with
  | nil => rfl
  | cons n ns ih =>
    have hnone : (t.property? n).isNone = (s.property? n).isNone := by
      have hn := h n
      generalize s.property? n = p, t.property? n = p' at hn ⊢
      cases hn <;> rfl
    rw [orderFault?, orderFault?, hnone, ih]

variable {e : Engine σ} {t : Space σ}

theorem make_alike {s : Space σ} (h : s.Alike t) {table : Table} {order : List Text}
    (hmake : make (some s) (some table) order = .ok e) :
    make (some t) (some table) order = .ok { e with space := t } := by
  obtain rfl := make_eq_ok hmake
  simp only [make] at hmake ⊢
  split at hmake
  · cases hmake
  · next hdepth =>
    rw [if_neg hdepth, orderFault?_alike h]
    split at hmake
    · cases hmake
    · rfl

theorem compute_alike (h : e.space.Alike t) (name : Text) (s : σ) :
    { e with space := t }.compute name s = e.compute name s := by
  have hname := h name
  simp only [compute]
  generalize e.space.property? name = p, t.property? name = p' at hname ⊢
  cases hname with
  | none => rfl
  | some halike => simp only [halike.provider, halike.sortedValues, halike.allows]

theorem computeAll_alike (h : e.space.Alike t) (names : List Text) (s : σ) :
    { e with space := t }.computeAll names s = e.computeAll names s := by
  induction names generalizing s with
  | nil => rfl
  | cons n ns ih => simp only [computeAll, compute_alike h, ih]

theorem resolve_alike (h : e.space.Alike t) (s : σ) : { e with space := t }.resolve s = e.resolve s := by
  simp only [resolve, computeAll_alike h]

/-- In what order and how often values are declared makes no difference to what an engine comes to. -/
theorem resolve_reordered {rs qs : List (Registration σ)} (h : List.Forall₂ Registration.Alike rs qs)
    {table : Table} {order : List Text}
    (hmake : make (some (.ofRegistrations rs)) (some table) order = .ok e) :
    ∃ e', make (some (.ofRegistrations qs)) (some table) order = .ok e' ∧
      ∀ onError s, { e' with onError }.resolve s = { e with onError }.resolve s := by
  have halike := Space.alike_ofRegistrations h
  refine ⟨_, make_alike halike hmake, fun onError s => ?_⟩
  obtain rfl := make_eq_ok hmake
  exact resolve_alike (e := { space := .ofRegistrations rs, table, order, onError }) halike s

/-! ## Who hears of illegal values -/

/-- What a handler makes of how an evaluation ended. -/
def heard {α : Type} (h : Handler σ) : Except Failure α × σ → Except Failure α × σ
  | (.error (.property name value allowed), s) =>
    (.error (.property name value allowed), h name allowed value s)
  | r => r

theorem fst_heard {α : Type} (h : Handler σ) (r : Except Failure α × σ) : (heard h r).1 = r.1 := by
  unfold heard
  split <;> rfl

theorem heard_eq_self {α : Type} (h : Handler σ) {r : Except Failure α × σ}
    (hr : ∀ name value allowed, r.1 ≠ .error (.property name value allowed)) : heard h r = r := by
  unfold heard
  split
  · next name value allowed s => exact absurd rfl (hr name value allowed)
  · rfl

theorem compute_heard (e : Engine σ) (h : Handler σ) (name : Text) (s : σ) :
    { e with onError := some h }.compute name s = heard h ({ e with onError := none }.compute name s) := by
  simp only [compute]
  split
  · rfl
  · split <;> rfl

theorem computeAll_heard (e : Engine σ) (h : Handler σ) (names : List Text) (s : σ) :
    { e with onError := some h }.computeAll names s =
      heard h ({ e with onError := none }.computeAll names s) := by
  induction names generalizing s with
  | nil => rfl
  | cons n ns ih =>
    simp only [computeAll, compute_heard]
    cases hn : { e with onError := none }.compute n s with
    | mk r s' =>
      cases r with
      | error f => cases f <;> rfl
      | ok v =>
        simp only [heard, ih]
        cases hns : { e with onError := none }.computeAll ns s' with
        | mk r s'' =>
          cases r with
          | error f => cases f <;> rfl
          | ok vs => rfl

/-- A handler comes in when everything else is done. -/
theorem resolve_heard (e : Engine σ) (h : Handler σ) (s : σ) :
    { e with onError := some h }.resolve s = heard h ({ e with onError := none }.resolve s) := by
  simp only [resolve, computeAll_heard]
  cases hall : { e with onError := none }.computeAll e.order s with
  | mk r s' =>
    cases r with
    | error f => cases f <;> rfl
    | ok vs =>
      simp only [heard]
      cases e.table.lookup vs <;> rfl

/-- The value is illegal for the property that goes by the name, and these are the legal ones. -/
def Refuses (space : Space σ) (name value : Text) (allowed : List Text) : Prop :=
  ∃ p, space.property? name = some p ∧ p.allows value = false ∧ p.sortedValues = allowed

variable {name n value : Text} {allowed : List Text} {s s' : σ}

/-- What is refused is not among the values of the first registration that can succeed, and the legal
values are these in order. -/
theorem Refuses.of_registrations {rs : List (Registration σ)}
    (h : Refuses (.ofRegistrations rs) name value allowed) :
    ∃ r, Space.firstOf? rs name = some r ∧ value ∉ r.allowed ∧ allowed ≠ [] ∧
      allowed.Pairwise (· < ·) ∧ ∀ v, v ∈ allowed ↔ v ∈ r.allowed := by
  obtain ⟨p, hp, hillegal, rfl⟩ := h
  obtain ⟨r, hr, hmakes⟩ := (Space.property?_eq_some_iff rs name p).mp hp
  obtain ⟨-, hsorted, hmem, hallows⟩ := hmakes.shows
  refine ⟨r, hr, ?_, ?_, hsorted, hmem⟩
  · rw [← hallows value, hillegal]
    exact Bool.false_ne_true
  · obtain ⟨v, hv⟩ := List.exists_mem_of_ne_nil _ (Space.firstOf?_some hr).2.declared
    exact List.ne_nil_of_mem ((hmem v).mpr hv)

theorem refuses_of_compute (h : e.compute n s = (.error (.property name value allowed), s')) :
    Refuses e.space name value allowed := by
  simp only [compute] at h
  split at h
  · cases h
  · next p hp =>
    split at h
    · cases h
    · next hillegal =>
      cases h
      exact ⟨p, hp, by simpa using hillegal, rfl⟩

theorem refuses_of_computeAll {ns : List Text}
    (h : e.computeAll ns s = (.error (.property name value allowed), s')) :
    Refuses e.space name value allowed := by
  induction ns generalizing s s' with
  | nil => cases h
  | cons n ns ih =>
    rw [computeAll] at h
    split at h
    · next f t hn =>
      cases h
      exact refuses_of_compute hn
    · next v t hn =>
      split at h
      · next f u hns =>
        cases h
        exact ih hns
      · cases h

/-- An engine only complains of values that are illegal for a property of its space. -/
theorem refuses_of_resolve (h : e.resolve s = (.error (.property name value allowed), s')) :
    Refuses e.space name value allowed := by
  rw [resolve] at h
  split at h
  · next f t hall =>
    cases h
    exact refuses_of_computeAll hall
  · split at h
    · cases h
    · cases h

end Engine

end PageBoot.Binding
