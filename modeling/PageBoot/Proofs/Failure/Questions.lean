import Mathlib.Logic.Relation
import PageBoot.Failure

/-!
What the questions about a failure tell of the failures it was made of. Illegal property values and
refused connections are found wherever they are among the causes (`isPropertyResolution_iff`,
`isConnectionRefused_iff`). Of reports only the outermost counts (`hasKind_iff`), so that a report is
overlooked as soon as one of another kind is made of it (`questions_iff`).
-/

namespace PageBoot.Failure

variable {f g c : Failure} {p : Phase} {k : Kind}

/-! ## Causes of causes -/

/-- `g` is `f`, or its cause, or a cause of its cause. -/
def Holds (f g : Failure) : Prop := Relation.ReflTransGen (fun f c => f.cause? = some c) f g

/-- The same, where no report was made of `g` on the way to `f`. -/
def Bares (f g : Failure) : Prop :=
  Relation.ReflTransGen (fun f c => f.cause? = some c ∧ f.reportKind? = none) f g

theorem holds_iff : f.Holds g ↔ f = g ∨ ∃ c, f.cause? = some c ∧ c.Holds g :=
  Relation.ReflTransGen.cases_head_iff

theorem bares_iff : f.Bares g ↔ f = g ∨ ∃ c, (f.cause? = some c ∧ f.reportKind? = none) ∧ c.Bares g :=
  Relation.ReflTransGen.cases_head_iff

theorem Bares.holds (h : f.Bares g) : f.Holds g := Relation.ReflTransGen.mono (fun _ _ => And.left) _ _ h

/-- Causes come to an end. -/
theorem induction_on_causes {motive : Failure → Prop}
    (h : ∀ f, (∀ c, f.cause? = some c → motive c) → motive f) (f : Failure) : motive f := by
  induction f using chain.induct with
  | case1 before after c ih => exact h _ fun _ hc => Option.some.inj hc ▸ ih
  | case2 p k s d v c ih => exact h _ fun _ hc => Option.some.inj hc ▸ ih
  | case3 s m n c ih => exact h _ fun _ hc => Option.some.inj hc ▸ ih
  | case4 f hremark hreport hrefused =>
    refine h f fun c hc => ?_
    cases f with
    | remark before after c => exact (hremark _ _ _ rfl).elim
    | report p k s d v cause =>
      obtain rfl : cause = some c := hc
      exact (hreport _ _ _ _ _ _ rfl).elim
    | refused s m n cause =>
      obtain rfl : cause = some c := hc
      exact (hrefused _ _ _ _ rfl).elim
    | _ => cases hc

theorem chain_eq (f : Failure) : f.chain = f :: f.cause?.elim [] chain := by
  cases f with
  | remark before after c => rfl
  | report p k s d v cause => cases cause <;> rfl
  | refused s m n cause => cases cause <;> rfl
  | _ => rfl

theorem mem_chain_iff : g ∈ f.chain ↔ f.Holds g := by
  induction f using induction_on_causes with
  | h f ih =>
    rw [chain_eq, List.mem_cons, holds_iff, eq_comm]
    cases hcause : f.cause? with
    | none => simp
    | some c => simp [ih c hcause]

/-! ## Links of any place -/

theorem isPropertyResolution_iff :
    f.isPropertyResolution = true ↔ ∃ name value allowed, f.Holds (.property name value allowed) := by
  simp only [isPropertyResolution, List.any_eq_true, mem_chain_iff]
  constructor
  · rintro ⟨g, hg, hlink⟩
    cases g with
    | property name value allowed => exact ⟨name, value, allowed, hg⟩
    | _ => cases hlink
  · rintro ⟨name, value, allowed, hg⟩
    exact ⟨_, hg, rfl⟩

theorem isConnectionRefused_iff : f.isConnectionRefused = true ↔
    ∃ server module connector cause, f.Holds (.refused server module connector cause) := by
  simp only [isConnectionRefused, List.any_eq_true, mem_chain_iff]
  constructor
  · rintro ⟨g, hg, hlink⟩
    cases g with
    | refused server module connector cause => exact ⟨server, module, connector, cause, hg⟩
    | _ => cases hlink
  · rintro ⟨server, module, connector, cause, hg⟩
    exact ⟨_, hg, rfl⟩

/-! ## The outermost report -/

/-- A report of a kind. -/
def IsOf (k : Kind) (f : Failure) : Prop := ∃ p, f.reportKind? = some (p, k)

theorem firstReport?_eq (f : Failure) :
    f.firstReport? = f.reportKind?.or (f.cause?.bind firstReport?) := by
  rw [firstReport?, chain_eq, List.findSome?_cons]
  cases f.reportKind? <;> cases f.cause? <;> rfl

theorem firstReport?_eq_some_iff {r : Phase × Kind} :
    f.firstReport? = some r ↔ ∃ g, f.Bares g ∧ g.reportKind? = some r := by
  induction f using induction_on_causes with
  | h f ih =>
    rw [firstReport?_eq]
    cases hkind : f.reportKind? with
    | some r' =>
      -- nothing behind a report is bare
      have hself (g : Failure) : f.Bares g ↔ f = g := by rw [bares_iff]; simp [hkind]
      simp [hself, hkind]
    | none =>
      have hbehind (g : Failure) : f.Bares g ∧ g.reportKind? = some r ↔
          ∃ c, f.cause? = some c ∧ c.Bares g ∧ g.reportKind? = some r := by
        rw [bares_iff]
        constructor
        · rintro ⟨rfl | ⟨c, ⟨hc, -⟩, hg⟩, hr⟩
          · simp [hkind] at hr
          · exact ⟨c, hc, hg, hr⟩
        · rintro ⟨c, hc, hg, hr⟩
          exact ⟨.inr ⟨c, ⟨hc, hkind⟩, hg⟩, hr⟩
      cases hcause : f.cause? with
      | none => simp [hbehind, hcause]
      | some c => simp [hbehind, hcause, ih c hcause]

theorem hasKind_iff : f.hasKind k = true ↔ ∃ g, f.Bares g ∧ g.IsOf k := by
  simp only [hasKind, beq_iff_eq, Option.map_eq_some_iff, Prod.exists, exists_eq_right, IsOf,
    firstReport?_eq_some_iff]
  constructor
  · rintro ⟨p, g, hg, hkind⟩
    exact ⟨g, hg, p, hkind⟩
  · rintro ⟨g, hg, p, hkind⟩
    exact ⟨p, g, hg, hkind⟩

/-- Every report is among the causes of the outermost one. -/
theorem Bares.holds_report (h : f.Bares g) {r : Failure} (hr : f.Holds r) (hkind : r.IsOf k) :
    g.Holds r := by
  induction h using Relation.ReflTransGen.head_induction_on with
  | refl => exact hr
  | head hstep _ ih =>
    obtain ⟨hcause, hnone⟩ := hstep
    rcases holds_iff.mp hr with rfl | ⟨c, hc, hrest⟩
    · obtain ⟨p, hp⟩ := hkind
      simp [hnone] at hp
    · obtain rfl := Option.some.inj (hcause.symm.trans hc)
      exact ih hrest

/-- Where a report is, one is outermost. -/
theorem exists_bares_of_holds (h : f.Holds g) (hkind : g.IsOf k) : ∃ r other, f.Bares r ∧ r.IsOf other := by
  induction h using Relation.ReflTransGen.head_induction_on with
  | refl => exact ⟨g, k, .refl, hkind⟩
  | @head f c hcause _ ih =>
    obtain ⟨r, other, hr, hother⟩ := ih
    cases hreport : f.reportKind? with
    | some pair => exact ⟨f, pair.2, .refl, pair.1, hreport⟩
    | none => exact ⟨r, other, .head ⟨hcause, hreport⟩ hr, hother⟩

/-- A report of a kind is overlooked if the outermost report is of another kind. -/
theorem overlooked_iff : (∃ g, f.Holds g ∧ g.IsOf k) ∧ f.hasKind k = false ↔
    ∃ r other, f.Bares r ∧ r.IsOf other ∧ other ≠ k ∧ ∃ g, r.Holds g ∧ g.IsOf k := by
  rw [← Bool.not_eq_true, hasKind_iff]
  constructor
  · rintro ⟨⟨g, hg, hkind⟩, hnot⟩
    obtain ⟨r, other, hr, hother⟩ := exists_bares_of_holds hg hkind
    refine ⟨r, other, hr, hother, ?_, g, hr.holds_report hg hkind, hkind⟩
    rintro rfl
    exact hnot ⟨r, hr, hother⟩
  · rintro ⟨r, other, hr, ⟨p, hother⟩, hne, g, hg, hkind⟩
    refine ⟨⟨g, hr.holds.trans hg, hkind⟩, ?_⟩
    rintro ⟨r', hr', p', hkind'⟩
    have hfirst := firstReport?_eq_some_iff.mpr ⟨r, hr, hother⟩
    rw [firstReport?_eq_some_iff.mpr ⟨r', hr', hkind'⟩] at hfirst
    cases hfirst
    exact hne rfl

/-- **What is found among the causes of a failure.** An illegal property value and a refused connection
are found at any depth. An absent connector and a bad setting are kinds of reports, and a report of a
kind is found if no other report was made of it; it is overlooked exactly if the outermost report is of
another kind. -/
theorem questions_iff (f : Failure) :
    (f.isPropertyResolution = true ↔ ∃ name value allowed, f.Holds (.property name value allowed)) ∧
    (f.isConnectionRefused = true ↔
      ∃ server module connector cause, f.Holds (.refused server module connector cause)) ∧
    (f.isPluginAbsent = true ↔ ∃ g, f.Bares g ∧ g.IsOf .pluginAbsent) ∧
    (f.isConfigParse = true ↔ ∃ g, f.Bares g ∧ g.IsOf .configParse) ∧
    ∀ k, (∃ g, f.Holds g ∧ g.IsOf k) ∧ f.hasKind k = false ↔
      ∃ r other, f.Bares r ∧ r.IsOf other ∧ other ≠ k ∧ ∃ g, r.Holds g ∧ g.IsOf k :=
  ⟨isPropertyResolution_iff, isConnectionRefused_iff, hasKind_iff, hasKind_iff, fun _ => overlooked_iff⟩

/-- An absent connector is overlooked once another report was made of it. -/
theorem absence_overlooked :
    ¬ ∀ f : Failure, f.isPluginAbsent = true ↔ ∃ g, f.Holds g ∧ g.IsOf .pluginAbsent := by
  intro h
  let f := Failure.wrap .bootstrap .instantiation (some (.pluginAbsent "app")) "start"
  have hholds : f.Holds (.pluginAbsent "app") := .single rfl
  have hfound := (h f).mpr ⟨_, hholds, .handshake, rfl⟩
  revert hfound
  decide

end PageBoot.Failure
