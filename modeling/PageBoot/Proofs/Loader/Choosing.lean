import PageBoot.Loader.Selection
import PageBoot.Proofs.Loader.Building

/-!
What comes of choosing a module's variant. The providers are asked one after another, each in the
world that the one before it left, as long as their values are legal (`Evaluates`, `Strays`).
`Serves.resolve_cases` says all that can come of it: there is a variant for the values, there is none,
or a value is illegal. Only a module that does not build and a variant that is missing make the choice
fail (`selectBy_fails_iff`); an illegal value ends it without a failure.
-/

namespace PageBoot

open Binding

namespace Loader.ModuleDef

variable {π σ : Type} {make : π → Option (Provider σ)}

/-- Asked one after another from the first state to the last, the providers of the properties give
the values, and all of them are legal. -/
inductive Evaluates (make : π → Option (Provider σ)) :
    List (PropertyDef π) → σ → List Text → σ → Prop where
  | nil (s : σ) : Evaluates make [] s [] s
  | cons {p : PropertyDef π} {ps : List (PropertyDef π)} {f : Provider σ} {s s' s'' : σ} {v : Text}
      {vs : List Text} (provider : p.provider.bind make = some f) (value : f s = (v, s'))
      (legal : v ∈ p.values) (rest : Evaluates make ps s' vs s'') :
      Evaluates make (p :: ps) s (v :: vs) s''

theorem Evaluates.unique {ps : List (PropertyDef π)} {s t u : σ} {vs us : List Text}
    (h : Evaluates make ps s vs t) (h' : Evaluates make ps s us u) : vs = us ∧ t = u := by
  induction h generalizing us with
  | nil s =>
    cases h'
    exact ⟨rfl, rfl⟩
  | cons provider value _ _ ih =>
    cases h' with
    | cons provider' value' _ rest' =>
      obtain rfl := Option.some.inj (provider.symm.trans provider')
      obtain ⟨rfl, rfl⟩ := Prod.mk.inj (value.symm.trans value')
      obtain ⟨rfl, rfl⟩ := ih rest'
      exact ⟨rfl, rfl⟩

/-- Asked one after another from the first state, the providers give legal values up to that of `p`,
which gives the illegal value `v` and leaves the last state. -/
inductive Strays (make : π → Option (Provider σ)) :
    List (PropertyDef π) → σ → PropertyDef π → Text → σ → Prop where
  | here {p : PropertyDef π} {ps : List (PropertyDef π)} {f : Provider σ} {s s' : σ} {v : Text}
      (provider : p.provider.bind make = some f) (value : f s = (v, s')) (illegal : v ∉ p.values) :
      Strays make (p :: ps) s p v s'
  | later {p q : PropertyDef π} {ps : List (PropertyDef π)} {f : Provider σ} {s s' s'' : σ}
      {v u : Text} (provider : p.provider.bind make = some f) (value : f s = (v, s'))
      (legal : v ∈ p.values) (rest : Strays make ps s' q u s'') : Strays make (p :: ps) s q u s''

namespace Strays

variable {p : PropertyDef π} {ps : List (PropertyDef π)} {s t u : σ} {v : Text} {vs : List Text}

theorem not_evaluates (h : Strays make ps s p v t) : ¬ Evaluates make ps s vs u := by
  intro h'
  induction h generalizing vs with
  | here provider value illegal =>
    cases h' with
    | cons provider' value' legal _ =>
      obtain rfl := Option.some.inj (provider.symm.trans provider')
      obtain ⟨rfl, rfl⟩ := Prod.mk.inj (value.symm.trans value')
      exact illegal legal
  | later provider value _ _ ih =>
    cases h' with
    | cons provider' value' _ rest =>
      obtain rfl := Option.some.inj (provider.symm.trans provider')
      obtain ⟨rfl, rfl⟩ := Prod.mk.inj (value.symm.trans value')
      exact ih rest

end Strays

/-- The values that an engine computes are those of the providers, as long as all are legal. A value
that is not is what it fails for, and what it reports. -/
theorem Serves.computeAll_cases {m : ModuleDef π} {e : Engine σ} (h : m.Serves make e)
    {ps : List (PropertyDef π)} (hps : ∀ p ∈ ps, p ∈ m.properties) (s : σ) :
    (∃ vs s', Evaluates make ps s vs s' ∧ e.computeAll (ps.map (·.name)) s = (.ok vs, s')) ∨
      ∃ p v s', Strays make ps s p v s' ∧
        e.computeAll (ps.map (·.name)) s = (.error (illegal p v), report e.onError p v s') := by
  induction ps generalizing s with
  | nil => exact .inl ⟨[], s, .nil s, rfl⟩
  | cons p ps ih =>
    obtain ⟨f, hf, hcompute⟩ := h.compute_eq (hps p (by simp))
    cases hvalue : f s with
    | mk v s' =>
      obtain ⟨hlegal, hillegal⟩ := hcompute s v s' hvalue
      by_cases hv : v ∈ p.values
      · have hone := hlegal hv
        rcases ih (fun q hq => hps q (by simp [hq])) s' with
          ⟨vs, s'', hrest, hall⟩ | ⟨q, v', s'', hrest, hall⟩
        · refine .inl ⟨v :: vs, s'', .cons hf hvalue hv hrest, ?_⟩
          simp only [List.map_cons, Engine.computeAll, hone, hall]
        · refine .inr ⟨q, v', s'', .later hf hvalue hv hrest, ?_⟩
          simp only [List.map_cons, Engine.computeAll, hone, hall]
      · refine .inr ⟨p, v, s', .here hf hvalue hv, ?_⟩
        simp only [List.map_cons, Engine.computeAll, hillegal hv]

theorem Serves.lookup_eq_none_iff {m : ModuleDef π} {e : Engine σ} (h : m.Serves make e)
    {vs : List Text} : e.table.lookup vs = none ↔ ∀ v ∈ m.permutations, v.values ≠ vs := by
  rw [h.lookup, ← Option.not_isSome_iff_eq_none, Table.lastOf_isSome]
  simp [Variant.row]

/-- All that can come of resolving a module's properties. -/
theorem Serves.resolve_cases {m : ModuleDef π} {e : Engine σ} (h : m.Serves make e) (s : σ) :
    (∃ vs s', Evaluates make m.properties s vs s' ∧
      ((∃ strong, e.resolve s = (.ok { values := vs, strong }, s')) ∧
          (∃ v ∈ m.permutations, v.values = vs) ∨
        e.resolve s = (.error (.incompleteTable vs), s') ∧ ∀ v ∈ m.permutations, v.values ≠ vs)) ∨
      ∃ p v s', Strays make m.properties s p v s' ∧
        e.resolve s = (.error (illegal p v), report e.onError p v s') := by
  unfold Engine.resolve
  rw [h.order]
  rcases h.computeAll_cases (fun _ hp => hp) s with ⟨vs, s', hall, heq⟩ | ⟨p, v, s', hstrays, heq⟩
  · refine .inl ⟨vs, s', hall, ?_⟩
    simp only [heq]
    cases hlookup : e.table.lookup vs with
    | none => exact .inr ⟨rfl, h.lookup_eq_none_iff.mp hlookup⟩
    | some strong =>
      refine .inl ⟨⟨strong, rfl⟩, ?_⟩
      by_contra hno
      simp only [not_exists, not_and] at hno
      rw [h.lookup_eq_none_iff.mpr hno] at hlookup
      cases hlookup
  · refine .inr ⟨p, v, s', hstrays, ?_⟩
    simp only [heq]

/-- Whoever hears of illegal values has no say in what is resolved. -/
theorem Serves.reporting {m : ModuleDef π} {e : Engine σ} (h : m.Serves make e)
    (listener : Option (Handler σ)) : m.Serves make { e with onError := listener } :=
  ⟨h.order, h.nodup, h.registers, h.lookup⟩

theorem isPropertyResolution_illegal (p : PropertyDef π) (v : Text) :
    (illegal p v).isPropertyResolution = true := rfl

end Loader.ModuleDef

theorem Failure.isPropertyResolution_incompleteTable (vs : List Text) :
    (Failure.incompleteTable vs).isPropertyResolution = false := rfl

namespace World

open Loader

variable {π : Type} {make : MetaSettings → π → Option (Provider World)} {w : World}
  {m : ModuleDef π} {o : SelectionOptions}

/-- The settings of the page, and the world in which the providers of a module are asked. -/
def asking (make : MetaSettings → π → Option (Provider World)) (w : World) (m : ModuleDef π)
    (o : SelectionOptions) : MetaSettings × World :=
  let emitter := w.selectionEmitter m.name o
  let (_, settings, u) := (w.emit emitter Metrics.bootstrapStart).prepare m.name o.handlers
  (settings, (u.logAll (m.build (make settings)).2).emit emitter Metrics.selecting)

/-- In `s` the engine `e` is to ask the providers of the module. The page was looked at before, which
gave the directory `base` and the settings. -/
structure Poised (make : MetaSettings → π → Option (Provider World)) (m : ModuleDef π)
    (o : SelectionOptions) (w : World) (base : Text) (settings : MetaSettings) (e : Engine World)
    (s : World) : Prop where
  prepared : ∃ u, (w.emit (w.selectionEmitter m.name o) Metrics.bootstrapStart).prepare m.name
      o.handlers = (base, settings, u) ∧
    s = (u.logAll (m.build (make settings)).2).emit (w.selectionEmitter m.name o) Metrics.selecting
  builds : ∃ engine, (m.build (make settings)).1 = .ok engine
  serves : m.Serves (make settings) e
  listener : e.onError = some (reportIllegal (o.listener settings))

theorem Poised.asking_eq {base : Text} {settings : MetaSettings} {e : Engine World} {s : World}
    (h : Poised make m o w base settings e s) : w.asking make m o = (settings, s) := by
  obtain ⟨u, hprepare, rfl⟩ := h.prepared
  simp only [asking, hprepare]

/-- How a run goes, and what comes of it. -/
inductive Course (make : MetaSettings → π → Option (Provider World)) (m : ModuleDef π)
    (o : SelectionOptions) (w : World) : Except Failure Selected × World → Prop
  | nameless (hname : m.name = []) :
      Course make m o w (.error (.invalidInput .bootstrap "module name is required"), w)
  | malformed {base : Text} {settings : MetaSettings} {u : World} {f : Failure}
      (hname : m.name ≠ [])
      (hprepare : (w.emit (w.selectionEmitter m.name o) Metrics.bootstrapStart).prepare m.name
        o.handlers = (base, settings, u))
      (hbuild : (m.build (make settings)).1 = .error f) :
      Course make m o w (.error f, u.logAll (m.build (make settings)).2)
  | incomplete {base : Text} {settings : MetaSettings} {e : Engine World} {s v : World}
      {vs : List Text} (hname : m.name ≠ []) (hpoised : Poised make m o w base settings e s)
      (hall : ModuleDef.Evaluates (make settings) m.properties s vs v)
      (hmissing : ∀ x ∈ m.permutations, x.values ≠ vs)
      (hresolve : e.resolve s = (.error (.incompleteTable vs), v)) :
      Course make m o w (.error (.incompleteTable vs), v)
  | aborted {base : Text} {settings : MetaSettings} {e : Engine World} {s v : World}
      {p : PropertyDef π} {value : Text} (hname : m.name ≠ [])
      (hpoised : Poised make m o w base settings e s)
      (hstrays : ModuleDef.Strays (make settings) m.properties s p value v)
      (hresolve : e.resolve s =
        (.error (ModuleDef.illegal p value), ModuleDef.report e.onError p value v)) :
      Course make m o w (.ok { base, settings, aborted := true },
        (ModuleDef.report e.onError p value v).saySelection m.name .info
          "permutation selection aborted" [("error", .text (ModuleDef.illegal p value).message)])
  | chosen {base : Text} {settings : MetaSettings} {e : Engine World} {s v : World}
      {vs : List Text} {strong : Text} (hname : m.name ≠ [])
      (hpoised : Poised make m o w base settings e s)
      (hall : ModuleDef.Evaluates (make settings) m.properties s vs v)
      (hlisted : ∃ x ∈ m.permutations, x.values = vs)
      (hresolve : e.resolve s = (.ok { values := vs, strong }, v)) :
      Course make m o w
        (.ok (v.inject m (w.selectionEmitter m.name o) base settings { values := vs, strong }).1,
          (v.inject m (w.selectionEmitter m.name o) base settings { values := vs, strong }).2)

theorem selectBy_course (make : MetaSettings → π → Option (Provider World)) (w : World)
    (m : ModuleDef π) (o : SelectionOptions) : Course make m o w (w.selectBy make m o) := by
  unfold selectBy
  by_cases hname : m.name = []
  · simp only [List.isEmpty_iff.mpr hname, if_true]
    exact .nameless hname
  simp only [List.isEmpty_iff, hname, if_false]
  cases hprepare : (w.emit (w.selectionEmitter m.name o) Metrics.bootstrapStart).prepare m.name
      o.handlers with
  | mk base rest =>
    obtain ⟨settings, u⟩ := rest
    cases hbuild : m.build (make settings) with
    | mk engine entries =>
      have hentries : entries = (m.build (make settings)).2 := by rw [hbuild]
      cases engine with
      | error f =>
        simp only
        rw [hentries]
        exact .malformed hname hprepare (congrArg Prod.fst hbuild)
      | ok e =>
        have hserves := (ModuleDef.build_serves (congrArg Prod.fst hbuild)).1.reporting
          (some (reportIllegal (o.listener settings)))
        have hpoised : Poised make m o w base settings
            { e with onError := some (reportIllegal (o.listener settings)) }
            ((u.logAll entries).emit (w.selectionEmitter m.name o) Metrics.selecting) :=
          ⟨⟨u, hprepare, by rw [hentries]⟩, ⟨e, congrArg Prod.fst hbuild⟩, hserves, rfl⟩
        simp only
        rcases hserves.resolve_cases
            ((u.logAll entries).emit (w.selectionEmitter m.name o) Metrics.selecting) with
          ⟨vs, v, hall, ⟨⟨strong, hresolve⟩, hlisted⟩ | ⟨hresolve, hmissing⟩⟩ |
            ⟨p, value, v, hstrays, hresolve⟩
        · simp only [hresolve]
          exact .chosen hname hpoised hall hlisted hresolve
        · simp only [hresolve, Failure.isPropertyResolution_incompleteTable]
          exact .incomplete hname hpoised hall hmissing hresolve
        · simp only [hresolve, ModuleDef.isPropertyResolution_illegal, if_true]
          exact .aborted hname hpoised hstrays hresolve

/-- The module does not build, or it has no variant for values that are all legal. -/
def Lacks (make : MetaSettings → π → Option (Provider World)) (w : World) (m : ModuleDef π)
    (o : SelectionOptions) : Prop :=
  let (settings, u) := w.asking make m o
  (∃ f, (m.build (make settings)).1 = .error f) ∨
    ∃ vs v, ModuleDef.Evaluates (make settings) m.properties u vs v ∧ ∀ x ∈ m.permutations, x.values ≠ vs

/-- Choosing a variant fails exactly for what a module lacks. -/
theorem selectBy_fails_iff (hname : m.name ≠ []) :
    (∃ f, (w.selectBy make m o).1 = .error f) ↔ w.Lacks make m o := by
  have hcourse := selectBy_course make w m o
  generalize w.selectBy make m o = run at hcourse ⊢
  unfold Lacks
  cases hcourse with
  | nameless h => exact absurd h hname
  | malformed _ hprepare hbuild =>
    simp only [asking, hprepare]
    exact iff_of_true ⟨_, rfl⟩ (.inl ⟨_, hbuild⟩)
  | incomplete _ hpoised hall hmissing _ =>
    rw [hpoised.asking_eq]
    exact iff_of_true ⟨_, rfl⟩ (.inr ⟨_, _, hall, hmissing⟩)
  | aborted _ hpoised hstrays _ =>
    obtain ⟨engine, hbuild⟩ := hpoised.builds
    rw [hpoised.asking_eq]
    refine iff_of_false nofun ?_
    rintro (⟨f, hf⟩ | ⟨vs, v, hall, -⟩)
    · rw [hbuild] at hf
      cases hf
    · exact hstrays.not_evaluates hall
  | chosen _ hpoised hall hlisted _ =>
    obtain ⟨engine, hbuild⟩ := hpoised.builds
    obtain ⟨x, hx, hvalues⟩ := hlisted
    rw [hpoised.asking_eq]
    refine iff_of_false nofun ?_
    rintro (⟨f, hf⟩ | ⟨vs, v, hall', hmissing⟩)
    · rw [hbuild] at hf
      cases hf
    · exact hmissing x hx (hvalues.trans (hall.unique hall').1)

end World

end PageBoot
