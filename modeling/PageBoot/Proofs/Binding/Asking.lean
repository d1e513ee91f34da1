import PageBoot.Binding.Rehearsed
import PageBoot.Proofs.Binding.Spaces

/-!
What an engine asks while it resolves. `Engine.recorded` writes every call of a provider or of the
handler down; `Resolves` says, without an engine, what resolving some properties comes to: who is
called, the result, and the state that is left. For every engine that is made the two agree
(`resolve_calls`), whatever the providers answer.
-/

namespace PageBoot.Binding

variable {σ : Type}

/-! ## A record of calls -/

/-- The property, with a record of the calls of its provider. -/
def Property.recorded (p : Property σ) : Property (σ × List Call) where
  name := p.name
  values := p.values
  provider := fun (s, calls) =>
    let (v, s) := p.provider s
    (v, s, calls ++ [.computed p.name])

/-- The handler, with a record of its calls. -/
def Handler.recorded (h : Handler σ) : Handler (σ × List Call) :=
  fun name allowed value (s, calls) => (h name allowed value s, calls ++ [.reported name allowed value])

/-- The engine, with a record of all that it calls. -/
def Engine.recorded (e : Engine σ) : Engine (σ × List Call) where
  space := ⟨e.space.properties.map Property.recorded⟩
  table := e.table
  order := e.order
  onError := e.onError.map Handler.recorded

namespace Engine

variable {e : Engine σ} {p : Property σ}

theorem recorded_property? (name : Text) :
    e.recorded.space.property? name = (e.space.property? name).map Property.recorded := by
  simp only [recorded, Space.property?, List.find?_map]
  rfl

/-- Writing the calls down changes nothing else. -/
theorem recorded_compute (name : Text) (s : σ) (calls : List Call) :
    ∃ more, e.recorded.compute name (s, calls) =
      ((e.compute name s).1, (e.compute name s).2, calls ++ more) := by
  simp only [compute, recorded_property?]
  cases e.space.property? name with
  | none => exact ⟨[], by simp⟩
  | some p =>
    cases hv : p.provider s with
    | mk v s' =>
      have hrecorded : p.recorded.provider (s, calls) = (v, s', calls ++ [.computed p.name]) := by
        simp only [Property.recorded, hv]
      have hallows : p.recorded.allows v = p.allows v := rfl
      simp only [Option.map_some, hrecorded, hallows, hv]
      split
      · exact ⟨_, rfl⟩
      · cases hhandler : e.onError with
        | none => exact ⟨_, by simp only [recorded, hhandler]; rfl⟩
        | some h =>
          refine ⟨[.computed p.name, .reported name p.sortedValues v], ?_⟩
          simp only [recorded, hhandler, Option.map_some, Handler.recorded, List.append_assoc]
          rfl

theorem recorded_computeAll (names : List Text) (s : σ) (calls : List Call) :
    ∃ more, e.recorded.computeAll names (s, calls) =
      ((e.computeAll names s).1, (e.computeAll names s).2, calls ++ more) := by
  induction names generalizing s calls with
  | nil => exact ⟨[], by simp [computeAll]⟩
  | cons n ns ih =>
    obtain ⟨more, hone⟩ := e.recorded_compute n s calls
    simp only [computeAll, hone]
    cases e.compute n s with
    | mk r s' =>
      cases r with
      | error f => exact ⟨more, rfl⟩
      | ok v =>
        obtain ⟨rest, hall⟩ := ih s' (calls ++ more)
        simp only [hall]
        cases e.computeAll ns s' with
        | mk r s'' => cases r <;> exact ⟨more ++ rest, by simp only [List.append_assoc]⟩

theorem recorded_resolve (s : σ) :
    e.resolve s = ((e.recorded.resolve (s, [])).1, (e.recorded.resolve (s, [])).2.1) := by
  obtain ⟨calls, hall⟩ := e.recorded_computeAll e.order s []
  simp only [resolve, show e.recorded.order = e.order from rfl, hall]
  cases e.computeAll e.order s with
  | mk r s' =>
    cases r with
    | error f => rfl
    | ok values =>
      simp only [show e.recorded.table = e.table from rfl]
      cases e.table.lookup values <;> rfl

end Engine

/-! ## What resolving comes to -/

/-- Asked one after another from the first state to the last, the properties give the values, and all
of them are legal. -/
inductive Gives : List (Property σ) → σ → List Text → σ → Prop where
  | nil (s : σ) : Gives [] s [] s
  | cons {p : Property σ} {ps : List (Property σ)} {s s' s'' : σ} {v : Text} {vs : List Text}
      (value : p.provider s = (v, s')) (legal : v ∈ p.values) (rest : Gives ps s' vs s'') :
      Gives (p :: ps) s (v :: vs) s''

/-- Calls of the providers of some properties, in order. -/
def asking (ps : List (Property σ)) : List Call := ps.map fun p => .computed p.name

/-- What resolving properties comes to, with whom it calls and the state that it leaves. Providers are
asked up to the first that gives an illegal value, which the handler hears of if there is one. -/
inductive Resolves (lookup : List Text → Option Text) (onError : Option (Handler σ))
    (ps : List (Property σ)) (s : σ) : List Call → Except Failure Resolved → σ → Prop where
  | found {values : List Text} {strong : Text} {t : σ} (gives : Gives ps s values t)
      (listed : lookup values = some strong) :
      Resolves lookup onError ps s (asking ps) (.ok { values, strong }) t
  | missing {values : List Text} {t : σ} (gives : Gives ps s values t)
      (unlisted : lookup values = none) :
      Resolves lookup onError ps s (asking ps) (.error (.incompleteTable values)) t
  | illegal {front back : List (Property σ)} {p : Property σ} {values : List Text} {v : Text} {t t' : σ}
      (split : ps = front ++ p :: back) (gives : Gives front s values t)
      (value : p.provider t = (v, t')) (illegal : v ∉ p.values) :
      Resolves lookup onError ps s
        (asking (front ++ [p]) ++ (onError.map fun _ => .reported p.name p.sortedValues v).toList)
        (.error (.property p.name v p.sortedValues))
        (onError.elim t' fun h => h p.name p.sortedValues v t')

/-- Either all values are legal, or there is a first that is not. -/
theorem exists_gives (ps : List (Property σ)) (s : σ) :
    (∃ values t, Gives ps s values t) ∨
      ∃ front p back values t v t', ps = front ++ p :: back ∧ Gives front s values t ∧
        p.provider t = (v, t') ∧ v ∉ p.values := by
  induction ps generalizing s with
  | nil => exact .inl ⟨[], s, .nil s⟩
  | cons p ps ih =>
    cases hv : p.provider s with
    | mk v s' =>
      by_cases hlegal : v ∈ p.values
      · rcases ih s' with ⟨vs, t, hrest⟩ | ⟨front, q, back, vs, t, u, t', rfl, hfront, hq, hu⟩
        · exact .inl ⟨v :: vs, t, .cons hv hlegal hrest⟩
        · exact .inr ⟨p :: front, q, back, v :: vs, t, u, t', rfl, .cons hv hlegal hfront, hq, hu⟩
      · exact .inr ⟨[], p, ps, [], s, v, s', rfl, .nil s, hv, hlegal⟩

theorem exists_resolves (lookup : List Text → Option Text) (onError : Option (Handler σ))
    (ps : List (Property σ)) (s : σ) : ∃ calls r t, Resolves lookup onError ps s calls r t := by
  rcases exists_gives ps s with
    ⟨values, t, hgives⟩ | ⟨front, p, back, values, t, v, t', hps, hfront, hv, hillegal⟩
  · cases hlookup : lookup values with
    | none => exact ⟨_, _, _, .missing hgives hlookup⟩
    | some strong => exact ⟨_, _, _, .found hgives hlookup⟩
  · exact ⟨_, _, _, .illegal hps hfront hv hillegal⟩

/-! ## Engines -/

namespace Engine

variable {e : Engine σ} {p : Property σ} {ps : List (Property σ)} {s s' : σ} {v : Text}

theorem compute_legal (hp : e.space.property? p.name = some p) (hv : p.provider s = (v, s'))
    (hlegal : v ∈ p.values) (calls : List Call) :
    e.recorded.compute p.name (s, calls) = (.ok v, s', calls ++ [.computed p.name]) := by
  have hrecorded : p.recorded.provider (s, calls) = (v, s', calls ++ [.computed p.name]) := by
    simp only [Property.recorded, hv]
  have hallows : p.recorded.allows v = true := by simpa [Property.allows, Property.recorded] using hlegal
  simp only [compute, recorded_property?, hp, Option.map_some, hrecorded, hallows, if_true]

theorem compute_illegal (hp : e.space.property? p.name = some p) (hv : p.provider s = (v, s'))
    (hillegal : v ∉ p.values) (calls : List Call) :
    e.recorded.compute p.name (s, calls) =
      (.error (.property p.name v p.sortedValues),
        e.onError.elim s' fun h => h p.name p.sortedValues v s',
        calls ++ .computed p.name ::
          (e.onError.map fun _ => .reported p.name p.sortedValues v).toList) := by
  have hrecorded : p.recorded.provider (s, calls) = (v, s', calls ++ [.computed p.name]) := by
    simp only [Property.recorded, hv]
  have hallows : p.recorded.allows v = false := by
    simpa [Property.allows, Property.recorded] using hillegal
  simp only [compute, recorded_property?, hp, Option.map_some, hrecorded, hallows, Bool.false_eq_true,
    if_false]
  cases hhandler : e.onError with
  | none =>
    simp only [recorded, hhandler]
    rfl
  | some h =>
    simp only [recorded, hhandler, Option.map_some, Handler.recorded, List.append_assoc]
    rfl

/-- Properties that give legal values are asked once each, and then the engine goes on. -/
theorem computeAll_gives {vs : List Text} (hps : ∀ p ∈ ps, e.space.property? p.name = some p)
    (h : Gives ps s vs s') (rest : List Text) (calls : List Call) :
    e.recorded.computeAll (ps.map (·.name) ++ rest) (s, calls) =
      let (r, t) := e.recorded.computeAll rest (s', calls ++ asking ps)
      (r.map (vs ++ ·), t) := by
  induction h generalizing calls with
  | nil s =>
    simp only [asking, List.map_nil, List.nil_append, List.append_nil]
    cases e.recorded.computeAll rest (s, calls) with
    | mk r t => cases r <;> rfl
  | @cons p ps s s' s'' v vs hv hlegal _ ih =>
    obtain ⟨hp, hrest⟩ := List.forall_mem_cons.mp hps
    simp only [List.map_cons, List.cons_append, computeAll, compute_legal hp hv hlegal, ih hrest]
    have hcalls : calls ++ [.computed p.name] ++ asking ps = calls ++ asking (p :: ps) := by
      simp [asking]
    rw [hcalls]
    cases e.recorded.computeAll rest (s'', calls ++ asking (p :: ps)) with
    | mk r t => cases r <;> rfl

/-- The engine comes to what resolving its properties comes to. -/
theorem resolve_of_resolves (horder : e.order = ps.map (·.name))
    (hps : ∀ p ∈ ps, e.space.property? p.name = some p) {calls : List Call}
    {r : Except Failure Resolved} {t : σ} (h : Resolves e.table.lookup e.onError ps s calls r t) :
    e.recorded.resolve (s, []) = (r, t, calls) := by
  have hnames : e.recorded.order = ps.map (·.name) := horder
  have htable : e.recorded.table = e.table := rfl
  simp only [resolve, hnames, htable]
  cases h with
  | found hgives hlisted =>
    have hall := computeAll_gives hps hgives [] []
    simp only [List.append_nil, computeAll, List.nil_append, Except.map] at hall
    simp only [hall, hlisted]
  | missing hgives hunlisted =>
    have hall := computeAll_gives hps hgives [] []
    simp only [List.append_nil, computeAll, List.nil_append, Except.map] at hall
    simp only [hall, hunlisted]
  | @illegal front back p values v t t' hsplit hgives hv hillegal =>
    subst hsplit
    have hfront : ∀ q ∈ front, e.space.property? q.name = some q := fun q hq => hps q (by simp [hq])
    have hp : e.space.property? p.name = some p := hps p (by simp)
    have hall := computeAll_gives hfront hgives ((p :: back).map (·.name)) []
    simp only [List.map_cons, computeAll, compute_illegal hp hv hillegal, Except.map] at hall
    simp only [List.map_append, List.map_cons, hall]
    simp [asking]

end Engine

/-- **Who is called when an engine resolves.** The providers of its order are asked one after another,
each once, up to the first that gives an illegal value. The handler then hears of that value once, with
the legal ones in order, and nothing is resolved; otherwise it hears nothing, and the table is looked
up. -/
theorem resolve_calls (rs : List (Registration σ)) {table : Table} {order : List Text} {e : Engine σ}
    (h : Engine.make (some (Space.ofRegistrations rs)) (some table) order = .ok e)
    (onError : Option (Handler σ)) (s : σ) :
    let engine := { e with onError }
    let run := engine.recorded.resolve (s, [])
    engine.resolve s = (run.1, run.2.1) ∧
      order.Nodup ∧ ∃ ps : List (Property σ), ps.map (·.name) = order ∧
        (∀ p ∈ ps, p.sortedValues.Pairwise (· < ·) ∧
          ∃ r ∈ rs, r.Makes p ∧ ∀ v, v ∈ p.sortedValues ↔ v ∈ r.allowed) ∧
        ∀ calls r t, run = (r, t, calls) ↔ Resolves table.lookup onError ps s calls r t := by
  intro engine run
  obtain ⟨hnodup, ps, hnames, hps⟩ := Engine.make_spec h
  obtain rfl := Engine.make_eq_ok h
  refine ⟨engine.recorded_resolve s, hnodup, ps, hnames, fun p hp => ?_, fun calls r t => ?_⟩
  · obtain ⟨hmem, -⟩ := Space.property?_eq_some (hps p hp)
    obtain ⟨r, hr, hmakes⟩ := (Space.ofRegistrations_spec rs).2 p hmem
    refine ⟨p.pairwise_sortedValues hmakes.nodup_values, r, hr, hmakes, fun v => ?_⟩
    rw [← hmakes.mem_values_iff, p.mem_sortedValues]
  · have hresolves {calls : List Call} {r : Except Failure Resolved} {t : σ}
        (h : Resolves table.lookup onError ps s calls r t) : run = (r, t, calls) :=
      Engine.resolve_of_resolves (e := engine) hnames.symm hps h
    refine ⟨fun hrun => ?_, hresolves⟩
    obtain ⟨calls', r', t', h'⟩ := exists_resolves table.lookup onError ps s
    obtain ⟨rfl, rfl, rfl⟩ : r' = r ∧ t' = t ∧ calls' = calls := by
      simpa using (hresolves h').symm.trans hrun
    exact h'

/-! ## A rehearsal -/

namespace Rehearsal

/-- The second registration of "a" fails, and so does the one without values. -/
def cast : List (Registration Rehearsal) :=
  [⟨"a", ["q", "p", "q"], some (provider "a" ["p", "z"])⟩,
    ⟨"b", ["y"], some (provider "b" ["y"])⟩,
    ⟨"a", ["z"], some (provider "a" ["z"])⟩,
    ⟨"c", [], some (provider "c" ["x"])⟩]

def stage : Engine Rehearsal where
  space := .ofRegistrations cast
  table := .empty 2
  order := ["b", "a"]

/-- "a" was asked before. -/
def opening : Rehearsal := { used := [("a", 1)] }

end Rehearsal

open Rehearsal in
theorem resolve_calls_rehearsed :
    Engine.make (some (Space.ofRegistrations cast)) (some (.empty 2)) ["b", "a"] = .ok stage ∧
      (({ stage with onError := some handler }).recorded.resolve (opening, [])).2.2 =
        [.computed "b", .computed "a", .reported "a" ["p", "q"] "z"] ∧
      ∃ ps : List (Property Rehearsal), ps.map (·.name) = ["b", "a"] ∧ ∃ t,
        Resolves (Table.empty 2).lookup (some handler) ps opening
          [.computed "b", .computed "a", .reported "a" ["p", "q"] "z"]
          (.error (.property "a" "z" ["p", "q"])) t := by
  have hmake : Engine.make (some (Space.ofRegistrations cast)) (some (.empty 2)) ["b", "a"] =
      .ok stage := rfl
  obtain ⟨-, -, ps, hnames, -, hresolves⟩ := resolve_calls cast hmake (some handler) opening
  have hsorted : Text.sort ["q", "p"] = ["p", "q"] := by
    have hle : Text.le "q" "p" = false := rfl
    simp [Text.sort, List.mergeSort, hle]
  have hresult : (({ stage with onError := some handler }).recorded.resolve (opening, [])).1 =
      .error (.property "a" "z" (Text.sort ["q", "p"])) := rfl
  have hcalls : (({ stage with onError := some handler }).recorded.resolve (opening, [])).2.2 =
      [.computed "b", .computed "a", .reported "a" (Text.sort ["q", "p"]) "z"] := rfl
  rw [hsorted] at hresult hcalls
  exact ⟨hmake, hcalls, ps, hnames, _, (hresolves _ _ _).mp (Prod.ext hresult (Prod.ext rfl hcalls))⟩

end PageBoot.Binding
