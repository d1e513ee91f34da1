import PageBoot.Proofs.Binding.Reordering
import PageBoot.Proofs.Text.Editing
import PageBoot.Loader.Selection

/-!
What the user is told about an illegal value. It is told once, after everything the providers do, and it
depends on which values are legal and on nothing else about their declaration (`resolve_tells`). The value
suggested is the nearest legal one, if few enough edits lead to it; of those equally near it is the first in
order, since the legal values are gone through in that order and only a nearer one displaces another.
-/

namespace PageBoot

open Binding

namespace Loader

/-! ## Suggestions -/

/-- The legal value that the fewest edits of a value lead to; of several such the first in order. -/
structure Nearest (value : Text) (legal : List Text) (s : Text) (n : Nat) : Prop where
  mem : s ∈ legal
  edits : Text.Edits n value.codes s.codes
  fewest : ∀ a ∈ legal, ∀ m, Text.Edits m value.codes a.codes → n ≤ m
  first : ∀ a ∈ legal, Text.Edits n value.codes a.codes → s ≤ a

theorem Nearest.of_mem_iff {value s : Text} {n : Nat} {legal legal' : List Text} (h : Nearest value legal s n)
    (hmem : ∀ v, v ∈ legal ↔ v ∈ legal') : Nearest value legal' s n where
  mem := (hmem s).mp h.mem
  edits := h.edits
  fewest := fun a ha => h.fewest a ((hmem a).mpr ha)
  first := fun a ha => h.first a ((hmem a).mpr ha)

/-- The nearer of two candidates, the first one if they are equally near. -/
def nearer (value : Text) (best : Option (Text × Nat)) (a : Text) : Option (Text × Nat) :=
  let d := Text.distance value a
  match best with
  | none => some (a, d)
  | some (_, least) => if d < least then some (a, d) else best

theorem nearest_singleton (value a : Text) : Nearest value [a] a (Text.distance value a) := by
  have hleast := Text.distance_isLeast value a
  constructor
  · exact List.mem_singleton_self a
  · exact hleast.1
  · intro b hb m hm
    obtain rfl := List.mem_singleton.mp hb
    exact hleast.2 hm
  · intro b hb _
    obtain rfl := List.mem_singleton.mp hb
    exact List.le_refl b

/-- One more candidate that comes later in order displaces the nearest one only if it is nearer. -/
theorem Nearest.concat {value s a : Text} {n : Nat} {legal : List Text} (h : Nearest value legal s n)
    (hlater : ∀ b ∈ legal, b < a) :
    ∃ s' n', nearer value (some (s, n)) a = some (s', n') ∧ Nearest value (legal ++ [a]) s' n' := by
  have hleast := Text.distance_isLeast value a
  simp only [nearer]
  split
  · next hcloser =>
    refine ⟨a, _, rfl, by simp, hleast.1, ?_, ?_⟩
    · intro b hb m hm
      rcases List.mem_append.mp hb with hb | hb
      · have := h.fewest b hb m hm
        omega
      · obtain rfl := List.mem_singleton.mp hb
        exact hleast.2 hm
    · intro b hb hedits
      rcases List.mem_append.mp hb with hb | hb
      · have := h.fewest b hb _ hedits
        omega
      · obtain rfl := List.mem_singleton.mp hb
        exact List.le_refl b
  · next hcloser =>
    refine ⟨s, n, rfl, List.mem_append_left _ h.mem, h.edits, ?_, ?_⟩
    · intro b hb m hm
      rcases List.mem_append.mp hb with hb | hb
      · exact h.fewest b hb m hm
      · obtain rfl := List.mem_singleton.mp hb
        have := hleast.2 hm
        omega
    · intro b hb hedits
      rcases List.mem_append.mp hb with hb | hb
      · exact h.first b hb hedits
      · obtain rfl := List.mem_singleton.mp hb
        exact List.le_of_lt (hlater s h.mem)

theorem foldl_nearer (value : Text) {legal : List Text} (hsorted : legal.Pairwise (· < ·))
    (hne : legal ≠ []) :
    ∃ s n, legal.foldl (nearer value) none = some (s, n) ∧ Nearest value legal s n := by
  induction legal using List.reverseRecOn with
  | nil => exact absurd rfl hne
  | append_singleton legal a ih =>
    rw [List.foldl_append, List.foldl_cons, List.foldl_nil]
    obtain ⟨hfront, -, hlater⟩ := List.pairwise_append.mp hsorted
    by_cases hnil : legal = []
    · subst hnil
      exact ⟨a, _, rfl, nearest_singleton value a⟩
    · obtain ⟨s, n, hfold, hnearest⟩ := ih hfront hnil
      rw [hfold]
      exact hnearest.concat fun b hb => hlater b hb a (List.mem_singleton_self a)

theorem suggest?_eq (value : Text) {legal : List Text} (hsorted : legal.Pairwise (· < ·)) (hne : legal ≠ []) :
    ∃ s n, Nearest value legal s n ∧
      suggest? value legal = if n ≤ max 1 (value.length / 2) then some s else none := by
  obtain ⟨s, n, hfold, hnearest⟩ := foldl_nearer value hsorted hne
  have hsuggest : suggest? value legal =
      ((legal.foldl (nearer value) none).filter fun c => c.2 ≤ max (value.length / 2) 1).map (·.1) := rfl
  refine ⟨s, n, hnearest, ?_⟩
  rw [hsuggest, hfold, max_comm, Option.filter_some]
  by_cases hnear : n ≤ max 1 (value.length / 2) <;> simp [hnear]

end Loader

/-! ## Telling the user -/

namespace World

open Loader

/-- What the user is told, with the nearest legal value if that is near enough. -/
theorem bannerText_eq {name value s : Text} {allowed : List Text} {n : Nat}
    (h : suggest? value allowed = if n ≤ max 1 (value.length / 2) then some s else none) :
    bannerText name allowed value =
      "While attempting to load the application, property " ++ Text.quote name ++
        " had the unexpected value " ++ Text.quote value ++ "; expected one of [" ++
        Text.join ", " allowed ++ "]." ++
        if n ≤ max 1 (value.length / 2) then " Did you mean " ++ Text.quote s ++ "?" else [] := by
  rw [bannerText, h]
  by_cases hnear : n ≤ max 1 (value.length / 2)
  · rw [if_pos hnear, if_pos hnear]
  · rw [if_neg hnear, if_neg hnear]

theorem alerts_reportIllegal (name : Text) (allowed : List Text) (value : Text) (w : World) :
    (reportIllegal .user name allowed value w).page.alerts =
      w.page.alerts ++ [bannerText name allowed value] := rfl

/-- **What the user is told about an illegal value** depends on which values are legal and not on the order
or the repetitions in which they were declared: engines made of registrations that are alike but for that
do the same. If a value is illegal, then it is so for the first registration under its name that can
succeed, and the user is told of it once, after everything that happens without anybody being told. What is
suggested is the legal value that the fewest edits lead to, and of several such the first in order; it is
suggested if they are no more than half the length of the illegal value, or one. The user is told the name,
the illegal value, the legal ones in order, and the suggestion if there is one. -/
theorem resolve_tells {rs qs : List (Registration World)} (halike : List.Forall₂ Registration.Alike rs qs)
    {table : Table} {order : List Text} {e : Engine World}
    (hmake : Engine.make (some (.ofRegistrations rs)) (some table) order = .ok e) (w : World) :
    let telling : Engine World → Engine World := fun e => { e with onError := some (reportIllegal .user) }
    (∃ e', Engine.make (some (.ofRegistrations qs)) (some table) order = .ok e' ∧
        (telling e').resolve w = (telling e).resolve w) ∧
      ((telling e).resolve w).1 = (e.resolve w).1 ∧
      ((∀ name value allowed, (e.resolve w).1 ≠ .error (.property name value allowed)) →
        ((telling e).resolve w).2 = (e.resolve w).2) ∧
      ∀ name value allowed, (e.resolve w).1 = .error (.property name value allowed) →
        ((telling e).resolve w).2.page.alerts =
            (e.resolve w).2.page.alerts ++ [bannerText name allowed value] ∧
          ∃ r, Space.firstOf? rs name = some r ∧ value ∉ r.allowed ∧
            allowed.Pairwise (· < ·) ∧ (∀ v, v ∈ allowed ↔ v ∈ r.allowed) ∧
            ∃ s n, Nearest value r.allowed s n ∧
              suggest? value allowed = (if n ≤ max 1 (value.length / 2) then some s else none) ∧
              bannerText name allowed value =
                "While attempting to load the application, property " ++ Text.quote name ++
                  " had the unexpected value " ++ Text.quote value ++ "; expected one of [" ++
                  Text.join ", " allowed ++ "]." ++
                  if n ≤ max 1 (value.length / 2) then " Did you mean " ++ Text.quote s ++ "?" else [] := by
  intro telling
  obtain ⟨e', hmake', hsame⟩ := Engine.resolve_reordered halike hmake
  have htold : (telling e).resolve w = Engine.heard (reportIllegal .user) (e.resolve w) := by
    obtain rfl := Engine.make_eq_ok hmake
    exact Engine.resolve_heard _ _ w
  refine ⟨⟨e', hmake', hsame (some (reportIllegal .user)) w⟩, ?_, ?_, ?_⟩
  · rw [htold, Engine.fst_heard]
  · intro hfine
    rw [htold, Engine.heard_eq_self _ hfine]
  · intro name value allowed hcomplaint
    cases hrun : e.resolve w with
    | mk r t =>
      rw [hrun] at hcomplaint
      obtain rfl : r = .error (.property name value allowed) := hcomplaint
      refine ⟨?_, ?_⟩
      · rw [htold, hrun]
        exact alerts_reportIllegal name allowed value t
      · have hrefuses := Engine.refuses_of_resolve hrun
        obtain rfl := Engine.make_eq_ok hmake
        obtain ⟨r, hr, hillegal, hne, hsorted, hmem⟩ := hrefuses.of_registrations
        obtain ⟨s, n, hnearest, hsuggest⟩ := suggest?_eq value hsorted hne
        exact ⟨r, hr, hillegal, hsorted, hmem, s, n, hnearest.of_mem_iff hmem, hsuggest,
          bannerText_eq hsuggest⟩

/-- A page on which nothing was done yet. -/
def foyer : World :=
  .start { dom := { document := .nil, next := 0 }, head := 0, body := 0, location := {} } [] []

/-- A theme that is always "c", whatever is legal. -/
def theming (allowed : List Text) : Registration World := ⟨"theme", allowed, some fun w => ("c", w)⟩

def themed : Engine World where
  space := .ofRegistrations [theming ["b", "a", "b"]]
  table := .empty 1
  order := ["theme"]

/-- Both legal values are one edit away, and the one that is declared later comes first in order. -/
theorem resolve_tells_theme :
    List.Forall₂ Registration.Alike [theming ["b", "a", "b"]] [theming ["a", "b"]] ∧
      Engine.make (some (.ofRegistrations [theming ["b", "a", "b"]])) (some (.empty 1)) ["theme"] = .ok themed ∧
      (({ themed with onError := some (reportIllegal .user) } : Engine World).resolve foyer).2.page.alerts =
        [bannerText "theme" ["a", "b"] "c"] ∧
      suggest? "c" ["a", "b"] = some "a" ∧
      bannerText "theme" ["a", "b"] "c" =
        "While attempting to load the application, property \"theme\" had the unexpected value \"c\"; expected one of [a, b]. Did you mean \"a\"?" := by
  have halike : List.Forall₂ Registration.Alike [theming ["b", "a", "b"]] [theming ["a", "b"]] := by
    have hsame (a b : Text) : (theming [b, a, b]).Alike (theming [a, b]) := by
      refine ⟨rfl, fun v => ?_, rfl⟩
      simp only [theming, List.mem_cons, List.not_mem_nil, or_false]
      tauto
    exact .cons (hsame "a" "b") .nil
  have hmake : Engine.make (some (.ofRegistrations [theming ["b", "a", "b"]])) (some (.empty 1)) ["theme"] =
      .ok themed := rfl
  have hsorted : Text.sort ["b", "a"] = ["a", "b"] := by
    have hle : Text.le "b" "a" = false := rfl
    simp [Text.sort, List.mergeSort, hle]
  have hcomplaint : (themed.resolve foyer).1 = .error (.property "theme" "c" (Text.sort ["b", "a"])) := rfl
  have hquiet : (themed.resolve foyer).2.page.alerts = [] := rfl
  obtain ⟨-, -, -, hall⟩ := resolve_tells halike hmake foyer
  obtain ⟨halerts, -⟩ := hall _ _ _ hcomplaint
  rw [hsorted, hquiet, List.nil_append] at halerts
  exact ⟨halike, hmake, halerts, by decide +kernel, by decide +kernel⟩

end World

end PageBoot
