import Mathlib.Data.List.Infix
import Mathlib.Data.List.TakeWhile
import PageBoot.Command.Host
import PageBoot.Proofs.Page.Standing

/-!
Which script runs when a page is opened for a module. It should be the module's own loader: the first
script whose file name is that of the loader, or a new one at the end of the body. What is looked for is
the first script whose source ends in that name, so that the loader of another module runs if its name
ends in the name of the module and it comes first (`page_runs_own_iff`).
-/

namespace PageBoot

open Html Page

/-! ## File names -/

namespace Text

variable {sep : UInt8}

theorem not_mem_afterLast (sep : UInt8) (t : Text) : sep ∉ t.afterLast sep := by
  intro h
  simpa using List.mem_takeWhile_imp (List.mem_reverse.mp h)

theorem afterLast_suffix (sep : UInt8) (t : Text) : t.afterLast sep <:+ t := by
  have hprefix := List.reverse_suffix.mpr (List.takeWhile_prefix (· != sep) (l := t.reverse))
  rwa [List.reverse_reverse] at hprefix

theorem afterLast_append {s : Text} (h : sep ∉ s) (front : Text) :
    (front ++ s).afterLast sep = front.afterLast sep ++ s := by
  have hall : ∀ b ∈ s.reverse, (b != sep) = true := by
    intro b hb
    rw [bne_iff_ne]
    rintro rfl
    exact h (List.mem_reverse.mp hb)
  rw [afterLast, List.reverse_append, List.takeWhile_append_of_pos hall, List.reverse_append,
    List.reverse_reverse, afterLast]

theorem afterLast_eq_nil_iff {t : Text} :
    t.afterLast sep = [] ↔ ∀ front b, t = front ++ [b] → b = sep := by
  rcases List.eq_nil_or_concat' t with rfl | ⟨front, b, rfl⟩
  · simp [afterLast]
  · by_cases hb : b = sep <;> simp [afterLast, hb]

/-- A text that ends in `s` has more than `s` behind its last separator if no separator is right before
that, or if one is in it. -/
theorem afterLast_ne_iff {s t : Text} : s <:+ t ∧ t.afterLast sep ≠ s ↔
    (∃ other b, b ≠ sep ∧ t = other ++ b :: s) ∨ sep ∈ s ∧ s <:+ t := by
  by_cases hs : sep ∈ s
  · have hne : t.afterLast sep ≠ s := fun h => not_mem_afterLast sep t (h ▸ hs)
    have hsuffix : (∃ other b, b ≠ sep ∧ t = other ++ b :: s) → s <:+ t := by
      rintro ⟨other, b, -, rfl⟩
      exact (List.suffix_cons b s).trans (List.suffix_append other (b :: s))
    simp only [hne, hs, ne_eq, not_false_eq_true, and_true, true_and]
    exact ⟨.inr, fun h => h.elim hsuffix id⟩
  · simp only [hs, false_and, or_false]
    constructor
    · rintro ⟨⟨front, rfl⟩, hne⟩
      rw [afterLast_append hs, Ne, List.append_left_eq_self, afterLast_eq_nil_iff] at hne
      push Not at hne
      obtain ⟨other, b, rfl, hb⟩ := hne
      exact ⟨other, b, hb, by simp⟩
    · rintro ⟨other, b, hb, rfl⟩
      have happend : other ++ b :: s = (other ++ [b]) ++ s := by simp
      refine ⟨(List.suffix_cons b s).trans (List.suffix_append other (b :: s)), ?_⟩
      rw [happend, afterLast_append hs, Ne, List.append_left_eq_self, afterLast_eq_nil_iff]
      exact fun h => hb (h other b rfl)

end Text

namespace Command

open Loader

/-! ## Loaders -/

/-- The file name of a module's loader. -/
def loaderName (module : Text) : Text := module ++ loaderSuffix

/-- The script is a module's loader. -/
def IsLoader (module : Text) (l : Label) : Prop :=
  l.tag = "script" ∧ (l.attr "src").afterLast 47 = loaderName module

/-- The source of the script ends in the name of a module's loader. -/
def EndsAsLoader (module : Text) (l : Label) : Prop :=
  l.tag = "script" ∧ loaderName module <:+ l.attr "src"

instance {module : Text} {l : Label} : Decidable (IsLoader module l) :=
  inferInstanceAs (Decidable (_ ∧ _))

instance {module : Text} {l : Label} : Decidable (EndsAsLoader module l) :=
  inferInstanceAs (Decidable (_ ∧ _))

theorem IsLoader.endsAsLoader {module : Text} {l : Label} (h : IsLoader module l) :
    EndsAsLoader module l := ⟨h.1, h.2 ▸ Text.afterLast_suffix 47 _⟩

/-- `x` is the first element of a page that is `q`. -/
def First (q : Label → Prop) (p : Page) (x : NodeId × Label) : Prop :=
  ∃ front back, p.dom.document.elements = front ++ x :: back ∧ q x.2 ∧ ∀ y ∈ front, ¬ q y.2

/-- From `p` to `p'` the module's own loader got to run: the first one of the page, or a new one at the
end of the body if there is none. -/
inductive RunsOwn (module : Text) (p : Page) : Page → Prop
  | found (x : NodeId × Label) (h : First (IsLoader module) p x) :
      RunsOwn module p (p.setCurrentScript (some x.1))
  | added (p' : Page) (hnone : ∀ x ∈ p.dom.document.elements, ¬ IsLoader module x.2)
      (hjoins : Joins (some p.body) (p.dom.kids (some p.body)) []
        [(p.dom.next, scriptLabel (module ++ "/" ++ loaderName module))] p.dom p'.dom)
      (hcurrent : p'.current = some p.dom.next) (hcursor : p'.cursor = none) :
      RunsOwn module p p'

/-- The script is another module's loader, whose name ends in that of the module. -/
def IsNamesake (module : Text) (l : Label) : Prop :=
  l.tag = "script" ∧ ((∃ other b, b ≠ 47 ∧ l.attr "src" = other ++ b :: loaderName module) ∨
    47 ∈ module ∧ loaderName module <:+ l.attr "src")

theorem isNamesake_iff {module : Text} {l : Label} :
    IsNamesake module l ↔ EndsAsLoader module l ∧ ¬ IsLoader module l := by
  have hslash : 47 ∈ loaderName module ↔ 47 ∈ module := by
    have hsuffix : (47 : UInt8) ∉ loaderSuffix := by decide
    simp [loaderName, hsuffix]
  rw [IsNamesake, ← hslash, ← Text.afterLast_ne_iff, EndsAsLoader, IsLoader]
  tauto

section Found

variable {module : Text} {p : Page} {x : NodeId × Label}

theorem First.mem {q : Label → Prop} (h : First q p x) : x ∈ p.dom.document.elements := by
  obtain ⟨front, back, helements, -⟩ := h
  simp [helements]

theorem First.holds {q : Label → Prop} (h : First q p x) : q x.2 := by
  obtain ⟨-, -, -, hx, -⟩ := h
  exact hx

/-- What is looked for. -/
theorem endsAsLoader_iff {l : Label} : EndsAsLoader module l ↔
    (l.tag == Text.ofString "script" && (loaderName module).isSuffixOf (l.attr "src")) = true := by
  rw [EndsAsLoader, Bool.and_eq_true, beq_iff_eq, List.isSuffixOf_iff_suffix]

theorem findScript?_eq_some_iff {n : NodeId} : p.findScript? (loaderName module) = some n ↔
    ∃ l, First (EndsAsLoader module) p (n, l) := by
  simp only [findScript?, Option.map_eq_some_iff, List.find?_eq_some_iff_append, First,
    endsAsLoader_iff, Bool.not_eq_true', Bool.not_eq_true, Prod.exists]
  constructor
  · rintro ⟨_, l, ⟨hl, front, back, helements, hfront⟩, rfl⟩
    exact ⟨l, front, back, helements, hl, hfront⟩
  · rintro ⟨l, front, back, helements, hl, hfront⟩
    exact ⟨n, l, ⟨hl, front, back, helements, hfront⟩, rfl⟩

theorem findScript?_eq_none_iff : p.findScript? (loaderName module) = none ↔
    ∀ x ∈ p.dom.document.elements, ¬ EndsAsLoader module x.2 := by
  simp only [findScript?, Option.map_eq_none_iff, List.find?_eq_none, endsAsLoader_iff]

/-- Nobody else is first. -/
theorem First.unique {q : Label → Prop} {y : NodeId × Label} (hx : First q p x) (hy : First q p y) :
    x = y := by
  obtain ⟨front, back, helements, hqx, hfront⟩ := hx
  obtain ⟨front', back', helements', hqy, hfront'⟩ := hy
  rw [helements, List.append_eq_append_iff] at helements'
  rcases helements' with ⟨rest, rfl, hrest⟩ | ⟨rest, rfl, hrest⟩
  · cases rest with
    | nil => exact (List.cons.inj hrest).1
    | cons z rest =>
      obtain ⟨rfl, -⟩ := List.cons.inj hrest
      exact (hfront' x (by simp) hqx).elim
  · cases rest with
    | nil => exact (List.cons.inj hrest).1.symm
    | cons z rest =>
      obtain ⟨rfl, -⟩ := List.cons.inj hrest
      exact (hfront y (by simp) hqy).elim

/-- Some element is the first of its kind, or there is none. -/
theorem first_or_none (q : Label → Prop) (p : Page) :
    (∃ x, First q p x) ∨ ∀ x ∈ p.dom.document.elements, ¬ q x.2 := by
  classical
  cases hfound : p.dom.document.elements.find? fun x => decide (q x.2) with
  | none => exact .inr fun x hx => by simpa using List.find?_eq_none.mp hfound x hx
  | some x =>
    obtain ⟨hq, front, back, helements, hfront⟩ := List.find?_eq_some_iff_append.mp hfound
    exact .inl ⟨x, front, back, helements, by simpa using hq, fun y hy => by simpa using hfront y hy⟩

/-- Whoever is the first that is `r` is the first that is `q`, if it is `q` and `q` says more. -/
theorem First.of_imp {q r : Label → Prop} (h : ∀ l, q l → r l) (hx : First r p x) (hq : q x.2) :
    First q p x := by
  obtain ⟨front, back, helements, -, hfront⟩ := hx
  exact ⟨front, back, helements, hq, fun y hy hqy => hfront y hy (h _ hqy)⟩

/-- An element of the document, by its identity. -/
theorem eq_of_mem_elements (hp : p.Sound) {n : NodeId} {l k : Label}
    (hl : (n, l) ∈ p.dom.document.elements) (hk : (n, k) ∈ p.dom.document.elements) : l = k := by
  have hids := hp.dom.nodup_of_mem (document_mem _)
  rw [← Forest.map_nodes] at hids
  have heq := List.inj_on_of_nodup_map hids (List.mem_filter.mp hl).1 (List.mem_filter.mp hk).1 rfl
  exact (Prod.mk.inj heq).2

theorem mem_ids_of_elements (hx : x ∈ p.dom.document.elements) : x.1 ∈ p.dom.ids :=
  Dom.ids_subset (document_mem _) (mem_ids_of_nodes (List.mem_filter.mp hx).1)

/-- A script that was there before and is the one that runs is the module's own loader. -/
theorem RunsOwn.isLoader_of_current {p' : Page} (h : RunsOwn module p p') (hp : p.Sound)
    (hx : x ∈ p.dom.document.elements) (hcurrent : p'.current = some x.1) : IsLoader module x.2 := by
  cases h with
  | found y hy =>
    have hsame : y.1 = x.1 := Option.some.inj hcurrent
    have hlabel : x.2 = y.2 := eq_of_mem_elements hp hx (hsame ▸ hy.mem)
    exact hlabel ▸ hy.holds
  | added _ hnone hjoins hnext hcursor =>
    have hnew : p.dom.next = x.1 := Option.some.inj (hnext.symm.trans hcurrent)
    have hbelow := hp.dom.bounded x.1 (mem_ids_of_elements hx)
    exact absurd hnew (Nat.ne_of_gt hbelow)

end Found

/-! ## Opening a page -/

namespace HostPage

variable {module : Text} {p : Page} {x : NodeId × Label}

theorem atLoader_of_first (h : First (EndsAsLoader module) p x) :
    atLoader module p = p.setCurrentScript (some x.1) := by
  have hfound : p.findScript? (module ++ loaderSuffix) = some x.1 := findScript?_eq_some_iff.mpr ⟨x.2, h⟩
  simp only [atLoader, hfound]

theorem atLoader_of_none (h : ∀ x ∈ p.dom.document.elements, ¬ EndsAsLoader module x.2) :
    atLoader module p = (p.appendScript (module ++ "/" ++ loaderName module)).2.setCurrentScript
      (some p.dom.next) := by
  have hfound : p.findScript? (module ++ loaderSuffix) = none := findScript?_eq_none_iff.mpr h
  simp only [atLoader, hfound]
  rfl

/-- The module's own loader runs unless the first one in question is a namesake. -/
theorem runsOwn_atLoader_iff (hp : p.Sound) (module : Text) :
    RunsOwn module p (atLoader module p) ↔
      ∀ x, First (EndsAsLoader module) p x → ¬ IsNamesake module x.2 := by
  rcases first_or_none (EndsAsLoader module) p with ⟨x, hx⟩ | hnone
  · have honly : (∀ y, First (EndsAsLoader module) p y → ¬ IsNamesake module y.2) ↔
        IsLoader module x.2 := by
      rw [← not_iff_not]
      push Not
      constructor
      · rintro ⟨y, hy, hnamesake⟩
        rw [hx.unique hy]
        exact (isNamesake_iff.mp hnamesake).2
      · intro h
        exact ⟨x, hx, isNamesake_iff.mpr ⟨hx.holds, h⟩⟩
    rw [honly, atLoader_of_first hx]
    constructor
    · intro hruns
      exact hruns.isLoader_of_current hp hx.mem rfl
    · intro h
      exact .found x (hx.of_imp (fun _ => IsLoader.endsAsLoader) h)
  · have hvacuous : ∀ x, First (EndsAsLoader module) p x → ¬ IsNamesake module x.2 :=
      fun x hx => (hnone x hx.mem hx.holds).elim
    refine iff_of_true ?_ hvacuous
    rw [atLoader_of_none hnone]
    exact .added _ (fun x hx h => hnone x hx h.endsAsLoader)
      (joins_appendTo hp.dom hp.body (scriptLabel (module ++ "/" ++ loaderName module))) rfl rfl

/-- The page as it is opened, before a script of it runs. -/
def opened (h : HostPage) (d : Disk) : Except Failure Page := do
  let markup ← h.markup d
  Page.open? markup h.location h.userAgent (Text.when h.isBackCompat Page.backCompatMode)

theorem page_eq (h : HostPage) (d : Disk) (module : Text) :
    h.page d module = atLoader module <$> h.opened d := by
  simp only [page, opened, map_bind, bind_pure_comp]

theorem sound_of_opened {h : HostPage} {d : Disk} {q : Page} (hq : h.opened d = .ok q) :
    q.Sound := by
  unfold opened at hq
  cases hmarkup : h.markup d with
  | error f =>
    rw [hmarkup] at hq
    cases hq
  | ok markup =>
    rw [hmarkup] at hq
    exact sound_open? hq

/-- **The script that runs on a page.** It is the first one whose source ends in the name of the
module's loader, or a new one that is the module's own if there is none. So it is the module's own
unless that first one is another module's, whose name ends in the name of the module. -/
theorem page_runs_own_iff {h : HostPage} {d : Disk} {q : Page} (module : Text)
    (hopen : h.opened d = .ok q) : ∃ p, h.page d module = .ok p ∧
      (∀ x, First (EndsAsLoader module) q x → p = q.setCurrentScript (some x.1)) ∧
      (RunsOwn module q p ↔ ∀ x, First (EndsAsLoader module) q x → ¬ IsNamesake module x.2) := by
  refine ⟨atLoader module q, ?_, fun x => atLoader_of_first,
    runsOwn_atLoader_iff (sound_of_opened hopen) module⟩
  rw [page_eq, hopen]
  rfl

theorem exists_opened {h : HostPage} {d : Disk} {elements : List (NodeId × Label)}
    (helements : (h.opened d).toOption.map (·.dom.document.elements) = some elements) :
    ∃ q, h.opened d = .ok q ∧ q.dom.document.elements = elements := by
  cases hopen : h.opened d with
  | error f =>
    rw [hopen] at helements
    cases helements
  | ok q =>
    rw [hopen] at helements
    exact ⟨q, rfl, Option.some.inj helements⟩

/-- A page that is there for one module only. -/
def soleDisk : Disk where
  files := [("/p.html",
    "<html><head></head><body><script src=\"other/myapp.nocache.js\"></script></body></html>")]

def solePage : HostPage := { file := "p.html", location := "http://localhost:8888/index.html" }

def soleScript : NodeId × Label := (4, .element "script" [("src", "other/myapp.nocache.js")])

def soleFront : List (NodeId × Label) :=
  [(1, .element "html" []), (2, .element "head" []), (3, .element "body" [])]

theorem exists_solePage : ∃ q, solePage.opened soleDisk = .ok q ∧
    q.dom.document.elements = soleFront ++ [soleScript] :=
  exists_opened (by decide +kernel)

theorem first_soleScript {q : Page} {module : Text}
    (helements : q.dom.document.elements = soleFront ++ [soleScript])
    (hends : EndsAsLoader module soleScript.2) : First (EndsAsLoader module) q soleScript := by
  have htags : ∀ y ∈ soleFront, y.2.tag ≠ "script" := by decide
  exact ⟨soleFront, [], helements, hends, fun y hy hends => htags y hy hends.1⟩

theorem runs_own_solePage : ∃ q p, solePage.opened soleDisk = .ok q ∧
    solePage.page soleDisk "myapp" = .ok p ∧ RunsOwn "myapp" q p := by
  obtain ⟨q, hopen, helements⟩ := exists_solePage
  obtain ⟨p, hpage, -, hown⟩ := page_runs_own_iff "myapp" hopen
  refine ⟨q, p, hopen, hpage, hown.mpr fun x hx => ?_⟩
  rw [hx.unique (first_soleScript helements (by decide)), isNamesake_iff]
  decide

/-- The module whose name is the end of the other one's gets the other one's loader. -/
theorem runs_other_solePage : ∃ q p, solePage.opened soleDisk = .ok q ∧
    solePage.page soleDisk "app" = .ok p ∧ p.current = some soleScript.1 ∧
    ¬ IsLoader "app" soleScript.2 ∧ ¬ RunsOwn "app" q p := by
  obtain ⟨q, hopen, helements⟩ := exists_solePage
  have hfirst : First (EndsAsLoader "app") q soleScript := first_soleScript helements (by decide)
  have hnot : ¬ IsLoader "app" soleScript.2 := by decide
  refine ⟨q, atLoader "app" q, hopen, ?_, ?_, hnot, fun hruns => ?_⟩
  · rw [page_eq, hopen]
    rfl
  · rw [atLoader_of_first hfirst]
    rfl
  · exact (runsOwn_atLoader_iff (sound_of_opened hopen) "app").mp hruns _ hfirst
      (isNamesake_iff.mpr ⟨hfirst.holds, hnot⟩)

end HostPage

end Command

end PageBoot
