import Mathlib.Data.List.DropRight
import Mathlib.Data.List.Forall2

/-!
Facts about lists that have nothing to do with the program: places in lists that grow, a list after one
of its elements was exchanged, and elements that are picked out or trimmed away.
-/

namespace List

variable {α β : Type}

theorem getElem?_append_cases {l l' : List α} {i : Nat} {a : α}
    (h : (l ++ l')[i]? = some a) : l[i]? = some a ∨ l.length ≤ i ∧ a ∈ l' := by
  by_cases hi : i < l.length
  · exact .inl (by rwa [getElem?_append_left hi] at h)
  · have hle : l.length ≤ i := by omega
    rw [getElem?_append_right hle] at h
    exact .inr ⟨hle, mem_of_getElem? h⟩

theorem getElem?_of_prefix {xs ys : List α} (h : xs <+: ys) {i : Nat} {x : α}
    (hx : xs[i]? = some x) : ys[i]? = some x := by
  obtain ⟨more, rfl⟩ := h
  rw [getElem?_append_left (getElem?_eq_some_iff.mp hx).1, hx]

theorem map_set_of_eq {f : α → β} {l : List α} {i : Nat} {a b : α} (ha : l[i]? = some a)
    (hb : f b = f a) : (l.set i b).map f = l.map f := by
  obtain ⟨hi, rfl⟩ := getElem?_eq_some_iff.mp ha
  have hi' : i < (l.map f).length := by simpa using hi
  have hset : (l.map f).set i (l.map f)[i] = l.map f := set_getElem_self hi'
  rw [map_set, hb]
  simpa using hset

theorem filter_eq_singleton {p : α → Bool} {l : List α} {a : α} (ha : a ∈ l) (hp : p a = true)
    (h : l.Pairwise fun x y => p x = true → p y = false) : l.filter p = [a] := by
  obtain ⟨front, back, rfl⟩ := append_of_mem ha
  obtain ⟨-, hback, hfront⟩ := pairwise_append.mp h
  have hnone : front.filter p = [] ∧ back.filter p = [] := by
    simp only [filter_eq_nil_iff]
    refine ⟨fun x hx hpx => ?_, fun x hx => ?_⟩
    · exact Bool.false_ne_true ((hfront x hx a mem_cons_self hpx).symm.trans hp)
    · simp [(pairwise_cons.mp hback).1 x hx hp]
  rw [filter_append, filter_cons_of_pos hp, hnone.1, hnone.2, nil_append]

/-- A list that was trimmed at both ends has nothing more to trim in front. -/
theorem dropWhile_rdropWhile (p : α → Bool) (xs : List α) :
    ((xs.dropWhile p).rdropWhile p).dropWhile p = (xs.dropWhile p).rdropWhile p := by
  cases h : (xs.dropWhile p).rdropWhile p with
  | nil => rfl
  | cons y ys =>
    obtain ⟨zs, hzs⟩ := rdropWhile_prefix p (xs.dropWhile p)
    have hy : p y = false := by
      have hhead := head?_dropWhile_not p xs
      rw [← hzs, h] at hhead
      simpa using hhead
    rw [dropWhile_cons, hy]
    rfl

theorem Forall₂.exists_of_mem_left {R : α → β → Prop} {xs : List α} {ys : List β} (h : Forall₂ R xs ys)
    {x : α} (hx : x ∈ xs) : ∃ y ∈ ys, R x y := by
  induction h with
  | nil => cases hx
  | cons hone _ ih =>
    rcases mem_cons.mp hx with rfl | hx
    · exact ⟨_, mem_cons_self, hone⟩
    · obtain ⟨y, hy, hxy⟩ := ih hx
      exact ⟨y, mem_cons_of_mem _ hy, hxy⟩

end List
