import PageBoot.Page.Style
import PageBoot.Proofs.Text.Searching
import PageBoot.Proofs.Text.Trimming
import PageBoot.Proofs.Url.Queries

/-!
Inline styles as maps. Whatever a style is read from, its declarations are ones that can be written
(`Style.clean_parse`), and what can be written is read back, in the order of the names
(`Style.parse_print`). So styles can be read, changed and written any number of times.
-/

namespace PageBoot

/-! ## Maps -/

namespace Dict

variable {α : Type} {d s : Dict α}

theorem mem_set {e : Text × α} {k : Text} {v : α} (h : e ∈ d.set k v) : e ∈ d ∨ e = (k, v) := by
  induction d with
  | nil => exact .inr (List.mem_singleton.mp h)
  | cons e' d ih =>
    rw [set] at h
    split at h
    · rcases List.mem_cons.mp h with rfl | h
      · exact .inr rfl
      · exact .inl (List.mem_cons_of_mem _ h)
    · rcases List.mem_cons.mp h with rfl | h
      · exact .inl List.mem_cons_self
      · exact (ih h).imp_left (List.mem_cons_of_mem _)

theorem set_of_not_mem {k : Text} (h : k ∉ d.keys) (v : α) : d.set k v = d ++ [(k, v)] := by
  induction d with
  | nil => rfl
  | cons e d ih =>
    obtain ⟨hne, hrest⟩ := List.ne_and_not_mem_of_not_mem_cons h
    rw [set, if_neg (Ne.symm hne), ih hrest, List.cons_append]

/-- What is there already is set without a change. -/
theorem set_eq_self {k : Text} {v : α} (h : d.get? k = some v) : d.set k v = d := by
  induction d with
  | nil => cases h
  | cons e d ih =>
    obtain ⟨k', v'⟩ := e
    by_cases hk : k' = k
    · have hv : v' = v := by simpa [get?, hk] using h
      rw [set, if_pos hk, hk, hv]
    · have htail : get? ((k', v') :: d) k = get? d k := by simp [get?, hk]
      rw [set, if_neg hk, ih (htail.symm.trans h)]

theorem mem_override {e : Text × α} (h : e ∈ d.override s) : e ∈ d ∨ e ∈ s := by
  induction s generalizing d with
  | nil => exact .inl h
  | cons e' s ih =>
    rcases ih h with h | h
    · rcases mem_set h with h | rfl
      · exact .inl h
      · exact .inr List.mem_cons_self
    · exact .inr (List.mem_cons_of_mem _ h)

theorem nodup_override (hd : d.keys.Nodup) (s : Dict α) : (d.override s).keys.Nodup := by
  induction s generalizing d with
  | nil => exact hd
  | cons e s ih => exact ih (nodup_set hd e.1 e.2)

theorem override_append (h : (d ++ s : Dict α).keys.Nodup) : d.override s = d ++ s := by
  induction s generalizing d with
  | nil => exact (List.append_nil d).symm
  | cons e s ih =>
    have hfresh : e.1 ∉ d.keys := by
      rw [keys, List.map_append] at h
      exact fun he => (List.nodup_append'.mp h).2.2 he List.mem_cons_self
    have hset : d.override (e :: s) = (d.set e.1 e.2).override s := rfl
    rw [hset, set_of_not_mem hfresh, ih (by rwa [List.append_assoc]), List.append_assoc]
    rfl

theorem override_nil (h : s.keys.Nodup) : override [] s = s := override_append h

theorem get?_override (hs : s.keys.Nodup) (d : Dict α) (k : Text) :
    (d.override s).get? k = (s.get? k).or (d.get? k) := by
  induction s generalizing d with
  | nil => rfl
  | cons e s ih =>
    obtain ⟨hfresh, hrest⟩ := List.nodup_cons.mp hs
    have hset : d.override (e :: s) = (d.set e.1 e.2).override s := rfl
    rw [hset, ih hrest, get?_set]
    by_cases hk : e.1 = k
    · have hnone : get? s k = none := by
        rw [Option.eq_none_iff_forall_ne_some]
        intro v hv
        rw [← hk, ← mem_iff_get? hrest] at hv
        exact hfresh (List.mem_map_of_mem (f := (·.1)) hv)
      rw [hnone]
      simp [get?, hk]
    · simp [get?, hk]

theorem override_eq_self (h : ∀ e ∈ s, d.get? e.1 = some e.2) : d.override s = d := by
  induction s with
  | nil => rfl
  | cons e s ih =>
    have hset : d.override (e :: s) = (d.set e.1 e.2).override s := rfl
    rw [hset, set_eq_self (h e List.mem_cons_self)]
    exact ih fun e' he => h e' (List.mem_cons_of_mem _ he)

theorem sorted_perm (d : Dict α) : d.sorted.Perm d := List.mergeSort_perm d _

theorem nodup_sorted (h : d.keys.Nodup) : d.sorted.keys.Nodup := by
  have hkeys : d.sorted.keys.Perm d.keys := (sorted_perm d).map Prod.fst
  exact hkeys.nodup_iff.mpr h

theorem get?_sorted (h : d.keys.Nodup) (k : Text) : d.sorted.get? k = d.get? k := by
  ext v
  rw [← mem_iff_get? h, ← mem_iff_get? (nodup_sorted h)]
  exact (sorted_perm d).mem_iff

theorem sorted_sorted (d : Dict α) : d.sorted.sorted = d.sorted :=
  List.mergeSort_of_pairwise (Text.pairwise_le_mergeSort (fun e : Text × α => e.1) d)

end Dict

/-! ## Pieces of a text -/

namespace Text

theorem splitOn_append {sep : UInt8} {a : Text} (h : sep ∉ a) (t : Text) :
    splitOn sep (a ++ sep :: t) = a :: splitOn sep t := by
  induction a with
  | nil => simp [splitOn]
  | cons b a ih =>
    have hb : (b == sep) = false := by simpa using (List.ne_of_not_mem_cons h).symm
    simp only [List.cons_append, splitOn, hb, Bool.false_eq_true, if_false,
      ih (List.not_mem_of_not_mem_cons h)]

theorem not_mem_of_mem_splitOn {sep : UInt8} {t p : Text} (h : p ∈ splitOn sep t) : sep ∉ p := by
  induction t generalizing p with
  | nil =>
    rw [List.mem_singleton.mp h]
    exact List.not_mem_nil
  | cons b t ih =>
    rw [splitOn] at h
    split at h
    · rcases List.mem_cons.mp h with rfl | h
      · exact List.not_mem_nil
      · exact ih h
    · next hb =>
      have hsep : sep ≠ b := fun heq => hb (beq_iff_eq.mpr heq.symm)
      cases hpieces : splitOn sep t with
      | nil => exact absurd hpieces (splitOn_ne_nil sep t)
      | cons q qs =>
        rw [hpieces] at h ih
        rcases List.mem_cons.mp h with rfl | h
        · exact List.not_mem_cons_of_ne_of_not_mem hsep (ih List.mem_cons_self)
        · exact ih (List.mem_cons_of_mem _ h)

end Text

/-! ## Declarations -/

namespace Page.Style

open Text (trim)

/-- A declaration that is read back as it is written. -/
structure Writable (d : Text × Text) : Prop where
  named : d.1 ≠ []
  name_trimmed : trim d.1 = d.1
  no_colon : 58 ∉ d.1
  name_open : 59 ∉ d.1
  value_trimmed : trim d.2 = d.2
  value_open : 59 ∉ d.2

/-- Declarations that can be written side by side. -/
structure Clean (s : Style) : Prop where
  distinct : s.keys.Nodup
  writable : ∀ d ∈ s, Writable d

instance : DecidablePred Writable := fun d =>
  decidable_of_iff (d.1 ≠ [] ∧ trim d.1 = d.1 ∧ 58 ∉ d.1 ∧ 59 ∉ d.1 ∧ trim d.2 = d.2 ∧ 59 ∉ d.2)
    ⟨fun ⟨h₁, h₂, h₃, h₄, h₅, h₆⟩ => ⟨h₁, h₂, h₃, h₄, h₅, h₆⟩,
      fun ⟨h₁, h₂, h₃, h₄, h₅, h₆⟩ => ⟨h₁, h₂, h₃, h₄, h₅, h₆⟩⟩

instance (s : Style) : Decidable (Clean s) :=
  decidable_of_iff (s.keys.Nodup ∧ ∀ d ∈ s, Writable d) ⟨fun ⟨h, h'⟩ => ⟨h, h'⟩, fun ⟨h, h'⟩ => ⟨h, h'⟩⟩

variable {s old : Style} {d : Text × Text}

theorem declaration?_written (h : Writable d) : declaration? (d.1 ++ 58 :: d.2) = some d := by
  rw [declaration?, Text.cut_append h.no_colon]
  simp [h.name_trimmed, h.value_trimmed, h.named]

theorem writable_of_declaration? {t : Text} (ht : 59 ∉ t) (h : declaration? t = some d) : Writable d := by
  obtain ⟨name, rest, rfl, hname, rfl | ⟨value, rfl⟩⟩ := Text.exists_cut 58 t
  · rw [declaration?, List.append_nil, Text.cut_of_not_mem hname] at h
    cases h
  · rw [declaration?, Text.cut_append hname] at h
    simp only [Option.ite_none_left_eq_some, Option.some.injEq] at h
    obtain ⟨hempty, rfl⟩ := h
    simp only [List.mem_append, List.mem_cons, not_or] at ht
    exact {
      named := by simpa using hempty
      name_trimmed := Text.trim_trim name
      no_colon := Text.not_mem_trim hname
      name_open := Text.not_mem_trim ht.1
      value_trimmed := Text.trim_trim value
      value_open := Text.not_mem_trim ht.2.2 }

theorem Clean.override (hold : Clean old) (h : ∀ d ∈ s, Writable d) : Clean (old.override s) where
  distinct := Dict.nodup_override hold.distinct s
  writable d hd := (Dict.mem_override hd).elim (hold.writable d) (h d)

theorem clean_nil : Clean [] := ⟨List.nodup_nil, fun _ hd => nomatch hd⟩

/-- What is read from any text can be written. -/
theorem clean_parse (t : Text) : Clean (parse t) := by
  refine clean_nil.override fun d hd => ?_
  obtain ⟨piece, hpiece, hread⟩ := List.mem_filterMap.mp hd
  exact writable_of_declaration? (Text.not_mem_of_mem_splitOn hpiece) hread

/-- Only the first colon separates, and the last declaration of a name counts. -/
example : parse " src : url(a:b) ;; color: red; x ; color : blue" =
    ([("src", "url(a:b)"), ("color", "blue")] : Style) := by
  decide +kernel

/-- Declarations one behind another, each with a semicolon at its end. -/
theorem declarations_written (h : ∀ d ∈ s, Writable d) :
    (Text.splitOn 59 (s.flatMap fun (name, value) => name ++ [58] ++ value ++ [59])).filterMap
      declaration? = s := by
  induction s with
  | nil => rfl
  | cons d s ih =>
    have hd := h d List.mem_cons_self
    have hopen : 59 ∉ d.1 ++ 58 :: d.2 := by simp [hd.name_open, hd.value_open]
    have hwritten (rest : Text) :
        d.1 ++ [58] ++ d.2 ++ [59] ++ rest = (d.1 ++ 58 :: d.2) ++ 59 :: rest := by simp
    rw [List.flatMap_cons, hwritten, Text.splitOn_append hopen, List.filterMap_cons,
      declaration?_written hd, ih fun d' hd' => h d' (List.mem_cons_of_mem _ hd')]

theorem parse_print (h : Clean s) : parse (print s) = s.sorted := by
  rw [parse, print, declarations_written fun d hd => h.writable d ((Dict.sorted_perm s).mem_iff.mp hd),
    Dict.override_nil (Dict.nodup_sorted h.distinct)]

/-- Declarations that are set again leave what is written as it is. -/
theorem print_override_again (hold : Clean old) (hs : Clean s) :
    print ((parse (print (old.override s))).override s) = print (old.override s) := by
  have hclean := hold.override hs.writable
  have hset (d : Text × Text) (hd : d ∈ s) : (old.override s).sorted.get? d.1 = some d.2 := by
    rw [Dict.get?_sorted hclean.distinct, Dict.get?_override hs.distinct,
      (Dict.mem_iff_get? hs.distinct).mp hd, Option.some_or]
  rw [parse_print hclean, Dict.override_eq_self hset, print, Dict.sorted_sorted, print]

end Page.Style

end PageBoot
