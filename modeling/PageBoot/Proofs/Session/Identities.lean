import Mathlib.Tactic.TFAE
import PageBoot.Identity

/-!
What identities are drawn from. A source asked through `Source.recorded` leaves a record of what it
was asked and what it answered. Making an identity asks sixteen times with one bound, and each
character goes by one answer, so that the valid identities are those that answers within bounds make.
-/

namespace PageBoot.Identity

variable {σ : Type}

/-- A question to a source, and the answer. -/
structure Drawn where
  bound : Int
  answer : Int

def Drawn.InRange (d : Drawn) : Prop := 0 ≤ d.answer ∧ d.answer < d.bound

/-- The source, with a record of its answers. -/
def Source.recorded (source : Source σ) : Source (σ × List Drawn) := fun bound (s, record) =>
  let (v, s) := source bound s
  (v, s, record ++ [{ bound, answer := v }])

/-- All that is drawn to make an identity. -/
def drawnFor (source : Source σ) (s : σ) : List Drawn := (generate source.recorded (s, [])).2.2

/-! ## Characters and answers -/

/-- The first answers of a source that is asked with the bound of identities. -/
def answers (source : Source σ) : Nat → σ → List Int
  | 0, _ => []
  | n + 1, s => (source 94 s).1 :: answers source n (source 94 s).2

theorem draw_eq (source : Source σ) (n : Nat) (s : σ) :
    (draw source n s).1 = (answers source n s).map byteOf := by
  induction n generalizing s with
  | zero => rfl
  | succ n ih => exact congrArg (_ :: ·) (ih _)

theorem draw_recorded (source : Source σ) (n : Nat) (s : σ) (record : List Drawn) :
    (draw source.recorded n (s, record)).2.2 = record ++ (answers source n s).map (Drawn.mk 94) := by
  induction n generalizing s record with
  | zero => exact (List.append_nil record).symm
  | succ n ih =>
    rw [answers, List.map_cons, List.append_cons]
    exact ih _ _

theorem drawnFor_eq (source : Source σ) (s : σ) :
    drawnFor source s = (answers source 16 s).map (Drawn.mk 94) := draw_recorded source 16 s []

theorem length_answers (source : Source σ) (n : Nat) (s : σ) : (answers source n s).length = n := by
  induction n generalizing s with
  | zero => rfl
  | succ n ih => exact congrArg (· + 1) (ih _)

/-- A source that goes round a list answers with its integers in order, while they last. -/
theorem answers_rounds (n : Nat) (r : Rounds) (h : r.next + n ≤ r.values.length) :
    answers Rounds.source n r = (r.values.drop r.next).take n := by
  induction n generalizing r with
  | zero => rfl
  | succ n ih =>
    have hlt : r.next < r.values.length := by omega
    have hanswer : (Rounds.source 94 r).1 = r.values[r.next] := by
      have hne : r.values ≠ [] := List.ne_nil_of_length_pos (by omega)
      simp [Rounds.source, hne, Nat.mod_eq_of_lt hlt, hlt]
    rw [answers, hanswer, List.drop_eq_getElem_cons hlt, List.take_succ_cons]
    congr 1
    apply ih
    change r.next + 1 + n ≤ r.values.length
    omega

theorem answers_of_length {values : List Int} (h : values.length = 16) :
    answers Rounds.source 16 { values } = values := by
  rw [answers_rounds 16 { values } (by simp [h])]
  simp [← h]

/-! ## Valid identities -/

theorem isValid_iff {t : Text} :
    isValid t = true ↔ t.length = 16 ∧ ∀ b ∈ t, 33 ≤ b.toNat ∧ b.toNat ≤ 126 := by
  simp only [isValid, Bool.and_eq_true, beq_iff_eq, List.all_eq_true, decide_eq_true_eq]
  rfl

/-- An answer makes a character of identities if it is within the bound, up to multiples of 256. -/
theorem byteOf_iff (v : Int) : 33 ≤ (byteOf v).toNat ∧ (byteOf v).toNat ≤ 126 ↔ v % 256 < 94 := by
  have hbyte : (byteOf v).toNat = ((33 + v) % 256).toNat := by
    simp only [byteOf, least, UInt8.toNat_ofNat']
    omega
  omega

theorem isValid_generate_iff (source : Source σ) (s : σ) :
    isValid (generate source s).1 = true ↔ ∀ d ∈ drawnFor source s, d.answer % 256 < 94 := by
  have hgenerate : (generate source s).1 = (answers source 16 s).map byteOf := draw_eq source 16 s
  rw [isValid_iff, hgenerate, List.length_map, length_answers, drawnFor_eq, List.forall_mem_map,
    List.forall_mem_map]
  simp only [byteOf_iff, true_and]

/-- The answer that makes a character. -/
def answerFor (b : UInt8) : Int := (b.toNat : Int) - 33

theorem byteOf_answerFor (b : UInt8) : byteOf (answerFor b) = b := by
  have hlt : b.toNat < 256 := b.toNat_lt
  have hsum : (((33 : Int) + answerFor b) % 256).toNat = b.toNat := by
    unfold answerFor
    omega
  simp only [byteOf, least]
  rw [show ((33 : Nat) : Int) = 33 from rfl, hsum, UInt8.ofNat_toNat]

theorem inRange_answerFor {b : UInt8} (hb : 33 ≤ b.toNat ∧ b.toNat ≤ 126) :
    (Drawn.mk 94 (answerFor b)).InRange := by
  simp only [Drawn.InRange, answerFor]
  omega

theorem bounds_drawnFor (source : Source σ) (s : σ) :
    (drawnFor source s).map (·.bound) = List.replicate 16 94 := by
  rw [drawnFor_eq, List.map_map, ← length_answers source 16 s]
  exact List.map_const

theorem isValid_of_inRange {source : Source σ} {s : σ} (h : ∀ d ∈ drawnFor source s, d.InRange) :
    isValid (generate source s).1 = true := by
  rw [isValid_generate_iff]
  intro d hd
  have hbound : d.bound = 94 := by
    apply List.eq_of_mem_replicate
    rw [← bounds_drawnFor source s]
    exact List.mem_map_of_mem hd
  obtain ⟨hpos, hlt⟩ := h d hd
  omega

theorem exists_values_of_isValid {t : Text} (ht : isValid t = true) :
    ∃ values : List Int, (∀ d ∈ drawnFor Rounds.source { values }, d.InRange) ∧
      (generate Rounds.source { values }).1 = t := by
  obtain ⟨hlength, hbytes⟩ := isValid_iff.mp ht
  have hanswers : answers Rounds.source 16 { values := t.map answerFor } = t.map answerFor :=
    answers_of_length (by rw [List.length_map, hlength])
  refine ⟨t.map answerFor, ?_, ?_⟩
  · rw [drawnFor_eq, hanswers, List.forall_mem_map, List.forall_mem_map]
    intro b hb
    exact inRange_answerFor (hbytes b hb)
  · have hgenerate := draw_eq Rounds.source 16 { values := t.map answerFor }
    rw [hanswers, List.map_map] at hgenerate
    rw [generate, length, hgenerate]
    exact List.map_id'' byteOf_answerFor t

/-- The valid identities are those that some list of integers within the bounds makes, and those that
any source makes while its answers are within the bounds. Every source is asked in the same way. -/
theorem valid_iff_drawn :
    (∀ t : Text, List.TFAE [
      isValid t = true,
      ∃ values : List Int, (∀ d ∈ drawnFor Rounds.source { values }, d.InRange) ∧
        (generate Rounds.source { values }).1 = t,
      ∃ (σ : Type) (source : Source σ) (s : σ), (∀ d ∈ drawnFor source s, d.InRange) ∧
        (generate source s).1 = t]) ∧
    ∀ (σ : Type) (source : Source σ) (s : σ),
      (drawnFor source s).map (·.bound) = List.replicate 16 94 := by
  constructor
  · intro t
    tfae_have 1 → 2 := exists_values_of_isValid
    tfae_have 2 → 3 := by
      rintro ⟨values, hdrawn⟩
      exact ⟨Rounds, Rounds.source, { values }, hdrawn⟩
    tfae_have 3 → 1 := by
      rintro ⟨σ, source, s, hrange, rfl⟩
      exact isValid_of_inRange hrange
    tfae_finish
  · intro σ source s
    exact bounds_drawnFor source s

end PageBoot.Identity
