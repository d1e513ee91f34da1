/-!
Texts are sequences of bytes. Most hold UTF-8, but percent-decoding and drawn session
identities can produce any bytes, so every text of the library is kept as bytes and a
literal stands for its UTF-8 form.
-/

namespace PageBoot

abbrev Text := List UInt8

namespace Text

def ofChars (cs : List Char) : Text := cs.flatMap String.utf8EncodeChar

def ofString (s : String) : Text := ofChars s.toList

instance : Coe String Text := ⟨ofString⟩

/-- The text if the condition holds, else nothing. -/
def when (b : Bool) (t : Text) : Text := if b then t else []

/-- Decimal digits of a natural number. -/
def ofNat (n : Nat) : Text := ofChars (Nat.toDigits 10 n)

/-- Decimal digits of an integer, with a minus sign when it is negative. -/
def ofInt : Int → Text
  | .ofNat n => ofNat n
  | .negSucc n => ofString "-" ++ ofNat (n + 1)

/-- Digits of `n` in the given base, filled with zeros up to `width`. -/
def ofNatPadded (base width n : Nat) : Text :=
  let ds := ofChars (Nat.toDigits base n)
  List.replicate (width - ds.length) 48 ++ ds

/-- Two lower-case hexadecimal digits. -/
def hexByte (b : UInt8) : Text := ofNatPadded 16 2 b.toNat

def hex (t : Text) : Text := t.flatMap hexByte

/-- Value of a hexadecimal digit, either case. -/
def hexDigit? (b : UInt8) : Option UInt8 :=
  if 48 ≤ b ∧ b ≤ 57 then some (b - 48)
  else if 97 ≤ b ∧ b ≤ 102 then some (b - 87)
  else if 65 ≤ b ∧ b ≤ 70 then some (b - 55)
  else none

/-- Reads a text of hexadecimal digit pairs. -/
def ofHex? : Text → Option Text
  | [] => some []
  | [_] => none
  | a :: b :: rest => do
    let hi ← hexDigit? a
    let lo ← hexDigit? b
    let t ← ofHex? rest
    return (hi * 16 + lo) :: t

/-- Position of the first occurrence of `needle`. -/
def find? (needle : Text) : Text → Option Nat
  | [] => if needle.isEmpty then some 0 else none
  | b :: t => if needle.isPrefixOf (b :: t) then some 0 else (find? needle t).map (· + 1)

def includes (t needle : Text) : Bool := (find? needle t).isSome

/-- The parts before and after the first `sep`, or the whole text and `none`. -/
def cut (sep : UInt8) : Text → Text × Option Text
  | [] => ([], none)
  | b :: t =>
    if b == sep then ([], some t)
    else let (before, after) := cut sep t; (b :: before, after)

/-- The pieces between occurrences of `sep`; there is always at least one. -/
def splitOn (sep : UInt8) : Text → List Text
  | [] => [[]]
  | b :: t =>
    if b == sep then [] :: splitOn sep t
    else match splitOn sep t with
      | [] => [[b]]
      | p :: ps => (b :: p) :: ps

/-- Joins pieces with a separator between them. -/
def join (sep : Text) : List Text → Text
  | [] => []
  | [p] => p
  | p :: ps => p ++ sep ++ join sep ps

/-- The part up to and including the last `sep`, empty when there is none. -/
def uptoLast (sep : UInt8) (t : Text) : Text :=
  (t.reverse.dropWhile (· != sep)).reverse

/-- The part after the last `sep`, the whole text when there is none. -/
def afterLast (sep : UInt8) (t : Text) : Text :=
  (t.reverse.takeWhile (· != sep)).reverse

/-- Byte order, a proper beginning first. -/
def le : Text → Text → Bool
  | [], _ => true
  | _ :: _, [] => false
  | a :: s, b :: t => a < b || (a == b && le s t)

theorem le_iff {s t : Text} : le s t = true ↔ s ≤ t := by
  induction s generalizing t with
  | nil => simp [le]
  | cons a s ih =>
    cases t with
    | nil => simp [le]
    | cons b t => simp [le, ih, List.cons_le_cons_iff]

/-- Things that are sorted by name. -/
theorem pairwise_le_mergeSort {α : Type} (name : α → Text) (xs : List α) :
    (xs.mergeSort fun x y => le (name x) (name y)).Pairwise fun x y => le (name x) (name y) = true := by
  apply List.pairwise_mergeSort
  · intro x y z hxy hyz
    rw [le_iff] at hxy hyz ⊢
    exact List.le_trans hxy hyz
  · intro x y
    simp only [Bool.or_eq_true, le_iff]
    exact List.le_total (name x) (name y)

/-- Things with distinct names, sorted by name, stand in strictly increasing order. -/
theorem pairwise_lt_mergeSort {α : Type} (name : α → Text) {xs : List α}
    (h : (xs.map name).Nodup) :
    (xs.mergeSort fun x y => le (name x) (name y)).Pairwise fun x y => name x < name y := by
  have hne : (xs.mergeSort fun x y => le (name x) (name y)).Pairwise
      fun x y => name x ≠ name y :=
    List.pairwise_map.mp (((List.mergeSort_perm xs _).map name).nodup_iff.mpr h)
  refine (pairwise_le_mergeSort name xs).imp₂ ?_ hne
  intro x y hxy hne
  exact (List.le_iff_lt_or_eq.mp (le_iff.mp hxy)).resolve_right hne

def sort (ts : List Text) : List Text := ts.mergeSort le

/-- Keeps the first of equal entries. -/
def dedup (ts : List Text) : List Text := ts.eraseDups

theorem nodup_dedup : (ts : List Text) → (dedup ts).Nodup
  | [] => List.nodup_nil
  | t :: ts => by
    rw [dedup, List.eraseDups_cons]
    exact List.nodup_cons.mpr ⟨by simp, nodup_dedup (ts.filter fun b => !b == t)⟩
termination_by ts => ts.length
decreasing_by exact Nat.lt_succ_of_le (List.length_filter_le ..)

def lines (t : Text) : List Text := splitOn 10 t

theorem splitOn_ne_nil (sep : UInt8) (t : Text) : splitOn sep t ≠ [] := by
  cases t with
  | nil => simp [splitOn]
  | cons b t =>
    simp only [splitOn]
    split
    · simp
    · split <;> simp

end Text

end PageBoot
