import PageBoot.Text.Utf8

/-!
The least number of insertions, deletions and replacements of code points that turn one text
into another, computed row by row.
-/

namespace PageBoot.Text

/-- Extends a row of distances: `left` is the entry just written, `diag` the one above it. -/
def fillRow (c : Nat) : List Nat → Nat → Nat → List Nat → List Nat
  | d :: ds, diag, left, up :: ups =>
    let here := if c = d then diag else min diag (min left up) + 1
    here :: fillRow c ds up here ups
  | _, _, _, _ => []

/-- The row for one more code point `c` of the first text. -/
def nextRow (c : Nat) (t : List Nat) : List Nat → List Nat
  | [] => []
  | first :: row => (first + 1) :: fillRow c t first (first + 1) row

/-- Distance between two sequences of code points. -/
def distanceCodes (s t : List Nat) : Nat :=
  (s.foldl (fun row c => nextRow c t row) (List.range (t.length + 1))).getLast?.getD 0

def distance (s t : Text) : Nat := distanceCodes s.codes t.codes

end PageBoot.Text
