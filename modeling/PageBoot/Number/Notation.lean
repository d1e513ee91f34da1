import PageBoot.Number.Binary64

/-!
Ways to write the magnitude of a finite 64-bit float: with a given number of places, with an
exponent, with the shorter of the two, in hexadecimal, and as a multiple of a power of two.
Decimals are rounded to the nearest, a tie to the even digit.
-/

namespace PageBoot.Binary64

/-- Digits before and after the point when the last `places` of a number's digits are after it. -/
private def pointed (places n : Nat) : Text :=
  let ds := Text.ofNatPadded 10 (places + 1) n
  let whole := ds.take (ds.length - places)
  if places = 0 then whole else whole ++ [46] ++ ds.drop (ds.length - places)

/-- Positional form with `places` digits after the point. -/
def fixed (x : Binary64) (places : Nat) : Text :=
  let (m, q) := x.mantissa
  let (num, den) := scale q places
  pointed places (roundDiv (m * num) den)

/-- The number in `n + 1` digits, with the exponent of the first one. -/
private def leadingDigits (x : Binary64) (n : Nat) : Nat × Int :=
  if x.isZero then (0, 0)
  else
    let (m, q) := x.mantissa
    let lead := leadingExponent m q
    let (num, den) := scale q (n - lead)
    let d := roundDiv (m * num) den
    if d = Nat.pow 10 (n + 1) then (d / 10, lead + 1) else (d, lead)

private def exponentText (mark : UInt8) (e : Int) : Text :=
  [mark, if e < 0 then 45 else 43] ++ Text.ofNatPadded 10 2 e.natAbs

/-- Scientific form with `places` digits after the point. -/
def exponential (x : Binary64) (places : Nat) : Text :=
  let (d, e) := x.leadingDigits places
  pointed places d ++ exponentText 101 e

/-- At most `digits` digits without zeros at their end, in scientific form when the exponent is less
than -4 or not less than the number of digits. Without a number of digits, the fewest that read
back. -/
def general (x : Binary64) (digits : Option Nat) : Text :=
  match digits with
  | none =>
    let (ds, point) := x.shortest
    if point - 1 < -4 ∨ point - 1 ≥ 6 then scientific ds point else positional ds point
  | some n =>
    if x.isZero then "0"
    else
      let n := max n 1
      let (d, e) := x.leadingDigits (n - 1)
      let ds := ((Text.ofNat d).reverse.dropWhile (· == 48)).reverse
      let limit := if ds.length < n ∧ e + 1 ≤ ds.length then ds.length else n
      if e < -4 ∨ e ≥ limit then scientific ds (e + 1) else positional ds (e + 1)

/-- Hexadecimal form with an exponent of two; `places` counts the digits after the point. -/
def hexadecimal (x : Binary64) (places : Option Nat) : Text :=
  let (m, q) := x.mantissa
  let shift := if x.isZero then 0 else 52 - m.log2
  let m := m <<< shift
  let e : Int := if x.isZero then 0 else q - shift + 52
  let kept := min (places.getD 13) 13
  let d := roundDiv m (Nat.pow 16 (13 - kept))
  let (d, e) := if d = 2 * Nat.pow 16 kept then (Nat.pow 16 kept, e + 1) else (d, e)
  let ds := Text.ofNatPadded 16 (kept + 1) d
  let after := match places with
    | none => ((ds.drop 1).reverse.dropWhile (· == 48)).reverse
    | some n => ds.drop 1 ++ List.replicate (n - kept) 48
  "0x" ++ ds.take 1 ++ Text.when (!after.isEmpty) (46 :: after) ++ exponentText 112 e

/-- A whole number times a power of two. -/
def binary (x : Binary64) : Text :=
  let (m, q) := x.mantissa
  Text.ofNat m ++ [112] ++ Text.when (q ≥ 0) "+" ++ Text.ofInt q

end PageBoot.Binary64
