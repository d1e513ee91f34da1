import PageBoot.Text.Case

/-!
Binary floating-point numbers of 64 bits, kept as their bits. Equality is that of numbers: a
NaN differs from everything, and the two zeros are equal. A number is read from a decimal by
rounding to the nearest (ties to even) and written with the fewest digits that read back.
-/

namespace PageBoot

structure Binary64 where
  bits : UInt64
  deriving DecidableEq, Repr, Inhabited

namespace Binary64

def sign (x : Binary64) : Bool := x.bits >>> 63 == 1

/-- The bit that stands in front of a fraction. -/
def leadingBit : Nat := 1 <<< 52

def exponentField (x : Binary64) : Nat := (x.bits.toNat / leadingBit) % 2048

def fraction (x : Binary64) : Nat := x.bits.toNat % leadingBit

def isNaN (x : Binary64) : Bool := x.exponentField == 2047 && x.fraction != 0

def isInfinite (x : Binary64) : Bool := x.exponentField == 2047 && x.fraction == 0

def isZero (x : Binary64) : Bool := x.exponentField == 0 && x.fraction == 0

/-- Equality of the numbers: no NaN equals anything, and zero has one value. -/
def same (x y : Binary64) : Bool :=
  !x.isNaN && !y.isNaN && (x.bits == y.bits || (x.isZero && y.isZero))

theorem same_comm (x y : Binary64) : x.same y = y.same x := by
  simp only [same, Bool.and_comm (!x.isNaN), Bool.and_comm x.isZero, BEq.comm (a := x.bits)]

theorem same_trans {x y z : Binary64} (hxy : x.same y = true) (hyz : y.same z = true) :
    x.same z = true := by
  simp only [same, Bool.and_eq_true, Bool.or_eq_true, beq_iff_eq] at hxy hyz ⊢
  refine ⟨⟨hxy.1.1, hyz.1.2⟩, ?_⟩
  have zero : ∀ {a b : Binary64}, a.bits = b.bits → a.isZero = b.isZero := by
    intro a b h
    cases a; cases b; cases h; rfl
  obtain ⟨-, hxy | hxy⟩ := hxy <;> obtain ⟨-, hyz | hyz⟩ := hyz
  · exact .inl (hxy.trans hyz)
  · exact .inr ⟨zero hxy ▸ hyz.1, hyz.2⟩
  · exact .inr ⟨hxy.1, zero hyz ▸ hxy.2⟩
  · exact .inr ⟨hxy.1, hyz.2⟩

def nan : Binary64 := ⟨0x7FF8000000000001⟩

private def pack (neg : Bool) (expo frac : Nat) : Binary64 :=
  ⟨UInt64.ofNat ((if neg then 1 <<< 63 else 0) + expo * leadingBit + frac)⟩

def infinity (neg : Bool) : Binary64 := pack neg 2047 0

/-- `num / den` rounded to the nearest natural number, a tie to the even one. -/
def roundDiv (num den : Nat) : Nat :=
  let q := num / den
  let r := num % den
  if 2 * r > den ∨ (2 * r = den ∧ q % 2 = 1) then q + 1 else q

/-- The number nearest to `num / den`. -/
def ofRatio (neg : Bool) (num den : Nat) : Binary64 :=
  if num = 0 then pack neg 0 0
  else
    -- `e` is the exponent of the leading bit, so 2^e ≤ num/den < 2^(e+1)
    let guess : Int := (num.log2 : Int) - den.log2
    let below : Bool :=
      if guess ≥ 0 then num < den <<< guess.toNat else num <<< (-guess).toNat < den
    let e : Int := if below then guess - 1 else guess
    let q : Int := max (e - 52) (-1074)
    let m := if q ≥ 0 then roundDiv num (den <<< q.toNat) else roundDiv (num <<< (-q).toNat) den
    -- a carry past 53 bits moves up one exponent
    let (m, q) := if m = 2 * leadingBit then (leadingBit, q + 1) else (m, q)
    if m < leadingBit then pack neg 0 m
    else if q + 1075 ≥ 2047 then infinity neg
    else pack neg (q + 1075).toNat (m - leadingBit)

/-- The number nearest to `digits * 10 ^ exponent`. -/
def ofDecimal (neg : Bool) (digits : Nat) (exponent : Int) : Binary64 :=
  if digits = 0 then pack neg 0 0
  else if exponent > 400 then infinity neg
  else if exponent + (Nat.toDigits 10 digits).length < -400 then pack neg 0 0
  else if exponent ≥ 0 then ofRatio neg (digits * Nat.pow 10 exponent.toNat) 1
  else ofRatio neg digits (Nat.pow 10 (-exponent).toNat)

private def isDigit (b : UInt8) : Bool := 48 ≤ b && b ≤ 57

private def digitsValue (t : Text) : Nat := t.foldl (fun n b => n * 10 + (b.toNat - 48)) 0

/-- Reads a decimal: digits with an optional point and exponent, or a name of infinity or NaN. -/
def parse? (t : Text) : Option Binary64 :=
  let (neg, body) : Bool × Text := match t with
    | 45 :: r => (true, r)
    | 43 :: r => (false, r)
    | r => (false, r)
  let name := body.toLowerAscii
  if t.toLowerAscii == Text.ofString "nan" then some nan
  else if name == Text.ofString "inf" || name == Text.ofString "infinity" then some (infinity neg)
  else
    let whole := body.takeWhile isDigit
    let rest := body.dropWhile isDigit
    let (frac, rest) := match rest with
      | 46 :: r => (r.takeWhile isDigit, r.dropWhile isDigit)
      | r => ([], r)
    let mantissa := whole ++ frac
    if mantissa.isEmpty then none
    else
      let finish (e : Int) := some (ofDecimal neg (digitsValue mantissa) (e - frac.length))
      match rest with
      | [] => finish 0
      | x :: r =>
        if x ≠ 101 ∧ x ≠ 69 then none
        else
          let (eneg, ds) : Bool × Text := match r with
            | 45 :: r => (true, r)
            | 43 :: r => (false, r)
            | r => (false, r)
          if ds.isEmpty || !ds.all isDigit then none
          else finish (if eneg then -(digitsValue ds : Int) else digitsValue ds)

/-- A finite non-zero number as `m * 2 ^ q`. -/
def mantissa (x : Binary64) : Nat × Int :=
  if x.exponentField = 0 then (x.fraction, -1074)
  else (x.fraction + leadingBit, (x.exponentField : Int) - 1075)

/-- A power of two times a power of ten, as a fraction. -/
def scale (two ten : Int) : Nat × Nat :=
  (Nat.pow 10 ten.toNat <<< two.toNat, Nat.pow 10 (-ten).toNat <<< (-two).toNat)

/-- Largest `e` with `10 ^ e ≤ m * 2 ^ q`, found near an estimate. -/
def leadingExponent (m : Nat) (q : Int) : Int :=
  let (num, den) := scale q 0
  let bits : Int := (m.log2 : Int) + q
  let guess := bits * 30103 / 100000
  let atMost (e : Int) : Bool :=
    let (tn, td) := scale 0 e
    tn * den ≤ m * num * td
  if atMost (guess + 1) then guess + 1
  else if atMost guess then guess
  else guess - 1

/-- A decimal with `n` digits inside the rounding interval of `m * 2 ^ q`, the nearer of the two
neighbours on that grid. -/
private def shortAt (m : Nat) (q lead : Int) (n : Nat) : Option (Nat × Int) :=
  let k := lead - (n - 1)
  -- everything in units of 2^(q-2) / 10^k
  let (num, den) := scale (q - 2) (-k)
  let v := 4 * m * num
  let hi := (4 * m + 2) * num
  let lo := (if m = leadingBit ∧ q > -1074 then 4 * m - 1 else 4 * m - 2) * num
  let ends := m % 2 = 0
  let fits (d : Nat) : Bool :=
    if ends then lo ≤ d * den ∧ d * den ≤ hi else lo < d * den ∧ d * den < hi
  let d := v / den
  match fits d, fits (d + 1) with
  | true, true => if v - d * den ≤ (d + 1) * den - v then some (d, k) else some (d + 1, k)
  | true, false => some (d, k)
  | false, true => some (d + 1, k)
  | false, false => none

/-- The fewest digits that read back, as digits and the position of the decimal point. -/
def shortest (x : Binary64) : Text × Int :=
  if x.isZero then (Text.ofString "0", 1)
  else
    let (m, q) := x.mantissa
    let lead := leadingExponent m q
    let (d, k) := ((List.range 17).findSome? fun n => shortAt m q lead (n + 1)).getD (0, 0)
    let ds := Text.ofNat d
    let stripped := (ds.reverse.dropWhile (· == 48)).reverse
    (stripped, k + ds.length)

/-- Digits with the decimal point at a position, counted from their beginning. -/
def positional (ds : Text) (point : Int) : Text :=
  if point ≤ 0 then Text.ofString "0." ++ List.replicate (-point).toNat 48 ++ ds
  else if point ≥ ds.length then ds ++ List.replicate (point.toNat - ds.length) 48
  else ds.take point.toNat ++ [46] ++ ds.drop point.toNat

/-- The first digit, a point before the others, and the exponent in two digits at least. -/
def scientific (ds : Text) (point : Int) : Text :=
  let e := point - 1
  let body := match ds with
    | d :: [] => [d]
    | d :: r => d :: 46 :: r
    | [] => []
  body ++ (if e < 0 then Text.ofString "e-" else Text.ofString "e+") ++ Text.ofNatPadded 10 2 e.natAbs

private def named (x : Binary64) (finite : Text) : Text :=
  if x.isNaN then Text.ofString "NaN"
  else if x.isInfinite then (if x.sign then Text.ofString "-Inf" else Text.ofString "+Inf")
  else (if x.sign then Text.ofString "-" else []) ++ finite

/-- Shortest form: positional when the decimal exponent is from -4 to 5, else scientific. -/
def toText (x : Binary64) : Text :=
  let (ds, point) := x.shortest
  named x (if point - 1 < -4 ∨ point - 1 ≥ 6 then scientific ds point else positional ds point)

/-- Shortest form that is always positional. -/
def toTextPositional (x : Binary64) : Text :=
  let (ds, point) := x.shortest
  named x (positional ds point)

end Binary64

end PageBoot
