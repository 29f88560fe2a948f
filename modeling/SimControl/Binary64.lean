import SimControl.Text.Numeral

/-!
# Finite double-precision numbers

A `Binary64` is a sign and a magnitude `significand * 2 ^ exponent`, counted in units of
`2 ^ -1074`, the least positive magnitude. The proof fields make the two numbers unique for each
magnitude, so equal fields mean equal values, the two zeros apart.

Everything that produces a double goes through `ofUnits?`, which rounds an exact quotient to the
nearest double and a tie to the even significand.
-/

namespace SimControl

structure Binary64 where
  negative : Bool
  significand : Nat
  exponent : Nat
  significand_lt : significand < 2 ^ 53
  normal : 2 ^ 52 ≤ significand ∨ exponent = 0
  exponent_le : exponent ≤ 2045
  deriving DecidableEq

namespace Binary64

/-- The number of units in the value one. -/
def one : Nat :=
  2 ^ 1074

/-- The magnitude in units. -/
def units (x : Binary64) : Nat :=
  x.significand * 2 ^ x.exponent

def zero (negative : Bool) : Binary64 :=
  ⟨negative, 0, 0, by decide, .inr rfl, by decide⟩

def neg (x : Binary64) : Binary64 :=
  { x with negative := !x.negative }

/-- Equality of values: the two zeros are equal. -/
def sameValue (x y : Binary64) : Bool :=
  x = y || (x.significand == 0 && y.significand == 0)

/-! ## Rounding -/

/-- The quotient rounded to the nearest integer, a tie to the even one. -/
def roundHalfEven (n d : Nat) : Nat :=
  let q := n / d
  let r := n % d
  if 2 * r < d || (2 * r == d && q % 2 == 0) then q else q + 1

def pack? (negative : Bool) (significand exponent : Nat) : Option Binary64 :=
  if h : significand < 2 ^ 53 ∧ (2 ^ 52 ≤ significand ∨ exponent = 0) ∧ exponent ≤ 2045 then
    some ⟨negative, significand, exponent, h.1, h.2.1, h.2.2⟩
  else none

/-- The double nearest to `n / d` units; `none` if that is beyond the largest double. -/
def ofUnits? (negative : Bool) (n d : Nat) : Option Binary64 :=
  let q := n / d
  let exponent := if q < 2 ^ 53 then 0 else q.log2 - 52
  let significand := roundHalfEven n (d * 2 ^ exponent)
  if significand < 2 ^ 53 then pack? negative significand exponent
  else pack? negative (2 ^ 52) (exponent + 1)

/-- The double nearest to `digits * 10 ^ scale`. Magnitudes from `10 ^ 310` on are too large and
those below `10 ^ -330` round to zero, which keeps the powers of ten small. -/
def ofDecimal? (negative : Bool) (digits : Nat) (scale : Int) : Option Binary64 :=
  let magnitude := scale + (Nat.toDigits 10 digits).length
  if digits = 0 ∨ magnitude < -330 then some (zero negative)
  else if magnitude > 310 then none
  else if 0 ≤ scale then ofUnits? negative (digits * 10 ^ scale.toNat * one) 1
  else ofUnits? negative (digits * one) (10 ^ (-scale).toNat)

/-- The double nearest to an integer. -/
def ofInt? (i : Int) : Option Binary64 :=
  ofUnits? (decide (i < 0)) (i.natAbs * one) 1

def mul? (x y : Binary64) : Option Binary64 :=
  ofUnits? (x.negative != y.negative) (x.units * y.units) one

/-- The quotient; `none` also if the divisor is zero. -/
def div? (x y : Binary64) : Option Binary64 :=
  if y.significand = 0 then none
  else ofUnits? (x.negative != y.negative) (x.units * one) y.units

/-! ## Integers -/

/-- The magnitude without its fraction. -/
def wholePart (x : Binary64) : Nat :=
  x.units / one

def isWhole (x : Binary64) : Bool :=
  x.units % one == 0

/-- The value of a whole number. -/
def toInt (x : Binary64) : Int :=
  if x.negative then -(x.wholePart : Int) else x.wholePart

/-! ## Single precision -/

/-- A count rounded to 24 significant bits. -/
def single (n : Nat) : Nat :=
  let dropped := n.log2 - 23
  roundHalfEven n (2 ^ dropped) * 2 ^ dropped

/-- The nearest quotient with 24 significant bits, as a pair `(s, e)` that stands for
`s * 2 ^ -e`. -/
def roundSingle (n d : Nat) : Nat × Nat :=
  let e := 24 + d.log2 - n.log2
  let e := if (n * 2 ^ e) / d < 2 ^ 24 then e else e - 1
  (roundHalfEven (n * 2 ^ e) d, e)

/-- The single-precision quotient of two counts, as a double. -/
def singleRatio? (n d : Nat) : Option Binary64 :=
  if n = 0 ∨ d = 0 then some (zero false)
  else
    let (s, e) := roundSingle (single n) (single d)
    ofUnits? false (s * one) (2 ^ e)

end Binary64

end SimControl
