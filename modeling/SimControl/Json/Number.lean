import SimControl.Binary64
import SimControl.Decimal.Shortest
import SimControl.Text.Numeral

/-!
# Numbers in data

A number is an unsigned 64-bit integer, a negative signed 64-bit integer or a double, and keeps
its kind: `1` and `1.0` are different numbers with different texts.
-/

namespace SimControl.Json

/-- An integer from `-2 ^ 63` to `-1`. -/
structure Negative where
  magnitude : Nat
  positive : 0 < magnitude
  bounded : magnitude ≤ 2 ^ 63
  deriving DecidableEq

inductive Number where
  | natural (n : UInt64)
  | negative (n : Negative)
  | double (x : Binary64)
  deriving DecidableEq

namespace Number

/-- The integer number of that value, if it has 64 bits. -/
def ofInt? (i : Int) : Option Number :=
  if h : 0 < i.natAbs ∧ i.natAbs ≤ 2 ^ 63 ∧ i < 0 then some (.negative ⟨i.natAbs, h.1, h.2.1⟩)
  else if 0 ≤ i ∧ i < 2 ^ 64 then some (.natural (UInt64.ofNat i.toNat))
  else none

/-- Same kind and same value. The two zeros of a double are the same value. -/
def same : Number → Number → Bool
  | .natural a, .natural b => a == b
  | .negative a, .negative b => a = b
  | .double a, .double b => a.sameValue b
  | _, _ => false

/-- The nearest double. -/
def toDouble? : Number → Option Binary64
  | .natural n => Binary64.ofInt? n.toNat
  | .negative n => Binary64.ofInt? (-(n.magnitude : Int))
  | .double x => some x

def toUInt64? : Number → Option UInt64
  | .natural n => some n
  | _ => none

def text : Number → List Char
  | .natural n => Nat.toDigits 10 n.toNat
  | .negative n => '-' :: Nat.toDigits 10 n.magnitude
  | .double x => Decimal.dataText x

end Number

end SimControl.Json
