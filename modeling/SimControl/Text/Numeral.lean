/-!
# Decimal numerals of integers

Integers are read from ASCII digits only. A numeral may begin with a plus sign; a minus sign is
accepted where negative values are.
-/

/-! ## Powers

The limits of integers and the units of doubles are powers. They are the powers of the core library in
every module, also in one that imports a library with powers of its own.
-/

attribute [instance (20000), default_instance (20000)] instPowNat

namespace SimControl.Text

def digitValue? (c : Char) : Option Nat :=
  if '0' ≤ c ∧ c ≤ '9' then some (c.toNat - '0'.toNat) else none

/-- The value of a run of digits that continues a numeral of value `value`. -/
def digitsFrom (value : Nat) : List Char → Option Nat
  | [] => some value
  | c :: rest => (digitValue? c).bind fun d => digitsFrom (value * 10 + d) rest

/-- The value of a non-empty run of digits. -/
def digits? (cs : List Char) : Option Nat :=
  if cs.isEmpty then none else digitsFrom 0 cs

def dropPlus : List Char → List Char
  | '+' :: rest => rest
  | cs => cs

/-- An unsigned numeral below `limit`. -/
def unsigned? (limit : Nat) (cs : List Char) : Option Nat :=
  (digits? (dropPlus cs)).filter (· < limit)

/-- A numeral of a signed 64-bit integer. -/
def signed64? : List Char → Option Int
  | '-' :: rest => ((digits? rest).filter (· ≤ 2 ^ 63)).map fun n => -(n : Int)
  | cs => ((digits? (dropPlus cs)).filter (· < 2 ^ 63)).map Int.ofNat

def uint64? (cs : List Char) : Option UInt64 :=
  (unsigned? (2 ^ 64) cs).map UInt64.ofNat

def uint32? (cs : List Char) : Option UInt32 :=
  (unsigned? (2 ^ 32) cs).map UInt32.ofNat

end SimControl.Text
