import SimControl.Binary64
import SimControl.Text.Numeral

/-!
# Decimal numerals with a fraction

Reads `-12.5`, `.5`, `5.` and `1e-3` as the nearest double. A numeral needs a digit before or
after the point. Numerals beyond the largest double, and the names of infinity and of the value
that is no number, have no finite value and are not read.
-/

namespace SimControl.Decimal

open Text

/-- A leading sign, as whether it is a minus, and the rest. -/
def takeSign : List Char → Bool × List Char
  | '-' :: rest => (true, rest)
  | '+' :: rest => (false, rest)
  | cs => (false, cs)

def isDigit (c : Char) : Bool :=
  '0' ≤ c && c ≤ '9'

/-- The value of an exponent part; an absent one is zero. -/
def exponent? : List Char → Option Int
  | [] => some 0
  | c :: rest =>
    if c == 'e' || c == 'E' then
      let (negative, cs) := takeSign rest
      (digits? cs).map fun n => if negative then -(n : Int) else n
    else none

/-- The digits after the point and what follows them. -/
def fraction : List Char → List Char × List Char
  | '.' :: rest => rest.span isDigit
  | cs => ([], cs)

/-- The double nearest to the value of a numeral. -/
def numeral? (cs : List Char) : Option Binary64 :=
  let (negative, unsignedPart) := takeSign cs
  let (whole, rest) := unsignedPart.span isDigit
  let (decimals, rest) := fraction rest
  match digits? (whole ++ decimals), exponent? rest with
  | some value, some scale => Binary64.ofDecimal? negative value (scale - decimals.length)
  | _, _ => none

/-- A numeral whose decimal mark may be a comma. -/
def localNumeral? (cs : List Char) : Option Binary64 :=
  numeral? (cs.map fun c => if c == ',' then '.' else c)

end SimControl.Decimal
