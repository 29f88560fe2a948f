import SimControl.Binary64

/-!
# The fewest digits that read back

A double stands for every real number that rounds to it, an interval around its own value. Among
the decimals `digit * 10 ^ scale` in that interval the ones with the greatest scale have the
fewest digits, and of those the one nearest to the value is taken.

The search works on exact integers. On one grid `10 ^ scale` only the two neighbours of the value
have to be tested: if any point of the grid lies in the interval, one of them does.
-/

namespace SimControl.Decimal

/-- The value `digits * 10 ^ scale`. -/
structure Scaled where
  digits : Nat
  scale : Int
  deriving DecidableEq, Repr

/-- What to do when two shortest decimals are equally near. -/
inductive Tie where
  | even
  | up
  deriving DecidableEq, Repr

/-- The value of a double and the ends of its interval, in units of `2 ^ -1076`. -/
structure Interval where
  low : Nat
  value : Nat
  high : Nat
  closed : Bool

def Interval.around (x : Binary64) : Interval :=
  let below := if x.significand == 2 ^ 52 && x.exponent != 0 then 1 else 2
  { low := (4 * x.significand - below) * 2 ^ x.exponent
    value := 4 * x.significand * 2 ^ x.exponent
    high := (4 * x.significand + 2) * 2 ^ x.exponent
    closed := x.significand % 2 == 0 }

/-- Membership of `n / d` units. -/
def Interval.contains (i : Interval) (n d : Nat) : Bool :=
  if i.closed then i.low * d ≤ n && n ≤ i.high * d else i.low * d < n && n < i.high * d

/-- The decimal of the interval on the grid `10 ^ scale` that is nearest to the value. -/
def Interval.onGrid? (tie : Tie) (i : Interval) (scale : Int) : Option Nat :=
  let up := 10 ^ (-scale).toNat
  let step := 2 ^ 1076 * 10 ^ scale.toNat
  let below := i.value * up / step
  let rest := i.value * up % step
  let above := below + 1
  match i.contains (below * step) up, i.contains (above * step) up with
  | true, true =>
    if 2 * rest < step then some below
    else if step < 2 * rest then some above
    else if tie == .up || below % 2 == 1 then some above
    else some below
  | true, false => some below
  | false, true => some above
  | false, false => none

/-- Tries `count` grids from `scale` downwards. -/
def Interval.search (tie : Tie) (i : Interval) : Nat → Int → Scaled
  | 0, scale => ⟨i.value * 10 ^ (-scale).toNat / (2 ^ 1076 * 10 ^ scale.toNat), scale⟩
  | count + 1, scale =>
    match i.onGrid? tie scale with
    | some digits => ⟨digits, scale⟩
    | none => i.search tie count (scale - 1)

/-- The shortest decimal that reads back as `x`. The first grid is coarser than the value, and
some of the next 24 grids is as fine as the interval. -/
def shortest (tie : Tie) (x : Binary64) : Scaled :=
  if x.significand == 0 then ⟨0, 0⟩
  else
    let i := Interval.around x
    i.search tie 24 (((i.value.log2 : Int) - 1076) * 30103 / 100000 + 2)

/-! ## Layout -/

/-- A decimal point put `count` digits before the end of the digits. -/
def pointed (digits : List Char) (count : Nat) : List Char :=
  if digits.length ≤ count then
    '0' :: '.' :: (List.replicate (count - digits.length) '0' ++ digits)
  else digits.take (digits.length - count) ++ '.' :: digits.drop (digits.length - count)

/-- Positional notation; `wholeTail` follows a value without decimals. -/
def positional (wholeTail : List Char) (d : Scaled) : List Char :=
  let digits := Nat.toDigits 10 d.digits
  if 0 ≤ d.scale then digits ++ List.replicate d.scale.toNat '0' ++ wholeTail
  else pointed digits (-d.scale).toNat

/-- Scientific notation with a signed exponent. -/
def scientific (d : Scaled) : List Char :=
  let digits := Nat.toDigits 10 d.digits
  let exponent := d.scale + digits.length - 1
  let mantissa := if digits.length ≤ 1 then digits else digits.take 1 ++ '.' :: digits.drop 1
  mantissa ++ 'e' :: (if exponent < 0 then '-' else '+') :: Nat.toDigits 10 exponent.natAbs

def signed (x : Binary64) (digits : List Char) : List Char :=
  if x.negative then '-' :: digits else digits

/-- The text of a double in data: always with a fraction or an exponent, positional from
`10 ^ -5` up to `10 ^ 16`. -/
def dataText (x : Binary64) : List Char :=
  let d := shortest .even x
  let exponent := d.scale + (Nat.toDigits 10 d.digits).length - 1
  signed x (if -5 ≤ exponent ∧ exponent ≤ 15 then positional ['.', '0'] d else scientific d)

/-- The text of a double in a message: positional, and no fraction on a whole number. -/
def messageText (x : Binary64) : List Char :=
  signed x (positional [] (shortest .up x))

/-- Two places, a tie going to the even neighbour. -/
def twoPlaces (x : Binary64) : List Char :=
  let hundredths := Binary64.roundHalfEven (x.units * 100) Binary64.one
  let cents := Nat.toDigits 10 (hundredths % 100)
  signed x (Nat.toDigits 10 (hundredths / 100) ++
    '.' :: (List.replicate (2 - cents.length) '0' ++ cents))

end SimControl.Decimal
