/-!
# Runs of code points

Properties of characters are tables of runs: every first, second, ... code point of an interval.
A `Shift` also carries the distance from each of its code points to the one it maps to.
-/

namespace SimControl.Text

/-- Every `step`-th code point from `first` to `last`. -/
structure Run where
  first : Nat
  last : Nat
  step : Nat
  deriving DecidableEq, Repr

/-- A run whose code points all map to the one `delta` further on. -/
structure Shift where
  run : Run
  delta : Int
  deriving DecidableEq, Repr

def Run.contains (r : Run) (n : Nat) : Bool :=
  r.first ≤ n && n ≤ r.last && (n - r.first) % r.step == 0

/-- Membership of a character in a table of runs. -/
def inRuns (runs : List Run) (c : Char) : Bool :=
  runs.any (·.contains c.toNat)

/-- The image of a code point, if the run holds it. -/
def Shift.image? (s : Shift) (n : Nat) : Option Nat :=
  if s.run.contains n then some ((n : Int) + s.delta).toNat else none

/-- The code point that the shift sends to `n`, if there is one. -/
def Shift.preimage? (s : Shift) (n : Nat) : Option Nat :=
  let m : Int := (n : Int) - s.delta
  if 0 ≤ m ∧ s.run.contains m.toNat then some m.toNat else none

/-- The image of `c` under the first shift that holds it. -/
def shifted? (shifts : List Shift) (c : Char) : Option Char :=
  (shifts.findSome? (·.image? c.toNat)).map Char.ofNat

end SimControl.Text
