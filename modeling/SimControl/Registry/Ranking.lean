import SimControl.Binary64
import SimControl.Ranking.Score
import SimControl.Registry.Basic

/-!
# Closest commands

Ranks the definitions by the best score among their phrases. Scores are shown relative to the
best one, rounded to single precision.
-/

namespace SimControl

/-- The points that a text gives to a phrase; `none` if they do not match. -/
abbrev Scoring :=
  String → String → Option UInt32

/-- The points of fuzzy search. -/
def Ranking.fuzzy : Scoring := fun text =>
  let query := atoms text
  fun phrase => (score? query phrase).map UInt32.ofNat

structure RankedCommand where
  name : String
  tool : String
  score : Binary64
  deriving DecidableEq

def RankedCommand.toJson (c : RankedCommand) : Json :=
  .record [("name", .string c.name), ("score", Json.ofDouble c.score), ("tool", .string c.tool)]

/-- The best points of a definition; `none` if no phrase of it matches. -/
def Definition.bestScore? (d : Definition) (score? : String → Option UInt32) : Option UInt32 :=
  (d.phrases.filterMap score?).max?

/-- The part of the best points that a definition has. -/
def relativeScore (points top : UInt32) : Binary64 :=
  (Binary64.singleRatio? points.toNat top.toNat).getD (Binary64.zero false)

namespace Registry

/-- The matching definitions with their points, the best first and equal ones in their order. -/
def scored (r : Registry) (score? : String → Option UInt32) : List (Definition × UInt32) :=
  (r.definitions.filterMap fun d => (d.bestScore? score?).map fun points => (d, points)).mergeSort
    fun a b => decide (b.2 ≤ a.2)

/-- The closest definitions to a text, at most `limit` of them. -/
def rank (r : Registry) (text : String) (limit : Nat) (scoring : Scoring := Ranking.fuzzy) :
    List RankedCommand :=
  let best := (r.scored (scoring text)).take limit
  let top := (best.head?.map (·.2)).getD 0
  best.map fun (d, points) => ⟨d.name, d.tool, relativeScore points top⟩

end Registry

end SimControl
