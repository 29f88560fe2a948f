import SimControl.Ranking.Candidate

/-!
# Scores

Every matched character earns 16 points and its bonus; the bonus of the first one counts twice. A
gap costs 3 points, and 1 for each further character. Characters that follow each other share
the best bonus of their run.

A fuzzy atom takes the best way to find its characters in their order. All other placements fix
the span that is scored.
-/

namespace SimControl.Ranking

/-- Points of a matched character. -/
def matchPoints : Nat :=
  16

/-- The least bonus of a character that follows a matched one. -/
def runBonus : Nat :=
  4

/-! ## A fixed span -/

/-- The state of scoring a span from left to right. -/
structure SpanState where
  score : Nat
  /-- The bonus at the beginning of the current run. -/
  runStart : Nat
  inRun : Bool
  inGap : Bool
  /-- The characters still to match; the last one stays. -/
  pending : List Char

def nextPending : List Char → List Char
  | _ :: d :: rest => d :: rest
  | cs => cs

def SpanState.step (s : SpanState) (cell : Cell) : SpanState :=
  if s.pending.head? = some cell.char then
    let b := cell.bonus
    let runStart := if s.inRun then (if 8 ≤ b then max b s.runStart else s.runStart) else b
    let earned := if s.inRun then max (max b runStart) runBonus else b
    { score := s.score + matchPoints + earned
      runStart
      inRun := true
      inGap := false
      pending := nextPending s.pending }
  else
    { s with
      score := s.score - (if s.inGap then 1 else 3)
      inRun := false
      inGap := true }

/-- The score of a span whose first character is matched. -/
def spanScore (text : List Char) : List Cell → Nat
  | [] => 0
  | first :: rest =>
    (rest.foldl SpanState.step
      { score := matchPoints + 2 * first.bonus
        runStart := first.bonus
        inRun := true
        inGap := false
        pending := nextPending text }).score

/-- The score of the cells from `start` to `stop`, if they spell the text. An atom that minds case
has to spell an ASCII candidate as a whole, and one that was not written in ASCII never spells
it. -/
def exactScore? (atom : Atom) (c : Candidate) (start stop : Nat) : Option Nat :=
  let span := (c.cells.drop start).take (stop - start)
  let spelled := if c.ascii && !atom.ignoreCase then c.cells else span
  if c.ascii && !atom.ascii then none
  else if stop - start = atom.text.length && spelled.map (·.char) == atom.text.map atom.view then
    some (spanScore atom.text span)
  else none

/-! ## A single character -/

/-- The best place of a single character. Behind a non-ASCII phrase's first match, the class
before a match is that of the match before it. A word's beginning ends the search. -/
def bestSingle (ascii : Bool) (char : Char) : CharClass → Nat → List Cell → Nat
  | _, best, [] => best
  | before, best, cell :: rest =>
    if cell.char = char then
      let b := CharClass.bonus (if ascii then cell.before else before) cell.here
      let best := max best (matchPoints + 2 * b)
      if 10 ≤ b then best else bestSingle ascii char cell.here best rest
    else bestSingle ascii char before best rest

def singleScore? (c : Candidate) (char : Char) : Option Nat :=
  match c.cells.dropWhile fun cell => cell.char ≠ char with
  | [] => none
  | cell :: rest => some (bestSingle c.ascii char cell.before 0 (cell :: rest))

/-! ## The best subsequence -/

/-- The leftmost places of the characters of a text, in their order. -/
def leftmost? (offset : Nat) : List Char → List Char → Option (List Nat)
  | [], _ => some []
  | _ :: _, [] => none
  | c :: cs, d :: ds =>
    if c = d then (leftmost? (offset + 1) cs ds).map fun rest => offset :: rest
    else leftmost? (offset + 1) (c :: cs) ds

/-- The number of characters up to the last `c`. -/
def lastEnd (c : Char) (cs : List Char) : Nat :=
  (cs.reverse.dropWhile fun d => d ≠ c).length

/-- A partial match that ends at a place: its score and the bonus of its run. -/
structure Ending where
  score : Nat
  runBonus : Nat
  deriving DecidableEq, Repr

/-- A partial match made longer by a character of bonus `b`, given the best score `skipped` of
one that ended earlier and the one that ended just before. -/
def extendEnding (b skipped : Nat) : Option Ending → Ending
  | none => ⟨skipped + b + matchPoints, b⟩
  | some m =>
    let least := max m.runBonus runBonus
    let run := if 8 ≤ b ∧ least < b then b else least
    let joined := m.score + max run b
    if skipped + b < joined then ⟨joined + matchPoints, run⟩
    else ⟨skipped + b + matchPoints, b⟩

/-- The partial matches after one more character `c`, which stands at `first` or later. The row
holds the partial matches so far from place `place` on, the cells begin behind that place, and
matches from `start` on count. -/
def nextRow (c : Char) (start first place skipped ended : Nat) :
    List (Option Ending) → List Cell → List (Option Ending)
  | m :: row, cell :: cells =>
    if place < start then none :: nextRow c start first (place + 1) skipped ended row cells
    else
      let skipped := max (ended - 3) (skipped - 1)
      let here :=
        if first ≤ place + 1 ∧ cell.char = c then some (extendEnding cell.bonus skipped m)
        else none
      here :: nextRow c start first (place + 1) skipped (m.elim 0 (·.score)) row cells
  | _, _ => []

/-- Extends the row by all remaining characters with their leftmost places. -/
def lastRow (cells : List Cell) (start : Nat) :
    List (Char × Nat) → List (Option Ending) → List (Option Ending)
  | [], row => row
  | (c, first) :: rest, row =>
    lastRow cells first rest (none :: nextRow c start first 0 0 0 row (cells.drop 1))

def firstRow (c : Char) (cells : List Cell) : List (Option Ending) :=
  cells.map fun cell =>
    if cell.char = c then some ⟨matchPoints + 2 * cell.bonus, cell.bonus⟩ else none

/-- The best score of a way to find the text in a window of cells. -/
def bestScore (text : List Char) (places : List Nat) (window : List Cell) : Option Nat :=
  match text, places with
  | c :: cs, first :: rest =>
    ((lastRow window first (cs.zip rest) (firstRow c window)).filterMap
      fun m => m.map (·.score)).max?
  | _, _ => none

/-- The early decisions of fuzzy and substring search; `search` is for a text of at least two
characters that is shorter than the candidate. -/
def searchScore? (atom : Atom) (c : Candidate) (search : Option Nat) : Option Nat :=
  if c.cells.length < atom.text.length then none
  else if c.cells.length = atom.text.length then exactScore? atom c 0 c.cells.length
  else if c.ascii && !atom.ascii then none
  else
    match atom.text with
    | [char] => singleScore? c char
    | _ => search

def fuzzyScore? (atom : Atom) (c : Candidate) : Option Nat :=
  searchScore? atom c <| do
    let chars := c.cells.map (·.char)
    let places ← leftmost? 0 atom.text chars
    let start ← places.head?
    let stop := lastEnd (← atom.text.getLast?) chars
    let window := (c.cells.drop start).take (stop - start)
    if stop - start = atom.text.length then some (spanScore atom.text window)
    else bestScore atom.text (places.map (· - start)) window

/-! ## Substrings -/

/-- The best place of a text among the first `count` ones, as the cells that begin there. The
class before a match counts as in `bestSingle`. -/
def bestSubstring (atom : Atom) (ascii : Bool) (char : Char) :
    CharClass → Nat → Option (List Cell) → Nat → List Cell → Option (List Cell)
  | _, _, found, 0, _ => found
  | _, _, found, _, [] => found
  | before, best, found, count + 1, cell :: rest =>
    if cell.char = char then
      let b := CharClass.bonus (if ascii then cell.before else before) cell.here
      if best < matchPoints + 2 * b && atom.text.isPrefixOf ((cell :: rest).map (·.char)) then
        if 10 ≤ b then some (cell :: rest)
        else
          bestSubstring atom ascii char cell.here (matchPoints + 2 * b) (some (cell :: rest))
            count rest
      else bestSubstring atom ascii char cell.here best found count rest
    else bestSubstring atom ascii char before best found count rest

/-- Two characters or more stand before the first small letter. -/
def lettersBeginLate : List Char → Bool
  | a :: b :: rest => !a.isLower && !b.isLower && rest.any Char.isLower
  | _ => false

/-- The places where a substring may begin. In an ASCII phrase an atom that ignores case is not
found if its letters begin late. In any other phrase the search begins at the first place of the
first character, needs the last character behind that, and leaves out the last place of all. -/
def substringScore? (atom : Atom) (c : Candidate) : Option Nat :=
  searchScore? atom c <| do
    let char ← atom.text.head?
    let size := atom.text.length
    let limit := c.cells.length - size + 1
    let found ←
      if c.ascii then
        if atom.ignoreCase && lettersBeginLate atom.text then none
        else bestSubstring atom true char .blank 0 none limit c.cells
      else
        match (c.cells.zipIdx.take limit).find? fun entry => entry.1.char = char with
        | none => none
        | some (cell, start) =>
          let behind := c.cells.drop (start + 1)
          let last := atom.text.getLast?
          if behind.any fun cell => last = some cell.char then
            bestSubstring atom false char cell.before 0 none (limit - 1 - start)
              (c.cells.drop start)
          else none
    some (spanScore atom.text (found.take size))

/-! ## Atoms and queries -/

/-- The blanks at an edge of a phrase do not count for an atom that has no blank at that edge. -/
def skipped (edge : Option Char) (blanks : Nat) : Nat :=
  if edge.any Text.isBlank then 0 else blanks

def placedScore? (atom : Atom) (c : Candidate) : Option Nat :=
  let size := atom.text.length
  let start := skipped atom.text.head? c.leading
  let stop := c.cells.length - skipped atom.text.getLast? c.trailing
  match atom.placement with
  | .fuzzy => fuzzyScore? atom c
  | .anywhere => substringScore? atom c
  | .atStart =>
    if c.cells.length < start + size then none else exactScore? atom c start (start + size)
  | .atEnd => if stop < size then none else exactScore? atom c (stop - size) stop
  | .whole => exactScore? atom c start stop

/-- The points of an atom; a negated one earns none and must not be found. -/
def Atom.score? (atom : Atom) (phrase : String) : Option Nat :=
  let points := placedScore? atom (atom.candidate phrase)
  if atom.negated then (if points.isSome then none else some 0) else points

/-- The points of a phrase: the sum over the atoms, all of which have to be found. -/
def score? (query : List Atom) (phrase : String) : Option Nat :=
  (query.mapM fun (atom : Atom) => atom.score? phrase).map fun points => points.foldr (· + ·) 0

end SimControl.Ranking
