import SimControl.Pattern.CharSet
import SimControl.Text.Word

/-!
# Patterns

A pattern is matched from the left: of the ways to match at the first position where there is
one, the first in the order of preference counts. An alternative is preferred to the ones after
it, and a repetition prefers to go on if it is greedy and to stop if it is lazy.

`follow p point k` looks for the preferred way to match `p` from which `k` succeeds, so the order
of preference is the order of the search.

A repetition could go round for ever at one place if its body may be empty. So the points inside it
at which ways branch are numbered, and a way that comes to one of them twice between two characters
leads nowhere. All other points have no number: a way cannot come back to them without a character
in between.
-/

namespace SimControl

inductive Pattern where
  | empty
  | chars (set : CharSet)
  /-- Between a word character and another one, or an end of the text. -/
  | boundary
  /-- The end of the text. -/
  | finish
  | seq (first second : Pattern)
  | alt (first second : Pattern)
  /-- Any number of rounds of a body that takes at least one character. -/
  | many (greedy : Bool) (body : Pattern)
  /-- One round of the body or more. -/
  | oneOrMore (greedy : Bool) (body : Pattern)
  | times (count : Nat) (body : Pattern)
  | group (name : String) (body : Pattern)
  deriving DecidableEq, Repr

namespace Pattern

/-- Some match of the pattern takes no character. -/
def mayBeEmpty : Pattern → Bool
  | .empty | .boundary | .finish | .many _ _ => true
  | .chars _ => false
  | .seq a b => a.mayBeEmpty && b.mayBeEmpty
  | .alt a b => a.mayBeEmpty || b.mayBeEmpty
  | .oneOrMore _ a => a.mayBeEmpty
  | .times n a => n == 0 || a.mayBeEmpty
  | .group _ a => a.mayBeEmpty

/-! ## Derived forms -/

def optional (greedy : Bool) (body : Pattern) : Pattern :=
  if greedy then .alt body .empty else .alt .empty body

def zeroOrMore (greedy : Bool) (body : Pattern) : Pattern :=
  if body.mayBeEmpty then optional greedy (.oneOrMore greedy body) else .many greedy body

/-- The names of the groups, from left to right. -/
def groupNames : Pattern → List String
  | .seq a b => a.groupNames ++ b.groupNames
  | .alt a b => a.groupNames ++ b.groupNames
  | .many _ a => a.groupNames
  | .oneOrMore _ a => a.groupNames
  | .times _ a => a.groupNames
  | .group name a => name :: a.groupNames
  | _ => []

/-! ## Places in a text -/

/-- A place in a text, with the texts of the groups that took part so far, the last one first. -/
structure Position where
  /-- The characters before the place, the nearest first. -/
  before : List Char
  rest : List Char
  /-- The number of characters before the place. -/
  offset : Nat
  groups : List (String × List Char)
  /-- The branch points passed at this place, the last one first. -/
  passed : List Nat

namespace Position

def start (text : List Char) : Position :=
  ⟨[], text, 0, [], []⟩

/-- The place after `c`, which is followed by `rest`. -/
def advance (p : Position) (c : Char) (rest : List Char) : Position :=
  { p with before := c :: p.before, rest, offset := p.offset + 1, passed := [] }

/-- The text from `p` to a later place. -/
def textTo (p q : Position) : List Char :=
  p.rest.take (q.offset - p.offset)

/-- Gives a group the text from `p` to `q`. -/
def record (name : String) (p q : Position) : Position :=
  { q with groups := (name, p.textTo q) :: q.groups }

def startsWithWord : List Char → Bool
  | [] => false
  | c :: _ => Text.isWordChar c

def atBoundary (p : Position) : Bool :=
  startsWithWord p.before != startsWithWord p.rest

/-- Passes a branch point. A numbered one can be passed only once at a place. -/
def pass? (point : Option Nat) (p : Position) : Option Position :=
  match point with
  | none => some p
  | some n => if p.passed.contains n then none else some { p with passed := n :: p.passed }

end Position

/-! ## Matching -/

/-- The number of points in a pattern at which ways branch. -/
def branchPoints : Pattern → Nat
  | .seq a b => a.branchPoints + b.branchPoints
  | .alt a b => a.branchPoints + b.branchPoints + 1
  | .many _ a => a.branchPoints + 1
  | .oneOrMore _ a => a.branchPoints + 1
  | .times n a => n * a.branchPoints
  | .group _ a => a.branchPoints
  | _ => 0

/-- A round more or the way on, whichever is preferred and succeeds. -/
def prefer (greedy : Bool) (again stop : Unit → Option α) : Option α :=
  if greedy then (again ()).orElse stop else (stop ()).orElse again

/-- The end of a round, from which `body` begins another one and `k` goes on. At most `count` rounds
end. -/
def rounds (greedy : Bool) (point : Option Nat)
    (body : (Position → Option α) → Position → Option α) (k : Position → Option α) :
    Nat → Position → Option α
  | 0, _ => none
  | count + 1, p =>
    (p.pass? point).bind fun p =>
      prefer greedy (fun _ => body (rounds greedy point body k count) p) fun _ => k p

/-- A body `count` times, of which each one has `size` branch points of its own. -/
def copies (size : Nat)
    (body : Option Nat → (Position → Option α) → Position → Option α) :
    Nat → Option Nat → (Position → Option α) → Position → Option α
  | 0, _, k => k
  | count + 1, point, k => body point (copies size body count (point.map (· + size)) k)

/-- The result of `k` at the end of the preferred match that `k` accepts. The branch points are
numbered from `point` on, if at all. -/
def follow : Pattern → Option Nat → (Position → Option α) → Position → Option α
  | .empty, _, k, p => k p
  | .chars set, _, k, p =>
    match p.rest with
    | [] => none
    | c :: rest => if set.contains c then k (p.advance c rest) else none
  | .boundary, _, k, p => if p.atBoundary then k p else none
  | .finish, _, k, p => if p.rest.isEmpty then k p else none
  | .seq a b, point, k, p => a.follow point (b.follow (point.map (· + a.branchPoints)) k) p
  | .alt a b, point, k, p =>
    (p.pass? point).bind fun p =>
      (a.follow (point.map (· + 1)) k p).orElse fun _ =>
        b.follow (point.map (· + (a.branchPoints + 1))) k p
  | .many greedy a, point, k, p =>
    rounds greedy point (a.follow (point.map (· + 1))) k (p.rest.length + 1) p
  | .oneOrMore greedy a, point, k, p =>
    if point.isNone && a.mayBeEmpty then
      a.follow (some 1) (rounds greedy (some 0) (a.follow (some 1)) k (p.rest.length + 1))
        { p with passed := [] }
    else
      a.follow (point.map (· + 1))
        (rounds greedy point (a.follow (point.map (· + 1))) k (p.rest.length + 1)) p
  | .times n a, point, k, p => copies a.branchPoints a.follow n point k p
  | .group name a, point, k, p => a.follow point (fun q => k (Position.record name p q)) p

/-- What a pattern found: the text it matched and the texts of the groups that took part. -/
structure Match where
  span : List Char
  groups : List (String × List Char)
  deriving DecidableEq, Repr

/-- The text of a group; `none` if it took no part in the match. -/
def Match.group? (m : Match) (name : String) : Option (List Char) :=
  m.groups.lookup name

/-- The preferred match that begins at a place. -/
def matchAt? (pattern : Pattern) (p : Position) : Option Match :=
  pattern.follow none (fun q => some ⟨p.textTo q, q.groups⟩) p

/-- The match at the first place that has one, `before` being read backwards. -/
def findFrom? (pattern : Pattern) (before : List Char) (offset : Nat) : List Char → Option Match
  | [] => pattern.matchAt? ⟨before, [], offset, [], []⟩
  | c :: rest =>
    (pattern.matchAt? ⟨before, c :: rest, offset, [], []⟩).orElse fun _ =>
      pattern.findFrom? (c :: before) (offset + 1) rest

/-- The leftmost match in a text. -/
def find? (pattern : Pattern) (text : List Char) : Option Match :=
  pattern.findFrom? [] 0 text

end Pattern

end SimControl
