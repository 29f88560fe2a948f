import SimControl.Ranking.Query
import SimControl.Text.Blank
import SimControl.Text.Letter

/-!
# Candidates

A candidate is a phrase seen through an atom: each of its characters in the form in which the atom
compares it, with its class and the class before it. A character where a new word begins earns a
bonus.
-/

namespace SimControl.Ranking

inductive CharClass where
  | blank
  | other
  | delimiter
  | lower
  | upper
  | letter
  | number
  deriving DecidableEq, Repr

/-- White space among the ASCII characters. -/
def isAsciiBlank (c : Char) : Bool :=
  c == ' ' || c == '\t' || c == '\n' || c == '\x0c' || c == '\r'

namespace CharClass

def ofAscii (c : Char) : CharClass :=
  if c.isLower then .lower
  else if c.isUpper then .upper
  else if c.isDigit then .number
  else if isAsciiBlank c then .blank
  else if c == '/' || c == ',' || c == ':' || c == ';' || c == '|' then .delimiter
  else .other

def ofChar (c : Char) : CharClass :=
  if isAscii c then ofAscii c
  else if Text.isLowercase c then .lower
  else if Text.isUppercase c then .upper
  else if Text.isNumeric c then .number
  else if Text.isAlphabetic c then .letter
  else if Text.isBlank c then .blank
  else .other

def isWordPart : CharClass → Bool
  | .lower | .upper | .letter | .number => true
  | .blank | .other | .delimiter => false

/-- What a character earns by its place behind a character of class `before`. -/
def bonus (before here : CharClass) : Nat :=
  if here.isWordPart && before = .blank then 10
  else if here.isWordPart && before = .delimiter then 9
  else if here.isWordPart && before = .other then 8
  else if (before = .lower && here = .upper) || (before ≠ .number && here = .number) then 5
  else if here = .blank then 10
  else if here = .other then 8
  else 0

end CharClass

/-- A character of a candidate. -/
structure Cell where
  /-- The character as the atom compares it. -/
  char : Char
  before : CharClass
  here : CharClass
  deriving DecidableEq, Repr

def Cell.bonus (cell : Cell) : Nat :=
  CharClass.bonus cell.before cell.here

/-- The form in which an atom compares a character of a candidate. -/
def Atom.view (atom : Atom) (c : Char) : Char :=
  let c := if atom.ignoreMarks then Text.withoutMarks c else c
  if atom.ignoreCase then Text.fold c else c

structure Candidate where
  cells : List Cell
  /-- All characters of the phrase are ASCII. -/
  ascii : Bool
  /-- The number of blanks in front of the phrase. -/
  leading : Nat
  /-- The number of blanks behind the phrase. -/
  trailing : Nat

/-- The number of blanks at the beginning of a text that is not blank. -/
def leadingBlanks (isBlank : Char → Bool) (cs : List Char) : Nat :=
  if cs.all isBlank then 0 else (cs.takeWhile isBlank).length

def Atom.cells (atom : Atom) (before : CharClass) : List Char → List Cell
  | [] => []
  | c :: rest =>
    let here := CharClass.ofChar c
    ⟨atom.view c, before, here⟩ :: atom.cells here rest

/-- A phrase as an atom sees it. -/
def Atom.candidate (atom : Atom) (phrase : String) : Candidate :=
  let ascii := phrase.toList.all isAscii
  let chars := shownChars phrase.toList
  let isBlank := if ascii then isAsciiBlank else Text.isBlank
  { cells := atom.cells .blank chars
    ascii
    leading := leadingBlanks isBlank chars
    trailing := leadingBlanks isBlank chars.reverse }

end SimControl.Ranking
