import SimControl.Text.Cluster
import SimControl.Text.Folding

/-!
# Queries

A query is a list of atoms written with spaces between them. An atom is fuzzy unless its marks
say otherwise: `^` asks for the text at the beginning, a quote for the text anywhere, `$` for the
text at the end, and `!` for its absence. A backslash takes a mark literally, and before a space it
keeps the atom together.

Matching ignores case unless the atom holds an upper-case letter, and ignores the marks on Latin
letters unless the atom holds such a letter.
-/

namespace SimControl.Ranking

/-- Where the text of an atom has to stand. -/
inductive Placement where
  | fuzzy
  | anywhere
  | atStart
  | atEnd
  | whole
  deriving DecidableEq, Repr

structure Atom where
  text : List Char
  placement : Placement
  negated : Bool
  ignoreCase : Bool
  ignoreMarks : Bool
  /-- All characters of the written atom are ASCII. -/
  ascii : Bool
  deriving DecidableEq, Repr

def isAscii (c : Char) : Bool :=
  c.toNat < 0x80

/-- The characters of a text that count: all of an ASCII text, of any other one the first of each
cluster. -/
def shownChars (cs : List Char) : List Char :=
  if cs.all isAscii then cs else Text.clusterHeads cs

/-- The parts of a query between spaces without a backslash in front of them. -/
def splitQuery (escaped : Bool) : List Char → List (List Char)
  | [] => [[]]
  | c :: rest =>
    if c == ' ' && !escaped then [] :: splitQuery false rest
    else
      match splitQuery (c == '\\') rest with
      | [] => [[c]]
      | part :: parts => (c :: part) :: parts

/-- Takes the mark of a negated atom. -/
def takeNegation : List Char → Bool × List Char
  | '!' :: rest => (true, rest)
  | '\\' :: '!' :: rest => (false, '!' :: rest)
  | cs => (false, cs)

/-- Takes a mark in front of the text. -/
def takeFront : List Char → Placement × List Char
  | '^' :: rest => (.atStart, rest)
  | '\'' :: rest => (.anywhere, rest)
  | '\\' :: '^' :: rest => (.fuzzy, '^' :: rest)
  | '\\' :: '\'' :: rest => (.fuzzy, '\'' :: rest)
  | cs => (.fuzzy, cs)

/-- Takes a mark behind the text, which is given backwards. The flag tells that a literal dollar
sign belongs at the end. -/
def takeBack (placement : Placement) : List Char → Placement × Bool × List Char
  | '$' :: '\\' :: rest => (placement, true, rest)
  | '$' :: rest => (if placement = .fuzzy then .atEnd else .whole, false, rest)
  | cs => (placement, false, cs)

/-- Takes a backslash away that stands before a space. -/
def unescapeSpaces : List Char → List Char
  | '\\' :: ' ' :: rest => ' ' :: unescapeSpaces rest
  | c :: rest => c :: unescapeSpaces rest
  | [] => []

/-- Writes a backslash twice, except before a space and at the end. -/
def doubleBackslashes : List Char → List Char
  | '\\' :: c :: rest =>
    if c == ' ' then '\\' :: ' ' :: doubleBackslashes rest
    else '\\' :: '\\' :: doubleBackslashes (c :: rest)
  | c :: rest => c :: doubleBackslashes rest
  | [] => []

/-- The text to look for. Only in an ASCII one a backslash before a space is not looked for
itself. -/
def neededChars (written : List Char) : List Char :=
  if written.all isAscii then unescapeSpaces written
  else doubleBackslashes (Text.clusterHeads written)

def Atom.ofText (written : List Char) : Atom :=
  let (negated, rest) := takeNegation written
  let (front, rest) := takeFront rest
  let (placement, dollar, reversed) := takeBack front rest.reverse
  let text := neededChars reversed.reverse
  { text := if dollar then text ++ ['$'] else text
    placement := if negated && placement = .fuzzy then .anywhere else placement
    negated
    ignoreCase := text.all fun c => Text.fold c == c
    ignoreMarks := text.all fun c => Text.withoutMarks c == c
    ascii := reversed.all isAscii }

/-- The atoms of a query that have a text. -/
def atoms (query : String) : List Atom :=
  ((splitQuery false query.toList).map Atom.ofText).filter fun atom => !atom.text.isEmpty

end SimControl.Ranking
