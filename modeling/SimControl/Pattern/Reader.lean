import SimControl.Pattern.Basic
import SimControl.Text.Letter
import SimControl.Text.Numeral

/-!
# Written patterns

Patterns are written as regular expressions: literals, `.`, `$`, `\b`, `\d`, `\s`, `\S`, escaped
punctuation, classes, groups `(...)`, named groups `(?P<name>...)`, alternatives with `|`, and
the repetitions `?`, `*`, `+` and `{n}`, which a further `?` makes lazy. Any other form is refused: of
classes those inside others, the operators `&&`, `--` and `~~` and escapes at an end of a range, and of
repetitions a group that is repeated no time.

Alternatives that all begin alike share their beginning: it is matched once, and only what follows
it is a choice. So a repetition at the beginning prefers its rounds before the alternatives are
compared.
-/

namespace SimControl.Pattern

namespace Reader

/-! ## Escapes -/

/-- Characters that a backslash turns into themselves. An escaped angle bracket would be the edge
of a word. -/
def isPunctuation (c : Char) : Bool :=
  c.toNat < 0x80 && !c.isAlphanum && c != '<' && c != '>'

def escapedLiteral? (c : Char) : Option Char :=
  if c == 'n' then some '\n'
  else if c == 't' then some '\t'
  else if c == 'r' then some '\r'
  else if isPunctuation c then some c
  else none

def escape? (c : Char) : Option Pattern :=
  if c == 'd' then some (.chars .digit)
  else if c == 's' then some (.chars .blank)
  else if c == 'S' then some (.chars .nonblank)
  else if c == 'b' then some .boundary
  else (escapedLiteral? c).map fun c => .chars (.literal c)

def classEscape? (c : Char) : Option ClassItem :=
  if c == 'd' then some .digit
  else if c == 's' then some .blank
  else if c == 'S' then some .nonblank
  else (escapedLiteral? c).map .single

/-! ## Classes -/

/-- Whether a class goes on with an operator between two classes. -/
def meetsOperator : List Char → Bool
  | a :: b :: _ => a == b && (a == '&' || a == '-' || a == '~')
  | _ => false

/-- Whether what stands before would be the lower end of a range. -/
def meetsRange : List Char → Bool
  | '-' :: c :: _ => c != ']'
  | _ => false

/-- The items of a class up to its closing bracket. -/
def classItems : List Char → Option (List ClassItem × List Char)
  | [] => none
  | ']' :: rest => some ([], rest)
  | '[' :: _ => none
  | '\\' :: c :: rest => do
    if meetsRange rest then none
    else
      let item ← classEscape? c
      let (more, rest) ← classItems rest
      return (item :: more, rest)
  | low :: '-' :: high :: rest =>
    if meetsOperator [low, '-'] then none
    else if high == ']' then some ([.single low, .single '-'], rest)
    else if low ≤ high && high != '\\' && high != '[' && high != '-' then do
      let (more, rest) ← classItems rest
      return (.range low high :: more, rest)
    else none
  | c :: rest => do
    if c == '\\' || meetsOperator (c :: rest) then none
    else
      let (more, rest) ← classItems rest
      return (.single c :: more, rest)

/-- The pattern of a class after its opening bracket. -/
def charClass (cs : List Char) : Option (Pattern × List Char) := do
  let (negated, cs) :=
    match cs with
    | '^' :: rest => (true, rest)
    | cs => (false, cs)
  let (items, rest) ← classItems cs
  if items.isEmpty then none
  else return (.chars (if negated then .unlisted items else .listed items), rest)

/-! ## Repetitions -/

/-- A member of a written sequence. -/
structure Piece where
  pattern : Pattern
  /-- Parentheses occur in it. Such a piece is like no other one. -/
  grouped : Bool
  deriving DecidableEq

/-- A piece without parentheses. -/
def Piece.plain (pattern : Pattern) : Piece :=
  ⟨pattern, false⟩

/-- Whether a repetition is greedy: a question mark behind it makes it lazy. -/
def greediness : List Char → Bool × List Char
  | '?' :: rest => (false, rest)
  | cs => (true, cs)

/-- A piece `count` times; no time is no piece at all. -/
def Piece.times (piece : Piece) : Nat → Piece
  | 0 => .plain .empty
  | 1 => piece
  | count => { piece with pattern := .times count piece.pattern }

/-- A piece with the repetition that follows it. -/
def repeated (piece : Piece) : List Char → Option (Piece × List Char)
  | '*' :: rest =>
    let (greedy, rest) := greediness rest
    some ({ piece with pattern := .zeroOrMore greedy piece.pattern }, rest)
  | '+' :: rest =>
    let (greedy, rest) := greediness rest
    some ({ piece with pattern := .oneOrMore greedy piece.pattern }, rest)
  | '?' :: rest =>
    let (greedy, rest) := greediness rest
    some ({ piece with pattern := .optional greedy piece.pattern }, rest)
  | '\x7b' :: rest =>
    match rest.span fun c => c != '\x7d' with
    | (count, '\x7d' :: rest) =>
      ((Text.digits? count).filter fun n => n != 0 || !piece.grouped).map fun n =>
        (piece.times n, (greediness rest).2)
    | _ => none
  | cs => some (piece, cs)

/-! ## Atoms, sequences and alternatives -/

def isNameStart (c : Char) : Bool :=
  Text.isAlphabetic c || c == '_'

def isNamePart (c : Char) : Bool :=
  isNameStart c || Text.isNumeric c || c == '.' || c == '[' || c == ']'

def isGroupName : List Char → Bool
  | [] => false
  | c :: rest => isNameStart c && rest.all isNamePart

/-- Characters that are no literal on their own. -/
def isReserved (c : Char) : Bool :=
  c == '*' || c == '+' || c == '?' || c == '\x7b' || c == '^'

/-- The inside of a group and its closing parenthesis. -/
def closed (inner : List Char → Option (Pattern × List Char)) (cs : List Char) :
    Option (Pattern × List Char) :=
  match inner cs with
  | some (pattern, ')' :: rest) => some (pattern, rest)
  | _ => none

def atom (inner : List Char → Option (Pattern × List Char)) :
    List Char → Option (Piece × List Char)
  | [] => none
  | '(' :: '?' :: 'P' :: '<' :: rest =>
    match rest.span fun c => c != '>' with
    | (name, '>' :: rest) =>
      if isGroupName name then
        (closed inner rest).map fun (body, rest) => (⟨.group (String.ofList name) body, true⟩, rest)
      else none
    | _ => none
  | '(' :: rest => (closed inner rest).map fun (body, rest) => (⟨body, true⟩, rest)
  | '[' :: rest => (charClass rest).map fun (pattern, rest) => (.plain pattern, rest)
  | '.' :: rest => some (.plain (.chars .inLine), rest)
  | '$' :: rest => some (.plain .finish, rest)
  | '\\' :: c :: rest => (escape? c).map fun pattern => (.plain pattern, rest)
  | c :: rest =>
    if isReserved c || c == '\\' then none else some (.plain (.chars (.literal c)), rest)

/-- At most `count` pieces, up to the end of an alternative. -/
def sequence (inner : List Char → Option (Pattern × List Char)) :
    Nat → List Char → Option (List Piece × List Char)
  | _, [] => some ([], [])
  | _, '|' :: rest => some ([], '|' :: rest)
  | _, ')' :: rest => some ([], ')' :: rest)
  | 0, _ => none
  | count + 1, cs => do
    let (piece, rest) ← atom inner cs
    let (piece, rest) ← repeated piece rest
    let (pieces, rest) ← sequence inner count rest
    return (if piece = .plain .empty then pieces else piece :: pieces, rest)

/-- At most `count` alternatives of at most `size` pieces. -/
def alternatives (inner : List Char → Option (Pattern × List Char)) (size : Nat) :
    Nat → List Char → Option (List (List Piece) × List Char)
  | 0, _ => none
  | count + 1, cs => do
    let (first, rest) ← sequence inner size cs
    match rest with
    | '|' :: rest =>
      let (others, rest) ← alternatives inner size count rest
      return (first :: others, rest)
    | rest => return ([first], rest)

/-- One piece after the other. -/
def joined : List Piece → Pattern
  | [] => .empty
  | [piece] => piece.pattern
  | piece :: rest => .seq piece.pattern (joined rest)

/-- The number of pieces with which two alternatives begin alike. -/
def sharedLength : List Piece → List Piece → Nat
  | a :: as, b :: bs => if !a.grouped && a = b then sharedLength as bs + 1 else 0
  | _, _ => 0

/-- The number of pieces with which all alternatives begin alike. A single piece is not shared. -/
def commonLength (first : List Piece) (others : List (List Piece)) : Nat :=
  if (first :: others).all fun pieces => 2 ≤ pieces.length then
    (others.map (sharedLength first)).foldl min first.length
  else 0

def choice : List (List Piece) → Pattern
  | [] => .empty
  | [pieces] => joined pieces
  | pieces :: rest => .alt (joined pieces) (choice rest)

/-- The choice between alternatives, behind the pieces that they share. -/
def factored : List (List Piece) → Pattern
  | [] => .empty
  | [pieces] => joined pieces
  | first :: others =>
    match commonLength first others with
    | 0 => choice (first :: others)
    | n =>
      joined (first.take n ++ [.plain (choice ((first :: others).map (·.drop n)))])

/-- A pattern with at most `depth` groups inside each other. -/
def pattern (size : Nat) : Nat → List Char → Option (Pattern × List Char)
  | 0, _ => none
  | depth + 1, cs => do
    let (branches, rest) ← alternatives (pattern size depth) size size cs
    return (factored branches, rest)

end Reader

/-- The pattern that a text writes; `none` if it is malformed. -/
def ofText? (text : String) : Option Pattern :=
  let cs := text.toList
  let size := cs.length + 1
  match Reader.pattern size size cs with
  | some (pattern, []) => if pattern.groupNames.Nodup then some pattern else none
  | _ => none

end SimControl.Pattern
