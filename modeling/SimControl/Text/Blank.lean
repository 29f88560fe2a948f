/-!
# White space

The characters with the property White_Space, and what follows from them for a text: its trimmed
form, whether it is blank, and its pieces between separators.
-/

namespace SimControl.Text

def isBlank (c : Char) : Bool :=
  let n := c.toNat
  (9 ≤ n && n ≤ 13) || n == 0x20 || n == 0x85 || n == 0xA0 || n == 0x1680 ||
    (0x2000 ≤ n && n ≤ 0x200A) || n == 0x2028 || n == 0x2029 || n == 0x202F || n == 0x205F ||
    n == 0x3000

/-! ## Trimming -/

def trimEnd (cs : List Char) : List Char :=
  (cs.reverse.dropWhile isBlank).reverse

/-- A text without its leading and trailing white space. -/
def trim (cs : List Char) : List Char :=
  trimEnd (cs.dropWhile isBlank)

def trimmed (s : String) : String :=
  String.ofList (trim s.toList)

/-! ## Pieces -/

/-- The parts of a text between separators, empty ones included. -/
def splitAll (isSeparator : Char → Bool) : List Char → List (List Char)
  | [] => [[]]
  | c :: rest =>
    if isSeparator c then [] :: splitAll isSeparator rest
    else
      match splitAll isSeparator rest with
      | [] => [[c]]
      | piece :: pieces => (c :: piece) :: pieces

/-- The non-empty parts of a text between separators. -/
def pieces (isSeparator : Char → Bool) (cs : List Char) : List (List Char) :=
  (splitAll isSeparator cs).filter fun piece => !piece.isEmpty

/-- Lists are written with commas, white space or both. -/
def isListSeparator (c : Char) : Bool :=
  c == ',' || isBlank c

end SimControl.Text
