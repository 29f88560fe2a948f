import SimControl.Text.Blank
import SimControl.Text.Folding
import SimControl.Text.Letter

/-!
# Sets of characters in patterns

Matching ignores case: a letter stands for all its case variants, and a character is in a class
when one of its variants is listed. A negated class holds the characters that the class does not.
-/

namespace SimControl

/-- What can be listed between brackets. -/
inductive ClassItem where
  | single (c : Char)
  | range (low high : Char)
  | digit
  | blank
  | nonblank
  deriving DecidableEq, Repr

def ClassItem.contains : ClassItem → Char → Bool
  | .single a, c => a == c
  | .range low high, c => low ≤ c && c ≤ high
  | .digit, c => Text.isDecimalDigit c
  | .blank, c => Text.isBlank c
  | .nonblank, c => !Text.isBlank c

inductive CharSet where
  /-- Any character but a line feed. -/
  | inLine
  | literal (c : Char)
  | digit
  | blank
  | nonblank
  | listed (items : List ClassItem)
  | unlisted (items : List ClassItem)
  deriving DecidableEq, Repr

namespace CharSet

/-- One of the items holds a case variant of the character. -/
def anyVariant (items : List ClassItem) (c : Char) : Bool :=
  (Text.caseVariants c).any fun v => items.any (·.contains v)

def contains : CharSet → Char → Bool
  | .inLine, c => c != '\n'
  | .literal a, c => Text.sameLetter a c
  | .digit, c => Text.isDecimalDigit c
  | .blank, c => Text.isBlank c
  | .nonblank, c => !Text.isBlank c
  | .listed items, c => anyVariant items c
  | .unlisted items, c => !anyVariant items c

end CharSet

end SimControl
