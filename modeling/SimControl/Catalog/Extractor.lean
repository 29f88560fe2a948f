import SimControl.Decimal.Numeral
import SimControl.Json.Basic
import SimControl.Pattern.Basic
import SimControl.Text.Case

/-!
# From a match to a parameter

An extractor turns the text of the group named after a parameter into a value. Text that does not
fit the type leaves the parameter out, so that whoever acts on the parameters refuses them. An
absent or blank group is zero for the plain number extractors and leaves the parameter out for all
others; a flag only asks whether the group took part.
-/

namespace SimControl

inductive Extractor where
  | trimmed
  | uppercase
  | lowercase
  | integer
  | optionalInteger
  | decimal
  | integerList
  | stringList
  | lowercaseList
  | flag
  deriving DecidableEq, Repr

namespace Extractor

/-- The trimmed text of a group, if that is not empty. -/
def captured? (m : Pattern.Match) (name : String) : Option (List Char) :=
  ((m.group? name).map Text.trim).filter fun text => !text.isEmpty

def text (cs : List Char) : Json :=
  .string (String.ofList cs)

def integerValue? (cs : List Char) : Option Json :=
  ((Text.signed64? cs).bind Json.Number.ofInt?).map .number

def isConjunction (word : List Char) : Bool :=
  Text.sameAscii word ['a', 'n', 'd'] || Text.sameAscii word ['y']

/-- The entries of a list written with commas, white space and conjunctions. -/
def entries (cs : List Char) : List (List Char) :=
  (Text.pieces Text.isListSeparator cs).filter fun word => !isConjunction word

def apply (extractor : Extractor) (m : Pattern.Match) (name : String) : Option Json :=
  match extractor with
  | .trimmed => (captured? m name).map text
  | .uppercase => (captured? m name).map fun cs => text (Text.upper cs)
  | .lowercase => (captured? m name).map fun cs => text (Text.lower cs)
  | .integer =>
    match captured? m name with
    | some cs => integerValue? cs
    | none => some (.number (.natural 0))
  | .optionalInteger => (captured? m name).bind integerValue?
  | .decimal =>
    match captured? m name with
    | some cs => (Decimal.localNumeral? cs).map Json.ofDouble
    | none => some (Json.ofDouble (Binary64.zero false))
  | .integerList =>
    (captured? m name).bind fun cs => ((entries cs).mapM integerValue?).map .array
  | .stringList => (captured? m name).map fun cs => .array ((entries cs).map text)
  | .lowercaseList =>
    (captured? m name).map fun cs => .array ((entries cs).map fun word => text (Text.lower word))
  | .flag => (m.group? name).map fun _ => .bool true

end Extractor

end SimControl
