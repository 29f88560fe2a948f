import SimControl.Json.Basic

/-!
# Reading data

The grammar is strict: no comments, no trailing commas, no leading zeros, no control characters
and no lone surrogates in strings, and at most 127 containers inside each other. The reader takes
a text apart from the front and returns what is left.

A value that nobody asks for is read with `checked := false`: its syntax counts, but not the size
of its numbers, the pairing of its surrogates or its depth.
-/

namespace SimControl.Json

/-- A reader takes a value from the front of a text. -/
abbrev Reader (α : Type) := List Char → Option (α × List Char)

namespace Reader

def isBlank (c : Char) : Bool :=
  c == ' ' || c == '\n' || c == '\t' || c == '\r'

def skipBlank (cs : List Char) : List Char :=
  cs.dropWhile isBlank

/-! ## Strings -/

def hexValue? (c : Char) : Option Nat :=
  if '0' ≤ c ∧ c ≤ '9' then some (c.toNat - '0'.toNat)
  else if 'a' ≤ c ∧ c ≤ 'f' then some (c.toNat - 'a'.toNat + 10)
  else if 'A' ≤ c ∧ c ≤ 'F' then some (c.toNat - 'A'.toNat + 10)
  else none

/-- The value of four hexadecimal digits. -/
def hexCode? (a b c d : Char) : Option Nat := do
  let a ← hexValue? a
  let b ← hexValue? b
  let c ← hexValue? c
  let d ← hexValue? d
  return ((a * 16 + b) * 16 + c) * 16 + d

def isHighSurrogate (n : Nat) : Bool :=
  0xD800 ≤ n && n < 0xDC00

def isLowSurrogate (n : Nat) : Bool :=
  0xDC00 ≤ n && n < 0xE000

def simpleEscape? : Char → Option Char
  | '"' => some '"'
  | '\\' => some '\\'
  | '/' => some '/'
  | 'b' => some (Char.ofNat 8)
  | 'f' => some (Char.ofNat 12)
  | 'n' => some '\n'
  | 'r' => some '\r'
  | 't' => some '\t'
  | _ => none

/-- The rest of a string after its opening quote. -/
def stringBody (checked : Bool) : Reader (List Char)
  | '"' :: rest => some ([], rest)
  | '\\' :: 'u' :: a :: b :: c :: d :: rest => do
    let code ← hexCode? a b c d
    if checked && isHighSurrogate code then
      match rest with
      | '\\' :: 'u' :: a :: b :: c :: d :: rest =>
        let low ← hexCode? a b c d
        if isLowSurrogate low then
          let (text, rest) ← stringBody checked rest
          some (Char.ofNat (0x10000 + (code - 0xD800) * 0x400 + (low - 0xDC00)) :: text, rest)
        else none
      | _ => none
    else if checked && isLowSurrogate code then none
    else
      let (text, rest) ← stringBody checked rest
      some (Char.ofNat code :: text, rest)
  | '\\' :: e :: rest => do
    let c ← simpleEscape? e
    let (text, rest) ← stringBody checked rest
    some (c :: text, rest)
  | c :: rest =>
    if c == '\\' || c.toNat < 0x20 then none
    else (stringBody checked rest).map fun (text, rest) => (c :: text, rest)
  | [] => none

/-! ## Numbers -/

def isDigit (c : Char) : Bool :=
  '0' ≤ c && c ≤ '9'

def digitValue (c : Char) : Nat :=
  c.toNat - '0'.toNat

/-- Gathers digits into 64 bits; also how many digits came after the first that did not fit. -/
def gatherWhole (value : Nat) : List Char → Nat × Nat
  | [] => (value, 0)
  | c :: rest =>
    let next := value * 10 + digitValue c
    if next < 2 ^ 64 then gatherWhole next rest else (value, rest.length + 1)

/-- Gathers decimals into 64 bits; also how many were taken. The rest is dropped. -/
def gatherDecimals (value taken : Nat) : List Char → Nat × Nat
  | [] => (value, taken)
  | c :: rest =>
    let next := value * 10 + digitValue c
    if next < 2 ^ 64 then gatherDecimals next (taken + 1) rest else (value, taken)

def powerOfTen? (n : Nat) : Option Binary64 :=
  Binary64.ofDecimal? false 1 n

/-- Scales a double by a power of ten, which takes one rounded operation, and two when the power
is beyond the reach of a double. -/
def scaleDouble? (x : Binary64) (scale : Int) : Option Binary64 := do
  if x.significand = 0 then some x
  else if 308 < scale then none
  else if 0 ≤ scale then x.mul? (← powerOfTen? scale.toNat)
  else if -308 ≤ scale then x.div? (← powerOfTen? (-scale).toNat)
  else if -616 ≤ scale then
    let reduced ← x.div? (← powerOfTen? 308)
    reduced.div? (← powerOfTen? (-scale - 308).toNat)
  else some (Binary64.zero x.negative)

/-- The double of a literal: its digits gathered into 64 bits, rounded, and scaled. -/
def double? (negative : Bool) (whole decimals : List Char) (scale : Int) : Option Binary64 := do
  let (value, dropped) := gatherWhole 0 whole
  let (value, taken) := gatherDecimals value 0 decimals
  let x ← Binary64.ofInt? value
  let x ← scaleDouble? x (dropped - taken + scale)
  return if negative then x.neg else x

/-- The number of an integer literal, a double if it has no 64-bit integer. -/
def integer? (negative : Bool) (digits : List Char) : Option Number :=
  let value := digits.foldl (fun n c => n * 10 + digitValue c) 0
  if negative && value == 0 then some (.double (Binary64.zero true))
  else
    match Number.ofInt? (if negative then -(value : Int) else value) with
    | some n => some n
    | none => (double? negative digits [] 0).map .double

/-- A fraction part, with at least one digit; an absent one is `none`. -/
def fractionPart : Reader (Option (List Char))
  | '.' :: rest =>
    match rest.span isDigit with
    | ([], _) => none
    | (digits, rest) => some (some digits, rest)
  | cs => some (none, cs)

/-- An exponent part, with at least one digit; an absent one is `none`. -/
def exponentPart : Reader (Option Int)
  | c :: rest =>
    if c == 'e' || c == 'E' then
      let (negative, rest) :=
        match rest with
        | '+' :: rest => (false, rest)
        | '-' :: rest => (true, rest)
        | rest => (false, rest)
      match rest.span isDigit with
      | ([], _) => none
      | (digits, rest) =>
        let value : Nat := digits.foldl (fun n c => n * 10 + digitValue c) 0
        some (some (if negative then -(value : Int) else value), rest)
    else some (none, c :: rest)
  | [] => some (none, [])

def isWholePart : List Char → Bool
  | [] => false
  | ['0'] => true
  | c :: _ => c != '0'

def number (checked : Bool) : Reader Number := fun cs => do
  let (negative, cs) :=
    match cs with
    | '-' :: rest => (true, rest)
    | cs => (false, cs)
  let (whole, rest) := cs.span isDigit
  if !isWholePart whole then none
  else
    let (decimals, rest) ← fractionPart rest
    let (scale, rest) ← exponentPart rest
    if !checked then some (.natural 0, rest)
    else if decimals.isNone && scale.isNone then
      (integer? negative whole).map fun n => (n, rest)
    else
      (double? negative whole (decimals.getD []) (scale.getD 0)).map fun x => (.double x, rest)

/-! ## Values -/

/-- A value that is not a container. -/
def scalar (checked : Bool) : Reader Json
  | 'n' :: 'u' :: 'l' :: 'l' :: rest => some (.null, rest)
  | 't' :: 'r' :: 'u' :: 'e' :: rest => some (.bool true, rest)
  | 'f' :: 'a' :: 'l' :: 's' :: 'e' :: rest => some (.bool false, rest)
  | '"' :: rest =>
    (stringBody checked rest).map fun (text, rest) => (.string (String.ofList text), rest)
  | cs => (number checked cs).map fun (n, rest) => (.number n, rest)

/-- At most `count` items and the closing bracket. -/
def items (item : Reader α) : Nat → Reader (List α)
  | 0, _ => none
  | count + 1, cs => do
    let (first, rest) ← item (skipBlank cs)
    match skipBlank rest with
    | ',' :: rest =>
      let (more, rest) ← items item count rest
      some (first :: more, rest)
    | ']' :: rest => some ([first], rest)
    | _ => none

/-- The items of an array after its opening bracket. -/
def arrayBody (item : Reader α) (count : Nat) : Reader (List α) := fun cs =>
  match skipBlank cs with
  | ']' :: rest => some ([], rest)
  | rest => items item count rest

/-- At most `count` fields and the closing brace. The reader of a value may depend on its key. -/
def fields (checked : Bool) (value : String → Reader α) : Nat → Reader (List (String × α))
  | 0, _ => none
  | count + 1, cs =>
    match skipBlank cs with
    | '"' :: rest => do
      let (key, rest) ← stringBody checked rest
      let key := String.ofList key
      match skipBlank rest with
      | ':' :: rest =>
        let (first, rest) ← value key (skipBlank rest)
        match skipBlank rest with
        | ',' :: rest =>
          let (more, rest) ← fields checked value count rest
          some ((key, first) :: more, rest)
        | '\x7d' :: rest => some ([(key, first)], rest)
        | _ => none
      | _ => none
    | _ => none

/-- The fields of an object after its opening brace. -/
def objectBody (checked : Bool) (value : String → Reader α) (count : Nat) :
    Reader (List (String × α)) := fun cs =>
  match skipBlank cs with
  | '\x7d' :: rest => some ([], rest)
  | rest => fields checked value count rest

/-- A value with at most `depth` containers inside each other and `count` items in each. -/
def value (checked : Bool) (count : Nat) : Nat → Reader Json
  | 0 => scalar checked
  | depth + 1 => fun cs =>
    match cs with
    | '[' :: rest =>
      (arrayBody (value checked count depth) count rest).map fun (items, rest) =>
        (.array items, rest)
    | '\x7b' :: rest =>
      (objectBody checked (fun _ => value checked count depth) count rest).map
        fun (fields, rest) => (.object fields, rest)
    | cs => scalar checked cs

/-- The greatest number of containers inside each other. -/
def maxDepth : Nat :=
  127

/-- Reads a whole text with a reader of its value, which is given the length of the text. -/
def readAll (reader : Nat → Reader α) (cs : List Char) : Option α :=
  match reader cs.length (skipBlank cs) with
  | some (a, rest) => if (skipBlank rest).isEmpty then some a else none
  | none => none

end Reader

/-- The data that a text holds, in canonical form. -/
def parse? (text : String) : Option Json :=
  (Reader.readAll (fun count => Reader.value true count Reader.maxDepth) text.toList).map canonical

end SimControl.Json
