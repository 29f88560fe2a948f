import SimControl.Settings.Basic

/-!
# Settings in a file

A document has one setting per line, `key = value`, with comments behind a `#`. A value is an
integer (decimal, hexadecimal, octal or binary, with single underscores between its digits) or a
string: `"…"` with escapes, `'…'` without, and both over several lines between tripled quotes. Keys
are bare words or one-line strings. There is no other setting than the four of `Settings`, and
none may come twice, so a document with tables, lists or other values is malformed. Settings start
from their defaults or from a file, and the environment overrides them.

The reader takes a text apart from the front and returns what is left.
-/

namespace SimControl.Settings.Document

/-- A reader takes a value from the front of a text. -/
abbrev Reader (α : Type) := List Char → Option (α × List Char)

inductive Value where
  | integer (n : Int)
  | text (s : String)
  deriving DecidableEq, Repr

/-! ## Characters -/

def isSpace (c : Char) : Bool :=
  c == ' ' || c == '\t'

def skipSpaces (cs : List Char) : List Char :=
  cs.dropWhile isSpace

/-- A tab or a character that is not a control character. -/
def isPlain (c : Char) : Bool :=
  c == '\t' || (0x20 ≤ c.toNat && c.toNat != 0x7F)

def isBare (c : Char) : Bool :=
  ('a' ≤ c && c ≤ 'z') || ('A' ≤ c && c ≤ 'Z') || ('0' ≤ c && c ≤ '9') || c == '_' || c == '-'

/-- What follows a line break at the front of a text. -/
def lineBreak? : List Char → Option (List Char)
  | '\n' :: rest => some rest
  | '\r' :: '\n' :: rest => some rest
  | _ => none

theorem length_lt_of_lineBreak? {cs rest : List Char} (h : lineBreak? cs = some rest) :
    rest.length < cs.length := by
  unfold lineBreak? at h
  split at h
  · exact Option.some.inj h ▸ Nat.lt_succ_self _
  · exact Option.some.inj h ▸ Nat.lt_succ_of_lt (Nat.lt_succ_self _)
  · exact absurd h (by simp)

/-! ## Digits -/

def digitIn? (radix : Nat) (c : Char) : Option Nat :=
  let value? : Option Nat :=
    if '0' ≤ c ∧ c ≤ '9' then some (c.toNat - '0'.toNat)
    else if 'a' ≤ c ∧ c ≤ 'f' then some (c.toNat - 'a'.toNat + 10)
    else if 'A' ≤ c ∧ c ≤ 'F' then some (c.toNat - 'A'.toNat + 10)
    else none
  value?.filter (· < radix)

/-- The value of digits. -/
def valueIn (radix : Nat) (cs : List Char) : Nat :=
  cs.foldl (fun n c => n * radix + (digitIn? radix c).getD 0) 0

/-- Digits with single underscores between them, which are dropped. -/
def digitGroups (radix : Nat) : Reader (List Char) := fun cs =>
  let (run, rest) := cs.span fun c => (digitIn? radix c).isSome || c == '_'
  let groups := Text.splitAll (· == '_') run
  if groups.any List.isEmpty then none else some (groups.flatten, rest)

/-- Integers have 64 bits and a sign. -/
def inRange (n : Int) : Bool :=
  -2 ^ 63 ≤ n && n < 2 ^ 63

def integerIn (radix : Nat) : Reader Value := fun cs => do
  let (digits, rest) ← digitGroups radix cs
  let n : Int := valueIn radix digits
  if inRange n then some (.integer n, rest) else none

/-- A decimal integer, which has no leading zeros. -/
def decimal (negative : Bool) : Reader Value := fun cs => do
  let (digits, rest) ← digitGroups 10 cs
  let n : Int := valueIn 10 digits
  let n := if negative then -n else n
  if (digits.length == 1 || digits.head? != some '0') && inRange n then some (.integer n, rest)
  else none

def integer : Reader Value
  | '0' :: 'x' :: rest => integerIn 16 rest
  | '0' :: 'o' :: rest => integerIn 8 rest
  | '0' :: 'b' :: rest => integerIn 2 rest
  | '+' :: rest => decimal false rest
  | '-' :: rest => decimal true rest
  | rest => decimal false rest

/-! ## Strings -/

/-- The character with a code of `count` hexadecimal digits. -/
def codePoint (count : Nat) : Reader Char := fun cs =>
  let digits := cs.take count
  let code := valueIn 16 digits
  if digits.length == count && digits.all (fun c => (digitIn? 16 c).isSome) && code.isValidChar then
    some (Char.ofNat code, cs.drop count)
  else none

/-- What a backslash and the following characters stand for. -/
def escape : Reader Char
  | 'b' :: rest => some (Char.ofNat 8, rest)
  | 't' :: rest => some ('\t', rest)
  | 'n' :: rest => some ('\n', rest)
  | 'f' :: rest => some (Char.ofNat 12, rest)
  | 'r' :: rest => some ('\r', rest)
  | '"' :: rest => some ('"', rest)
  | '\\' :: rest => some ('\\', rest)
  | 'u' :: rest => codePoint 4 rest
  | 'U' :: rest => codePoint 8 rest
  | _ => none

theorem length_le_of_codePoint {count : Nat} {cs rest : List Char} {c : Char}
    (h : codePoint count cs = some (c, rest)) : rest.length ≤ cs.length := by
  unfold codePoint at h
  simp only at h
  split at h
  · simp only [Option.some.injEq, Prod.mk.injEq] at h
    rw [← h.2, List.length_drop]
    exact Nat.sub_le _ _
  · exact absurd h (by simp)

theorem length_lt_of_escape {cs rest : List Char} {c : Char} (h : escape cs = some (c, rest)) :
    rest.length < cs.length := by
  unfold escape at h
  split at h
  case h_8 | h_9 => exact Nat.lt_succ_of_le (length_le_of_codePoint h)
  case h_10 => exact absurd h (by simp)
  all_goals
    simp only [Option.some.injEq, Prod.mk.injEq] at h
    rw [← h.2]
    exact Nat.lt_succ_self _

/-- The rest of a one-line string. Only strings in double quotes have escapes. -/
def lineString (quote : Char) (cs : List Char) : Option (List Char × List Char) :=
  match cs with
  | [] => none
  | c :: rest =>
    if c == quote then some ([], rest)
    else if c == '\\' && quote == '"' then
      match _h : escape rest with
      | none => none
      | some (c, rest) => (lineString quote rest).map fun (text, rest) => (c :: text, rest)
    else if isPlain c then (lineString quote rest).map fun (text, rest) => (c :: text, rest)
    else none
termination_by cs.length
decreasing_by
  · exact Nat.lt_succ_of_lt (length_lt_of_escape _h)
  · exact Nat.lt_succ_self _

/-- What follows the line break that a backslash hides, if only spaces stand between them. -/
def hiddenBreak? (cs : List Char) : Option (List Char) :=
  lineBreak? (skipSpaces cs)

theorem length_lt_of_hiddenBreak? {cs rest : List Char} (h : hiddenBreak? cs = some rest) :
    rest.length < cs.length :=
  Nat.lt_of_lt_of_le (length_lt_of_lineBreak? h) (List.dropWhile_sublist _).length_le

/-- The rest of a string over several lines, after `run` quotes in a row. Three quotes in a row
close the string, and up to two before them belong to it. A hidden line break also hides the
blanks and line breaks that follow it; `folding` says that some may still come. -/
def blockString (quote : Char) (folding : Bool) (run : Nat) (cs : List Char) :
    Option (List Char × List Char) :=
  match cs with
  | [] => if 3 ≤ run then some (List.replicate (run - 3) quote, []) else none
  | c :: rest =>
    if c == quote then if run < 5 then blockString quote false (run + 1) rest else none
    else if 3 ≤ run then some (List.replicate (run - 3) quote, c :: rest)
    else
      let put (text : List Char) (next : Option (List Char × List Char)) :=
        next.map fun (more, rest) => (List.replicate run quote ++ text ++ more, rest)
      if folding && isSpace c then blockString quote true run rest
      else if c == '\\' && quote == '"' then
        match _h : hiddenBreak? rest with
        | some rest => put [] (blockString quote true 0 rest)
        | none =>
          match _h : escape rest with
          | none => none
          | some (c, rest) => put [c] (blockString quote false 0 rest)
      else if isPlain c then put [c] (blockString quote false 0 rest)
      else
        match _h : lineBreak? (c :: rest) with
        | none => none
        | some rest =>
          if folding then blockString quote true run rest
          else put ['\n'] (blockString quote false 0 rest)
termination_by cs.length
decreasing_by
  · exact Nat.lt_succ_self _
  · exact Nat.lt_succ_self _
  · exact Nat.lt_succ_of_lt (length_lt_of_hiddenBreak? _h)
  · exact Nat.lt_succ_of_lt (length_lt_of_escape _h)
  · exact Nat.lt_succ_self _
  · exact length_lt_of_lineBreak? _h
  · exact length_lt_of_lineBreak? _h

/-- A string over several lines, without a line break right behind its opening quotes. -/
def block (quote : Char) : Reader (List Char) := fun cs =>
  blockString quote false 0 ((lineBreak? cs).getD cs)

def string : Reader (List Char)
  | '"' :: '"' :: '"' :: rest => block '"' rest
  | '\x27' :: '\x27' :: '\x27' :: rest => block '\x27' rest
  | '"' :: rest => lineString '"' rest
  | '\x27' :: rest => lineString '\x27' rest
  | _ => none

/-! ## Lines -/

def value : Reader Value := fun cs =>
  match cs.head? with
  | some '"' | some '\x27' => (string cs).map fun (text, rest) => (.text (String.ofList text), rest)
  | _ => integer cs

def key : Reader String
  | '"' :: rest => (lineString '"' rest).map fun (text, rest) => (String.ofList text, rest)
  | '\x27' :: rest => (lineString '\x27' rest).map fun (text, rest) => (String.ofList text, rest)
  | cs =>
    match cs.span isBare with
    | ([], _) => none
    | (name, rest) => some (String.ofList name, rest)

/-- What follows the end of a line, before which a comment may stand. -/
def lineEnd? (cs : List Char) : Option (List Char) :=
  let rest :=
    match skipSpaces cs with
    | '#' :: rest => rest.dropWhile isPlain
    | rest => rest
  if rest.isEmpty then some [] else lineBreak? rest

/-- A line that sets a key. -/
def setting : Reader (String × Value) := fun cs => do
  let (name, rest) ← key cs
  match skipSpaces rest with
  | '=' :: rest =>
    let (value, rest) ← value (skipSpaces rest)
    let rest ← lineEnd? rest
    some ((name, value), rest)
  | _ => none

/-- The settings of at most `count` lines, in their order. -/
def lines : Nat → List Char → Option (List (String × Value))
  | 0, cs => if cs.isEmpty then some [] else none
  | count + 1, cs =>
    if cs.isEmpty then some []
    else
      match lineEnd? cs with
      | some rest => lines count rest
      | none => do
        let (entry, rest) ← setting (skipSpaces cs)
        let more ← lines count rest
        some (entry :: more)

/-- A byte order mark may stand before the first line. -/
def dropMark : List Char → List Char
  | '\ufeff' :: rest => rest
  | cs => cs

end Document

/-- The settings with one of them set, if there is one of that name and the value fits it. -/
def set? (s : Settings) : String × Document.Value → Option Settings
  | ("default_timeout_ms", .integer n) =>
    if 0 ≤ n then some { s with defaultTimeoutMs := some (UInt64.ofNat n.toNat) } else none
  | ("default_retries", .integer n) =>
    if 0 ≤ n ∧ n < 2 ^ 32 then some { s with defaultRetries := UInt32.ofNat n.toNat } else none
  | ("retry_delay_ms", .integer n) =>
    if 0 ≤ n then some { s with retryDelayMs := UInt64.ofNat n.toNat } else none
  | ("default_session_id", .text t) => some { s with defaultSessionId := some t }
  | _ => none

/-- The settings of a document; what it does not set keeps its default. -/
def ofDocument? (text : String) : Option Settings := do
  let entries ← Document.lines (text.length + 1) (Document.dropMark text.toList)
  if (entries.map (·.1)).Nodup then entries.foldlM set? {} else none

/-! ## Where settings come from -/

/-- The settings of a file with that content; a file without content could not be read. -/
def ofFile : Option String → Except SettingsError Settings
  | none => .error .unreadable
  | some text =>
    match ofDocument? text with
    | some s => .ok s
    | none => .error .malformed

/-- The settings of a file, if there is one, with the overrides of an environment. -/
def resolve (file : Option (Option String)) (env : Environment) :
    Except SettingsError Settings := do
  let base ←
    match file with
    | none => pure {}
    | some content => ofFile content
  base.withOverrides env

end SimControl.Settings
