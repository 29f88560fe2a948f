import SimControl.Text.Blank

/-!
# Words and switches

Arguments are words and switches. A switch is a flag, `--name` or a letter in a cluster such as
`-ab`, or an option with a value, `--name=value` or `--name value`. The value of the second form
does not look like a switch. A lone `-` is a word, and behind a `--` everything is. No switch may be
given twice.
-/

namespace SimControl.CommandLine

inductive SwitchKind where
  | flag
  /-- A flag behind which nothing is read any more. -/
  | final
  | option (accepts : String → Bool)

structure Switch where
  name : String
  letter : Option Char := none
  kind : SwitchKind

/-- The switches given, with their values, and the words, in their order. -/
structure Reading where
  given : List (String × String) := []
  words : List String := []

namespace Reading

def has (r : Reading) (name : String) : Bool :=
  (r.given.lookup name).isSome

def value? (r : Reading) (name : String) : Option String :=
  r.given.lookup name

/-- One more switch, unless it has been given before. -/
def give? (r : Reading) (name value : String) : Option Reading :=
  if r.has name then none else some { r with given := r.given ++ [(name, value)] }

def addWord (r : Reading) (word : String) : Reading :=
  { r with words := r.words ++ [word] }

end Reading

/-- Where a reading has come to. -/
inductive Progress where
  /-- A final flag has been read. -/
  | stopped (name : String)
  | read (reading : Reading) (rest : List String)

/-! ## Arguments -/

/-- What an argument looks like. -/
inductive Shape where
  | word
  | separator
  | long (name : String) (value : Option String)
  | cluster (letters : List Char)

def shape (arg : String) : Shape :=
  match arg.toList with
  | ['-', '-'] => .separator
  | '-' :: '-' :: body =>
    match body.span (· != '=') with
    | (name, '=' :: value) => .long (String.ofList name) (some (String.ofList value))
    | (name, _) => .long (String.ofList name) none
  | '-' :: c :: letters => .cluster (c :: letters)
  | _ => .word

def isWord (arg : String) : Bool :=
  match shape arg with
  | .word => true
  | _ => false

def named? (switches : List Switch) (name : String) : Option Switch :=
  switches.find? fun s => s.name == name

def lettered? (switches : List Switch) (letter : Char) : Option Switch :=
  switches.find? fun s => s.letter == some letter

/-- Reads the letters of a cluster, all of which have to be flags. -/
def readCluster (switches : List Switch) : List Char → Reading → Option Progress
  | [], reading => some (.read reading [])
  | letter :: letters, reading =>
    match lettered? switches letter with
    | none => none
    | some switch =>
      match switch.kind with
      | .final => some (.stopped switch.name)
      | .flag => (reading.give? switch.name "").bind (readCluster switches letters)
      | .option _ => none

/-- Reads arguments: all of them, or those before the first word. -/
def readArguments (switches : List Switch) (beforeWord : Bool) :
    List String → Reading → Option Progress
  | [], reading => some (.read reading [])
  | arg :: rest, reading =>
    match shape arg with
    | .word =>
      if beforeWord then some (.read reading (arg :: rest))
      else readArguments switches beforeWord rest (reading.addWord arg)
    | .separator =>
      if beforeWord then none else some (.read (rest.foldl Reading.addWord reading) [])
    | .cluster letters =>
      match readCluster switches letters reading with
      | some (.read reading _) => readArguments switches beforeWord rest reading
      | other => other
    | .long name value =>
      match named? switches name with
      | none => none
      | some switch =>
        match switch.kind, value, rest with
        | .final, none, _ => some (.stopped name)
        | .flag, none, rest => (reading.give? name "").bind (readArguments switches beforeWord rest)
        | .option accepts, some value, rest =>
          if accepts value then
            (reading.give? name value).bind (readArguments switches beforeWord rest)
          else none
        | .option accepts, none, value :: rest =>
          if isWord value && accepts value then
            (reading.give? name value).bind (readArguments switches beforeWord rest)
          else none
        | _, _, _ => none

end SimControl.CommandLine
