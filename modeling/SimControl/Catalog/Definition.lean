import SimControl.Catalog.Extractor
import SimControl.Catalog.ParameterType
import SimControl.CommandKind
import SimControl.Pattern.Reader

/-!
# Definitions of commands

An `Entry` is a command as a catalog writes it. A `Definition` is an entry whose patterns have been
read. Definitions are registered in groups.
-/

namespace SimControl

structure Parameter where
  name : String
  type : ParameterType
  extractor : Option Extractor := none
  description : Option String := none
  deriving DecidableEq, Repr

/-- A command in a catalog. -/
structure Entry where
  name : String
  kind : CommandKind
  description : String
  /-- Recognition patterns, the most specific first. -/
  patterns : List String
  required : List String
  optional : List String
  parameters : List Parameter
  examples : List String
  deriving DecidableEq, Repr

namespace Entry

def parameter? (entry : Entry) (name : String) : Option Parameter :=
  entry.parameters.find? fun p => p.name == name

/-- Required, then optional parameters. -/
def parameterNames (entry : Entry) : List String :=
  entry.required ++ entry.optional

end Entry

/-- The identifier under which a command is offered as a tool. -/
def slugify (name : String) : String :=
  String.ofList (name.toList.map fun c => if c == ' ' then '-' else c)

/-- A pattern of the named command that is malformed. -/
structure InvalidPattern where
  command : String
  pattern : String
  deriving DecidableEq, Repr

structure Definition where
  entry : Entry
  patterns : List Pattern
  deriving DecidableEq

namespace Definition

def name (d : Definition) : String :=
  d.entry.name

def kind (d : Definition) : CommandKind :=
  d.entry.kind

def tool (d : Definition) : String :=
  slugify d.entry.name

/-- The name and the examples, which is what a person may have had in mind. -/
def phrases (d : Definition) : List String :=
  d.entry.name :: d.entry.examples

/-- Reads the patterns of an entry. -/
def ofEntry (entry : Entry) : Except InvalidPattern Definition := do
  let patterns ← entry.patterns.mapM fun text =>
    match Pattern.ofText? text with
    | some pattern => .ok pattern
    | none => .error ⟨entry.name, text⟩
  return ⟨entry, patterns⟩

/-- The match of the first pattern that has one. -/
def match? (d : Definition) (text : List Char) : Option Pattern.Match :=
  d.patterns.findSome? fun pattern => pattern.find? text

/-- The value of a parameter in a match; a parameter without extractor is the text of its group. -/
def parameterValue? (d : Definition) (m : Pattern.Match) (name : String) : Option Json :=
  match (d.entry.parameter? name).bind (·.extractor) with
  | some extractor => extractor.apply m name
  | none => (m.group? name).map Extractor.text

/-- The parameters that a match gives. -/
def extract (d : Definition) (m : Pattern.Match) : Params :=
  Dictionary.ofList (d.entry.parameterNames.filterMap fun name =>
    (d.parameterValue? m name).map fun value => (name, value))

end Definition

/-- Definitions that are registered together. -/
structure Group where
  key : String
  definitions : List Definition
  deriving DecidableEq

def Group.ofEntries (key : String) (entries : List Entry) : Except InvalidPattern Group := do
  return ⟨key, ← entries.mapM Definition.ofEntry⟩

/-- The parameter with which almost every command can name the session that it acts on. -/
def Catalog.sessionId : Parameter :=
  { name := "sessionId"
    type := .string
    description := some "Simulator session to act on. Falls back to the current session." }

end SimControl
