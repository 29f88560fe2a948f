import SimControl.Registry.Basic

/-!
# Finding commands

A listing of all commands, and completions of a partial instruction.
-/

namespace SimControl

/-- A line of the listing of commands. -/
structure CommandSummary where
  name : String
  tool : String
  kind : CommandKind
  description : String
  required : List String
  optional : List String
  deriving DecidableEq, Repr

def Definition.summary (d : Definition) : CommandSummary :=
  ⟨d.name, d.tool, d.kind, d.entry.description, d.entry.required, d.entry.optional⟩

def CommandSummary.toJson (s : CommandSummary) : Json :=
  .object [("name", .string s.name), ("tool", .string s.tool), ("command", .string s.kind.label),
    ("description", .string s.description), ("requiredParameters", Json.ofStrings s.required),
    ("optionalParameters", Json.ofStrings s.optional)]

def Registry.Recognition.toJson (r : Recognition) : Json :=
  .object [("command", .string r.kind.label), ("name", .string r.name),
    ("params", Json.ofParams r.params)]

/-- Whether one text occurs in another. -/
def Text.occursIn (needle : List Char) : List Char → Bool
  | [] => needle.isEmpty
  | c :: rest => needle.isPrefixOf (c :: rest) || occursIn needle rest

namespace Registry

def summaries (r : Registry) : List CommandSummary :=
  r.definitions.map Definition.summary

def maxSuggestions : Nat :=
  5

/-- Offered for a blank partial text. -/
def defaultSuggestions : List String :=
  ["create session", "list simulators", "install app", "launch app", "terminate session"]

/-- Adds matching phrases to the ones already kept, each once, until there are enough. -/
def collectSuggestions (needle : List Char) : List String → List String → List String
  | kept, [] => kept
  | kept, phrase :: rest =>
    if Text.occursIn needle (Text.lower phrase.toList) && !kept.contains phrase then
      let kept := kept ++ [phrase]
      if kept.length == maxSuggestions then kept else collectSuggestions needle kept rest
    else collectSuggestions needle kept rest

/-- Up to five names or examples that hold the partial text, whatever its case. -/
def suggest (r : Registry) (partialText : String) : List String :=
  let needle := Text.lower (Text.trim partialText.toList)
  if needle.isEmpty then defaultSuggestions
  else collectSuggestions needle [] (r.definitions.flatMap (·.phrases))

end Registry

end SimControl
