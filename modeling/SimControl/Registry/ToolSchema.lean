import SimControl.Registry.Basic

/-!
# Tools

Each definition is offered as a tool: its identifier, its name as a title, and a schema of its
parameters. The schema of a definition without parameters has a placeholder, since an object
without properties is not accepted everywhere.
-/

namespace SimControl

structure ToolSchema where
  name : String
  title : String
  description : String
  properties : Params
  required : List String

namespace ToolSchema

/-- The property of a tool without parameters. -/
def placeholder : String :=
  "instruction"

/-- The schema of a parameter; an undeclared type is that of a string. -/
def property (type : Option ParameterType) (description : Option String) : Json :=
  let describe (fallback : String) : String × Json :=
    ("description", .string (description.getD fallback))
  match type with
  | none => .record [("type", .string "string"), describe "Provide the relevant value."]
  | some .string => .record [("type", .string "string"), describe "Provide the relevant value."]
  | some .number => .record [("type", .string "number"), describe "Provide the relevant value."]
  | some .boolean =>
    .record [("type", .string "boolean"), describe "Provide the relevant value in lowercase."]
  | some .stringArray =>
    .record [("type", .string "array"), ("items", .record [("type", .string "string")]),
      describe "Provide an array of strings."]
  | some .numberArray =>
    .record [("type", .string "array"), ("items", .record [("type", .string "number")]),
      describe "Provide an array of numbers."]
  | some .timeString =>
    .record [("type", .string "string"),
      describe "Provide a time string such as: 1m (1 minute), or 30s (30 seconds)."]
  | some (.choice choices) =>
    .record [("type", .string "string"), describe "Choose the relevant value.",
      ("enum", Json.ofStrings choices)]

def placeholderProperty : Json :=
  .record [("type", .string "string"),
    ("description",
      .string "Placeholder property for schema purposes. This tool has no parameters.")]

/-- The schemas of the declared parameters, or the placeholder. -/
def propertiesOf (entry : Entry) : Params :=
  if entry.parameterNames.isEmpty then Dictionary.ofList [(placeholder, placeholderProperty)]
  else
    Dictionary.ofList (entry.parameterNames.map fun name =>
      let parameter := entry.parameter? name
      (name, property (parameter.map (·.type)) (parameter.bind (·.description))))

def ofDefinition (d : Definition) : ToolSchema where
  name := d.tool
  title := d.name
  description := d.entry.description
  properties := propertiesOf d.entry
  required := d.entry.required

def inputSchema (s : ToolSchema) : Json :=
  .object [("type", .string "object"), ("properties", Json.ofParams s.properties),
    ("required", Json.ofStrings s.required)]

def toJson (s : ToolSchema) : Json :=
  .object [("name", .string s.name), ("title", .string s.title),
    ("description", .string s.description), ("inputSchema", s.inputSchema)]

end ToolSchema

namespace Registry

def toolSchemas (r : Registry) : List ToolSchema :=
  r.definitions.map ToolSchema.ofDefinition

/-- The tools and what they do, for a program of the given version. -/
def toolInventory (r : Registry) (version : String) : Json :=
  .record [("binary", .string "simpilot"), ("version", .string version),
    ("count", Json.ofUInt64 (UInt64.ofNat r.definitions.length)),
    ("tools", .array (r.definitions.map fun d =>
      .record [("name", .string d.tool), ("summary", .string d.entry.description)]))]

/-- Usage notes in plain text, a line for each tool. -/
def toolInstructions (r : Registry) : String :=
  "\n".intercalate
    (["Simpilot drives an iOS simulator from natural-language instructions.",
      "Call a tool directly with structured parameters, or send free text such as " ++
        "\"tap at 100, 200\".",
      "Tools:"] ++
      r.definitions.map fun d => "- " ++ d.tool ++ ": " ++ d.entry.description)

end Registry

end SimControl
