import SimControl.Catalog.Domain
import SimControl.Envelope

/-!
# The registry

A registry holds the groups of definitions in the order in which they were registered, and three
indexes over them: the keys of the groups, the group that owns each kind of command, and the kind
behind each tool identifier. `register` adds a whole group or nothing: no two registered
definitions share a kind or a tool identifier.
-/

namespace SimControl

inductive RegistryError where
  | duplicateGroupKey (key : String)
  | duplicateCommand (kind : CommandKind) (group : String)
  | duplicateTool (tool : String) (group : String)
  | unrecognizedInstruction (text : String)
  | unknownTool (tool : String)
  deriving DecidableEq, Repr

namespace RegistryError

def message : RegistryError → String
  | .duplicateGroupKey key => "Command group '" ++ key ++ "' is already registered"
  | .duplicateCommand kind group =>
    "Command " ++ kind.label ++ " is already declared by group '" ++ group ++ "'"
  | .duplicateTool tool group =>
    "Tool \"" ++ tool ++ "\" is already declared by group '" ++ group ++ "'"
  | .unrecognizedInstruction text => "Could not understand the instruction: " ++ text
  | .unknownTool tool => "Could not map tool \"" ++ tool ++ "\" to a command"

def code : RegistryError → String
  | .duplicateGroupKey _ => Code.invalidCatalog
  | .duplicateCommand _ _ => Code.invalidCatalog
  | .duplicateTool _ _ => Code.invalidCatalog
  | .unrecognizedInstruction _ => Code.unrecognizedInstruction
  | .unknownTool _ => Code.unknownTool

end RegistryError

structure Registry where
  groups : List Group
  keys : List String
  /-- The key of the group that declares each kind. -/
  owners : List (CommandKind × String)
  tools : Dictionary CommandKind

namespace Registry

def empty : Registry :=
  ⟨[], [], [], .empty⟩

/-- All definitions, in the order of registration and then of declaration. -/
def definitions (r : Registry) : List Definition :=
  r.groups.flatMap (·.definitions)

/-! ## Registration -/

def owner? (r : Registry) (kind : CommandKind) : Option String :=
  r.owners.lookup kind

/-- The group that declares the command behind a tool. -/
def toolOwner? (r : Registry) (tool : String) : Option String :=
  (r.tools.get? tool).bind r.owner?

/-- What stands against one more definition of the group `key`, whose tools and kinds so far are
given. A tool goes before a kind, and a registered definition before one of the same group. -/
def conflictOf? (r : Registry) (key : String) (tools : List String) (kinds : List CommandKind)
    (d : Definition) : Option RegistryError :=
  match r.toolOwner? d.tool with
  | some owner => some (.duplicateTool d.tool owner)
  | none =>
    if tools.contains d.tool then some (.duplicateTool d.tool key)
    else
      match r.owner? d.kind with
      | some owner => some (.duplicateCommand d.kind owner)
      | none => if kinds.contains d.kind then some (.duplicateCommand d.kind key) else none

/-- The first conflict among the definitions of a group. -/
def conflict? (r : Registry) (key : String) (tools : List String) (kinds : List CommandKind) :
    List Definition → Option RegistryError
  | [] => none
  | d :: rest =>
    match r.conflictOf? key tools kinds d with
    | some error => some error
    | none => r.conflict? key (d.tool :: tools) (d.kind :: kinds) rest

/-- The registry with one more group, whatever it holds. -/
def addGroup (r : Registry) (group : Group) : Registry where
  groups := r.groups ++ [group]
  keys := r.keys ++ [group.key]
  owners := group.definitions.foldl (fun owners d => (d.kind, group.key) :: owners) r.owners
  tools := group.definitions.foldl (fun tools d => tools.insert d.tool d.kind) r.tools

/-- Adds a group behind all others, unless it conflicts with what is registered. -/
def register (r : Registry) (group : Group) : Except RegistryError Registry :=
  if r.keys.contains group.key then .error (.duplicateGroupKey group.key)
  else
    match r.conflict? group.key [] [] group.definitions with
    | some error => .error error
    | none => .ok (r.addGroup group)

/-- Registers groups one after the other. -/
def registerAll (r : Registry) (groups : List Group) : Except RegistryError Registry :=
  groups.foldlM register r

/-! ## Look-up -/

def toolKind (r : Registry) (tool : String) : Except RegistryError CommandKind :=
  match r.tools.get? tool with
  | some kind => .ok kind
  | none => .error (.unknownTool tool)

def definition? (r : Registry) (kind : CommandKind) : Option Definition :=
  r.definitions.find? fun d => d.kind == kind

def toolDefinition? (r : Registry) (tool : String) : Option Definition :=
  (r.tools.get? tool).bind r.definition?

/-! ## Recognition -/

/-- A recognized instruction: what to do, under which name, with which parameters. -/
structure Recognition where
  kind : CommandKind
  name : String
  params : Params

/-- The first definition that matches a text, and its match. -/
def firstMatch? (r : Registry) (text : List Char) : Option (Definition × Pattern.Match) :=
  r.definitions.findSome? fun d => (d.match? text).map fun m => (d, m)

/-- The instruction that a text gives; blank text gives none. -/
def recognize? (r : Registry) (text : String) : Option Recognition :=
  let text := Text.trim text.toList
  if text.isEmpty then none
  else (r.firstMatch? text).map fun (d, m) => ⟨d.kind, d.name, d.extract m⟩

/-- What is said of a text that gives no instruction. -/
def noMatchMessage : String :=
  "No pattern matched the instruction"

def resolve (r : Registry) (text : String) : Except RegistryError Recognition :=
  match r.recognize? text with
  | some recognition => .ok recognition
  | none => .error (.unrecognizedInstruction text)

/-! ## The built-in registry -/

inductive CatalogError where
  | invalidPattern (error : InvalidPattern)
  | conflict (error : RegistryError)
  deriving DecidableEq, Repr

/-- Reads and registers the built-in domains in their order. -/
def ofDomains (domains : List Domain) : Except CatalogError Registry :=
  match domains.mapM fun domain => domain.group with
  | .error error => .error (.invalidPattern error)
  | .ok groups =>
    match empty.registerAll groups with
    | .error error => .error (.conflict error)
    | .ok r => .ok r

/-- The registry of the built-in catalog, whose patterns are well-formed and without conflicts. -/
def builtin : Registry :=
  (ofDomains Domain.all).toOption.getD empty

end Registry

end SimControl
