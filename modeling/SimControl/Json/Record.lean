import SimControl.Json.Reader

/-!
# Reading records

A record has fields of known names. It is written as an object, whose other fields do not count,
or as an array of the fields' values in their order. A known field may not come twice.
-/

namespace SimControl.Json.Reader

/-- The items of an array after its opening bracket, at most one for each reader. -/
def tuple : List (String × Reader α) → Reader (List (String × α)) := fun readers cs =>
  match skipBlank cs with
  | ']' :: rest => some ([], rest)
  | rest => places readers rest
where
  places : List (String × Reader α) → Reader (List (String × α))
    | [], _ => none
    | (name, reader) :: readers, cs => do
      let (first, rest) ← reader (skipBlank cs)
      match skipBlank rest with
      | ',' :: rest =>
        let (more, rest) ← places readers rest
        some ((name, first) :: more, rest)
      | ']' :: rest => some ([(name, first)], rest)
      | _ => none

/-- The known fields of a record. -/
def record (readers : List (String × Reader α)) (count : Nat) : Reader (List (String × α))
  | '[' :: rest => tuple readers rest
  | '\x7b' :: rest =>
    let field (key : String) : Reader (Option α) := fun cs =>
      match readers.lookup key with
      | some reader => (reader cs).map fun (a, rest) => (some a, rest)
      | none => (value false count count cs).map fun (_, rest) => (none, rest)
    match objectBody true field count rest with
    | none => none
    | some (fields, rest) =>
      let known := fields.filterMap fun (key, a) => a.map (key, ·)
      if (known.map (·.1)).Nodup then some (known, rest) else none
  | _ => none

/-- A value in canonical form that stands inside `depth` containers. -/
def valueInside (depth count : Nat) : Reader Json := fun cs =>
  (value true count (maxDepth - depth) cs).map fun (j, rest) => (j.canonical, rest)

end SimControl.Json.Reader
