import SimControl.Proofs.Catalog.Shape
import SimControl.Proofs.Json.Schema
import SimControl.Registry.ToolSchema

/-!
# What tools accept

The type of a parameter is read twice: as a test of values, and as a schema that is published with the tool.
`valid_property` says that both accept the same values, and `inputSchema_accepts` that a tool accepts the same calls
by its published schema as by its declared parameters.
-/

namespace SimControl

open Json

namespace ToolSchema

variable {value : Json}

/-! ## Properties -/

theorem valid_primitive (type description : String) :
    valid (.record [("type", .string type), ("description", .string description)]) value = value.hasType type := by
  refine Bool.eq_iff_iff.2 ((valid_record (by simp)).trans ?_)
  simp [meetsType]

theorem valid_list (type description : String) :
    valid (.record [("type", .string "array"), ("items", .record [("type", .string type)]),
      ("description", .string description)]) value = true ↔
        ∃ items, value = .array items ∧ ∀ item ∈ items, item.hasType type = true := by
  have hitem : ∀ item : Json, valid (.record [("type", .string type)]) item = item.hasType type := by
    intro item
    refine Bool.eq_iff_iff.2 ((valid_record (by simp)).trans ?_)
    simp [meetsType]
  rw [valid_record (by simp)]
  cases value with
  | array items => simp [meetsType, hasType, hitem]
  | _ => simp [meetsType, hasType]

theorem valid_choice (choices : List String) (description : String) :
    valid (.record [("type", .string "string"), ("description", .string description), ("enum", ofStrings choices)])
      value = true ↔ ∃ s ∈ choices, value = .string s := by
  rw [valid_record (by simp)]
  constructor
  · intro h
    have henum : meets "enum" (ofStrings choices) value = true := h ("enum", ofStrings choices) (by simp)
    exact meetsEnum_ofStrings.1 (meets_enum ▸ henum)
  · rintro ⟨s, hs, rfl⟩
    have henum : meetsEnum (ofStrings choices) (.string s) = true := meetsEnum_ofStrings.2 ⟨s, hs, rfl⟩
    simp [meetsType, hasType, henum]

/-- The schema of a parameter accepts what its type accepts. -/
theorem valid_property (type : Option ParameterType) (description : Option String) (value : Json) :
    valid (property type description) value = (type.getD .string).accepts value := by
  cases type with
  | none =>
      exact (valid_primitive ..).trans hasType_string
  | some type =>
      cases type with
      | string => exact (valid_primitive ..).trans hasType_string
      | timeString => exact (valid_primitive ..).trans hasType_string
      | number => exact (valid_primitive ..).trans hasType_number
      | boolean => exact (valid_primitive ..).trans hasType_boolean
      | stringArray =>
          refine Bool.eq_iff_iff.2 ((valid_list ..).trans ?_)
          cases value <;> simp [ParameterType.accepts, hasType_string]
      | numberArray =>
          refine Bool.eq_iff_iff.2 ((valid_list ..).trans ?_)
          cases value <;> simp [ParameterType.accepts, hasType_number]
      | choice choices =>
          refine Bool.eq_iff_iff.2 ((valid_choice ..).trans ?_)
          cases value <;> simp [ParameterType.accepts]

/-! ## Calls -/

theorem get?_propertiesOf {entry : Entry} {name : String} (hname : name ∈ entry.parameterNames) :
    (propertiesOf entry).get? name =
      some (property ((entry.parameter? name).map (·.type)) ((entry.parameter? name).bind (·.description))) := by
  have hne : entry.parameterNames.isEmpty = false := by
    rw [List.isEmpty_eq_false_iff_exists_mem]
    exact ⟨name, hname⟩
  rw [propertiesOf, hne]
  exact (Dictionary.get?_ofList_map _ _ _).trans (if_pos hname)

/-- There is a property for each parameter, or the placeholder. -/
theorem mem_keys_propertiesOf {entry : Entry} {name : String} :
    name ∈ (propertiesOf entry).keys ↔
      if entry.parameterNames = [] then name = placeholder else name ∈ entry.parameterNames := by
  rw [Dictionary.mem_keys_iff]
  split
  · rename_i hempty
    rw [propertiesOf, hempty]
    simp [Dictionary.ofList, Dictionary.insertAll]
  · rename_i hne
    constructor
    · rintro ⟨schema, hschema⟩
      rw [propertiesOf, List.isEmpty_eq_false_iff.2 hne] at hschema
      have hget := (Dictionary.get?_ofList_map _ _ name).symm.trans hschema
      split at hget
      · assumption
      · cases hget
    · exact fun hname => ⟨_, get?_propertiesOf hname⟩

/-- A tool asks for its required parameters, and of each property what its schema says. -/
theorem valid_inputSchema (s : ToolSchema) (m : Params) :
    valid s.inputSchema (.ofParams m) = true ↔
      (∀ name ∈ s.required, name ∈ m.keys) ∧
        ∀ name schema value, s.properties.get? name = some schema → m.get? name = some value →
          valid schema value = true := by
  have hkeywords : valid s.inputSchema (.ofParams m) = true ↔
      meetsProperties s.properties.entries m.entries = true ∧
        meetsRequired (ofStrings s.required) (.object m.entries) = true := by
    rw [inputSchema, valid_object]
    simp [meetsType, hasType, ofParams]
  have hrequired : meetsRequired (ofStrings s.required) (.object m.entries) = true ↔
      ∀ name ∈ s.required, name ∈ m.keys := by
    rw [meetsRequired_ofStrings]
    exact forall₂_congr fun name _ => Option.isSome_iff_exists.trans Dictionary.mem_keys_iff.symm
  have hproperties : meetsProperties s.properties.entries m.entries = true ↔
      ∀ name schema value, s.properties.get? name = some schema → m.get? name = some value →
        valid schema value = true := by
    rw [meetsProperties_iff]
    constructor
    · intro h name schema value hschema hvalue
      exact h (name, schema) (Dictionary.mem_entries_iff.2 hschema) value hvalue
    · rintro h ⟨name, schema⟩ hentry value hvalue
      exact h name schema value (Dictionary.mem_entries_iff.1 hentry) hvalue
  rw [hkeywords, hrequired, hproperties, and_comm]

/-- The published schema of a command has a property for each of its parameters, or the placeholder if it has none,
and requires only parameters that it has. It accepts a call with parameters of the command if and only if all required
ones are there and each value has the type of its parameter. -/
theorem inputSchema_accepts (d : Definition) :
    let schema := (ofDefinition d).inputSchema
    (∃ properties : Params, schema.field? "properties" = some (.ofParams properties) ∧
      (∀ name, name ∈ properties.keys ↔
        if d.entry.parameterNames = [] then name = placeholder else name ∈ d.entry.parameterNames) ∧
      ∃ required, schema.field? "required" = some (ofStrings required) ∧
        ∀ name ∈ required, name ∈ properties.keys) ∧
    ∀ m : Params, (∀ name ∈ m.keys, name ∈ d.entry.parameterNames) →
      (valid schema (.ofParams m) = true ↔
        (∀ name ∈ d.entry.required, name ∈ m.keys) ∧
          ∀ name value, m.get? name = some value → (d.entry.typeOf name).accepts value = true) := by
  intro schema
  refine ⟨⟨propertiesOf d.entry, rfl, fun name => mem_keys_propertiesOf, d.entry.required, rfl, ?_⟩, ?_⟩
  · intro name hname
    have hdeclared : name ∈ d.entry.parameterNames := List.mem_append_left _ hname
    exact mem_keys_propertiesOf.2 (if_neg (List.ne_nil_of_mem hdeclared) ▸ hdeclared)
  · intro m hdeclared
    refine (valid_inputSchema _ m).trans (and_congr_right fun _ => ⟨fun h name value hvalue => ?_, ?_⟩)
    · have hname := hdeclared name (Dictionary.mem_keys_iff.2 ⟨value, hvalue⟩)
      have hvalid := h name _ value (get?_propertiesOf hname) hvalue
      rwa [valid_property] at hvalid
    · intro h name schema value hschema hvalue
      have hname := hdeclared name (Dictionary.mem_keys_iff.2 ⟨value, hvalue⟩)
      obtain rfl := Option.some.inj ((get?_propertiesOf hname).symm.trans hschema)
      rw [valid_property]
      exact h name value hvalue

/-- Taps are told in points or in pixels. -/
theorem inputSchema_accepts_tap :
    let tap : Definition := ⟨Catalog.Ui.tap, []⟩
    let call (units : String) : Params :=
      .ofList [("x", .ofUInt64 100), ("y", .ofUInt64 200), ("coordinateUnits", .string units)]
    (∀ units ∈ ["pixels", "inches"], ∀ name ∈ (call units).keys, name ∈ tap.entry.parameterNames) ∧
      valid (ofDefinition tap).inputSchema (.ofParams (call "pixels")) = true ∧
        valid (ofDefinition tap).inputSchema (.ofParams (call "inches")) = false := by
  intro tap call
  have hdeclared : ∀ units ∈ ["pixels", "inches"], ∀ name ∈ (call units).keys, name ∈ tap.entry.parameterNames := by
    decide
  have haccepts := fun units hunits => (inputSchema_accepts tap).2 (call units) (hdeclared units hunits)
  refine ⟨hdeclared, (haccepts "pixels" (by simp)).2 ⟨by decide, ?_⟩, Bool.eq_false_iff.2 fun hvalid => ?_⟩
  · intro name value hvalue
    have hall : ∀ e ∈ (call "pixels").entries, (tap.entry.typeOf e.1).accepts e.2 = true := by decide
    exact hall (name, value) (Dictionary.mem_entries_iff.2 hvalue)
  · have hinches : (tap.entry.typeOf "coordinateUnits").accepts (.string "inches") = true :=
      ((haccepts "inches" (by simp)).1 hvalid).2 "coordinateUnits" _ rfl
    exact absurd hinches (by decide)

end ToolSchema

end SimControl
