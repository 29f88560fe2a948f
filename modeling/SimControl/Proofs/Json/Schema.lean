import SimControl.Json.Basic
import SimControl.Proofs.Dictionary

/-!
# Schemas

A schema is data that says what other data may be: an object of keywords, each of which restricts the value on its
own, or a boolean. `valid` gives the keywords `type`, `enum`, `items`, `properties` and `required` the meaning that they
have in JSON Schema; other keywords, such as `description`, ask nothing of a value. `valid_record` takes a schema apart
into its keywords.
-/

namespace SimControl

namespace Json

/-! ## Mathematical equality -/

/-- The value in units of the least positive double. -/
def Number.units : Number → Int
  | .natural n => n.toNat * Binary64.one
  | .negative n => -(n.magnitude * Binary64.one)
  | .double x => if x.negative then -x.units else x.units

mutual

/-- Equality of data for a schema: numbers count by their value, whatever their kind, and the fields of an object in
any order. -/
def equal : Json → Json → Bool
  | .null, .null => true
  | .bool a, .bool b => a == b
  | .number a, .number b => a.units == b.units
  | .string a, .string b => a == b
  | .array as, .array bs => equalItems as bs
  | .object as, .object bs => as.length == bs.length && equalFields as bs
  | _, _ => false

def equalItems : List Json → List Json → Bool
  | [], [] => true
  | a :: as, b :: bs => equal a b && equalItems as bs
  | _, _ => false

def equalFields : List (String × Json) → List (String × Json) → Bool
  | [], _ => true
  | (key, a) :: as, bs =>
    (match bs.lookup key with
      | some b => equal a b
      | none => false) && equalFields as bs

end

/-! ## Keywords -/

/-- Whether a number has no fraction, whatever its kind. -/
def Number.isWhole (n : Number) : Bool :=
  n.units % Binary64.one == 0

/-- The types of a schema. A whole number is an integer also if it is a double. -/
def hasType (value : Json) (type : String) : Bool :=
  match value with
  | .null => type == "null"
  | .bool _ => type == "boolean"
  | .number n => type == "number" || type == "integer" && n.isWhole
  | .string _ => type == "string"
  | .array _ => type == "array"
  | .object _ => type == "object"

section

variable {value : Json}

theorem hasType_string : value.hasType "string" = value.isString := by
  cases value <;> simp [hasType, isString]

theorem hasType_number : value.hasType "number" = value.isNumber := by
  cases value <;> simp [hasType, isNumber]

theorem hasType_boolean : value.hasType "boolean" = value.isBool := by
  cases value <;> simp [hasType, isBool]

end

/-- The keyword `type` names a type or several. -/
def meetsType : Json → Json → Bool
  | .string type, value => value.hasType type
  | .array types, value => types.any fun type => type.string?.any value.hasType
  | _, _ => false

def meetsEnum : Json → Json → Bool
  | .array choices, value => choices.any (equal value)
  | _, _ => false

theorem equal_string {value : Json} {s : String} : equal value (.string s) = true ↔ value = .string s := by
  cases value <;> simp [equal]

theorem meetsEnum_ofStrings {choices : List String} {value : Json} :
    meetsEnum (ofStrings choices) value = true ↔ ∃ s ∈ choices, value = .string s := by
  rw [ofStrings, meetsEnum, List.any_map, List.any_eq_true]
  exact exists_congr fun s => and_congr_right fun _ => equal_string

def meetsRequired : Json → Json → Bool
  | .array names, .object fields => names.all fun name => name.string?.any fun key => (fields.lookup key).isSome
  | .array _, _ => true
  | _, _ => false

theorem meetsRequired_ofStrings {names : List String} {fields : List (String × Json)} :
    meetsRequired (ofStrings names) (.object fields) = true ↔ ∀ name ∈ names, (fields.lookup name).isSome = true := by
  rw [ofStrings, meetsRequired, List.all_map, List.all_eq_true]
  exact Iff.rfl

mutual

/-- Whether a value is what a schema says. -/
def valid : Json → Json → Bool
  | .bool always, _ => always
  | .object keywords, value => meetsAll keywords value
  | _, _ => false

def meetsAll : List (String × Json) → Json → Bool
  | [], _ => true
  | (keyword, argument) :: rest, value =>
    (if keyword = "type" then meetsType argument value
      else if keyword = "enum" then meetsEnum argument value
      else if keyword = "required" then meetsRequired argument value
      else if keyword = "items" then
        match value with
        | .array items => items.all fun item => valid argument item
        | _ => true
      else if keyword = "properties" then
        match argument, value with
        | .object properties, .object fields => meetsProperties properties fields
        | .object _, _ => true
        | _, _ => false
      else true) && meetsAll rest value

/-- A field that a property is named after is what the property says. -/
def meetsProperties : List (String × Json) → List (String × Json) → Bool
  | [], _ => true
  | (name, schema) :: rest, fields =>
    (match fields.lookup name with
      | some value => valid schema value
      | none => true) && meetsProperties rest fields

end

/-- Whether a value is what a single keyword says. -/
def meets (keyword : String) (argument value : Json) : Bool :=
  meetsAll [(keyword, argument)] value

variable {argument value : Json}

@[simp] theorem meets_type : meets "type" argument value = meetsType argument value := by
  simp [meets, meetsAll]

@[simp] theorem meets_enum : meets "enum" argument value = meetsEnum argument value := by
  simp [meets, meetsAll]

@[simp] theorem meets_required : meets "required" argument value = meetsRequired argument value := by
  simp [meets, meetsAll]

theorem meets_other {keyword : String} (h : keyword ∉ ["type", "enum", "required", "items", "properties"]) :
    meets keyword argument value = true := by
  have hne : keyword ≠ "type" ∧ keyword ≠ "enum" ∧ keyword ≠ "required" ∧ keyword ≠ "items" ∧
      keyword ≠ "properties" := by simpa using h
  obtain ⟨htype, henum, hrequired, hitems, hproperties⟩ := hne
  rw [meets, meetsAll.eq_def]
  simp only [if_neg htype, if_neg henum, if_neg hrequired, if_neg hitems, if_neg hproperties, Bool.true_and]
  rfl

@[simp] theorem meets_description : meets "description" argument value = true :=
  meets_other (by simp)

@[simp] theorem meets_items (items : List Json) :
    meets "items" argument (.array items) = items.all fun item => valid argument item := by
  simp [meets, meetsAll]

@[simp] theorem meets_properties (properties fields : List (String × Json)) :
    meets "properties" (.object properties) (.object fields) = meetsProperties properties fields := by
  simp [meets, meetsAll]

/-! ## Schemas and their keywords -/

theorem meetsAll_iff {keywords : List (String × Json)} :
    meetsAll keywords value = true ↔ ∀ e ∈ keywords, meets e.1 e.2 value = true := by
  induction keywords with
  | nil => simp [meetsAll]
  | cons e rest ih =>
      -- `meets` is `meetsAll` of one keyword, so only the outer calls are to be opened.
      have hfirst : meetsAll (e :: rest) value = (meets e.1 e.2 value && meetsAll rest value) := by
        simp only [meets, meetsAll.eq_def [], meetsAll.eq_def (_ :: _), Bool.and_true]
      rw [hfirst, Bool.and_eq_true, ih, List.forall_mem_cons]

theorem valid_object {keywords : List (String × Json)} :
    valid (.object keywords) value = true ↔ ∀ e ∈ keywords, meets e.1 e.2 value = true := by
  rw [valid, meetsAll_iff]

/-- A schema whose keywords are written in any order. -/
theorem valid_record {keywords : List (String × Json)} (hnd : (keywords.map (·.1)).Nodup) :
    valid (.record keywords) value = true ↔ ∀ e ∈ keywords, meets e.1 e.2 value = true := by
  rw [record, ofParams, valid_object]
  exact forall_congr' fun e => imp_congr_left (Dictionary.mem_entries_ofList hnd)

theorem meetsProperties_iff {properties fields : List (String × Json)} :
    meetsProperties properties fields = true ↔
      ∀ e ∈ properties, ∀ value, fields.lookup e.1 = some value → valid e.2 value = true := by
  induction properties with
  | nil => simp [meetsProperties]
  | cons e rest ih =>
      rw [meetsProperties, Bool.and_eq_true, ih, List.forall_mem_cons]
      refine and_congr_left fun _ => ?_
      cases fields.lookup e.1 with
      | none => simp
      | some value => simp

end Json

end SimControl
