import SimControl.Catalog.Domain
import SimControl.Proofs.Dictionary

/-!
# Shapes of parameters

A definition says of each parameter of what type it is and which extractor gives its value. If the two belong
together, the value has the type, whatever the match was: `accepts_of_parameterValue?`. No value is null, whether they
do or not.
-/

namespace SimControl

open Pattern

/-! ## Types and extractors -/

namespace ParameterType

/-- The extractors that give values of a type. Texts can also do without one; a choice has none, since no extractor
knows the choices. -/
def extractors : ParameterType → List (Option Extractor)
  | .string => [some .trimmed, some .uppercase, some .lowercase, none]
  | .timeString => [some .trimmed, some .uppercase, some .lowercase, none]
  | .number => [some .integer, some .optionalInteger, some .decimal]
  | .boolean => [some .flag]
  | .stringArray => [some .stringList, some .lowercaseList]
  | .numberArray => [some .integerList]
  | .choice _ => []

end ParameterType

namespace Extractor

def valueType : Extractor → ParameterType
  | .trimmed => .string
  | .uppercase => .string
  | .lowercase => .string
  | .integer => .number
  | .optionalInteger => .number
  | .decimal => .number
  | .integerList => .numberArray
  | .stringList => .stringArray
  | .lowercaseList => .stringArray
  | .flag => .boolean

theorem isNumber_of_integerValue? {cs : List Char} {value : Json} (h : integerValue? cs = some value) :
    value.isNumber = true := by
  obtain ⟨n, -, rfl⟩ := Option.map_eq_some_iff.1 h
  rfl

theorem all_isNumber_of_mapM {words : List (List Char)} {values : List Json}
    (h : words.mapM integerValue? = some values) : values.all Json.isNumber = true := by
  induction words generalizing values with
  | nil =>
      obtain rfl : [] = values := Option.some.inj h
      rfl
  | cons word words ih =>
      rw [List.mapM_cons] at h
      obtain ⟨value, hvalue, h⟩ := Option.bind_eq_some_iff.1 h
      obtain ⟨rest, hrest, h⟩ := Option.bind_eq_some_iff.1 h
      obtain rfl : value :: rest = values := Option.some.inj h
      rw [List.all_cons, isNumber_of_integerValue? hvalue, ih hrest]
      rfl

theorem all_isString_text (f : List Char → List Char) (words : List (List Char)) :
    (words.map fun word => text (f word)).all Json.isString = true := by
  rw [List.all_map]
  exact List.all_eq_true.2 fun _ _ => rfl

/-- Whatever an extractor gives has its type. -/
theorem accepts_of_apply {extractor : Extractor} {m : Match} {name : String} {value : Json}
    (h : extractor.apply m name = some value) : extractor.valueType.accepts value = true := by
  cases extractor with
  | trimmed | uppercase | lowercase =>
      obtain ⟨cs, -, rfl⟩ := Option.map_eq_some_iff.1 h
      rfl
  | integer =>
      simp only [apply] at h
      cases hcaptured : captured? m name with
      | some cs =>
          rw [hcaptured] at h
          exact isNumber_of_integerValue? h
      | none =>
          rw [hcaptured] at h
          exact Option.some.inj h ▸ rfl
  | optionalInteger =>
      obtain ⟨cs, -, hvalue⟩ := Option.bind_eq_some_iff.1 h
      exact isNumber_of_integerValue? hvalue
  | decimal =>
      simp only [apply] at h
      cases hcaptured : captured? m name with
      | some cs =>
          rw [hcaptured] at h
          obtain ⟨x, -, rfl⟩ := Option.map_eq_some_iff.1 h
          rfl
      | none =>
          rw [hcaptured] at h
          exact Option.some.inj h ▸ rfl
  | integerList =>
      obtain ⟨cs, -, hvalue⟩ := Option.bind_eq_some_iff.1 h
      obtain ⟨values, hvalues, rfl⟩ := Option.map_eq_some_iff.1 hvalue
      exact all_isNumber_of_mapM hvalues
  | stringList =>
      obtain ⟨cs, -, rfl⟩ := Option.map_eq_some_iff.1 h
      exact all_isString_text id _
  | lowercaseList =>
      obtain ⟨cs, -, rfl⟩ := Option.map_eq_some_iff.1 h
      exact all_isString_text Text.lower _
  | flag =>
      obtain ⟨cs, -, rfl⟩ := Option.map_eq_some_iff.1 h
      rfl

end Extractor

namespace ParameterType

theorem isNull_of_accepts {type : ParameterType} {value : Json} (h : type.accepts value = true) :
    value.isNull = false := by
  cases value with
  | null => cases type <;> cases h
  | _ => rfl

theorem accepts_of_mem_extractors {type : ParameterType} {extractor : Extractor}
    (h : some extractor ∈ type.extractors) : type.accepts = extractor.valueType.accepts := by
  cases type with
  | choice => cases h
  | _ => cases extractor <;> first | rfl | exact absurd h (by decide)

theorem accepts_text {type : ParameterType} (h : none ∈ type.extractors) (cs : List Char) :
    type.accepts (Extractor.text cs) = true := by
  cases type with
  | string | timeString => rfl
  | choice => cases h
  | _ => exact absurd h (by decide)

end ParameterType

/-! ## Declared parameters -/

namespace Entry

/-- The declared type of a parameter; one that is not described is a text. -/
def typeOf (entry : Entry) (name : String) : ParameterType :=
  ((entry.parameter? name).map (·.type)).getD .string

def extractorOf (entry : Entry) (name : String) : Option Extractor :=
  (entry.parameter? name).bind (·.extractor)

/-- The extractor of a parameter gives values of its type. -/
def Pairs (entry : Entry) (name : String) : Prop :=
  entry.extractorOf name ∈ (entry.typeOf name).extractors

instance (entry : Entry) (name : String) : Decidable (entry.Pairs name) :=
  inferInstanceAs (Decidable (_ ∈ _))

end Entry

/-- In the built-in catalog an extractor stands with a type that it gives values of, or with a choice. -/
theorem Domain.pairs (domain : Domain) : ∀ entry ∈ domain.entries, ∀ name ∈ entry.parameterNames,
    entry.extractorOf name ≠ none → (entry.typeOf name).label = "choice" ∨ entry.Pairs name := by
  cases domain <;> decide +kernel

namespace Definition

/-- All declared parameters of a match, and no others. -/
theorem get?_extract (d : Definition) (m : Match) (name : String) :
    (d.extract m).get? name = if name ∈ d.entry.parameterNames then d.parameterValue? m name else none :=
  Dictionary.get?_ofList_filterMap (d.parameterValue? m) d.entry.parameterNames name

theorem parameterValue?_eq (d : Definition) (m : Match) (name : String) :
    d.parameterValue? m name =
      match d.entry.extractorOf name with
      | some extractor => extractor.apply m name
      | none => (m.group? name).map Extractor.text := rfl

variable {d : Definition} {m : Match} {name : String} {value : Json}

theorem isNull_of_parameterValue? (h : d.parameterValue? m name = some value) : value.isNull = false := by
  rw [parameterValue?_eq] at h
  cases hextractor : d.entry.extractorOf name with
  | some extractor =>
      rw [hextractor] at h
      exact ParameterType.isNull_of_accepts (Extractor.accepts_of_apply h)
  | none =>
      rw [hextractor] at h
      obtain ⟨cs, -, rfl⟩ := Option.map_eq_some_iff.1 h
      rfl

theorem accepts_of_parameterValue? (hpairs : d.entry.Pairs name) (h : d.parameterValue? m name = some value) :
    (d.entry.typeOf name).accepts value = true := by
  rw [parameterValue?_eq] at h
  rw [Entry.Pairs] at hpairs
  cases hextractor : d.entry.extractorOf name with
  | some extractor =>
      rw [hextractor] at h hpairs
      rw [ParameterType.accepts_of_mem_extractors hpairs]
      exact Extractor.accepts_of_apply h
  | none =>
      rw [hextractor] at h hpairs
      obtain ⟨cs, -, rfl⟩ := Option.map_eq_some_iff.1 h
      exact ParameterType.accepts_text hpairs _

/-- What a match gives for a parameter is declared, not null and, if type and extractor belong together, of the type. -/
theorem shape_of_get?_extract (h : (d.extract m).get? name = some value) :
    (name ∈ d.entry.required ∨ name ∈ d.entry.optional) ∧ value.isNull = false ∧
      (d.entry.Pairs name → (d.entry.typeOf name).accepts value = true) := by
  rw [d.get?_extract m name] at h
  split at h
  · rename_i hname
    exact ⟨List.mem_append.1 hname, isNull_of_parameterValue? h, fun hpairs => accepts_of_parameterValue? hpairs h⟩
  · cases h

end Definition

end SimControl
