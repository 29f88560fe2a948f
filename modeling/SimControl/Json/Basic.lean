import SimControl.Dictionary
import SimControl.Json.Number

/-!
# Data values

The values of parameters, results and messages. The fields of an object are a list in the order
in which they are written, so a record can be shown in its own order; `canonical` is the form in
which data is kept: every object sorted by key, the last field of a key winning.
-/

namespace SimControl

inductive Json where
  | null
  | bool (b : Bool)
  | number (n : Json.Number)
  | string (s : String)
  | array (items : List Json)
  | object (fields : List (String × Json))

/-- The named parameters of a command. -/
abbrev Params := Dictionary Json

namespace Json

instance : Inhabited Json := ⟨.null⟩

/-! ## Building -/

def ofParams (params : Params) : Json :=
  .object params.entries

/-- An object with its keys in order. -/
def record (fields : List (String × Json)) : Json :=
  ofParams (Dictionary.ofList fields)

def ofUInt64 (n : UInt64) : Json :=
  .number (.natural n)

def ofDouble (x : Binary64) : Json :=
  .number (.double x)

def ofOption (f : α → Json) : Option α → Json
  | none => .null
  | some a => f a

def ofStrings (items : List String) : Json :=
  .array (items.map .string)

/-! ## Looking -/

def isNull : Json → Bool
  | .null => true
  | _ => false

def isString : Json → Bool
  | .string _ => true
  | _ => false

def isNumber : Json → Bool
  | .number _ => true
  | _ => false

def isBool : Json → Bool
  | .bool _ => true
  | _ => false

def string? : Json → Option String
  | .string s => some s
  | _ => none

def array? : Json → Option (List Json)
  | .array items => some items
  | _ => none

def fields? : Json → Option (List (String × Json))
  | .object fields => some fields
  | _ => none

def field? (j : Json) (key : String) : Option Json :=
  j.fields?.bind (·.lookup key)

/-! ## Equality of values -/

mutual

/-- Equality of data, in which the two zeros of a double are the same. -/
def same : Json → Json → Bool
  | .null, .null => true
  | .bool a, .bool b => a == b
  | .number a, .number b => a.same b
  | .string a, .string b => a == b
  | .array as, .array bs => sameItems as bs
  | .object as, .object bs => sameFields as bs
  | _, _ => false

def sameItems : List Json → List Json → Bool
  | [], [] => true
  | a :: as, b :: bs => same a b && sameItems as bs
  | _, _ => false

def sameFields : List (String × Json) → List (String × Json) → Bool
  | [], [] => true
  | (k, a) :: as, (l, b) :: bs => k == l && same a b && sameFields as bs
  | _, _ => false

end

/-! ## Canonical form -/

mutual

def canonical : Json → Json
  | .array items => .array (canonicalItems items)
  | .object fields => record (canonicalFields fields)
  | j => j

def canonicalItems : List Json → List Json
  | [] => []
  | j :: rest => canonical j :: canonicalItems rest

def canonicalFields : List (String × Json) → List (String × Json)
  | [] => []
  | (k, j) :: rest => (k, canonical j) :: canonicalFields rest

end

/-- The fields of an object as a dictionary, in canonical form. -/
def params? : Json → Option Params
  | .object fields => some (Dictionary.ofList (canonicalFields fields))
  | _ => none

end Json

end SimControl
