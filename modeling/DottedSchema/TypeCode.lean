/-!
# Type codes

A code such as `FLT_2D` names a kind by its first four characters; a dimension from 1 on, or the ending `ARRAY`,
says that the field holds an array of that kind.
-/
set_option autoImplicit false

namespace DottedSchema

inductive Kind where
  | record
  | string
  | float
  /-- Integer codes are flags in these schemas. -/
  | boolean
  | complex
  | constant
deriving DecidableEq

namespace Kind

def all : List Kind := [.record, .string, .float, .boolean, .complex, .constant]

def tag : Kind → String
  | .record => "STRU"
  | .string => "STR_"
  | .float => "FLT_"
  | .boolean => "INT_"
  | .complex => "CPX_"
  | .constant => "cons"

def ofTag? (tag : String) : Option Kind := all.find? (·.tag = tag)

def name : Kind → String
  | .record => "Structure"
  | .string => "String"
  | .float => "Float"
  | .boolean => "Boolean"
  | .complex => "Complex"
  | .constant => "Constant"

def isObject : Kind → Bool
  | .record => true
  | .complex => true
  | _ => false

def schemaType : Kind → String
  | .record => "object"
  | .string => "string"
  | .float => "number"
  | .boolean => "boolean"
  | .complex => "object"
  | .constant => "number"

def mappingType : Kind → String
  | .record => "object"
  | .string => "keyword"
  | .float => "double"
  | .boolean => "boolean"
  | .complex => "object"
  | .constant => "integer"

theorem ofTag?_tag (k : Kind) : ofTag? k.tag = some k := by cases k <;> decide

theorem ofTag?_eq_some_iff {tag : String} {k : Kind} : ofTag? tag = some k ↔ tag = k.tag := by
  constructor
  · intro h
    have := List.find?_some h
    simpa using (of_decide_eq_true this).symm
  · rintro rfl
    exact ofTag?_tag k

end Kind

structure TypeCode where
  kind : Kind
  isArray : Bool
deriving DecidableEq

namespace TypeCode

def hasDimension : List Char → Bool
  | c :: 'D' :: rest => (decide ('1' ≤ c) && decide (c ≤ '9')) || hasDimension ('D' :: rest)
  | _ :: rest => hasDimension rest
  | [] => false

def arrayEnding : List Char := ['A', 'R', 'R', 'A', 'Y']

def isArrayCode (code : List Char) : Bool := hasDimension code || arrayEnding.isSuffixOf code

def parse? (code : String) : Option TypeCode :=
  (Kind.ofTag? (String.ofList (code.toList.take 4))).map (⟨·, isArrayCode code.toList⟩)

end TypeCode

end DottedSchema
