import DottedSchema.Json
import DottedSchema.Fault

/-!
# Shapes of schema nodes

What a JSON Schema node needs to become a type: a leaf, a list of one shape, or a record of named shapes. Reading
a node checks it before what lies below it, and properties in the order of their names, so the first fault met is
the outermost and leftmost one.
-/
set_option autoImplicit false

namespace DottedSchema

inductive Shape where
  | leaf (expression : String)
  | list (item : Shape)
  | record (description : Option String) (fields : List (String × Shape))

namespace Shape

def typeName (members : Keyed Json) (path : String) : Except Fault String :=
  match Keyed.find? "type" members with
  | none => .error (.inconsistent path .missingType)
  | some (.text name) => .ok name
  | some _ => .error (.inconsistent path .typeNotText)

def description? (members : Keyed Json) : Option String := (Keyed.find? "description" members).bind Json.text?

section

-- `leaf` gives the expression of each supported leaf type
variable (leaf : String → Option String)

mutual

def ofNode : Json → String → Except Fault Shape
  | .object members, path => do
    match ← typeName members path with
    | "object" => return .record (description? members) (← propertiesOf members path)
    | "array" => return .list (← itemsOf members path)
    | other =>
      match leaf other with
      | some expression => return .leaf expression
      | none => throw (.inconsistent path (.unsupportedType other))
  | _, path => .error (.inconsistent path .nodeNotMapping)

def itemsOf : List (String × Json) → String → Except Fault Shape
  | [], path => .error (.inconsistent path .missingItems)
  | (key, value) :: rest, path => if key = "items" then ofNode value (path ++ "[:]") else itemsOf rest path

def propertiesOf : List (String × Json) → String → Except Fault (List (String × Shape))
  | [], _ => .ok []
  | (key, value) :: rest, path => if key = "properties" then ofMapping value path else propertiesOf rest path

def ofMapping : Json → String → Except Fault (List (String × Shape))
  | .object members, path => ofMembers members path
  | _, path => .error (.inconsistent path .propertiesNotMapping)

def ofMembers : List (String × Json) → String → Except Fault (List (String × Shape))
  | [], _ => .ok []
  | (name, value) :: rest, path => do
    let shape ← ofNode value (path ++ "." ++ name)
    return (name, shape) :: (← ofMembers rest path)

end

end

def ofProperties (leaf : String → Option String) (root : String) : Json → Except Fault Shape
  | .object members => do return .record none (← ofMembers leaf members root)
  | _ => .error (.inconsistent root .topLevelNotMapping)

end Shape

end DottedSchema
