import DottedSchema.Field

set_option autoImplicit false

namespace DottedSchema

inductive Artifact where
  | jsonSchema
  | searchMapping
deriving DecidableEq

namespace Field

def describe (description : Option String) (members : List (String × Json)) : List (String × Json) :=
  match description with
  | some text => ("description", .text text) :: members
  | none => members

def complexParts (number : String) : List (String × Json) :=
  [("imag", .object [("type", .text number)]), ("real", .object [("type", .text number)])]

/-- The members of a node of a kind; `number` is the type of the parts of a complex number. -/
def members (kind : Kind) (type number : String) (properties : List (String × Json)) : List (String × Json) :=
  match kind with
  | .record => [("properties", .object properties), ("type", .text type)]
  | .complex => [("properties", .object (complexParts number)), ("type", .text type)]
  | _ => [("type", .text type)]

mutual

def jsonSchema : Field → Json
  | ⟨kind, isArray, description, itemDescription, properties⟩ =>
    let members := members kind kind.schemaType Kind.float.schemaType (jsonSchemas properties)
    .object (describe description (if isArray then
      [("items", .object (describe itemDescription members)), ("type", .text "array")] else members))

def jsonSchemas : List (String × Field) → List (String × Json)
  | [] => []
  | (name, field) :: rest => (name, jsonSchema field) :: jsonSchemas rest

end

mutual

def searchMapping : Field → Json
  | ⟨kind, _, _, _, properties⟩ =>
    .object (members kind kind.mappingType Kind.float.mappingType (searchMappings properties))

def searchMappings : List (String × Field) → List (String × Json)
  | [] => []
  | (name, field) :: rest => (name, searchMapping field) :: searchMappings rest

end

end Field

namespace Artifact

def writeField : Artifact → Field → Json
  | .jsonSchema => Field.jsonSchema
  | .searchMapping => Field.searchMapping

def writeFields : Artifact → Keyed Field → Json
  | .jsonSchema, fields => .object (Field.jsonSchemas fields)
  | .searchMapping, fields => .object (Field.searchMappings fields)

def ofTree (artifact : Artifact) (root : String) (tree : Node) : Except Fault Json :=
  (tree.topFields root).map artifact.writeFields

def ofNode (artifact : Artifact) (path : String) (node : Node) : Except Fault Json :=
  (node.field path).map artifact.writeField

end Artifact

end DottedSchema
