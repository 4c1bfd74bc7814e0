import DottedSchema.Artifact
import DottedSchema.Curation

set_option autoImplicit false

namespace DottedSchema

structure Options where
  artifact : Artifact
  root : String
  curation : Curation
  maxDepth : Nat
deriving DecidableEq

namespace Options

def standardRoot : String := "gyrokinetics"
def standardDepth : Nat := 50

def standard (artifact : Artifact) : Options := ⟨artifact, standardRoot, .standard, standardDepth⟩

end Options

/-- The named parts of a record in JSON form, in order; parts that a mapping has besides are ignored. -/
def Json.record? (names : List String) : Json → Option (List Json)
  | .array items => if items.length = names.length then some items else none
  | .object members => names.mapM fun name => Keyed.find? name members
  | _ => none

def Json.choice? : Json → Option String
  | .text name => some name
  | .object [(name, .null)] => some name
  | _ => none

def Artifact.name : Artifact → String
  | .jsonSchema => "json-schema"
  | .searchMapping => "search-mapping"

def Artifact.ofJson? (value : Json) : Option Artifact :=
  value.choice?.bind fun name => [jsonSchema, searchMapping].find? (·.name = name)

def Artifact.toJson (artifact : Artifact) : Json := .text artifact.name

namespace TypeOverride

def ofJson? (value : Json) : Option TypeOverride :=
  match value.record? ["path", "data-type"] with
  | some [.text path, .text code] => some ⟨path, code⟩
  | _ => none

def toJson (o : TypeOverride) : Json := .object [("data-type", .text o.typeCode), ("path", .text o.path)]

end TypeOverride

namespace Curation

def ofJson? (value : Json) : Option Curation :=
  match value.record? ["denylist", "fixes"] with
  | some [.array denied, .array overrides] => do
    return ⟨← denied.mapM Json.text?, ← overrides.mapM TypeOverride.ofJson?⟩
  | _ => none

def toJson (curation : Curation) : Json :=
  .object [("denylist", .array (curation.denied.map .text)),
    ("fixes", .array (curation.overrides.map TypeOverride.toJson))]

end Curation

namespace Options

def ofJson? (value : Json) : Option Options :=
  match value.record? ["target", "root", "prune", "max-depth"] with
  | some [artifact, .text root, curation, .number (.integer (.ofNat maxDepth))] => do
    return ⟨← Artifact.ofJson? artifact, root, ← Curation.ofJson? curation, maxDepth⟩
  | _ => none

def toJson (options : Options) : Json :=
  .object [("max-depth", .number (.integer options.maxDepth)), ("prune", options.curation.toJson),
    ("root", .text options.root), ("target", options.artifact.toJson)]

end Options

end DottedSchema
