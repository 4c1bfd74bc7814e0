import DottedSchema.File
import DottedSchema.Json.SyntaxFault
import DottedSchema.TypeCode

set_option autoImplicit false

namespace DottedSchema

inductive LoadFault where
  | unreadable (fault : FileFault)
  | notText
  | notJson (fault : Json.SyntaxFault)
  | notMapping
  | missingRoot (root : String)
  | entryNotMapping (key : String)
deriving DecidableEq

def LoadFault.message : LoadFault → String
  | .unreadable fault => fault.message
  | .notText => "stream did not contain valid UTF-8"
  | .notJson fault => "invalid JSON: " ++ fault.message
  | .notMapping => "top level is not a mapping of dotted paths"
  | .missingRoot root => "missing root entry '" ++ root ++ "'"
  | .entryNotMapping key => "entry '" ++ key ++ "' is not a metadata mapping"

inductive PathFault where
  | emptySegment
  | misplacedMarker (segment : String)
  | notBelow (root : String)
  | markerOnRoot
  | elementOfNonArray
deriving DecidableEq

def PathFault.message : PathFault → String
  | .emptySegment => "empty path segment"
  | .misplacedMarker segment => "malformed array marker in segment '" ++ segment ++ "'"
  | .notBelow root => "path is not below root '" ++ root ++ "'"
  | .markerOnRoot => "array marker on the root entry"
  | .elementOfNonArray => "array marker on a field whose data type is not an array"

inductive Conflict where
  | entryNotMapping
  | throughMetadata
  | childOverMetadata
  | metadataOverChild
  | differingValues (key : String)
  | elementKind (element field : Kind)
  | declaredTwice
  | topLevelNotMapping
  | nodeNotMapping
  | missingType
  | typeNotText
  | propertiesNotMapping
  | missingItems
  | unsupportedType (type : String)
deriving DecidableEq

def Conflict.message : Conflict → String
  | .entryNotMapping => "entry is not a metadata mapping"
  | .throughMetadata => "path descends through a metadata value"
  | .childOverMetadata => "child node collides with a metadata value"
  | .metadataOverChild => "metadata value would overwrite a child node"
  | .differingValues key => "conflicting values for metadata key '" ++ key ++ "'"
  | .elementKind element field => "element declared as " ++ element.name ++ " but the field is " ++ field.name
  | .declaredTwice => "field declared both on the array and on its elements"
  | .topLevelNotMapping => "top-level schema is not a properties mapping"
  | .nodeNotMapping => "schema node is not a mapping"
  | .missingType => "schema node has no 'type'"
  | .typeNotText => "'type' is not a string"
  | .propertiesNotMapping => "'properties' is not a mapping"
  | .missingItems => "array node has no 'items'"
  | .unsupportedType type => "unsupported type '" ++ type ++ "'"

/-- A fault and the place it is reported at: the document's label for `load`, a dotted path otherwise. -/
inductive Fault where
  | load (source : String) (fault : LoadFault)
  | unknownType (code path : String)
  | malformedPath (path : String) (fault : PathFault)
  | inconsistent (path : String) (conflict : Conflict)
  | tooDeep (path : String) (limit : Nat)
deriving DecidableEq

namespace Fault

def code : Fault → String
  | .load _ _ => "load_error"
  | .unknownType _ _ => "unknown_type"
  | .malformedPath _ _ => "malformed_path"
  | .inconsistent _ _ => "consistency_error"
  | .tooDeep _ _ => "recursion_depth_exceeded"

def path : Fault → String
  | .load source _ => source
  | .unknownType _ path => path
  | .malformedPath path _ => path
  | .inconsistent path _ => path
  | .tooDeep path _ => path

def message : Fault → String
  | .load source fault => "Failed to load schema from " ++ source ++ ": " ++ fault.message
  | .unknownType code path => "Unknown data type '" ++ code ++ "' at " ++ path
  | .malformedPath path fault => "Malformed path '" ++ path ++ "': " ++ fault.message
  | .inconsistent path conflict => "Consistency error at " ++ path ++ ": " ++ conflict.message
  | .tooDeep path limit => "Recursion depth exceeded at " ++ path ++ " (max: " ++ limit.repr ++ ")"

end Fault

end DottedSchema
