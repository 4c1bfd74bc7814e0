import DottedSchema.Assembly
import DottedSchema.Options
import DottedSchema.Schema

set_option autoImplicit false

namespace DottedSchema

def Schema.tree (schema : Schema) (options : Options) : Except Fault Node :=
  Node.assemble schema.root options.maxDepth (options.curation.apply schema.entries)

def Schema.convert (schema : Schema) (options : Options) : Except Fault Json := do
  options.artifact.ofTree schema.root (← schema.tree options)

theorem Schema.convert_of_tree {schema : Schema} {options : Options} {tree : Node}
    (htree : schema.tree options = .ok tree) :
    schema.convert options = options.artifact.ofTree schema.root tree := by
  rw [convert, htree, Node.ok_bind]

def memoryLabel : String := "<memory>"

def convertDocument (document : Json) (options : Options) : Except Fault Json := do
  (← Schema.ofDocument options.root memoryLabel document).convert options

theorem convertDocument_of_tree {document : Json} {options : Options} {schema : Schema} {tree : Node}
    (hschema : Schema.ofDocument options.root memoryLabel document = .ok schema)
    (htree : schema.tree options = .ok tree) :
    convertDocument document options = options.artifact.ofTree schema.root tree := by
  rw [convertDocument, hschema, Node.ok_bind, Schema.convert_of_tree htree]

def convertFile (files : FileSource) (path : String) (options : Options) : Except Fault Json := do
  (← Schema.load files path options.root).convert options

end DottedSchema
