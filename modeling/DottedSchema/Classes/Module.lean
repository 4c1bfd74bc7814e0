import DottedSchema.Classes.Registry
import DottedSchema.Text.Docstring

set_option autoImplicit false

namespace DottedSchema

structure ModuleClass where
  name : String
  docstring : Option String
  attributes : List Attribute
deriving DecidableEq

structure ClassModule where
  root : String
  classes : List ModuleClass
deriving DecidableEq

namespace ClassModule

def docstring? (description : String) : Option String :=
  if Text.trim description.toList = [] then none
  else some (String.ofList (Text.docstring description.toList))

def ofClass (c : ClassDef) : ModuleClass := ⟨c.name, c.description.bind docstring?, c.attributes⟩

def ofClasses (root : String) (classes : List ClassDef) : ClassModule := ⟨root, classes.reverse.map ofClass⟩

end ClassModule

def ClassStyle.module (style : ClassStyle) (root : String) (properties : Json) : Except Fault ClassModule :=
  (style.classes root properties).map (ClassModule.ofClasses root)

inductive ClassFormat where
  | marshmallow
  | dataclasses
deriving DecidableEq

namespace ClassFormat

def name : ClassFormat → String
  | .marshmallow => "marshmallow"
  | .dataclasses => "dataclasses"

def scalar : ClassFormat → String → Option String
  | .marshmallow, "number" => some "fields.Number()"
  | .marshmallow, "string" => some "SanitizedUnicode()"
  | .marshmallow, "boolean" => some "fields.Boolean()"
  | .dataclasses, "number" => some "float"
  | .dataclasses, "string" => some "str"
  | .dataclasses, "boolean" => some "bool"
  | _, _ => none

def style : ClassFormat → ClassStyle
  | .marshmallow => {
      scalar := scalar .marshmallow
      listOf := fun e => "fields.List(" ++ e ++ ")"
      nested := fun c => "fields.Nested(" ++ c ++ ")"
      imports := ["SanitizedUnicode", "StrictKeysMixin", "fields"] }
  | .dataclasses => {
      scalar := scalar .dataclasses
      listOf := fun e => "List[" ++ e ++ "]"
      nested := fun c => c
      imports := ["List", "dataclass"] }

def headLines (root : String) : ClassFormat → List String
  | .marshmallow => [
      "\"\"\"Marshmallow schemas for the " ++ root ++ " IDS.",
      "",
      "Generated by omas-convert; edit the source schema instead of this file.",
      "\"\"\"",
      "",
      "from invenio_records_rest.schemas import StrictKeysMixin",
      "from invenio_records_rest.schemas.fields import SanitizedUnicode",
      "from marshmallow import fields"]
  | .dataclasses => [
      "\"\"\"Record classes for the " ++ root ++ " IDS.",
      "",
      "Generated by omas-convert; edit the source schema instead of this file.",
      "\"\"\"",
      "",
      "from dataclasses import dataclass",
      "from typing import List"]

def classLines (name : String) : ClassFormat → List String
  | .marshmallow => ["class " ++ name ++ "(StrictKeysMixin):"]
  | .dataclasses => ["@dataclass", "class " ++ name ++ ":"]

def attributeLine (a : Attribute) : ClassFormat → String
  | .marshmallow => "    " ++ a.name ++ " = " ++ a.expression
  | .dataclasses => "    " ++ a.name ++ ": " ++ a.expression

def docstringLines : Option String → List String
  | some text => if text = "" then [] else ["    \"\"\"" ++ text ++ "\"\"\""]
  | none => []

def linesOf (format : ClassFormat) (c : ModuleClass) : List String :=
  ["", ""] ++ format.classLines c.name ++ docstringLines c.docstring ++
    (if c.attributes = [] then ["    pass"] else c.attributes.map (format.attributeLine ·))

/-- The text of a module; nothing in it is escaped further. -/
def render (format : ClassFormat) (m : ClassModule) : String :=
  String.join ((format.headLines m.root ++ m.classes.flatMap format.linesOf).map (· ++ "\n"))

def generate (format : ClassFormat) (root : String) (properties : Json) : Except Fault String :=
  (format.style.module root properties).map format.render

end ClassFormat

end DottedSchema
