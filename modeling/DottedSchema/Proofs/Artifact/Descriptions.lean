import DottedSchema.Proofs.Artifact.Positions
import DottedSchema.Proofs.Field.Defects

set_option autoImplicit false

namespace DottedSchema

namespace Path

def EndsInItems (path : Path) : Prop := path.getLast? = some .items

theorem endsInItems_field_cons {name : String} {rest : Path} :
    EndsInItems (.field name :: rest) ↔ EndsInItems rest := by
  unfold EndsInItems
  rw [List.getLast?_cons]
  cases rest.getLast? <;> simp

end Path

namespace Json

/-- The node that steps lead to in a schema, through properties and items. -/
def node? (node : Json) : Path → Option Json
  | [] => some node
  | .field name :: rest => ((node.member? "properties").bind (member? name)).bind (node? · rest)
  | .items :: rest => (node.member? "items").bind (node? · rest)

def nodeIn? (properties : Json) : Path → Option Json
  | .field name :: rest => (properties.member? name).bind (node? · rest)
  | _ => none

end Json

namespace Field

variable {typed : Field} {ms : List (String × Json)} {description : Option String} {name : String} {rest path : Path}
  {value : Json}

def valueMembers (typed : Field) : List (String × Json) :=
  members typed.kind typed.kind.schemaType Kind.float.schemaType (jsonSchemas typed.properties)

theorem jsonSchema_eq (typed : Field) : typed.jsonSchema =
    .object (describe typed.description (if typed.isArray then
      [("items", .object (describe typed.itemDescription typed.valueMembers)), ("type", .text "array")]
      else typed.valueMembers)) := by
  obtain ⟨kind, isArray, description, itemDescription, properties⟩ := typed
  rw [jsonSchema]
  rfl

theorem find?_describe_description (hms : Keyed.find? "description" ms = none) :
    Keyed.find? "description" (describe description ms) = description.map .text := by
  cases description with
  | none => exact hms
  | some text => exact if_pos rfl

theorem find?_valueMembers_description (typed : Field) :
    Keyed.find? "description" typed.valueMembers = none := by
  unfold valueMembers
  cases typed.kind <;> rfl

theorem find?_valueMembers_items (typed : Field) : Keyed.find? "items" typed.valueMembers = none := by
  unfold valueMembers
  cases typed.kind <;> rfl

theorem member?_description (typed : Field) :
    typed.jsonSchema.member? "description" = typed.description.map .text := by
  rw [jsonSchema_eq, Json.member?]
  refine find?_describe_description ?_
  split
  · rfl
  · exact find?_valueMembers_description typed

theorem member?_type (typed : Field) : typed.jsonSchema.member? "type" =
    some (.text (if typed.isArray then "array" else typed.kind.schemaType)) := by
  rw [jsonSchema_eq, Json.member?, find?_describe (by decide)]
  split
  · rfl
  · exact find?_members_type

theorem member?_items (typed : Field) : typed.jsonSchema.member? "items" =
    if typed.isArray then some (.object (describe typed.itemDescription typed.valueMembers)) else none := by
  rw [jsonSchema_eq, Json.member?, find?_describe (by decide)]
  split
  · rfl
  · exact find?_valueMembers_items typed

theorem isArray_of_type (h : typed.jsonSchema.member? "type" = some (.text "array")) : typed.isArray = true := by
  by_contra hsingle
  rw [member?_type, if_neg hsingle] at h
  exact Artifact.typeName_ne_array .jsonSchema typed.kind (Json.text.inj (Option.some.inj h))

theorem item_description {item : Json} (h : typed.jsonSchema.member? "items" = some item) :
    item.member? "description" = typed.itemDescription.map .text := by
  rw [member?_items] at h
  split at h
  · cases h
    exact find?_describe_description (find?_valueMembers_description typed)
  · cases h

theorem node?_part {number : String} (h : (Json.object [("type", .text number)]).node? path = some value) :
    value.member? "description" = none := by
  cases path with
  | nil =>
    cases h
    rfl
  | cons step rest => cases step <;> cases h

/-- Through a property of a single value the steps lead into the field of that name, if to a description. -/
theorem node?_value (h : (Json.object (describe description typed.valueMembers)).node? (.field name :: rest) = some value)
    (hvalue : (value.member? "description").isSome) :
    ∃ next, Keyed.find? name typed.properties = some next ∧ next.jsonSchema.node? rest = some value := by
  obtain ⟨child, hchild, hrest⟩ := Option.bind_eq_some_iff.1 h
  rw [Json.member?, find?_describe (by decide)] at hchild
  obtain ⟨properties, hproperties, hchild⟩ := Option.bind_eq_some_iff.1 hchild
  unfold valueMembers at hproperties
  cases hkind : typed.kind with
  | record =>
    rw [hkind] at hproperties
    cases hproperties
    rw [Json.member?, jsonSchemas_eq_map, Keyed.find?_map] at hchild
    obtain ⟨next, hnext, rfl⟩ := Option.map_eq_some_iff.1 hchild
    exact ⟨next, hnext, hrest⟩
  | complex =>
    rw [hkind] at hproperties
    cases hproperties
    rw [Json.member?, Artifact.find?_complexParts] at hchild
    split at hchild
    · cases hchild
      rw [node?_part hrest] at hvalue
      cases hvalue
    · cases hchild
  | string | float | boolean | constant =>
    rw [hkind] at hproperties
    cases hproperties

def DescribedBelow (typed : Field) (path : Path) (value : Json) : Prop :=
  ∃ f, typed.below? path.names = some f ∧
    (value = f.jsonSchema ∧ ¬ path.EndsInItems ∨ f.jsonSchema.member? "items" = some value ∧ path.EndsInItems)

theorem DescribedBelow.property {next : Field} (hnext : Keyed.find? name typed.properties = some next)
    (h : next.DescribedBelow rest value) : typed.DescribedBelow (.field name :: rest) value := by
  obtain ⟨f, hf, hplace⟩ := h
  refine ⟨f, ?_, ?_⟩
  · rw [Path.names, below?, hnext]
    exact hf
  · rwa [Path.endsInItems_field_cons]

theorem describedBelow_of_node? : ∀ {path : Path} {typed : Field}, typed.jsonSchema.node? path = some value →
    (value.member? "description").isSome → typed.DescribedBelow path value
  | [], typed, h, _ => ⟨typed, rfl, .inl ⟨(Option.some.inj h).symm, nofun⟩⟩
  | [.items], typed, h, _ => by
    obtain ⟨item, hitem, hrest⟩ := Option.bind_eq_some_iff.1 h
    cases hrest
    exact ⟨typed, rfl, .inr ⟨hitem, rfl⟩⟩
  | .items :: .items :: rest, typed, h, _ => by
    -- the items of an array are a single value and have no items
    obtain ⟨item, hitem, hrest⟩ := Option.bind_eq_some_iff.1 h
    rw [member?_items] at hitem
    split at hitem
    · cases hitem
      obtain ⟨inner, hinner, -⟩ := Option.bind_eq_some_iff.1 hrest
      rw [Json.member?, find?_describe (by decide), find?_valueMembers_items] at hinner
      cases hinner
    · cases hitem
  | .items :: .field name :: rest, typed, h, hvalue => by
    obtain ⟨item, hitem, hrest⟩ := Option.bind_eq_some_iff.1 h
    rw [member?_items] at hitem
    split at hitem
    · cases hitem
      obtain ⟨next, hnext, hbelow⟩ := node?_value hrest hvalue
      obtain ⟨f, hf, hplace⟩ := (describedBelow_of_node? hbelow hvalue).property hnext
      exact ⟨f, hf, by rwa [Path.EndsInItems, List.getLast?_cons_cons]⟩
    · cases hitem
  | .field name :: rest, typed, h, hvalue => by
    rw [jsonSchema_eq] at h
    split at h
    · -- an array has its properties on its items
      obtain ⟨child, hchild, -⟩ := Option.bind_eq_some_iff.1 h
      rw [Json.member?, find?_describe (by decide)] at hchild
      cases hchild
    · obtain ⟨next, hnext, hbelow⟩ := node?_value h hvalue
      exact (describedBelow_of_node? hbelow hvalue).property hnext

end Field

namespace Node

variable {node tree : Node} {typed : Field} {place : Path} {root root' : String} {limit : Nat}
  {entries : List (String × Json)} {output : Json}

def itemDocumentation? (node : Node) : Option String := node.element.bind documentation?

theorem descriptions_eq (node : Node) : node.descriptions =
    (node.documentation?.or node.itemDocumentation?, node.documentation?.bind fun _ => node.itemDocumentation?) := by
  unfold descriptions itemDocumentation?
  cases node.documentation? <;> rfl

theorem Types.described (h : node.Types typed) :
    typed.description = node.documentation?.or node.itemDocumentation? ∧
      typed.itemDescription = (node.documentation?.bind fun _ => node.itemDocumentation?) ∧
      (node.element.isSome → typed.isArray = true) := by
  obtain ⟨path, type, properties, htype, rfl⟩ := h.parts
  obtain ⟨_, _, -, -, -, harray⟩ := checkedType_ok htype
  rw [descriptions_eq]
  exact ⟨rfl, rfl, harray⟩

structure Documents (tree : Node) (output : Json) : Prop where
  /-- A field has its own text or else that of its element. Items have the element's text where the field has one. -/
  fields : ∀ place node, tree.Reached place node → ∃ written, output.at? place.names = some written ∧
    written.member? "description" = (node.documentation?.or node.itemDocumentation?).map .text ∧
    (written.member? "type" = some (.text "array") → (written.member? "items").isSome) ∧
    ∀ item, written.member? "items" = some item →
      item.member? "description" = (node.documentation?.bind fun _ => node.itemDocumentation?).map .text
  /-- A node that has a description is that of a reached field or of its items. -/
  others : ∀ path value, output.nodeIn? path = some value → (value.member? "description").isSome →
    ∃ place node written, tree.Reached place node ∧ place.names = path.names ∧
      output.at? path.names = some written ∧
      (value = written ∧ ¬ path.EndsInItems ∨ written.member? "items" = some value ∧ path.EndsInItems)
  /-- What is said of an element stands on its field or on the items. -/
  kept : ∀ place node text, tree.Reached place node → node.itemDocumentation? = some text →
    ∃ written, output.at? place.names = some written ∧
      (written.member? "description" = some (.text text) ∨
        ∃ item, written.member? "items" = some item ∧ item.member? "description" = some (.text text))

theorem nodeIn?_described {fields : Keyed Field} {path : Path} {value : Json}
    (h : (Artifact.jsonSchema.writeFields fields).nodeIn? path = some value)
    (hvalue : (value.member? "description").isSome) :
    path.names ≠ [] ∧ (Artifact.structureOf fields).DescribedBelow path value := by
  match path, h with
  | .field name :: rest, h =>
    obtain ⟨child, hchild, hrest⟩ := Option.bind_eq_some_iff.1 h
    rw [Artifact.member?_writeFields] at hchild
    obtain ⟨next, hnext, rfl⟩ := Option.map_eq_some_iff.1 hchild
    have hbelow : next.DescribedBelow rest value := Field.describedBelow_of_node? hrest hvalue
    exact ⟨List.cons_ne_nil _ _, hbelow.property hnext⟩

/-- In a JSON Schema the documentation of a tree is neither lost nor doubled nor misplaced. -/
theorem ofTree_descriptions (h : assemble root limit entries = .ok tree)
    (ho : Artifact.jsonSchema.ofTree root' tree = .ok output) : Documents tree output := by
  have hspaced : ∀ place, tree.Has place → place.Spaced := fun _ hplace => assemble_spaced h hplace
  obtain ⟨fields, ht, rfl⟩ := Artifact.ofTree_ok ho
  constructor
  · intro place node hreached
    obtain ⟨typed, htypes, hat⟩ := hreached.written_typed hspaced ht .jsonSchema
    obtain ⟨hdescription, hitem, -⟩ := htypes.described
    refine ⟨typed.jsonSchema, hat, ?_, fun harray => ?_, fun item hitems => ?_⟩
    · rw [Field.member?_description, hdescription]
    · rw [Field.member?_items, if_pos (Field.isArray_of_type harray)]
      rfl
    · rw [Field.item_description hitems, hitem]
  · intro path value hpath hvalue
    obtain ⟨hnames, f, hf, hplace⟩ := nodeIn?_described hpath hvalue
    obtain ⟨place, node, hreached, hposition, -⟩ := reached_of_typed ht hnames hf
    refine ⟨place, node, f.jsonSchema, hreached, hposition, ?_, hplace⟩
    rw [Artifact.at?_writeFields hnames]
    exact Artifact.below?_writeField hf (Artifact.regular_structureOf ht)
  · intro place node text hreached htext
    obtain ⟨typed, htypes, hat⟩ := hreached.written_typed hspaced ht .jsonSchema
    obtain ⟨hdescription, hitem, harray⟩ := htypes.described
    refine ⟨typed.jsonSchema, hat, ?_⟩
    rw [Field.member?_description, hdescription, htext]
    cases hown : node.documentation? with
    | none => exact .inl rfl
    | some own =>
      obtain ⟨element, helement, -⟩ := Option.bind_eq_some_iff.1 htext
      have hitems := (Field.member?_items typed).trans (if_pos (harray (helement ▸ rfl)))
      refine .inr ⟨_, hitems, ?_⟩
      rw [Field.item_description hitems, hitem, hown, htext]
      rfl

theorem ofTree_descriptions_element :
    let entries := [("g.a", Json.object [("data_type", .text "STRUCT_ARRAY"), ("documentation", .text "All.")]),
      ("g.a[:]", Json.object [("documentation", .text "One.")]), ("g.a[:].z", Json.object [("data_type", .text "CPX_0D")]),
      ("g.t[:]", Json.object [("data_type", .text "FLT_1D"), ("documentation", .text "Times.")])]
    let complex := Json.object [("properties", .object (Field.complexParts "number")), ("type", .text "object")]
    let item := Json.object [("description", .text "One."), ("properties", .object [("z", complex)]),
      ("type", .text "object")]
    let output := Json.object [
      ("a", .object [("description", .text "All."), ("items", item), ("type", .text "array")]),
      ("t", .object [("description", .text "Times."), ("items", .object [("type", .text "number")]),
        ("type", .text "array")])]
    ∃ tree, assemble "g" 4 entries = .ok tree ∧ Artifact.jsonSchema.ofTree "g" tree = .ok output ∧
      Documents tree output := by
  intro entries complex item output
  let array : Node := ⟨[("data_type", .text "STRUCT_ARRAY"), ("documentation", .text "All.")], [],
    some ⟨[("documentation", .text "One.")], [("z", ⟨[("data_type", .text "CPX_0D")], [], none⟩)], none⟩⟩
  let times : Node := ⟨[], [], some ⟨[("data_type", .text "FLT_1D"), ("documentation", .text "Times.")], [], none⟩⟩
  have h : assemble "g" 4 entries = .ok ⟨[], [("a", array), ("t", times)], none⟩ := by cbv
  have ho : Artifact.jsonSchema.ofTree "g" ⟨[], [("a", array), ("t", times)], none⟩ = .ok output := by cbv
  exact ⟨_, h, ho, ofTree_descriptions h ho⟩

end Node

end DottedSchema
