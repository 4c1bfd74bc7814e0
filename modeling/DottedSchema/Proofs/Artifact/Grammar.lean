import DottedSchema.Proofs.Artifact.Positions

set_option autoImplicit false

namespace DottedSchema

namespace Json

/-- The members of a node of some type, which stand under these keys only. A description, where there is one, is a
text that says something. -/
structure Bears (members : Keyed Json) (type : String) (keys : List String) : Prop where
  ordered : Keyed.Ordered members
  declared : Keyed.find? "type" members = some (.text type)
  only : ∀ key ∈ Keyed.keys members, key ∈ keys
  described : ∀ value, Keyed.find? "description" members = some value → ∃ text, value = .text text ∧ text ≠ ""

inductive SchemaNode : Json → Prop
  | scalar {members : Keyed Json} {type : String} (bears : Bears members type ["description", "type"])
      (leaf : type ∈ ["boolean", "number", "string"]) : SchemaNode (.object members)
  | object {members properties : Keyed Json} (bears : Bears members "object" ["description", "properties", "type"])
      (mapping : Keyed.find? "properties" members = some (.object properties)) (ordered : Keyed.Ordered properties)
      (below : ∀ p ∈ properties, SchemaNode p.2) : SchemaNode (.object members)
  | array {members : Keyed Json} {item : Json} (bears : Bears members "array" ["description", "items", "type"])
      (items : Keyed.find? "items" members = some item) (single : item.member? "type" ≠ some (.text "array"))
      (below : SchemaNode item) : SchemaNode (.object members)

inductive MappingNode : Json → Prop
  | scalar {members : Keyed Json} {type : String} (bears : Bears members type ["type"])
      (leaf : type ∈ ["boolean", "double", "integer", "keyword"]) : MappingNode (.object members)
  | object {members properties : Keyed Json} (bears : Bears members "object" ["properties", "type"])
      (mapping : Keyed.find? "properties" members = some (.object properties)) (ordered : Keyed.Ordered properties)
      (below : ∀ p ∈ properties, MappingNode p.2) : MappingNode (.object members)

end Json

theorem Keyed.Ordered.map {α β : Type} {entries : Keyed α} (h : Keyed.Ordered entries) (f : α → β) :
    Keyed.Ordered (entries.map fun e => (e.1, f e.2)) := by
  rw [Keyed.ordered_iff_keys] at h ⊢
  rwa [Keyed.keys, List.map_map]

namespace Field

open Json

variable {ms properties : Keyed Json} {type : String} {keys : List String} {description : Option String} {typed : Field}

def Says (description : Option String) : Prop := ∀ text, description = some text → text ≠ ""

theorem bears_plain (hkeys : Keyed.keys ms = keys) (hordered : keys.Pairwise (· < ·)) (hnone : "description" ∉ keys)
    (hdeclared : Keyed.find? "type" ms = some (.text type)) : Bears ms type keys where
  ordered := Keyed.ordered_iff_keys.2 (hkeys ▸ hordered)
  declared := hdeclared
  only _ hkey := hkeys ▸ hkey
  described _ hvalue := absurd (hkeys ▸ List.mem_map_of_mem (Keyed.mem_of_find? hvalue)) hnone

theorem bears_describe (hkeys : Keyed.keys ms = keys) (hordered : ("description" :: keys).Pairwise (· < ·))
    (hdeclared : Keyed.find? "type" ms = some (.text type)) (hdescription : Says description) :
    Bears (describe description ms) type ("description" :: keys) := by
  obtain ⟨hfirst, hrest⟩ := List.pairwise_cons.1 hordered
  cases description with
  | none =>
    have hplain : Bears ms type keys :=
      bears_plain hkeys hrest (fun hm => String.lt_irrefl _ (hfirst _ hm)) hdeclared
    exact { hplain with only := fun key hkey => List.mem_cons_of_mem _ (hplain.only key hkey) }
  | some text =>
    have hall : Keyed.keys (describe (some text) ms) = "description" :: keys := congrArg _ hkeys
    constructor
    · exact Keyed.ordered_iff_keys.2 (hall ▸ hordered)
    · exact (find?_describe (by decide)).trans hdeclared
    · exact fun key hkey => hall ▸ hkey
    · intro value hvalue
      cases hvalue
      exact ⟨text, rfl, hdescription text rfl⟩

theorem eq_of_mem_complexParts {number : String} {p : String × Json} (h : p ∈ complexParts number) :
    p.2 = .object [("type", .text number)] := by
  rcases List.mem_cons.1 h with rfl | h
  · rfl
  · rw [List.mem_singleton.1 h]

theorem says_none : Says none := fun _ h => nomatch h

theorem schemaNode_scalar (hleaf : type ∈ ["boolean", "number", "string"]) (hdescription : Says description) :
    SchemaNode (.object (describe description [("type", .text type)])) :=
  .scalar (bears_describe rfl (by decide) rfl hdescription) hleaf

theorem schemaNode_object (hordered : Keyed.Ordered properties) (hbelow : ∀ p ∈ properties, SchemaNode p.2)
    (hdescription : Says description) :
    SchemaNode (.object (describe description [("properties", .object properties), ("type", .text "object")])) :=
  .object (bears_describe rfl (by decide) rfl hdescription) (find?_describe (by decide)) hordered hbelow

theorem schemaNode_members (kind : Kind) (hordered : Keyed.Ordered properties)
    (hbelow : ∀ p ∈ properties, SchemaNode p.2) (hdescription : Says description) : SchemaNode
      (.object (describe description (members kind kind.schemaType Kind.float.schemaType properties))) := by
  cases kind with
  | record => exact schemaNode_object hordered hbelow hdescription
  | complex =>
    refine schemaNode_object (by decide) (fun p hp => ?_) hdescription
    rw [eq_of_mem_complexParts hp]
    exact schemaNode_scalar (by decide) says_none
  | string | float | boolean | constant => exact schemaNode_scalar (by decide) hdescription

theorem schemaNode_array {item : Keyed Json} (hitem : SchemaNode (.object item))
    (hsingle : Keyed.find? "type" item = some (.text type)) (htype : type ≠ "array") (hdescription : Says description) :
    SchemaNode (.object (describe description [("items", .object item), ("type", .text "array")])) := by
  refine .array (bears_describe rfl (by decide) rfl hdescription) (find?_describe (by decide)) (fun harray => ?_) hitem
  exact htype (Json.text.inj (Option.some.inj (hsingle.symm.trans harray)))

theorem schemaNode_jsonSchema (kind : Kind) (isArray : Bool) {itemDescription : Option String} {fields : Keyed Field}
    (hordered : Keyed.Ordered fields) (hbelow : ∀ p ∈ fields, SchemaNode p.2.jsonSchema)
    (hdescription : Says description) (hitem : Says itemDescription) :
    SchemaNode (jsonSchema ⟨kind, isArray, description, itemDescription, fields⟩) := by
  have hproperties : Keyed.Ordered (jsonSchemas fields) := jsonSchemas_eq_map fields ▸ hordered.map jsonSchema
  have hnodes : ∀ p ∈ jsonSchemas fields, SchemaNode p.2 := by
    intro p hp
    rw [jsonSchemas_eq_map] at hp
    obtain ⟨q, hq, rfl⟩ := List.mem_map.1 hp
    exact hbelow q hq
  rw [jsonSchema]
  cases isArray with
  | false => exact schemaNode_members kind hproperties hnodes hdescription
  | true =>
    refine schemaNode_array (schemaNode_members kind hproperties hnodes hitem) ?_
      (Artifact.typeName_ne_array .jsonSchema kind) hdescription
    exact (find?_describe (by decide)).trans find?_members_type

theorem mappingNode_scalar (hleaf : type ∈ ["boolean", "double", "integer", "keyword"]) :
    MappingNode (.object [("type", .text type)]) :=
  .scalar (bears_plain rfl (by decide) (by decide) rfl) hleaf

theorem mappingNode_object (hordered : Keyed.Ordered properties) (hbelow : ∀ p ∈ properties, MappingNode p.2) :
    MappingNode (.object [("properties", .object properties), ("type", .text "object")]) :=
  .object (bears_plain rfl (by decide) (by decide) rfl) rfl hordered hbelow

theorem mappingNode_members (kind : Kind) (hordered : Keyed.Ordered properties)
    (hbelow : ∀ p ∈ properties, MappingNode p.2) :
    MappingNode (.object (members kind kind.mappingType Kind.float.mappingType properties)) := by
  cases kind with
  | record => exact mappingNode_object hordered hbelow
  | complex =>
    refine mappingNode_object (by decide) fun p hp => ?_
    rw [eq_of_mem_complexParts hp]
    exact mappingNode_scalar (by decide)
  | string | float | boolean | constant => exact mappingNode_scalar (by decide)

theorem mappingNode_searchMapping (kind : Kind) (isArray : Bool) (description itemDescription : Option String)
    {fields : Keyed Field} (hordered : Keyed.Ordered fields) (hbelow : ∀ p ∈ fields, MappingNode p.2.searchMapping) :
    MappingNode (searchMapping ⟨kind, isArray, description, itemDescription, fields⟩) := by
  rw [searchMapping]
  refine mappingNode_members kind (searchMappings_eq_map fields ▸ hordered.map searchMapping) fun p hp => ?_
  rw [searchMappings_eq_map] at hp
  obtain ⟨q, hq, rfl⟩ := List.mem_map.1 hp
  exact hbelow q hq

end Field

namespace Node

variable {node : Node} {typed : Field} {p : String × Field}

theorem says_documentation? (node : Node) : Field.Says node.documentation? := by
  intro text h
  have hnonempty := (Option.filter_eq_some_iff.1 h).2
  simpa using hnonempty

theorem says_descriptions (node : Node) : Field.Says node.descriptions.1 ∧ Field.Says node.descriptions.2 := by
  have hitem : Field.Says (node.element.bind documentation?) := by
    intro text h
    obtain ⟨element, -, helement⟩ := Option.bind_eq_some_iff.1 h
    exact says_documentation? element text helement
  have hown := says_documentation? node
  unfold descriptions
  cases hdoc : node.documentation? with
  | none => exact ⟨hitem, Field.says_none⟩
  | some own =>
    rw [hdoc] at hown
    exact ⟨hown, hitem⟩

theorem Types.says (h : node.Types typed) : Field.Says typed.description ∧ Field.Says typed.itemDescription := by
  obtain ⟨path, h⟩ := h
  rw [field_eq] at h
  obtain ⟨_, -, h⟩ := bind_eq_ok h
  obtain ⟨_, -, h⟩ := bind_eq_ok h
  cases h
  exact says_descriptions node

theorem Types.of_property (h : node.Types typed) (hp : p ∈ typed.properties) : ∃ n : Node, n.Types p.2 := by
  have hbelow : typed.below? [p.1] = some p.2 := by
    rw [Field.below?, Keyed.find?_of_mem (regular_of_types h [] typed rfl).1 hp]
    rfl
  obtain ⟨n, -, hn⟩ := Keyed.rel_some_right (hbelow ▸ fieldBelow?_rel [p.1] h)
  exact ⟨n, hn⟩

end Node

namespace Artifact

open Json

variable {artifact : Artifact} {root : String} {tree node : Node} {typed : Field} {output : Json}

def Grammar : Artifact → Json → Prop
  | .jsonSchema => SchemaNode
  | .searchMapping => MappingNode

theorem grammar_writeField (artifact : Artifact) (h : node.Types typed) :
    artifact.Grammar (artifact.writeField typed) := by
  induction typed using Field.induction generalizing node with
  | field kind isArray description itemDescription properties ih =>
    have hordered : Keyed.Ordered properties := (Node.regular_of_types h [] _ rfl).1
    have hbelow : ∀ p ∈ properties, artifact.Grammar (artifact.writeField p.2) := by
      intro p hp
      obtain ⟨n, hn⟩ := h.of_property hp
      exact ih p hp hn
    cases artifact with
    | jsonSchema => exact Field.schemaNode_jsonSchema kind isArray hordered hbelow h.says.1 h.says.2
    | searchMapping =>
      exact Field.mappingNode_searchMapping kind isArray description itemDescription hordered hbelow

theorem writeFields_eq_map (artifact : Artifact) (fields : Keyed Field) :
    artifact.writeFields fields = .object (fields.map fun p => (p.1, artifact.writeField p.2)) := by
  cases artifact with
  | jsonSchema => exact congrArg Json.object (Field.jsonSchemas_eq_map fields)
  | searchMapping => exact congrArg Json.object (Field.searchMappings_eq_map fields)

/-- An artifact is a mapping of names to nodes of its grammar, and any name can be that of a property, at the top and
below it. -/
theorem ofTree_grammar (artifact : Artifact) (root : String) :
    (∀ tree output, artifact.ofTree root tree = .ok output → ∃ properties, output = .object properties ∧
      Keyed.Ordered properties ∧ ∀ p ∈ properties, artifact.Grammar p.2) ∧
      ∀ name, ∃ tree written inner, artifact.ofTree root tree = .ok (.object [(name, written)]) ∧
        written.member? "properties" = some (.object [(name, inner)]) := by
  constructor
  · intro tree output h
    unfold ofTree at h
    cases ht : tree.topFields root with
    | error fault =>
      rw [ht] at h
      cases h
    | ok fields =>
      rw [ht] at h
      cases h
      have hordered : Keyed.Ordered fields := Node.fields_ordered List.Pairwise.nil ht
      refine ⟨_, writeFields_eq_map artifact fields, hordered.map artifact.writeField, fun p hp => ?_⟩
      obtain ⟨q, hq, rfl⟩ := List.mem_map.1 hp
      obtain ⟨n, -, hn⟩ := Keyed.rel_some_right (Keyed.find?_of_mem hordered hq ▸ Node.topFields_rel ht q.1)
      exact grammar_writeField artifact hn
  · intro name
    let leaf : Node := ⟨[("data_type", .text "STR_0D")], [], none⟩
    cases artifact with
    | jsonSchema => exact ⟨⟨[], [(name, ⟨[], [(name, leaf)], none⟩)], none⟩, _, _, rfl, rfl⟩
    | searchMapping => exact ⟨⟨[], [(name, ⟨[], [(name, leaf)], none⟩)], none⟩, _, _, rfl, rfl⟩

theorem ofTree_grammar_described :
    let element : Node := ⟨[("documentation", .text "One.")], [("type", ⟨[("data_type", .text "CPX_1D")], [], none⟩)],
      none⟩
    let tree : Node := ⟨[], [("items", ⟨[("data_type", .text "STRUCT_ARRAY"), ("documentation", .text "All.")], [],
      some element⟩)], none⟩
    let complex := Json.object [("properties", .object (Field.complexParts "number")), ("type", .text "object")]
    let item := Json.object [("description", .text "One."), ("properties", .object [("type",
      .object [("items", complex), ("type", .text "array")])]), ("type", .text "object")]
    let output := Json.object [("items", .object [("description", .text "All."), ("items", item),
      ("type", .text "array")])]
    Artifact.jsonSchema.ofTree "g" tree = .ok output ∧ ∃ properties, output = .object properties ∧
      Keyed.Ordered properties ∧ ∀ p ∈ properties, Artifact.jsonSchema.Grammar p.2 := by
  intro element tree complex item output
  have h : Artifact.jsonSchema.ofTree "g" tree = .ok output := by cbv
  exact ⟨h, (ofTree_grammar .jsonSchema "g").1 tree output h⟩

end Artifact

end DottedSchema
