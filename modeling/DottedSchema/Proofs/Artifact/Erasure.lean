import DottedSchema.Proofs.Field.Typing

set_option autoImplicit false

namespace DottedSchema

namespace Json

/-- The mapping's name of a scalar type; a number is an integer at a constant. -/
def mappingType (isConstant : Bool) (type : String) : String :=
  if type = "string" then "keyword"
  else if type = "number" then (if isConstant then "integer" else "double")
  else type

mutual

def erase (constant : List String → Bool) (place : List String) : Json → Json
  | .object members => (eraseItems constant place members).getD (.object (eraseMembers constant place members))
  | value => value

def eraseItems (constant : List String → Bool) (place : List String) :
    List (String × Json) → Option Json
  | [] => none
  | (key, value) :: rest =>
    if key = "items" then some (erase constant place value) else eraseItems constant place rest

def eraseMembers (constant : List String → Bool) (place : List String) :
    List (String × Json) → List (String × Json)
  | [] => []
  | (key, value) :: rest =>
    if key = "description" then eraseMembers constant place rest
    else (key, eraseMember constant place key value) :: eraseMembers constant place rest

def eraseMember (constant : List String → Bool) (place : List String) (key : String) : Json → Json
  | .object properties =>
    if key = "properties" then .object (eraseProperties constant place properties) else .object properties
  | .text type => if key = "type" then .text (mappingType (constant place) type) else .text type
  | value => value

def eraseProperties (constant : List String → Bool) (place : List String) :
    List (String × Json) → List (String × Json)
  | [] => []
  | (name, node) :: rest => (name, erase constant (place ++ [name]) node) :: eraseProperties constant place rest

end

def eraseSchema (constant : List String → Bool) : Json → Json
  | .object properties => .object (eraseProperties constant [] properties)
  | value => value

end Json

namespace Field

open Json

variable {constant : List String → Bool} {place : List String} {typed : Field}

theorem erase_describe (description : Option String) (members : List (String × Json)) :
    erase constant place (.object (describe description members)) = erase constant place (.object members) := by
  cases description with
  | none => rfl
  | some text =>
    rw [erase, erase, describe, eraseItems, eraseMembers, if_neg (by decide), if_pos rfl]

theorem erase_array (node : Json) :
    erase constant place (.object [("items", node), ("type", .text "array")]) = erase constant place node := by
  rw [erase, eraseItems, if_pos rfl]
  rfl

def Marks (constant : List String → Bool) (place : List String) (field : Field) : Prop :=
  ∀ names, constant (place ++ names) = decide ((field.below? names).map (·.kind) = some .constant)

theorem Marks.here (h : Marks constant place typed) :
    constant place = decide (typed.kind = .constant) := by
  have := h []
  rw [List.append_nil] at this
  rw [this, below?, Option.map_some]
  exact decide_eq_decide.2 Option.some_inj

theorem Marks.below {f : Field} {name : String} (h : Marks constant place typed)
    (hf : Keyed.find? name typed.properties = some f) : Marks constant (place ++ [name]) f := by
  intro names
  rw [List.append_assoc, List.singleton_append, h (name :: names), below?, hf]
  rfl

theorem Marks.of_no_property {name : String} (h : Marks constant place typed) (hnone : typed.properties = []) :
    constant (place ++ [name]) = false := by
  rw [h [name], below?, hnone]
  rfl

theorem erase_scalar (type : String) : erase constant place (.object [("type", .text type)]) =
    .object [("type", .text (mappingType (constant place) type))] := rfl

theorem erase_record (properties : List (String × Json)) (type : String) :
    erase constant place (.object [("properties", .object properties), ("type", .text type)]) =
      .object [("properties", .object (eraseProperties constant place properties)),
        ("type", .text (mappingType (constant place) type))] := rfl

theorem erase_members (hmarks : Marks constant place typed) (hregular : typed.Regular)
    (hprops : eraseProperties constant place (jsonSchemas typed.properties) = searchMappings typed.properties) :
    erase constant place (.object
        (members typed.kind typed.kind.schemaType Kind.float.schemaType (jsonSchemas typed.properties))) =
      .object (members typed.kind typed.kind.mappingType Kind.float.mappingType
        (searchMappings typed.properties)) := by
  have hhere := hmarks.here
  cases hk : typed.kind with
  | record =>
    rw [hk] at hhere
    rw [members, members, erase_record, hprops, hhere]
    rfl
  | complex =>
    have hpart (name : String) : constant (place ++ [name]) = false :=
      hmarks.of_no_property ((hregular [] typed rfl).2 (by rw [hk]; decide))
    rw [hk] at hhere
    rw [members, members, erase_record, complexParts, eraseProperties, eraseProperties, eraseProperties,
      erase_scalar, erase_scalar, hpart, hpart, hhere]
    rfl
  | string | float | boolean | constant =>
    rw [hk] at hhere
    change erase constant place (.object [("type", .text _)]) = _
    rw [erase_scalar, hhere]
    rfl

theorem eraseProperties_jsonSchemas {fields : List (String × Field)}
    (h : ∀ p ∈ fields, erase constant (place ++ [p.1]) (jsonSchema p.2) = searchMapping p.2) :
    eraseProperties constant place (jsonSchemas fields) = searchMappings fields := by
  induction fields with
  | nil => rfl
  | cons p rest ih =>
    rw [jsonSchemas, eraseProperties, searchMappings, h p List.mem_cons_self,
      ih fun q hq => h q (List.mem_cons_of_mem _ hq)]

theorem erase_jsonSchema (hmarks : Marks constant place typed) (hregular : typed.Regular) :
    erase constant place (jsonSchema typed) = searchMapping typed := by
  induction typed using Field.induction generalizing place with
  | field kind isArray description itemDescription properties ih =>
    have hordered : Keyed.Ordered properties := (hregular [] _ rfl).1
    have hprops : eraseProperties constant place (jsonSchemas properties) = searchMappings properties := by
      refine eraseProperties_jsonSchemas fun p hp => ?_
      have hfind := Keyed.find?_of_mem hordered hp
      exact ih p hp (hmarks.below hfind) (hregular.below hfind)
    have hmembers := erase_members hmarks hregular hprops
    rw [jsonSchema, searchMapping, ← hmembers, erase_describe]
    cases isArray with
    | false => rfl
    | true => rw [if_pos rfl, erase_array, erase_describe]

end Field

namespace Artifact

open Json Node DottedSchema.Field

def constantAt (tree : Node) (place : List String) : Bool :=
  decide ((tree.fieldAt? place).bind Node.kind? = some .constant)

theorem marks_constantAt {tree : Node} {root name : String} {fields : Keyed Field} {typed : Field}
    (h : tree.topFields root = .ok fields) (hname : Keyed.find? name fields = some typed) :
    Marks (constantAt tree) [name] typed := by
  intro names
  have hrel := fieldAt?_rel h (name :: names)
  rw [Field.at?, hname, Option.bind_some] at hrel
  rw [constantAt, List.singleton_append]
  refine decide_eq_decide.2 ?_
  generalize tree.fieldAt? (name :: names) = n at hrel ⊢
  generalize typed.below? names = f at hrel ⊢
  cases hrel with
  | none => exact Iff.rfl
  | some hf => rw [Option.bind_some, Option.map_some, kind?_of_types hf]

theorem erase_topFields {tree : Node} {root : String} {fields : Keyed Field}
    (h : tree.topFields root = .ok fields) :
    eraseProperties (constantAt tree) [] (jsonSchemas fields) = searchMappings fields := by
  have hordered : Keyed.Ordered fields := fields_ordered List.Pairwise.nil h
  refine eraseProperties_jsonSchemas fun p hp => ?_
  have hfind := Keyed.find?_of_mem hordered hp
  obtain ⟨n, -, hn⟩ := Keyed.rel_some_right (hfind ▸ topFields_rel h p.1)
  exact erase_jsonSchema (marks_constantAt h hfind) (regular_of_types hn)

/-- Both artifacts of a tree fail alike, or the search mapping is the erasure of the JSON Schema. -/
theorem searchMapping_eq_erase (root : String) (tree : Node) :
    match jsonSchema.ofTree root tree, searchMapping.ofTree root tree with
    | .ok schema, .ok mapping => mapping = eraseSchema (constantAt tree) schema
    | .error fault, .error other => fault = other
    | _, _ => False := by
  unfold ofTree
  cases h : tree.topFields root with
  | error fault => rfl
  | ok fields =>
    change Json.object _ = .object _
    rw [erase_topFields h]

end Artifact

end DottedSchema
