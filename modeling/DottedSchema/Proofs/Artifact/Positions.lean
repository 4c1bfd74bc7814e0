import DottedSchema.Proofs.Field.Reached

set_option autoImplicit false

namespace DottedSchema

namespace Json

def unwrapped (node : Json) : Json :=
  if (node.member? "type").bind text? = some "array" then (node.member? "items").getD .null else node

def property? (node : Json) (name : String) :
    Option Json := (node.unwrapped.member? "properties").bind (member? name)

def below? (node : Json) : List String → Option Json
  | [] => some node
  | name :: rest => (node.property? name).bind (below? · rest)

def at? (properties : Json) : List String → Option Json
  | [] => none
  | name :: rest => (properties.member? name).bind (below? · rest)

end Json

namespace Field

def partNames : List String := ["imag", "real"]

variable {kind : Kind} {type number key : String} {properties ms : List (String × Json)}
  {description : Option String}

def HasPart (typed : Field) (names : List String) : Prop :=
  ∃ place part f, names = place ++ [part] ∧ part ∈ partNames ∧ typed.below? place = some f ∧ f.kind = .complex

theorem hasPart_cons {typed : Field} {name : String} {rest : List String} :
    typed.HasPart (name :: rest) ↔ (typed.kind = .complex ∧ name ∈ partNames ∧ rest = []) ∨
      ∃ next, Keyed.find? name typed.properties = some next ∧ next.HasPart rest := by
  constructor
  · rintro ⟨place, part, f, hnames, hpart, hf, hk⟩
    cases place with
    | nil =>
      cases hnames
      cases hf
      exact .inl ⟨hk, hpart, rfl⟩
    | cons first place =>
      obtain ⟨rfl, hrest⟩ := List.cons_eq_cons.1 hnames
      obtain ⟨next, hnext, hbelow⟩ := Option.bind_eq_some_iff.1 hf
      exact .inr ⟨next, hnext, place, part, f, hrest, hpart, hbelow, hk⟩
  · rintro (⟨hk, hname, rfl⟩ | ⟨next, hnext, place, part, f, rfl, hpart, hf, hk⟩)
    · exact ⟨[], name, typed, rfl, hname, rfl, hk⟩
    · refine ⟨name :: place, part, f, rfl, hpart, ?_, hk⟩
      rw [below?, hnext]
      exact hf

theorem find?_describe (hkey : key ≠ "description") :
    Keyed.find? key (describe description ms) = Keyed.find? key ms := by
  cases description with
  | none => rfl
  | some text => rw [describe, Keyed.find?_cons, if_neg (Ne.symm hkey)]

theorem find?_members_type :
    Keyed.find? "type" (members kind type number properties) = some (.text type) := by
  cases kind <;> rfl

theorem jsonSchemas_eq_map (fields : Keyed Field) :
    jsonSchemas fields = fields.map fun p => (p.1, jsonSchema p.2) := by
  induction fields with
  | nil => rfl
  | cons p rest ih => rw [jsonSchemas, ih, List.map_cons]

theorem searchMappings_eq_map (fields : Keyed Field) :
    searchMappings fields = fields.map fun p => (p.1, searchMapping p.2) := by
  induction fields with
  | nil => rfl
  | cons p rest ih => rw [searchMappings, ih, List.map_cons]

theorem unwrapped_of_type (hms : Keyed.find? "type" ms = some (.text type)) (htype : type ≠ "array") :
    (Json.object ms).unwrapped = .object ms := by
  unfold Json.unwrapped
  rw [Json.member?, hms, Option.bind_some, Json.text?, if_neg (fun he => htype (Option.some.inj he))]

end Field

namespace Artifact

open DottedSchema.Field

variable {artifact : Artifact} {typed f : Field} {names : List String} {name : String}

def typeName : Artifact → Kind → String
  | .jsonSchema => Kind.schemaType
  | .searchMapping => Kind.mappingType

theorem typeName_ne_array (artifact : Artifact) (kind : Kind) : artifact.typeName kind ≠ "array" := by
  cases artifact <;> cases kind <;> decide

theorem member?_writeFields (name : String) (fields : Keyed Field) :
    (artifact.writeFields fields).member? name = (Keyed.find? name fields).map artifact.writeField := by
  cases artifact with
  | jsonSchema =>
    rw [writeFields, Json.member?, jsonSchemas_eq_map]
    exact Keyed.find?_map name Field.jsonSchema fields
  | searchMapping =>
    rw [writeFields, Json.member?, searchMappings_eq_map]
    exact Keyed.find?_map name Field.searchMapping fields

def properties? (artifact : Artifact) (typed : Field) : Option Json :=
  match typed.kind with
  | .record => some (artifact.writeFields typed.properties)
  | .complex => some (.object (complexParts (artifact.typeName .float)))
  | _ => none

theorem member?_properties :
    (artifact.writeField typed).unwrapped.member? "properties" = artifact.properties? typed := by
  obtain ⟨kind, isArray, description, itemDescription, properties⟩ := typed
  cases artifact with
  | searchMapping =>
    have htype : kind.mappingType ≠ "array" := typeName_ne_array .searchMapping kind
    rw [writeField, Field.searchMapping, unwrapped_of_type find?_members_type htype]
    cases kind <;> rfl
  | jsonSchema =>
    have hplain (description : Option String) :
        (Json.object (describe description (members kind kind.schemaType Kind.float.schemaType
          (jsonSchemas properties)))).member? "properties" =
          properties? .jsonSchema ⟨kind, isArray, description, itemDescription, properties⟩ := by
      rw [Json.member?, find?_describe (by decide)]
      cases kind <;> rfl
    rw [writeField, Field.jsonSchema]
    cases isArray with
    | false =>
      rw [if_neg (by decide), unwrapped_of_type _ (typeName_ne_array .jsonSchema kind)]
      · exact hplain description
      · rw [find?_describe (by decide)]
        exact find?_members_type
    | true =>
      rw [if_pos rfl]
      unfold Json.unwrapped
      rw [Json.member?, Json.member?, find?_describe (by decide), find?_describe (by decide)]
      exact hplain itemDescription

theorem property?_writeField (name : String) : (artifact.writeField typed).property? name =
    match typed.kind with
    | .record => (Keyed.find? name typed.properties).map artifact.writeField
    | .complex => Keyed.find? name (complexParts (artifact.typeName .float))
    | _ => none := by
  unfold Json.property?
  rw [member?_properties]
  unfold properties?
  cases typed.kind with
  | record => exact member?_writeFields name typed.properties
  | complex | string | float | boolean | constant => rfl

theorem find?_complexParts (number : String) : Keyed.find? name (complexParts number) =
    if name ∈ partNames then some (.object [("type", .text number)]) else none := by
  rw [complexParts, Keyed.find?_cons, Keyed.find?_cons]
  by_cases himag : "imag" = name
  · rw [if_pos himag, if_pos (himag ▸ by decide)]
  · rw [if_neg himag]
    by_cases hreal : "real" = name
    · rw [if_pos hreal, if_pos (hreal ▸ by decide)]
    · have hname : name ∉ partNames := by
        simp only [partNames, List.mem_cons, List.not_mem_nil, or_false, not_or]
        exact ⟨Ne.symm himag, Ne.symm hreal⟩
      rw [if_neg hreal, if_neg hname]
      rfl

theorem below?_part (artifact : Artifact) :
    (Json.below? (.object [("type", .text (artifact.typeName .float))]) names).isSome ↔ names = [] := by
  cases names with
  | nil => exact ⟨fun _ => rfl, fun _ => rfl⟩
  | cons name rest =>
    have hnone : Json.property? (.object [("type", .text (artifact.typeName .float))]) name = none := by
      unfold Json.property?
      rw [unwrapped_of_type rfl (typeName_ne_array artifact .float)]
      rfl
    rw [Json.below?, hnone]
    exact ⟨fun h => (nomatch h), fun h => (nomatch h)⟩

theorem below?_writeField (hf : typed.below? names = some f) (hregular : typed.Regular) :
    (artifact.writeField typed).below? names = some (artifact.writeField f) := by
  induction names generalizing typed with
  | nil =>
    cases hf
    rfl
  | cons name rest ih =>
    obtain ⟨next, hnext, hrest⟩ := Option.bind_eq_some_iff.1 hf
    have hkind : typed.kind = .record := by
      by_contra hk
      rw [(hregular [] typed rfl).2 hk] at hnext
      cases hnext
    rw [Json.below?, property?_writeField, hkind, hnext]
    exact ih hrest (hregular.below hnext)

theorem isSome_below?_iff (hregular : typed.Regular) :
    ((artifact.writeField typed).below? names).isSome ↔
    (typed.below? names).isSome ∨ typed.HasPart names := by
  induction names generalizing typed with
  | nil => exact ⟨fun _ => .inl rfl, fun _ => rfl⟩
  | cons name rest ih =>
    rw [Json.below?, property?_writeField, Field.below?, hasPart_cons]
    by_cases hk : typed.kind = .record
    · rw [hk]
      dsimp only
      cases hnext : Keyed.find? name typed.properties with
      | none => simp
      | some next =>
        rw [Option.map_some, Option.bind_some, Option.bind_some, ih (hregular.below hnext)]
        simp
    · have hnone : Keyed.find? name typed.properties = none := by
        rw [(hregular [] typed rfl).2 hk]
        rfl
      rw [hnone]
      cases hkind : typed.kind with
      | record => exact absurd hkind hk
      | complex =>
        dsimp only
        rw [find?_complexParts]
        by_cases hname : name ∈ partNames
        · rw [if_pos hname, Option.bind_some, below?_part]
          simp [hname]
        · rw [if_neg hname]
          simp [hname]
      | string | float | boolean | constant => simp

def structureOf (fields : Keyed Field) : Field := ⟨.record, false, none, none, fields⟩

variable {fields : Keyed Field}

theorem at?_eq_below? (hnames : names ≠ []) :
    Field.at? fields names = (structureOf fields).below? names := by
  cases names with
  | nil => exact absurd rfl hnames
  | cons name rest => rfl

theorem at?_writeFields (hnames : names ≠ []) : (artifact.writeFields fields).at? names =
    (artifact.writeField (structureOf fields)).below? names := by
  cases names with
  | nil => exact absurd rfl hnames
  | cons name rest =>
    rw [Json.at?, member?_writeFields, Json.below?, property?_writeField]
    rfl

theorem regular_structureOf {tree : Node} {root : String} (ht : tree.topFields root = .ok fields) :
    (structureOf fields).Regular := by
  intro names f hf
  cases names with
  | nil =>
    cases hf
    exact ⟨Node.fields_ordered List.Pairwise.nil ht, fun hk => absurd rfl hk⟩
  | cons name rest =>
    rw [← at?_eq_below? (List.cons_ne_nil name rest)] at hf
    obtain ⟨n, -, hn⟩ := Keyed.rel_some_right (hf ▸ Node.fieldAt?_rel ht (name :: rest))
    exact Node.regular_of_types hn [] f rfl

theorem ofTree_ok {tree : Node} {root : String} {output : Json} (h : artifact.ofTree root tree = .ok output) :
    ∃ fields, tree.topFields root = .ok fields ∧ output = artifact.writeFields fields := by
  unfold ofTree at h
  cases ht : tree.topFields root with
  | error fault =>
    rw [ht] at h
    cases h
  | ok fields =>
    rw [ht] at h
    cases h
    exact ⟨fields, rfl, rfl⟩

end Artifact

namespace Node

variable {tree node : Node} {place : Path} {root root' : String} {artifact : Artifact} {output : Json}
  {fields : Keyed Field} {position : List String} {limit : Nat} {entries : List (String × Json)}

/-- Whether a position is that of a part of a reached complex number. -/
def PartAt (tree : Node) (position : List String) : Prop :=
  ∃ place node part, tree.Reached place node ∧ node.kind? = some .complex ∧ part ∈ Field.partNames ∧
    position = Path.names place ++ [part]

structure Mirrors (artifact : Artifact) (tree : Node) (output : Json) : Prop where
  written : ∀ place node, tree.Reached place node → ∃ path written,
    artifact.ofNode path node = .ok written ∧ output.at? (Path.names place) = some written
  apart : ∀ place node place' node', tree.Reached place node → tree.Reached place' node' →
    Path.names place = Path.names place' → place = place'
  positions : ∀ position, (output.at? position).isSome ↔
    (∃ place node, tree.Reached place node ∧ Path.names place = position) ∨ tree.PartAt position
  parts : ∀ position, tree.PartAt position → ¬ ∃ place node, tree.Reached place node ∧ Path.names place = position

section

variable (hspaced : ∀ place, tree.Has place → place.Spaced) (ht : tree.topFields root = .ok fields)
include hspaced ht

theorem Reached.typed (h : tree.Reached place node) : Path.names place ≠ [] ∧
    ∃ typed, (Artifact.structureOf fields).below? (Path.names place) = some typed ∧ node.Types typed := by
  have hat := h.fieldAt? hspaced ht
  have hnames : Path.names place ≠ [] := by
    intro he
    rw [he] at hat
    cases hat
  obtain ⟨typed, htyped, htypes⟩ := Keyed.rel_some_left (hat ▸ fieldAt?_rel ht (Path.names place))
  exact ⟨hnames, typed, Artifact.at?_eq_below? hnames ▸ htyped, htypes⟩

omit hspaced in
theorem reached_of_typed {typed : Field} (hposition : position ≠ [])
    (h : (Artifact.structureOf fields).below? position = some typed) :
    ∃ place node, tree.Reached place node ∧ Path.names place = position ∧ node.Types typed := by
  rw [← Artifact.at?_eq_below? hposition] at h
  obtain ⟨n, hn, htypes⟩ := Keyed.rel_some_right (h ▸ fieldAt?_rel ht position)
  obtain ⟨place, hreached, hnames⟩ := reached_of_fieldAt? hn
  exact ⟨place, n, hreached, hnames, htypes⟩

theorem Reached.written_typed (artifact : Artifact) (h : tree.Reached place node) : ∃ typed, node.Types typed ∧
    (artifact.writeFields fields).at? place.names = some (artifact.writeField typed) := by
  obtain ⟨hnames, typed, htyped, htypes⟩ := h.typed hspaced ht
  refine ⟨typed, htypes, ?_⟩
  rw [Artifact.at?_writeFields hnames]
  exact Artifact.below?_writeField htyped (Artifact.regular_structureOf ht)

theorem Reached.written (h : tree.Reached place node) : ∃ path written,
    artifact.ofNode path node = .ok written ∧ (artifact.writeFields fields).at? (Path.names place) = some written := by
  obtain ⟨typed, ⟨path, hfield⟩, hat⟩ := h.written_typed hspaced ht artifact
  refine ⟨path, artifact.writeField typed, ?_, hat⟩
  unfold Artifact.ofNode
  rw [hfield]
  rfl

theorem hasPart_structureOf_iff :
    (Artifact.structureOf fields).HasPart position ↔ tree.PartAt position := by
  constructor
  · rintro ⟨names, part, f, rfl, hpart, hf, hk⟩
    have hnames : names ≠ [] := by
      rintro rfl
      cases hf
      cases hk
    obtain ⟨place, n, hreached, rfl, htypes⟩ := reached_of_typed ht hnames hf
    exact ⟨place, n, part, hreached, hk ▸ kind?_of_types htypes, hpart, rfl⟩
  · rintro ⟨place, n, part, hreached, hk, hpart, rfl⟩
    obtain ⟨-, f, hf, htypes⟩ := hreached.typed hspaced ht
    have hkind : f.kind = .complex := Option.some.inj ((kind?_of_types htypes).symm.trans hk)
    exact ⟨Path.names place, part, f, rfl, hpart, hf, hkind⟩

theorem isSome_at?_iff : ((artifact.writeFields fields).at? position).isSome ↔
    (∃ place node, tree.Reached place node ∧ Path.names place = position) ∨ tree.PartAt position := by
  rw [← hasPart_structureOf_iff hspaced ht]
  have hreached : (∃ place node, tree.Reached place node ∧ Path.names place = position) ↔
      position ≠ [] ∧ ((Artifact.structureOf fields).below? position).isSome := by
    constructor
    · rintro ⟨place, n, h, rfl⟩
      obtain ⟨hnames, typed, htyped, -⟩ := h.typed hspaced ht
      exact ⟨hnames, htyped ▸ rfl⟩
    · rintro ⟨hposition, hsome⟩
      obtain ⟨typed, htyped⟩ := Option.isSome_iff_exists.1 hsome
      obtain ⟨place, n, h, hnames, -⟩ := reached_of_typed ht hposition htyped
      exact ⟨place, n, h, hnames⟩
  rw [hreached]
  by_cases hposition : position = []
  · subst hposition
    constructor
    · exact fun h => nomatch h
    · rintro (⟨hne, -⟩ | ⟨names, part, f, hnames, -⟩)
      · exact absurd rfl hne
      · exact absurd hnames (by simp)
  · rw [Artifact.at?_writeFields hposition, Artifact.isSome_below?_iff (Artifact.regular_structureOf ht)]
    exact or_congr_left (and_iff_right hposition).symm

theorem PartAt.not_reached (h : tree.PartAt position) :
    ¬ ∃ place node, tree.Reached place node ∧ Path.names place = position := by
  rintro ⟨place', n', hreached', hposition⟩
  obtain ⟨place, n, part, hreached, hk, -, rfl⟩ := h
  obtain ⟨-, f, hf, htypes⟩ := hreached.typed hspaced ht
  obtain ⟨-, f', hf', -⟩ := hreached'.typed hspaced ht
  have hkind : f.kind = .complex := Option.some.inj ((kind?_of_types htypes).symm.trans hk)
  have hnone : f.properties = [] := by
    refine (Artifact.regular_structureOf ht (Path.names place) f hf).2 ?_
    rw [hkind]
    decide
  rw [hposition, Field.below?_append, hf, Option.bind_some, Field.below?, hnone] at hf'
  cases hf'

end

/-- Every artifact of an assembled tree holds exactly the fields of the tree. -/
theorem output_positions (h : assemble root limit entries = .ok tree)
    (ho : artifact.ofTree root' tree = .ok output) : Mirrors artifact tree output := by
  have hspaced : ∀ place, tree.Has place → place.Spaced := fun _ hplace => assemble_spaced h hplace
  unfold Artifact.ofTree at ho
  cases ht : tree.topFields root' with
  | error fault =>
    rw [ht] at ho
    cases ho
  | ok fields =>
    rw [ht] at ho
    cases ho
    constructor
    · exact fun place node hreached => hreached.written hspaced ht
    · exact fun place node place' node' hreached hreached' => hreached.unique hspaced ht hreached'
    · exact fun position => isSome_at?_iff hspaced ht
    · exact fun position hpart => hpart.not_reached hspaced ht

theorem output_positions_array :
    let entries := [("g.a", Json.object [("data_type", .text "STRUCT_ARRAY")]),
      ("g.a[:].z", Json.object [("data_type", .text "CPX_0D")])]
    let output := Json.object [("a", .object [("items", .object [
      ("properties", .object [("z", .object [("properties", .object (Field.complexParts "number")),
        ("type", .text "object")])]), ("type", .text "object")]), ("type", .text "array")])]
    let tree : Node := ⟨[], [("a", ⟨[("data_type", .text "STRUCT_ARRAY")], [],
      some ⟨[], [("z", ⟨[("data_type", .text "CPX_0D")], [], none⟩)], none⟩⟩)], none⟩
    assemble "g" 4 entries = .ok tree ∧ Artifact.jsonSchema.ofTree "g" tree = .ok output ∧
      Mirrors .jsonSchema tree output := by
  intro entries output tree
  have h : assemble "g" 4 entries = .ok tree := by cbv
  have ho : Artifact.jsonSchema.ofTree "g" tree = .ok output := by cbv
  exact ⟨h, ho, output_positions h ho⟩

end Node

end DottedSchema
