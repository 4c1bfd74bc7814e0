import DottedSchema.Proofs.Artifact.Positions
import DottedSchema.Proofs.Field.Defects

set_option autoImplicit false

namespace DottedSchema

def Json.Hollow (value : Json) : Prop := value.unwrapped.member? "properties" = some (.object [])

namespace Artifact

variable {artifact : Artifact} {typed : Field} {fields : Keyed Field} {names : List String} {value : Json}

theorem writeFields_eq_empty_iff : artifact.writeFields fields = .object [] ↔ fields = [] := by
  cases artifact with
  | jsonSchema => rw [writeFields, Json.object.injEq, Field.jsonSchemas_eq_map, List.map_eq_nil_iff]
  | searchMapping => rw [writeFields, Json.object.injEq, Field.searchMappings_eq_map, List.map_eq_nil_iff]

theorem hollow_writeField_iff :
    (artifact.writeField typed).Hollow ↔ typed.kind = .record ∧ typed.properties = [] := by
  unfold Json.Hollow
  rw [member?_properties]
  unfold properties?
  cases typed.kind with
  | record =>
    rw [Option.some.injEq, writeFields_eq_empty_iff]
    exact (and_iff_right rfl).symm
  | complex => exact ⟨fun h => (nomatch h), fun h => (nomatch h.1)⟩
  | string | float | boolean | constant => exact ⟨fun h => (nomatch h), fun h => (nomatch h.1)⟩

theorem not_hollow_part (artifact : Artifact) :
    ¬ (Json.object [("type", .text (artifact.typeName .float))]).Hollow := by
  unfold Json.Hollow
  rw [Field.unwrapped_of_type rfl (typeName_ne_array artifact .float)]
  exact fun h => nomatch h

/-- The parts of complex numbers are no objects, so what is hollow below a written field is a field below it. -/
theorem exists_below?_of_hollow (hregular : typed.Regular) (h : (artifact.writeField typed).below? names = some value)
    (hvalue : value.Hollow) : ∃ f, typed.below? names = some f ∧ value = artifact.writeField f := by
  induction names generalizing typed with
  | nil =>
    cases h
    exact ⟨typed, rfl, rfl⟩
  | cons name rest ih =>
    obtain ⟨child, hchild, hrest⟩ := Option.bind_eq_some_iff.1 h
    rw [property?_writeField] at hchild
    cases hkind : typed.kind with
    | record =>
      rw [hkind] at hchild
      obtain ⟨next, hnext, rfl⟩ := Option.map_eq_some_iff.1 hchild
      obtain ⟨f, hf, hwritten⟩ := ih (hregular.below hnext) hrest
      refine ⟨f, ?_, hwritten⟩
      rw [Field.below?, hnext]
      exact hf
    | complex =>
      rw [hkind] at hchild
      dsimp only at hchild
      rw [find?_complexParts] at hchild
      split at hchild
      · cases hchild
        obtain rfl := (below?_part artifact).1 (Option.isSome_of_eq_some hrest)
        cases hrest
        exact absurd hvalue (not_hollow_part artifact)
      · cases hchild
    | string | float | boolean | constant =>
      rw [hkind] at hchild
      cases hchild

end Artifact

namespace Node

variable {node tree : Node} {typed : Field} {place : Path} {path root root' : String} {limit : Nat}
  {entries : List (String × Json)} {own item : Option TypeCode} {type : TypeCode} {artifact : Artifact}
  {output : Json} {fields : Keyed Field} {position : List String}

/-- No field lies below the field, be it as a child of its own or of its element. -/
def Bare (node : Node) : Prop :=
  node.children = [] ∧ ∀ element, node.element = some element → element.children = []

def Declared (node : Node) : Prop := node.typeCode?.isSome ∨ node.elementTypeCode?.isSome

def DeclaresRecord (node : Node) : Prop :=
  ∃ value type, (node.typeCode? = some value ∨ node.elementTypeCode? = some value) ∧ value.Codes type ∧
    type.kind = .record

theorem DeclaresRecord.declared (h : node.DeclaresRecord) : node.Declared := by
  obtain ⟨value, _, hvalue, -⟩ := h
  exact hvalue.imp Option.isSome_of_eq_some Option.isSome_of_eq_some

theorem not_declared_iff : ¬ node.Declared ↔ node.typeCode? = none ∧ node.elementTypeCode? = none := by
  unfold Declared
  rw [not_or, Option.not_isSome_iff_eq_none, Option.not_isSome_iff_eq_none]

theorem bare_iff : node.Bare ↔ ∀ name, node.property? name = none := by
  unfold Bare property?
  simp only [Option.or_eq_none_iff, forall_and, Option.bind_eq_none_iff, Keyed.eq_nil_iff]
  exact and_congr_right fun _ => ⟨fun h name e he => h e he name, fun h e he name => h name e he⟩

theorem resolved_kind (h : node.resolved path own item = .ok type) :
    (∀ code, own = some code ∨ item = some code → code.kind = type.kind) ∧
      (own = none → item = none →
        type = ⟨.record, node.element.isSome⟩ ∧ (node.children = [] → node.element.isSome)) := by
  unfold resolved at h
  split at h
  · rename_i own item
    split at h
    · rename_i hkind
      cases h
      refine ⟨?_, nofun⟩
      rintro code (hcode | hcode)
      · cases hcode
        rfl
      · cases hcode
        exact hkind.symm
    · cases h
  · cases h
    refine ⟨?_, nofun⟩
    rintro code (hcode | hcode) <;> cases hcode
    rfl
  · cases h
    refine ⟨?_, fun _ => nofun⟩
    rintro code (hcode | hcode) <;> cases hcode
    rfl
  · split at h
    · cases h
    · rename_i hshape
      cases h
      refine ⟨?_, fun _ _ => ⟨rfl, fun hchildren => ?_⟩⟩
      · rintro code (hcode | hcode) <;> cases hcode
      · rw [hchildren, List.isEmpty_nil, Bool.true_and, ← Option.not_isSome, Bool.not_eq_true', Bool.not_eq_false]
          at hshape
        exact hshape

theorem Types.resolved (h : node.Types typed) : ∃ own item, Declares node.typeCode? own ∧
    Declares node.elementTypeCode? item ∧ node.resolved "" own item = .ok ⟨typed.kind, typed.isArray⟩ := by
  obtain ⟨path, type, properties, htype, rfl⟩ := h.parts
  obtain ⟨own, item, hown, hitem, hresolved, -⟩ := checkedType_ok htype
  exact ⟨own, item, hown, hitem, resolved_ok hresolved ""⟩

theorem Types.kind_of_declared {value : Json} (h : node.Types typed)
    (hvalue : node.typeCode? = some value ∨ node.elementTypeCode? = some value) :
    ∃ type, value.Codes type ∧ type.kind = typed.kind := by
  obtain ⟨own, item, hown, hitem, hresolved⟩ := h.resolved
  rcases hvalue with hvalue | hvalue
  · obtain ⟨code, rfl, hcodes⟩ := Keyed.rel_some_left (hvalue ▸ hown)
    exact ⟨code, hcodes, (resolved_kind hresolved).1 code (.inl rfl)⟩
  · obtain ⟨code, rfl, hcodes⟩ := Keyed.rel_some_left (hvalue ▸ hitem)
    exact ⟨code, hcodes, (resolved_kind hresolved).1 code (.inr rfl)⟩

theorem Types.shape_of_undeclared (h : node.Types typed) (hundeclared : ¬ node.Declared) :
    typed.kind = .record ∧ typed.isArray = node.element.isSome ∧ (node.children = [] → node.element.isSome) := by
  obtain ⟨own, item, hown, hitem, hresolved⟩ := h.resolved
  obtain ⟨howncode, hitemcode⟩ := not_declared_iff.1 hundeclared
  rw [howncode] at hown
  rw [hitemcode] at hitem
  cases hown
  cases hitem
  obtain ⟨htype, helement⟩ := (resolved_kind hresolved).2 rfl rfl
  obtain ⟨hkind, harray⟩ := (TypeCode.mk.injEq _ _ _ _).mp htype
  exact ⟨hkind, harray, helement⟩

theorem Types.record_iff (h : node.Types typed) :
    typed.kind = .record ↔ node.DeclaresRecord ∨ ¬ node.Declared := by
  constructor
  · intro hkind
    by_cases hdeclared : node.Declared
    · obtain ⟨value, hvalue⟩ : ∃ value, node.typeCode? = some value ∨ node.elementTypeCode? = some value :=
        exists_or.2 (hdeclared.imp Option.isSome_iff_exists.1 Option.isSome_iff_exists.1)
      obtain ⟨type, hcodes, htype⟩ := h.kind_of_declared hvalue
      exact .inl ⟨value, type, hvalue, hcodes, htype.trans hkind⟩
    · exact .inr hdeclared
  · rintro (⟨value, type, hvalue, hcodes, hrecord⟩ | hundeclared)
    · obtain ⟨type', hcodes', htype'⟩ := h.kind_of_declared hvalue
      rw [← htype', hcodes'.unique hcodes, hrecord]
    · exact (h.shape_of_undeclared hundeclared).1

theorem Types.properties_eq_nil_iff (h : node.Types typed) (hkind : typed.kind = .record) :
    typed.properties = [] ↔ node.Bare := by
  rw [Keyed.eq_nil_iff, bare_iff]
  refine forall_congr' fun name => ?_
  have hname := (h.property (hkind ▸ kind?_of_types h) name).1
  generalize node.property? name = n at hname
  generalize Keyed.find? name typed.properties = f at hname
  cases hname with
  | none => exact ⟨fun _ => rfl, fun _ => rfl⟩
  | some _ => exact ⟨nofun, nofun⟩

/-- An undeclared field with nothing below it is typed for its element only, as an array of structures. -/
theorem Types.of_bare (h : node.Types typed) (hbare : node.Bare) (hundeclared : ¬ node.Declared) :
    node.element.isSome ∧ typed = ⟨.record, true, node.descriptions.1, node.descriptions.2, []⟩ := by
  obtain ⟨hkind, harray, helement⟩ := h.shape_of_undeclared hundeclared
  have hsome : node.element.isSome := helement hbare.1
  have hproperties : typed.properties = [] := (h.properties_eq_nil_iff hkind).2 hbare
  obtain ⟨path, type, properties, -, rfl⟩ := h.parts
  dsimp only at hkind harray hproperties
  rw [hkind, harray, hsome, hproperties]
  exact ⟨rfl, rfl⟩

structure Settles (artifact : Artifact) (tree : Node) (output : Json) : Prop where
  undeclared : ∀ place node, tree.Reached place node → node.Bare → ¬ node.Declared → node.element.isSome ∧
    output.at? place.names =
      some (artifact.writeField ⟨.record, true, node.descriptions.1, node.descriptions.2, []⟩)
  /-- All that is written without properties is such a field or one that is declared as a structure. -/
  hollow : ∀ position, (∃ value, output.at? position = some value ∧ value.Hollow) ↔
    ∃ place node, tree.Reached place node ∧ place.names = position ∧ node.Bare ∧
      (node.DeclaresRecord ∨ ¬ node.Declared)
  declared : (∀ place node, tree.Reached place node → node.Bare → node.Declared) ↔
    ∀ position value, output.at? position = some value → value.Hollow →
      ∃ place node, tree.Reached place node ∧ place.names = position ∧ node.DeclaresRecord

section

variable (hspaced : ∀ place, tree.Has place → place.Spaced) (ht : tree.topFields root = .ok fields)
include hspaced ht

theorem Reached.eq_of_names {place' : Path} {node' : Node} (h : tree.Reached place node)
    (h' : tree.Reached place' node') (hnames : place.names = place'.names) : node = node' := by
  obtain rfl : place = place' := h.unique hspaced ht h' hnames
  exact Option.some.inj (h.found.symm.trans h'.found)

theorem hollow_at?_iff (artifact : Artifact) :
    (∃ value, (artifact.writeFields fields).at? position = some value ∧ value.Hollow) ↔
    ∃ place node, tree.Reached place node ∧ place.names = position ∧ node.Bare ∧
      (node.DeclaresRecord ∨ ¬ node.Declared) := by
  constructor
  · rintro ⟨value, hat, hvalue⟩
    have hposition : position ≠ [] := by
      rintro rfl
      cases hat
    rw [Artifact.at?_writeFields hposition] at hat
    obtain ⟨typed, htyped, rfl⟩ :=
      Artifact.exists_below?_of_hollow (Artifact.regular_structureOf ht) hat hvalue
    obtain ⟨place, node, hreached, hnames, htypes⟩ := reached_of_typed ht hposition htyped
    obtain ⟨hkind, hproperties⟩ := Artifact.hollow_writeField_iff.1 hvalue
    exact ⟨place, node, hreached, hnames, (htypes.properties_eq_nil_iff hkind).1 hproperties,
      htypes.record_iff.1 hkind⟩
  · rintro ⟨place, node, hreached, rfl, hbare, hrecord⟩
    obtain ⟨typed, htypes, hat⟩ := hreached.written_typed hspaced ht artifact
    have hkind : typed.kind = .record := htypes.record_iff.2 hrecord
    exact ⟨_, hat, Artifact.hollow_writeField_iff.2 ⟨hkind, (htypes.properties_eq_nil_iff hkind).2 hbare⟩⟩

end

/-- Of the fields with nothing below them those that are undeclared are converted exactly where they have an
element, to arrays of objects without properties. -/
theorem ofTree_leaves (h : assemble root limit entries = .ok tree)
    (ho : artifact.ofTree root' tree = .ok output) : Settles artifact tree output := by
  have hspaced : ∀ place, tree.Has place → place.Spaced := fun _ hplace => assemble_spaced h hplace
  obtain ⟨fields, ht, rfl⟩ := Artifact.ofTree_ok ho
  refine ⟨?_, fun position => hollow_at?_iff hspaced ht artifact, ?_, ?_⟩
  · intro place node hreached hbare hundeclared
    obtain ⟨typed, htypes, hat⟩ := hreached.written_typed hspaced ht artifact
    obtain ⟨helement, rfl⟩ := htypes.of_bare hbare hundeclared
    exact ⟨helement, hat⟩
  · intro hall position value hat hvalue
    obtain ⟨place, node, hreached, hnames, hbare, hrecord⟩ :=
      (hollow_at?_iff hspaced ht artifact).1 ⟨value, hat, hvalue⟩
    have hdeclared : node.Declared := hall place node hreached hbare
    exact ⟨place, node, hreached, hnames, hrecord.resolve_right fun hundeclared => hundeclared hdeclared⟩
  · intro hall place node hreached hbare
    by_contra hundeclared
    obtain ⟨value, hat, hvalue⟩ := (hollow_at?_iff hspaced ht artifact).2
      ⟨place, node, hreached, rfl, hbare, .inr hundeclared⟩
    obtain ⟨place', node', hreached', hnames, hrecord⟩ := hall _ value hat hvalue
    obtain rfl : node' = node := hreached'.eq_of_names hspaced ht hreached hnames
    exact hundeclared hrecord.declared

theorem ofTree_leaves_element :
    let entries := [("g.s", Json.object [("data_type", .text "STRUCTURE")]),
      ("g.t[:]", Json.object [("documentation", .text "Times.")])]
    let hollow := Json.object [("properties", .object []), ("type", .text "object")]
    let output := Json.object [("s", hollow),
      ("t", .object [("description", .text "Times."), ("items", hollow), ("type", .text "array")])]
    ∃ tree, assemble "g" 50 entries = .ok tree ∧ Artifact.jsonSchema.ofTree "g" tree = .ok output ∧
      Settles .jsonSchema tree output := by
  intro entries hollow output
  let tree : Node := ⟨[], [("s", ⟨[("data_type", .text "STRUCTURE")], [], none⟩),
    ("t", ⟨[], [], some ⟨[("documentation", .text "Times.")], [], none⟩⟩)], none⟩
  have h : assemble "g" 50 entries = .ok tree := by cbv
  have ho : Artifact.jsonSchema.ofTree "g" tree = .ok output := rfl
  exact ⟨tree, h, ho, ofTree_leaves h ho⟩

/-- A field and its element that are both documented, but not typed, and have nothing below them: the field is
written, as an array of structures that nothing declares. -/
theorem not_declared_element :
    let entries := [("g.a", Json.object [("documentation", .text "x")]),
      ("g.a[:]", Json.object [("documentation", .text "y")])]
    let output := Json.object [("a", .object [("description", .text "x"),
      ("items", .object [("description", .text "y"), ("properties", .object []), ("type", .text "object")]),
      ("type", .text "array")])]
    ∃ tree, assemble "g" 50 entries = .ok tree ∧ Artifact.jsonSchema.ofTree "g" tree = .ok output ∧
      ¬ (∀ place node, tree.Reached place node → node.Bare → node.Declared) ∧
      ¬ (∀ position value, output.at? position = some value → value.Hollow →
        ∃ place node, tree.Reached place node ∧ place.names = position ∧ node.DeclaresRecord) := by
  intro entries output
  let node : Node := ⟨[("documentation", .text "x")], [], some ⟨[("documentation", .text "y")], [], none⟩⟩
  let tree : Node := ⟨[], [("a", node)], none⟩
  have h : assemble "g" 50 entries = .ok tree := by cbv
  have ho : Artifact.jsonSchema.ofTree "g" tree = .ok output := rfl
  have hreached : tree.Reached [.field "a"] node := reached_of_descends rfl (.here node)
  have hbare : node.Bare := ⟨rfl, fun _ he => Option.some.inj he ▸ rfl⟩
  have hundeclared : ¬ node.Declared := not_declared_iff.2 ⟨rfl, rfl⟩
  refine ⟨tree, h, ho, fun hall => hundeclared (hall _ _ hreached hbare), fun hall => ?_⟩
  obtain ⟨place, found, hfound, hnames, hrecord⟩ := hall ["a"] _ rfl rfl
  have hspaced : ∀ place, tree.Has place → place.Spaced := fun _ hplace => assemble_spaced h hplace
  obtain ⟨fields, ht, -⟩ := Artifact.ofTree_ok ho
  obtain rfl : found = node := hfound.eq_of_names hspaced ht hreached hnames
  exact hundeclared hrecord.declared

end Node

end DottedSchema
