import DottedSchema.CommandLine
import DottedSchema.Proofs.Artifact.Positions
import DottedSchema.Proofs.Classes.Acceptance

set_option autoImplicit false

namespace DottedSchema

namespace Field

def skeletonOf (kind : Kind) (properties : List (String × Skeleton)) : Skeleton :=
  match kind with
  | .record => .object properties
  | .complex => .object [("imag", .scalar Kind.float.schemaType), ("real", .scalar Kind.float.schemaType)]
  | kind => .scalar kind.schemaType

mutual

def skeleton : Field → Skeleton
  | ⟨kind, isArray, _, _, properties⟩ =>
    let single := skeletonOf kind (skeletons properties)
    if isArray then .array single else single

def skeletons : List (String × Field) → List (String × Skeleton)
  | [] => []
  | (name, field) :: rest => (name, skeleton field) :: skeletons rest

end

theorem hasSkeleton_scalar {type : String} (hobject : type ≠ "object") (harray : type ≠ "array")
    (description : Option String) :
    (Json.object (describe description [("type", .text type)])).HasSkeleton (.scalar type) :=
  .scalar (find?_describe (by decide)) hobject harray

theorem hasSkeleton_object {properties : List (String × Json)} {ss : List (String × Skeleton)}
    (h : Json.HaveSkeletons properties ss) (description : Option String) :
    (Json.object (describe description [("properties", .object properties), ("type", .text "object")])).HasSkeleton
      (.object ss) :=
  .object (find?_describe (by decide)) (find?_describe (by decide)) h

theorem hasSkeleton_members (kind : Kind) {properties : List (String × Json)} {ss : List (String × Skeleton)}
    (h : Json.HaveSkeletons properties ss) (description : Option String) :
    (Json.object (describe description
      (members kind kind.schemaType Kind.float.schemaType properties))).HasSkeleton (skeletonOf kind ss) := by
  have hpart : (Json.object [("type", .text Kind.float.schemaType)]).HasSkeleton (.scalar Kind.float.schemaType) :=
    hasSkeleton_scalar (by decide) (by decide) none
  cases kind with
  | record => exact hasSkeleton_object h description
  | complex => exact hasSkeleton_object (.cons hpart (.cons hpart .nil)) description
  | string | float | boolean | constant => exact hasSkeleton_scalar (by decide) (by decide) description

mutual

theorem hasSkeleton_jsonSchema : ∀ field : Field, field.jsonSchema.HasSkeleton field.skeleton
  | ⟨kind, isArray, description, itemDescription, properties⟩ => by
    have hbelow := haveSkeletons_jsonSchemas properties
    rw [jsonSchema, skeleton]
    cases isArray with
    | false => exact hasSkeleton_members kind hbelow description
    | true =>
      exact .array (find?_describe (by decide)) (find?_describe (by decide))
        (hasSkeleton_members kind hbelow itemDescription)

theorem haveSkeletons_jsonSchemas : ∀ fields : List (String × Field),
    Json.HaveSkeletons (jsonSchemas fields) (skeletons fields)
  | [] => .nil
  | (_, field) :: rest => .cons (hasSkeleton_jsonSchema field) (haveSkeletons_jsonSchemas rest)

end

section

variable {leaf : String → Option String}

theorem supported_skeletonOf (hleaf : ∀ kind : Kind, kind.isObject = false → (leaf kind.schemaType).isSome)
    (kind : Kind) {ss : List (String × Skeleton)} (h : Skeleton.AllSupported leaf ss) :
    (skeletonOf kind ss).Supported leaf := by
  cases kind with
  | record => exact h
  | complex => exact ⟨hleaf .float rfl, hleaf .float rfl, trivial⟩
  | string => exact hleaf .string rfl
  | float => exact hleaf .float rfl
  | boolean => exact hleaf .boolean rfl
  | constant => exact hleaf .constant rfl

mutual

theorem supported_skeleton (hleaf : ∀ kind : Kind, kind.isObject = false → (leaf kind.schemaType).isSome) :
    ∀ field : Field, field.skeleton.Supported leaf
  | ⟨kind, isArray, _, _, properties⟩ => by
    have hsingle := supported_skeletonOf hleaf kind (supported_skeletons hleaf properties)
    rw [skeleton]
    cases isArray with
    | false => exact hsingle
    | true => exact hsingle

theorem supported_skeletons (hleaf : ∀ kind : Kind, kind.isObject = false → (leaf kind.schemaType).isSome) :
    ∀ fields : List (String × Field), Skeleton.AllSupported leaf (skeletons fields)
  | [] => trivial
  | (_, field) :: rest => ⟨supported_skeleton hleaf field, supported_skeletons hleaf rest⟩

end

end

end Field

namespace ClassFormat

theorem isSome_scalar (format : ClassFormat) (kind : Kind) (h : kind.isObject = false) :
    (format.style.scalar kind.schemaType).isSome := by
  revert h
  cases format <;> cases kind <;> decide

theorem classes_of_fields (format : ClassFormat) (root : String) (fields : Keyed Field) :
    ∃ classes, format.style.classes root (Artifact.jsonSchema.writeFields fields) = .ok classes ∧
      format.style.Fresh [] classes := by
  have hskeleton : (Shape.topNode (Artifact.jsonSchema.writeFields fields)).HasSkeleton
      (.object (Field.skeletons fields)) := .object rfl rfl (Field.haveSkeletons_jsonSchemas fields)
  obtain ⟨classes, hclasses⟩ := ClassStyle.classes_isOk_iff.2
    ⟨_, hskeleton, Field.supported_skeletons format.isSome_scalar fields⟩
  exact ⟨classes, hclasses, ClassStyle.classes_fresh format.numbers hclasses⟩

theorem generate_of_fields (format : ClassFormat) (root : String) (fields : Keyed Field) :
    ∃ source, format.generate root (Artifact.jsonSchema.writeFields fields) = .ok source := by
  obtain ⟨classes, hclasses, -⟩ := classes_of_fields format root fields
  exact ⟨_, by rw [generate, ClassStyle.module, hclasses]; rfl⟩

end ClassFormat

variable {schema : Schema} {options : Options} {document written : Json} {files : FileSource} {path : String}

theorem Schema.convert_ok (h : schema.convert options = .ok written) :
    ∃ tree fields, schema.tree options = .ok tree ∧ tree.topFields schema.root = .ok fields ∧
      written = options.artifact.writeFields fields := by
  obtain ⟨tree, htree, h⟩ := Node.bind_eq_ok h
  unfold Artifact.ofTree at h
  cases hfields : tree.topFields schema.root with
  | error fault =>
    rw [hfields] at h
    cases h
  | ok fields =>
    rw [hfields] at h
    cases h
    exact ⟨tree, fields, htree, hfields, rfl⟩

theorem convertDocument_ok (h : convertDocument document options = .ok written) :
    ∃ fields, written = options.artifact.writeFields fields := by
  obtain ⟨schema, -, h⟩ := Node.bind_eq_ok h
  obtain ⟨_, fields, -, -, hwritten⟩ := Schema.convert_ok h
  exact ⟨fields, hwritten⟩

/-- A file that one artifact can be written from has fields, and every artifact is written from them. -/
theorem convertFile_standard {a : Artifact} (h : convertFile files path (.standard a) = .ok written) :
    ∃ fields, ∀ b : Artifact, convertFile files path (.standard b) = .ok (b.writeFields fields) := by
  obtain ⟨schema, hload, h⟩ := Node.bind_eq_ok h
  obtain ⟨tree, fields, htree, hfields, -⟩ := Schema.convert_ok h
  refine ⟨fields, fun b => ?_⟩
  have hload' : Schema.load files path (Options.standard b).root = .ok schema := hload
  have htree' : schema.tree (.standard b) = .ok tree := htree
  rw [convertFile, hload', Node.ok_bind, Schema.convert_of_tree htree', Artifact.ofTree, hfields]
  rfl

theorem Schema.document_toUTF8 (text : String) :
    Schema.document text.toUTF8 = (Json.read text).mapError .notJson := by
  have htext : String.fromUTF8? text.toUTF8 = some text := by
    rw [String.fromUTF8?, String.toUTF8_eq_toByteArray, dif_pos text.isValidUTF8]
    rfl
  rw [Schema.document, htext]

namespace CommandLine

variable {arguments : List String} {input : String} {output : Output}

theorem write_status (output : Output) (root : String) (fields : Keyed Field) :
    (write output root (output.options.artifact.writeFields fields)).status = 0 := by
  cases output with
  | artifact artifact => rfl
  | classes format =>
    obtain ⟨source, hsource⟩ := format.generate_of_fields root fields
    have hsource' : format.generate root ((Output.classes format).options.artifact.writeFields fields) = .ok source :=
      hsource
    rw [write, hsource']
    rfl

theorem Output.options_eq (output : Output) : output.options = .standard output.options.artifact := by
  cases output <;> rfl

/-- A run succeeds exactly where its file has typed fields, whatever is written from them. -/
theorem run_status_iff (h : parse arguments = some (.run input output)) : (run files arguments).status = 0 ↔
    ∃ fields, ∀ a : Artifact, convertFile files input (.standard a) = .ok (a.writeFields fields) := by
  have hexecute : run files arguments = execute files (.run input output) := by rw [run, h]
  rw [hexecute, execute]
  constructor
  · intro hstatus
    cases hfile : convertFile files input output.options with
    | error fault =>
      rw [hfile] at hstatus
      cases hstatus
    | ok written => exact convertFile_standard (output.options_eq ▸ hfile)
  · rintro ⟨fields, hfields⟩
    rw [output.options_eq, hfields]
    exact write_status output _ fields

theorem write_cases (output : Output) (root : String) (written : Json) :
    (∃ text, write output root written = .success text) ∨
      ∃ heading fault, write output root written = .failure heading fault := by
  cases output with
  | artifact artifact => exact .inl ⟨_, rfl⟩
  | classes format =>
    rw [write]
    cases format.generate root written with
    | ok source => exact .inl ⟨source, rfl⟩
    | error fault => exact .inr ⟨_, fault, rfl⟩

theorem run_cases (files : FileSource) (arguments : List String) :
    (∃ text, run files arguments = .success text) ∨ (∃ heading fault, run files arguments = .failure heading fault) ∨
      run files arguments = .usage := by
  unfold run
  cases parse arguments with
  | none => exact .inr (.inr rfl)
  | some request =>
    cases request with
    | help => exact .inl ⟨_, rfl⟩
    | version => exact .inl ⟨_, rfl⟩
    | run input output =>
      dsimp only [execute]
      cases convertFile files input output.options with
      | error fault => exact .inr (.inl ⟨_, fault, rfl⟩)
      | ok written => exact (write_cases output _ written).imp_right .inl

theorem stdout_of_failed (h : (run files arguments).status ≠ 0) : (run files arguments).stdout = "" := by
  obtain ⟨text, hrun⟩ | ⟨heading, fault, hrun⟩ | hrun := run_cases files arguments
  · rw [hrun] at h
    exact absurd rfl h
  · rw [hrun]
    rfl
  · rw [hrun]
    rfl

/-- Code generation accepts all that is converted to JSON Schema; every class gets a key that was free, so no search
for a number is in vain. Hence the outputs of the command line accept the same files. A run that fails writes
nothing. -/
theorem generation_accepts_conversions :
    (∀ (document : Json) (options : Options) (schema : Json), options.artifact = .jsonSchema →
      convertDocument document options = .ok schema → ∀ format : ClassFormat,
        (∃ classes, format.style.classes options.root schema = .ok classes ∧ format.style.Fresh [] classes) ∧
          ∃ source, format.generate options.root schema = .ok source) ∧
    (∀ (files : FileSource) (arguments arguments' : List String) (input : String) (output output' : Output),
      parse arguments = some (.run input output) → parse arguments' = some (.run input output') →
        ((run files arguments).status = 0 ↔ (run files arguments').status = 0)) ∧
    ∀ (files : FileSource) (arguments : List String),
      (run files arguments).status ≠ 0 → (run files arguments).stdout = "" := by
  refine ⟨fun document options schema hartifact h format => ?_, fun files _ _ _ _ _ hparse hparse' => ?_,
    fun files arguments h => stdout_of_failed h⟩
  · obtain ⟨fields, rfl⟩ := convertDocument_ok h
    rw [hartifact]
    exact ⟨format.classes_of_fields options.root fields, format.generate_of_fields options.root fields⟩
  · rw [run_status_iff hparse, run_status_iff hparse']

theorem generation_accepts_complex_array :
    let document : Json := .object [("g", .object []), ("g.a", .object [("data_type", .text "CPX_1D")]),
      ("g.b.c", .object [("data_type", .text "STR_0D"), ("documentation", .text "A name.")])]
    let options : Options := ⟨.jsonSchema, "g", .empty, 4⟩
    let complex : Json := .object [("properties", .object [("imag", .object [("type", .text "number")]),
      ("real", .object [("type", .text "number")])]), ("type", .text "object")]
    let schema : Json := .object [("a", .object [("items", complex), ("type", .text "array")]),
      ("b", .object [("properties", .object [("c", .object [("description", .text "A name."),
        ("type", .text "string")])]), ("type", .text "object")])]
    let text := "\x7b\"gyrokinetics\": \x7b\x7d, \"gyrokinetics.a\": \x7b\"data_type\": \"CPX_1D\"\x7d\x7d"
    let files : FileSource := fun path => if path = "s.json" then .ok text.toUTF8 else .error .notFound
    options.artifact = .jsonSchema ∧ convertDocument document options = .ok schema ∧
      (∃ source, ClassFormat.marshmallow.generate "g" schema = .ok source) ∧
      (∃ classes, ClassFormat.dataclasses.style.classes "g" schema = .ok classes ∧
        ClassFormat.dataclasses.style.Fresh [] classes) ∧
      parse ["s.json", "jsonschema"] = some (.run "s.json" (.artifact .jsonSchema)) ∧
      parse ["s.json", "dataclasses"] = some (.run "s.json" (.classes .dataclasses)) ∧
      (run files ["s.json", "dataclasses"]).status = 0 ∧
      (run files ["s.json", "yaml"]).status ≠ 0 ∧ (run files ["s.json", "yaml"]).stdout = "" := by
  intro document options complex schema text files
  let entries : Keyed Json := [("g.a", .object [("data_type", .text "CPX_1D")]),
    ("g.b.c", .object [("data_type", .text "STR_0D"), ("documentation", .text "A name.")])]
  let tree : Node := ⟨[], [("a", ⟨[("data_type", .text "CPX_1D")], [], none⟩),
    ("b", ⟨[], [("c", ⟨[("data_type", .text "STR_0D"), ("documentation", .text "A name.")], [], none⟩)], none⟩)], none⟩
  have hdocument : convertDocument document options = .ok schema := by
    have hentries : Schema.ofDocument "g" memoryLabel document = .ok ⟨"g", entries⟩ := rfl
    have htree : Schema.tree ⟨"g", entries⟩ options = .ok tree := by cbv
    rw [convertDocument_of_tree hentries htree]
    rfl
  have hparse : parse ["s.json", "jsonschema"] = some (.run "s.json" (.artifact .jsonSchema)) := by decide
  have hparse' : parse ["s.json", "dataclasses"] = some (.run "s.json" (.classes .dataclasses)) := by decide
  have hload : Schema.load files "s.json" Options.standardRoot =
      .ok ⟨Options.standardRoot, [("gyrokinetics.a", .object [("data_type", .text "CPX_1D")])]⟩ := by
    have hread : Schema.document text.toUTF8 = .ok (.object [("gyrokinetics", .object []),
        ("gyrokinetics.a", .object [("data_type", .text "CPX_1D")])]) := by
      rw [Schema.document_toUTF8]
      dsimp only [text]
      rfl
    have hfile : files "s.json" = .ok text.toUTF8 := if_pos rfl
    rw [Schema.load, hfile]
    change Except.mapError _ (Schema.document text.toUTF8) >>= _ = _
    rw [hread]
    rfl
  have hstatus : (run files ["s.json", "jsonschema"]).status = 0 := by
    have hwritten : ∃ v, convertFile files "s.json" (.standard .jsonSchema) = .ok v := by
      rw [convertFile]
      change ∃ v, (Schema.load files "s.json" Options.standardRoot >>= _) = .ok v
      rw [hload]
      exact ⟨_, by cbv⟩
    obtain ⟨v, hv⟩ := hwritten
    exact (run_status_iff hparse).2 (convertFile_standard hv)
  have hfailed : (run files ["s.json", "yaml"]).status ≠ 0 := by
    have husage : parse ["s.json", "yaml"] = none := by decide
    rw [run, husage]
    exact Nat.succ_ne_zero 1
  obtain ⟨haccepts, hsame, hsilent⟩ := generation_accepts_conversions
  have hformat := haccepts document options schema rfl hdocument
  refine ⟨rfl, hdocument, (hformat .marshmallow).2, (hformat .dataclasses).1, hparse, hparse', ?_, hfailed,
    hsilent files _ hfailed⟩
  exact (hsame files _ _ _ _ _ hparse hparse').1 hstatus

end CommandLine

end DottedSchema
