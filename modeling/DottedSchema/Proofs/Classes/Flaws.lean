import DottedSchema.Classes.Module
import DottedSchema.Path
import DottedSchema.Proofs.Classes.Acceptance
import DottedSchema.Proofs.Classes.ObjectNodes

set_option autoImplicit false

namespace DottedSchema

def Step.below (text : String) : Step → String
  | .field name => text ++ "." ++ name
  | .items => text ++ "[:]"

def Path.below (text : String) (place : Path) : String := place.foldl Step.below text

namespace Json

def leafTypes : List String := ["number", "string", "boolean"]

/-- A node that is as it should be in itself, and the nodes right in it. -/
inductive Form : Json → List (Step × Json) → Prop
  | leaf {members : List (String × Json)} {type : String} (declared : Keyed.find? "type" members = some (.text type))
      (known : type ∈ leafTypes) : Form (.object members) []
  | array {members : List (String × Json)} {item : Json} (declared : Keyed.find? "type" members = some (.text "array"))
      (items : Keyed.find? "items" members = some item) : Form (.object members) [(.items, item)]
  | bare {members : List (String × Json)} (declared : Keyed.find? "type" members = some (.text "object"))
      (missing : Keyed.find? "properties" members = none) : Form (.object members) []
  | object {members properties : List (String × Json)}
      (declared : Keyed.find? "type" members = some (.text "object"))
      (mapping : Keyed.find? "properties" members = some (.object properties)) :
      Form (.object members) (properties.map fun p => (.field p.1, p.2))

inductive WellFormed : Json → Prop
  | intro {node : Json} {parts : List (Step × Json)} (form : Form node parts)
      (below : ∀ part ∈ parts, WellFormed part.2) : WellFormed node

inductive HasFlaw : Json → Conflict → Prop
  | nodeNotMapping {node : Json} (h : node.object? = none) : HasFlaw node .nodeNotMapping
  | missingType {members : List (String × Json)} (missing : Keyed.find? "type" members = none) :
      HasFlaw (.object members) .missingType
  | typeNotText {members : List (String × Json)} {value : Json} (declared : Keyed.find? "type" members = some value)
      (notText : value.text? = none) : HasFlaw (.object members) .typeNotText
  | propertiesNotMapping {members : List (String × Json)} {value : Json}
      (declared : Keyed.find? "type" members = some (.text "object"))
      (present : Keyed.find? "properties" members = some value) (notMapping : value.object? = none) :
      HasFlaw (.object members) .propertiesNotMapping
  | missingItems {members : List (String × Json)} (declared : Keyed.find? "type" members = some (.text "array"))
      (missing : Keyed.find? "items" members = none) : HasFlaw (.object members) .missingItems
  | unsupportedType {members : List (String × Json)} {type : String}
      (declared : Keyed.find? "type" members = some (.text type)) (notObject : type ≠ "object")
      (notArray : type ≠ "array") (unknown : type ∉ leafTypes) : HasFlaw (.object members) (.unsupportedType type)

def Sound (node : Json) : Prop := ∀ conflict, ¬ node.HasFlaw conflict

def parts : Json → List (Step × Json)
  | .object members =>
    match Keyed.find? "type" members with
    | some (.text "object") => (properties members).map fun p => (.field p.1, p.2)
    | some (.text "array") => ((Keyed.find? "items" members).map (Prod.mk .items)).toList
    | _ => []
  | _ => []

variable {node : Json} {ps : List (Step × Json)} {part : Step × Json} {conflict : Conflict}
  {members : List (String × Json)} {p : String × Json}

theorem sizeOf_of_mem (h : p ∈ members) : sizeOf p.2 < sizeOf (Json.object members) := by
  have hlt := List.sizeOf_lt_of_mem h
  rw [object.sizeOf_spec]
  rw [show sizeOf p = 1 + sizeOf p.1 + sizeOf p.2 from rfl] at hlt
  omega

theorem sizeOf_of_mem_properties (h : p ∈ properties members) : sizeOf p.2 < sizeOf (Json.object members) := by
  unfold properties at h
  cases hfind : Keyed.find? "properties" members with
  | none =>
    rw [hfind] at h
    cases h
  | some value =>
    rw [hfind] at h
    cases value with
    | object inner => exact Nat.lt_trans (sizeOf_of_mem h) (sizeOf_of_mem (Keyed.mem_of_find? hfind))
    | null | bool _ | number _ | text _ | array _ => cases h

theorem sizeOf_of_mem_parts (h : part ∈ node.parts) : sizeOf part.2 < sizeOf node := by
  unfold parts at h
  split at h
  · split at h
    · obtain ⟨p, hp, rfl⟩ := List.mem_map.1 h
      exact sizeOf_of_mem_properties hp
    · obtain ⟨item, hitem, rfl⟩ := Option.map_eq_some_iff.1 (Option.mem_toList.1 h)
      exact sizeOf_of_mem (Keyed.mem_of_find? hitem)
    · cases h
  · cases h

def under (step : Step) (v : Path × Json) : Path × Json := (step :: v.1, v.2)

/-- The node itself and all nodes in it, depth first, each with the steps to it. -/
def visited (node : Json) : List (Path × Json) :=
  ([], node) :: node.parts.attach.flatMap fun ⟨part, _⟩ => (visited part.2).map (under part.1)
termination_by sizeOf node
decreasing_by exact sizeOf_of_mem_parts ‹_›

theorem visited_eq (node : Json) :
    node.visited = ([], node) :: node.parts.flatMap fun part => part.2.visited.map (under part.1) := by
  rw [visited]
  simp only [List.flatMap_subtype, List.unattach_attach]

theorem induction_parts {P : Json → Prop} (step : ∀ node : Json, (∀ part ∈ node.parts, P part.2) → P node)
    (node : Json) : P node :=
  step node fun part _ => induction_parts step part.2
termination_by sizeOf node
decreasing_by exact sizeOf_of_mem_parts ‹_›

theorem flaw_or_form_of_type {type : String} (declared : Keyed.find? "type" members = some (.text type)) :
    (∃ conflict, (object members).HasFlaw conflict) ∨ ∃ ps, (object members).Form ps := by
  by_cases hobject : type = "object"
  · subst hobject
    cases hproperties : Keyed.find? "properties" members with
    | none => exact .inr ⟨_, .bare declared hproperties⟩
    | some value =>
      cases value with
      | object inner => exact .inr ⟨_, .object declared hproperties⟩
      | null | bool _ | number _ | text _ | array _ => exact .inl ⟨_, .propertiesNotMapping declared hproperties rfl⟩
  by_cases harray : type = "array"
  · subst harray
    cases hitems : Keyed.find? "items" members with
    | none => exact .inl ⟨_, .missingItems declared hitems⟩
    | some item => exact .inr ⟨_, .array declared hitems⟩
  by_cases hleaf : type ∈ leafTypes
  · exact .inr ⟨_, .leaf declared hleaf⟩
  · exact .inl ⟨_, .unsupportedType declared hobject harray hleaf⟩

theorem flaw_or_form (node : Json) : (∃ conflict, node.HasFlaw conflict) ∨ ∃ ps, node.Form ps := by
  cases node with
  | null | bool _ | number _ | text _ | array _ => exact .inl ⟨_, .nodeNotMapping rfl⟩
  | object members =>
    cases hdeclared : Keyed.find? "type" members with
    | none => exact .inl ⟨_, .missingType hdeclared⟩
    | some value =>
      cases value with
      | text type => exact flaw_or_form_of_type hdeclared
      | null | bool _ | number _ | array _ | object _ => exact .inl ⟨_, .typeNotText hdeclared rfl⟩

theorem Form.sound (form : node.Form ps) : node.Sound := by
  intro conflict flaw
  cases form with
  | leaf declared known => cases flaw <;> grind [leafTypes, object?, text?]
  | array declared items => cases flaw <;> grind [leafTypes, object?, text?]
  | bare declared missing => cases flaw <;> grind [leafTypes, object?, text?]
  | object declared mapping => cases flaw <;> grind [leafTypes, object?, text?]

theorem ne_of_mem_leafTypes {type : String} (h : type ∈ leafTypes) : type ≠ "object" ∧ type ≠ "array" := by
  constructor <;> rintro rfl <;> exact absurd h (by decide)

theorem Form.parts_eq (form : node.Form ps) : node.parts = ps := by
  cases form with
  | leaf declared known =>
    rw [parts, declared]
    split
    · rename_i h
      cases h
      exact absurd rfl (ne_of_mem_leafTypes known).1
    · rename_i h
      cases h
      exact absurd rfl (ne_of_mem_leafTypes known).2
    · rfl
  | array declared items => rw [parts, declared, items]; rfl
  | bare declared missing => rw [parts, declared, properties, missing]; rfl
  | object declared mapping => rw [parts, declared, properties, mapping]; rfl

theorem mem_visited {v : Path × Json} :
    v ∈ node.visited ↔ v = ([], node) ∨ ∃ part ∈ node.parts, ∃ u ∈ part.2.visited, under part.1 u = v := by
  rw [visited_eq]
  simp only [List.mem_cons, List.mem_flatMap, List.mem_map]

theorem wellFormed_iff : node.WellFormed ↔ ∀ v ∈ node.visited, v.2.Sound := by
  constructor
  · intro h
    induction h with
    | intro form below ih =>
      intro v hv
      obtain rfl | ⟨part, hpart, u, hu, rfl⟩ := mem_visited.1 hv
      · exact form.sound
      · rw [form.parts_eq] at hpart
        exact ih part hpart u hu
  · induction node using induction_parts with
    | step node ih =>
      intro h
      obtain ⟨conflict, flaw⟩ | ⟨ps, form⟩ := node.flaw_or_form
      · exact absurd flaw (h _ (mem_visited.2 (.inl rfl)) conflict)
      · refine .intro form fun part hpart => ?_
        rw [← form.parts_eq] at hpart
        exact ih part hpart fun u hu => h (under part.1 u) (mem_visited.2 (.inr ⟨part, hpart, u, hu, rfl⟩))

def visitedIn (members : List (String × Json)) : List (Path × Json) :=
  members.flatMap fun p => p.2.visited.map (under (.field p.1))

theorem forall_wellFormed_iff : (∀ p ∈ members, p.2.WellFormed) ↔ ∀ v ∈ visitedIn members, v.2.Sound := by
  unfold visitedIn
  simp only [wellFormed_iff, List.forall_mem_flatMap, List.forall_mem_map, under]

/-- The first flaw met in some nodes, and where it is. -/
inductive FirstFlaw : List (Path × Json) → Path → Conflict → Prop
  | intro {before after : List (Path × Json)} {place : Path} {node : Json} {conflict : Conflict}
      (sound : ∀ v ∈ before, v.2.Sound) (flaw : node.HasFlaw conflict) :
      FirstFlaw (before ++ (place, node) :: after) place conflict

variable {nodes others : List (Path × Json)} {place : Path}

theorem FirstFlaw.not_sound (h : FirstFlaw nodes place conflict) : ¬ ∀ v ∈ nodes, v.2.Sound := by
  cases h with
  | intro sound flaw => exact fun hall => hall _ (List.mem_append_right _ List.mem_cons_self) _ flaw

theorem FirstFlaw.here (flaw : node.HasFlaw conflict) : FirstFlaw ((place, node) :: others) place conflict := by
  have first : FirstFlaw ([] ++ (place, node) :: others) place conflict := .intro (fun _ hv => nomatch hv) flaw
  exact first

theorem FirstFlaw.append (h : FirstFlaw nodes place conflict) : FirstFlaw (nodes ++ others) place conflict := by
  cases h with
  | intro sound flaw =>
    rw [List.append_assoc]
    exact .intro sound flaw

theorem FirstFlaw.after (h : FirstFlaw others place conflict) (hnodes : ∀ v ∈ nodes, v.2.Sound) :
    FirstFlaw (nodes ++ others) place conflict := by
  cases h with
  | intro sound flaw =>
    rw [← List.append_assoc]
    exact .intro (List.forall_mem_append.2 ⟨hnodes, sound⟩) flaw

theorem FirstFlaw.under (h : FirstFlaw nodes place conflict) (step : Step) :
    FirstFlaw (nodes.map (under step)) (step :: place) conflict := by
  cases h with
  | intro sound flaw =>
    rw [List.map_append]
    exact .intro (List.forall_mem_map.2 sound) flaw

end Json

namespace Shape

open Json

/-- What comes of reading some nodes in turn, from a place with a text on. -/
def Verdict {α : Type} (text : String) (nodes : List (Path × Json)) : Except Fault α → Prop
  | .ok _ => ∀ v ∈ nodes, v.2.Sound
  | .error fault =>
    ∃ place conflict, FirstFlaw nodes place conflict ∧ fault = .inconsistent (Path.below text place) conflict

section

variable {α β : Type} {text : String} {nodes others : List (Path × Json)} {node : Json} {reading : Except Fault α}
  {next : α → Except Fault β}

theorem Verdict.isOk_iff (h : Verdict text nodes reading) : (∃ a, reading = .ok a) ↔ ∀ v ∈ nodes, v.2.Sound := by
  cases reading with
  | error fault =>
    obtain ⟨place, conflict, first, -⟩ := h
    exact ⟨fun ⟨_, ha⟩ => (nomatch ha), fun hall => absurd hall first.not_sound⟩
  | ok a => exact ⟨fun _ => h, fun _ => ⟨a, rfl⟩⟩

theorem Verdict.bind (h : Verdict text nodes reading) (hnext : ∀ a, Verdict text others (next a)) :
    Verdict text (nodes ++ others) (reading >>= next) := by
  cases reading with
  | error fault =>
    obtain ⟨place, conflict, first, he⟩ := h
    exact ⟨place, conflict, first.append, he⟩
  | ok a =>
    rw [Node.ok_bind]
    have hothers := hnext a
    cases hresult : next a with
    | error fault =>
      rw [hresult] at hothers
      obtain ⟨place, conflict, first, he⟩ := hothers
      exact ⟨place, conflict, first.after h, he⟩
    | ok b =>
      rw [hresult] at hothers
      exact List.forall_mem_append.2 ⟨h, hothers⟩

theorem Verdict.nil (a : α) : Verdict text [] (.ok a) := fun _ hv => nomatch hv

theorem Verdict.map (h : Verdict text nodes reading) (f : α → β) :
    Verdict text nodes (reading >>= fun a => pure (f a)) := by
  have hbind := h.bind fun a => Verdict.nil (f a)
  rwa [List.append_nil] at hbind

theorem Verdict.under {step : Step} (h : Verdict (step.below text) nodes reading) :
    Verdict text (nodes.map (under step)) reading := by
  cases reading with
  | error fault =>
    obtain ⟨place, conflict, first, he⟩ := h
    exact ⟨step :: place, conflict, first.under step, he⟩
  | ok a => exact List.forall_mem_map.2 h

theorem Verdict.cons (hnode : node.Sound) (h : Verdict text nodes reading) :
    Verdict text (([], node) :: nodes) reading := by
  have single : Verdict text [([], node)] (Except.ok ()) := List.forall_mem_singleton.2 hnode
  have both : Verdict text ([([], node)] ++ nodes) (Except.ok () >>= fun _ => reading) := single.bind fun _ => h
  exact both

end

variable {leaf : String → Option String} {members : List (String × Json)} {node : Json} {conflict : Conflict}

theorem ofNode_of_hasFlaw (hleaf : ∀ type, (leaf type).isSome ↔ type ∈ leafTypes) (flaw : node.HasFlaw conflict)
    (path : String) : ofNode leaf node path = .error (.inconsistent path conflict) := by
  cases flaw with
  | nodeNotMapping h =>
    cases node with
    | object members => cases h
    | null | bool _ | number _ | text _ | array _ => rfl
  | missingType missing =>
    rw [ofNode, typeName, missing]
    rfl
  | @typeNotText members value declared notText =>
    rw [ofNode, typeName, declared]
    cases value with
    | text _ => cases notText
    | null | bool _ | number _ | array _ | object _ => rfl
  | @propertiesNotMapping members value declared present notMapping =>
    rw [ofNode_object declared, present]
    cases value with
    | object _ => cases notMapping
    | null | bool _ | number _ | text _ | array _ => rfl
  | missingItems declared missing =>
    rw [ofNode, typeName_of_find? declared, Node.ok_bind, itemsOf_of_find?, missing]
    rfl
  | @unsupportedType members type declared notObject notArray unknown =>
    rw [← hleaf, Option.not_isSome_iff_eq_none] at unknown
    rw [ofNode_scalar declared notObject notArray, unknown, Option.elim_none]

theorem verdict_ofMembers (h : ∀ p ∈ members, ∀ path, Verdict path p.2.visited (ofNode leaf p.2 path))
    (path : String) : Verdict path (visitedIn members) (ofMembers leaf members path) := by
  induction members with
  | nil => exact Verdict.nil _
  | cons p rest ih =>
    obtain ⟨name, value⟩ := p
    have first := (h (name, value) List.mem_cons_self ((Step.field name).below path)).under
    have others := ih fun p hp => h p (List.mem_cons_of_mem _ hp)
    rw [ofMembers]
    exact first.bind fun shape => others.map _

theorem verdict_ofNode (hleaf : ∀ type, (leaf type).isSome ↔ type ∈ leafTypes) (node : Json) :
    ∀ path, Verdict path node.visited (ofNode leaf node path) := by
  induction node using induction_parts with
  | step node ih =>
    intro path
    rw [visited_eq]
    obtain ⟨conflict, flaw⟩ | ⟨ps, form⟩ := node.flaw_or_form
    · rw [ofNode_of_hasFlaw hleaf flaw]
      exact ⟨[], conflict, .here flaw, rfl⟩
    · -- nothing is wrong with the node itself, so the verdict is that on its parts
      refine Verdict.cons form.sound ?_
      rw [form.parts_eq] at ih ⊢
      cases form with
      | leaf declared known =>
        obtain ⟨expression, hexpression⟩ := Option.isSome_iff_exists.1 ((hleaf _).2 known)
        have type_ne := ne_of_mem_leafTypes known
        rw [ofNode_scalar declared type_ne.1 type_ne.2, hexpression]
        exact Verdict.nil _
      | @array _ item declared items =>
        have below := (ih _ List.mem_cons_self (Step.items.below path)).under
        rw [List.flatMap_singleton, ofNode_array declared items]
        exact below.map _
      | bare declared missing =>
        rw [ofNode_object declared, missing]
        exact Verdict.nil _
      | @object _ properties declared mapping =>
        have below : Verdict path (visitedIn properties) (ofMembers leaf properties path) :=
          verdict_ofMembers (fun p hp => ih _ (List.mem_map.2 ⟨p, hp, rfl⟩)) path
        rw [List.flatMap_map, ofNode_object declared, mapping, Option.elim_some, ofMapping]
        exact below.map _

end Shape

theorem ClassStyle.verdict_classes {style : ClassStyle}
    (hleaf : ∀ type, (style.scalar type).isSome ↔ type ∈ Json.leafTypes) (root : String)
    (members : List (String × Json)) :
    Shape.Verdict root (Json.visitedIn members) (style.classes root (.object members)) := by
  have below : Shape.Verdict root (Json.visitedIn members) (Shape.ofMembers style.scalar members root) :=
    Shape.verdict_ofMembers (fun p _ => Shape.verdict_ofNode hleaf p.2) root
  have hclasses : style.classes root (.object members) = (Shape.ofMembers style.scalar members root >>=
      fun fields => pure (style.topClasses root (.record none fields))) := by
    rw [classes, Shape.ofProperties]
    cases Shape.ofMembers style.scalar members root <;> rfl
  rw [hclasses]
  exact below.map _

namespace ClassFormat

theorem scalar_isSome_iff (format : ClassFormat) (type : String) :
    (format.style.scalar type).isSome ↔ type ∈ Json.leafTypes := by
  have hscalar : format.style.scalar = format.scalar := by cases format <;> rfl
  rw [hscalar, scalar.eq_def]
  constructor
  · intro h
    split at h <;> first | decide | cases h
  · intro h
    simp only [Json.leafTypes, List.mem_cons, List.not_mem_nil, or_false] at h
    rcases h with rfl | rfl | rfl <;> cases format <;> rfl

/-- Both formats have classes for the same schemas. For any other schema the fault tells the first flaw and its place,
or that there are no properties at all. -/
theorem classes_verdict (format : ClassFormat) (root : String) (properties : Json) :
    ((∃ classes, format.style.classes root properties = .ok classes) ↔
      ∃ members, properties = .object members ∧ ∀ p ∈ members, p.2.WellFormed) ∧
    ∀ fault, format.style.classes root properties = .error fault →
      (properties.object? = none ∧ fault = .inconsistent root .topLevelNotMapping) ∨
      ∃ members place conflict, properties = .object members ∧
        Json.FirstFlaw (Json.visitedIn members) place conflict ∧
        fault = .inconsistent (Path.below root place) conflict := by
  cases properties with
  | object members =>
    have verdict := ClassStyle.verdict_classes format.scalar_isSome_iff root members
    refine ⟨?_, fun fault hfault => ?_⟩
    · rw [verdict.isOk_iff, ← Json.forall_wellFormed_iff]
      exact ⟨fun h => ⟨members, rfl, h⟩, fun ⟨_, he, h⟩ => Json.object.inj he ▸ h⟩
    · rw [hfault] at verdict
      obtain ⟨place, conflict, first, he⟩ := verdict
      exact .inr ⟨members, place, conflict, rfl, first, he⟩
  | null | bool _ | number _ | text _ | array _ =>
    refine ⟨⟨fun ⟨_, h⟩ => (nomatch h), fun ⟨_, he, _⟩ => (nomatch he)⟩, fun fault hfault => ?_⟩
    cases hfault
    exact .inl ⟨rfl, rfl⟩

theorem classes_verdict_missingItems :
    ∃ members place conflict,
      Json.object [
        ("comment", .object [("type", .text "string")]),
        ("grid", .object [
          ("items", .object [
            ("properties", .object [("r", .object [("type", .text "array")]), ("z", .null)]),
            ("type", .text "object")]),
          ("type", .text "array")]),
        ("time", .object [("type", .text "date")])] = .object members ∧
      Json.FirstFlaw (Json.visitedIn members) place conflict ∧
      Fault.inconsistent "equilibrium.grid[:].r" .missingItems =
        .inconsistent (Path.below "equilibrium" place) conflict :=
  ((classes_verdict .dataclasses "equilibrium" _).2 _ rfl).resolve_left fun h => nomatch h.1

end ClassFormat

end DottedSchema
