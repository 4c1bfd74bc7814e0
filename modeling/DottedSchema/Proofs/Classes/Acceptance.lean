import DottedSchema.Proofs.Classes.Collection

set_option autoImplicit false

namespace DottedSchema

namespace Skeleton

mutual

def Supported (leaf : String → Option String) : Skeleton → Prop
  | .scalar type => (leaf type).isSome
  | .array s => Supported leaf s
  | .object properties => AllSupported leaf properties

def AllSupported (leaf : String → Option String) : List (String × Skeleton) → Prop
  | [] => True
  | (_, s) :: rest => Supported leaf s ∧ AllSupported leaf rest

end

end Skeleton

namespace Shape

variable {leaf : String → Option String} {members : List (String × Json)}

theorem typeName_of_find? {name : String} (h : Keyed.find? "type" members = some (.text name)) (path : String) :
    typeName members path = .ok name := by
  rw [typeName, h]

theorem itemsOf_of_find? (path : String) : itemsOf leaf members path =
    ((Keyed.find? "items" members).elim (.error (.inconsistent path .missingItems))
      (ofNode leaf · (path ++ "[:]"))) := by
  induction members with
  | nil => rfl
  | cons member rest ih =>
    obtain ⟨key, value⟩ := member
    rw [Keyed.find?, itemsOf]
    by_cases hkey : key = "items"
    · rw [if_pos hkey, if_pos hkey]
      rfl
    · rw [if_neg hkey, if_neg hkey]
      exact ih

theorem propertiesOf_of_find? (path : String) : propertiesOf leaf members path =
    ((Keyed.find? "properties" members).elim (.ok []) (ofMapping leaf · path)) := by
  induction members with
  | nil => rfl
  | cons member rest ih =>
    obtain ⟨key, value⟩ := member
    rw [Keyed.find?, propertiesOf]
    by_cases hkey : key = "properties"
    · rw [if_pos hkey, if_pos hkey]
      rfl
    · rw [if_neg hkey, if_neg hkey]
      exact ih

theorem ofNode_scalar {type : String} (declared : Keyed.find? "type" members = some (.text type))
    (notObject : type ≠ "object") (notArray : type ≠ "array") (path : String) :
    ofNode leaf (.object members) path =
      (leaf type).elim (.error (.inconsistent path (.unsupportedType type))) (.ok ∘ .leaf) := by
  rw [ofNode, typeName_of_find? declared, Node.ok_bind]
  split
  · exact absurd rfl notObject
  · exact absurd rfl notArray
  · cases leaf type <;> rfl

theorem ofNode_array {item : Json} (declared : Keyed.find? "type" members = some (.text "array"))
    (items : Keyed.find? "items" members = some item) (path : String) :
    ofNode leaf (.object members) path = do return .list (← ofNode leaf item (path ++ "[:]")) := by
  rw [ofNode, typeName_of_find? declared, Node.ok_bind, itemsOf_of_find?, items]
  rfl

theorem ofNode_object (declared : Keyed.find? "type" members = some (.text "object")) (path : String) :
    ofNode leaf (.object members) path = do
      return .record (description? members)
        (← (Keyed.find? "properties" members).elim (.ok []) (ofMapping leaf · path)) := by
  rw [ofNode, typeName_of_find? declared, Node.ok_bind, propertiesOf_of_find?]
  rfl

mutual

theorem ofNode_of_hasSkeleton : ∀ {node : Json} {s : Skeleton}, node.HasSkeleton s → s.Supported leaf →
    ∀ path, ∃ shape, ofNode leaf node path = .ok shape
  | .object members, _, .scalar declared notObject notArray, hs, path => by
    obtain ⟨expression, hleaf⟩ := Option.isSome_iff_exists.1 hs
    refine ⟨.leaf expression, ?_⟩
    rw [ofNode_scalar declared notObject notArray, hleaf]
    rfl
  | _, _, .array declared items below, hs, path => by
    obtain ⟨item, hitem⟩ := ofNode_of_hasSkeleton below hs (path ++ "[:]")
    refine ⟨.list item, ?_⟩
    rw [ofNode_array declared items, hitem]
    rfl
  | .object members, _, .bare declared missing, _, path => by
    refine ⟨.record (description? members) [], ?_⟩
    rw [ofNode_object declared, missing]
    rfl
  | .object members, _, .object declared mapping below, hs, path => by
    obtain ⟨fields, hfields⟩ := ofMembers_of_haveSkeletons below hs path
    refine ⟨.record (description? members) fields, ?_⟩
    rw [ofNode_object declared, mapping, Option.elim_some, ofMapping, hfields]
    rfl

theorem ofMembers_of_haveSkeletons : ∀ {properties : List (String × Json)} {ss : List (String × Skeleton)},
    Json.HaveSkeletons properties ss → Skeleton.AllSupported leaf ss →
    ∀ path, ∃ fields, ofMembers leaf properties path = .ok fields
  | _, _, .nil, _, _ => ⟨[], rfl⟩
  | (name, _) :: _, _, .cons first rest, ⟨hfirst, hrest⟩, path => by
    obtain ⟨shape, hshape⟩ := ofNode_of_hasSkeleton first hfirst (path ++ "." ++ name)
    obtain ⟨fields, hfields⟩ := ofMembers_of_haveSkeletons rest hrest path
    refine ⟨(name, shape) :: fields, ?_⟩
    rw [ofMembers, hshape, Node.ok_bind, hfields]
    rfl

end

mutual

theorem Matches.supported : ∀ {shape : Shape} {s : Skeleton}, shape.Matches leaf s → s.Supported leaf
  | .leaf _, .scalar _, h => Option.isSome_iff_exists.2 ⟨_, h⟩
  | .list item, .array s, h => by
    rw [Matches] at h
    rw [Skeleton.Supported]
    exact h.supported
  | .record _ fields, .object ss, h => by
    rw [Matches] at h
    rw [Skeleton.Supported]
    exact h.supported

theorem MatchFields.supported : ∀ {fields : List (String × Shape)} {ss : List (String × Skeleton)},
    MatchFields leaf fields ss → Skeleton.AllSupported leaf ss
  | [], [], _ => trivial
  | (_, _) :: _, (_, _) :: _, ⟨_, hfirst, hrest⟩ => ⟨hfirst.supported, hrest.supported⟩

end

theorem ofProperties_isOk_iff (root : String) {properties : Json} :
    (∃ shape, ofProperties leaf root properties = .ok shape) ↔
      ∃ ss, (topNode properties).HasSkeleton (.object ss) ∧ Skeleton.AllSupported leaf ss := by
  constructor
  · rintro ⟨shape, h⟩
    obtain ⟨fields, ss, -, hskeleton, hmatch⟩ := ofProperties_ok h
    exact ⟨ss, hskeleton, hmatch.supported⟩
  · rintro ⟨ss, hskeleton, hs⟩
    cases hskeleton with
    | bare declared missing => cases missing
    | object declared mapping below =>
      cases mapping
      obtain ⟨fields, hfields⟩ := ofMembers_of_haveSkeletons below hs root
      exact ⟨.record none fields, by rw [ofProperties, hfields]; rfl⟩

end Shape

theorem ClassStyle.classes_isOk_iff {style : ClassStyle} {root : String} {properties : Json} :
    (∃ classes, style.classes root properties = .ok classes) ↔
      ∃ ss, (Shape.topNode properties).HasSkeleton (.object ss) ∧ Skeleton.AllSupported style.scalar ss := by
  rw [← Shape.ofProperties_isOk_iff root]
  unfold classes
  cases Shape.ofProperties style.scalar root properties with
  | error fault => exact ⟨fun ⟨_, h⟩ => (nomatch h), fun ⟨_, h⟩ => (nomatch h)⟩
  | ok shape => exact ⟨fun _ => ⟨shape, rfl⟩, fun _ => ⟨_, rfl⟩⟩

end DottedSchema
