import DottedSchema.Classes.Shape
import DottedSchema.Node

set_option autoImplicit false

namespace DottedSchema

inductive Skeleton where
  | scalar (type : String)
  | array (item : Skeleton)
  | object (properties : List (String × Skeleton))

namespace Json

mutual

/-- The types that a schema node gives. Descriptions and unknown members do not count; an object without
`properties` has none. -/
inductive HasSkeleton : Json → Skeleton → Prop
  | scalar {members : List (String × Json)} {type : String}
      (declared : Keyed.find? "type" members = some (.text type)) (notObject : type ≠ "object")
      (notArray : type ≠ "array") : HasSkeleton (.object members) (.scalar type)
  | array {members : List (String × Json)} {item : Json} {s : Skeleton}
      (declared : Keyed.find? "type" members = some (.text "array"))
      (items : Keyed.find? "items" members = some item) (below : HasSkeleton item s) :
      HasSkeleton (.object members) (.array s)
  | bare {members : List (String × Json)} (declared : Keyed.find? "type" members = some (.text "object"))
      (missing : Keyed.find? "properties" members = none) : HasSkeleton (.object members) (.object [])
  | object {members properties : List (String × Json)} {skeletons : List (String × Skeleton)}
      (declared : Keyed.find? "type" members = some (.text "object"))
      (mapping : Keyed.find? "properties" members = some (.object properties))
      (below : HaveSkeletons properties skeletons) : HasSkeleton (.object members) (.object skeletons)

inductive HaveSkeletons : List (String × Json) → List (String × Skeleton) → Prop
  | nil : HaveSkeletons [] []
  | cons {name : String} {node : Json} {s : Skeleton} {properties : List (String × Json)}
      {skeletons : List (String × Skeleton)} (first : HasSkeleton node s)
      (rest : HaveSkeletons properties skeletons) : HaveSkeletons ((name, node) :: properties) ((name, s) :: skeletons)

end

theorem same_type {members : List (String × Json)} {type type' : String}
    (h : Keyed.find? "type" members = some (.text type)) (h' : Keyed.find? "type" members = some (.text type')) :
    type = type' :=
  Json.text.inj (Option.some.inj (h.symm.trans h'))

mutual

theorem HasSkeleton.unique {node : Json} {s t : Skeleton} : HasSkeleton node s → HasSkeleton node t → s = t
  | .scalar declared notObject notArray, h => by
    cases h with
    | scalar declared' _ _ => rw [same_type declared declared']
    | array declared' _ _ => exact absurd (same_type declared declared') notArray
    | bare declared' _ => exact absurd (same_type declared declared') notObject
    | object declared' _ _ => exact absurd (same_type declared declared') notObject
  | .array declared items below, h => by
    cases h with
    | scalar declared' _ notArray => exact absurd (same_type declared' declared) notArray
    | array _ items' below' =>
      cases items.symm.trans items'
      rw [below.unique below']
    | bare declared' _ => exact absurd (same_type declared declared') (by decide)
    | object declared' _ _ => exact absurd (same_type declared declared') (by decide)
  | .bare declared missing, h => by
    cases h with
    | scalar declared' notObject _ => exact absurd (same_type declared' declared) notObject
    | array declared' _ _ => exact absurd (same_type declared declared') (by decide)
    | bare _ _ => rfl
    | object _ mapping _ => cases missing.symm.trans mapping
  | .object declared mapping below, h => by
    cases h with
    | scalar declared' notObject _ => exact absurd (same_type declared' declared) notObject
    | array declared' _ _ => exact absurd (same_type declared declared') (by decide)
    | bare _ missing => cases missing.symm.trans mapping
    | object _ mapping' below' =>
      cases mapping.symm.trans mapping'
      rw [below.unique below']

theorem HaveSkeletons.unique {properties : List (String × Json)} {ss ts : List (String × Skeleton)} :
    HaveSkeletons properties ss → HaveSkeletons properties ts → ss = ts
  | .nil, .nil => rfl
  | .cons first rest, .cons first' rest' => by rw [first.unique first', rest.unique rest']

end

end Json

namespace Shape

mutual

/-- The shape agrees with the skeleton, its leaves being what `leaf` makes of the scalars. -/
def Matches (leaf : String → Option String) : Shape → Skeleton → Prop
  | .leaf expression, .scalar type => leaf type = some expression
  | .list item, .array s => Matches leaf item s
  | .record _ fields, .object properties => MatchFields leaf fields properties
  | _, _ => False

def MatchFields (leaf : String → Option String) : List (String × Shape) → List (String × Skeleton) → Prop
  | [], [] => True
  | (name, shape) :: fields, (name', s) :: properties =>
    name = name' ∧ Matches leaf shape s ∧ MatchFields leaf fields properties
  | _, _ => False

end

variable {leaf : String → Option String} {shape : Shape} {node : Json} {path : String}

theorem typeName_ok {members : Keyed Json} {name : String} (h : typeName members path = .ok name) :
    Keyed.find? "type" members = some (.text name) := by
  unfold typeName at h
  split at h
  · cases h
  · rename_i hfind
    cases h
    exact hfind
  · cases h

mutual

theorem ofNode_ok {shape : Shape} {path : String} : ∀ {node : Json}, ofNode leaf node path = .ok shape →
    ∃ s, node.HasSkeleton s ∧ shape.Matches leaf s
  | .object members, h => by
    rw [ofNode] at h
    obtain ⟨name, hname, h⟩ := Node.bind_eq_ok h
    have hdeclared := typeName_ok hname
    split at h
    · obtain ⟨fields, hfields, h⟩ := Node.bind_eq_ok h
      cases h
      obtain ⟨skeletons, hmatch, ⟨hmissing, rfl⟩ | ⟨properties, hmapping, hbelow⟩⟩ := propertiesOf_ok hfields
      · exact ⟨_, .bare hdeclared hmissing, hmatch⟩
      · exact ⟨_, .object hdeclared hmapping hbelow, hmatch⟩
    · obtain ⟨item, hitem, h⟩ := Node.bind_eq_ok h
      cases h
      obtain ⟨s, node, hfind, hbelow, hmatch⟩ := itemsOf_ok hitem
      exact ⟨_, .array hdeclared hfind hbelow, hmatch⟩
    · rename_i notObject notArray
      split at h
      · rename_i expression hleaf
        cases h
        exact ⟨_, .scalar hdeclared notObject notArray, hleaf⟩
      · cases h
  | .null, h | .bool _, h | .number _, h | .text _, h | .array _, h => by
    cases h

theorem itemsOf_ok {shape : Shape} {path : String} : ∀ {members : List (String × Json)},
    itemsOf leaf members path = .ok shape →
    ∃ s item, Keyed.find? "items" members = some item ∧ item.HasSkeleton s ∧ shape.Matches leaf s
  | [], h => by
    cases h
  | (key, value) :: rest, h => by
    rw [itemsOf] at h
    rw [Keyed.find?]
    split at h
    · rename_i hkey
      rw [if_pos hkey]
      obtain ⟨s, hbelow, hmatch⟩ := ofNode_ok h
      exact ⟨s, value, rfl, hbelow, hmatch⟩
    · rename_i hkey
      rw [if_neg hkey]
      exact itemsOf_ok h

theorem propertiesOf_ok {fields : List (String × Shape)} {path : String} : ∀ {members : List (String × Json)},
    propertiesOf leaf members path = .ok fields →
    ∃ skeletons, MatchFields leaf fields skeletons ∧
      (Keyed.find? "properties" members = none ∧ skeletons = [] ∨
        ∃ properties, Keyed.find? "properties" members = some (.object properties) ∧
          Json.HaveSkeletons properties skeletons)
  | [], h => by
    cases h
    exact ⟨[], trivial, .inl ⟨rfl, rfl⟩⟩
  | (key, value) :: rest, h => by
    rw [propertiesOf] at h
    rw [Keyed.find?]
    split at h
    · rename_i hkey
      rw [if_pos hkey]
      obtain ⟨skeletons, properties, rfl, hbelow, hmatch⟩ := ofMapping_ok h
      exact ⟨skeletons, hmatch, .inr ⟨properties, rfl, hbelow⟩⟩
    · rename_i hkey
      rw [if_neg hkey]
      exact propertiesOf_ok h

theorem ofMapping_ok {fields : List (String × Shape)} {path : String} : ∀ {value : Json},
    ofMapping leaf value path = .ok fields →
    ∃ skeletons properties, value = .object properties ∧ Json.HaveSkeletons properties skeletons ∧
      MatchFields leaf fields skeletons
  | .object properties, h => by
    rw [ofMapping] at h
    obtain ⟨skeletons, hbelow, hmatch⟩ := ofMembers_ok h
    exact ⟨skeletons, properties, rfl, hbelow, hmatch⟩
  | .null, h | .bool _, h | .number _, h | .text _, h | .array _, h => by
    cases h

theorem ofMembers_ok {fields : List (String × Shape)} {path : String} : ∀ {properties : List (String × Json)},
    ofMembers leaf properties path = .ok fields →
    ∃ skeletons, Json.HaveSkeletons properties skeletons ∧ MatchFields leaf fields skeletons
  | [], h => by
    cases h
    exact ⟨[], .nil, trivial⟩
  | (name, value) :: rest, h => by
    rw [ofMembers] at h
    obtain ⟨shape, hshape, h⟩ := Node.bind_eq_ok h
    obtain ⟨others, hothers, h⟩ := Node.bind_eq_ok h
    cases h
    obtain ⟨s, hfirst, hmatch⟩ := ofNode_ok hshape
    obtain ⟨skeletons, hrest, hmatches⟩ := ofMembers_ok hothers
    exact ⟨(name, s) :: skeletons, .cons hfirst hrest, rfl, hmatch, hmatches⟩

end

def topNode (properties : Json) : Json := .object [("properties", properties), ("type", .text "object")]

theorem hasSkeleton_topNode {members : List (String × Json)} {s : Skeleton}
    (h : (topNode (.object members)).HasSkeleton s) : ∃ ss, s = .object ss ∧ Json.HaveSkeletons members ss := by
  cases h with
  | scalar declared notObject _ => exact absurd (Json.same_type declared rfl) notObject
  | array declared _ _ => exact absurd (Json.same_type declared rfl) (by decide)
  | bare _ missing => cases missing
  | object _ mapping below =>
    cases mapping
    exact ⟨_, rfl, below⟩

theorem ofProperties_ok {root : String} {properties : Json} (h : ofProperties leaf root properties = .ok shape) :
    ∃ fields skeletons, shape = .record none fields ∧ (topNode properties).HasSkeleton (.object skeletons) ∧
      MatchFields leaf fields skeletons := by
  cases properties with
  | object members =>
    obtain ⟨fields, hfields, h⟩ := Node.bind_eq_ok h
    cases h
    obtain ⟨skeletons, hbelow, hmatch⟩ := ofMembers_ok hfields
    exact ⟨fields, skeletons, rfl, .object rfl rfl hbelow, hmatch⟩
  | null | bool _ | number _ | text _ | array _ => cases h

end Shape

end DottedSchema
