import DottedSchema.Proofs.Classes.Acceptance
import DottedSchema.Proofs.Classes.ObjectNodes
import DottedSchema.Proofs.Classes.References

set_option autoImplicit false

namespace DottedSchema

namespace Shape

mutual

def descriptions : Shape → List (Option String)
  | .leaf _ => []
  | .list item => descriptions item
  | .record description fields => description :: descriptionsIn fields

def descriptionsIn : List (String × Shape) → List (Option String)
  | [] => []
  | (_, shape) :: rest => descriptions shape ++ descriptionsIn rest

end

def Describes (node : Json) (place : List Nat) (description : Option String) : Prop :=
  ∃ members, node.ObjectAt place members ∧ description = description? members

variable {leaf : String → Option String} {members : List (String × Json)} {item : Json} {place : List Nat}
  {description : Option String}

theorem Describes.of_items (declared : Keyed.find? "type" members = some (.text "array"))
    (items : Keyed.find? "items" members = some item) (h : Describes item place description) :
    Describes (.object members) place description := by
  obtain ⟨inner, hat, hdescription⟩ := h
  refine ⟨inner, ?_, hdescription⟩
  cases hat with
  | here holds => exact .here (.array declared items holds)
  | inside holds property rest => exact .inside (.array declared items holds) property rest

mutual

theorem describes_of_hasSkeleton : ∀ {node : Json} {s : Skeleton}, node.HasSkeleton s →
    ∀ {path : String} {shape : Shape}, ofNode leaf node path = .ok shape →
      List.Forall₂ (Describes node) s.places shape.descriptions
  | _, _, .scalar declared notObject notArray, _, shape, h => by
    obtain ⟨s, hs, hmatch⟩ := ofNode_ok h
    cases hs.unique (.scalar declared notObject notArray)
    cases shape with
    | leaf _ => exact .nil
    | list _ | record _ _ => cases hmatch
  | _, _, .array declared items below, path, shape, h => by
    rw [ofNode_array declared items] at h
    obtain ⟨item, hitem, h⟩ := Node.bind_eq_ok h
    cases h
    exact (describes_of_hasSkeleton below hitem).imp fun _ _ h => h.of_items declared items
  | .object members, _, .bare declared missing, path, shape, h => by
    rw [ofNode_object declared, missing] at h
    cases h
    exact .cons ⟨members, .here (.object declared), rfl⟩ .nil
  | .object members, _, .object declared mapping below, path, shape, h => by
    rw [ofNode_object declared, mapping] at h
    obtain ⟨fields, hfields, h⟩ := Node.bind_eq_ok h
    cases h
    refine .cons ⟨members, .here (.object declared), rfl⟩
      ((describes_of_haveSkeletons below hfields 0).imp fun _ _ h => ?_)
    obtain ⟨number, rest, ⟨name, child⟩, hproperty, rfl, inner, hat, hdescription⟩ := h
    have hp : (Json.properties members)[number]? = some (name, child) := by
      rw [Json.properties, mapping]
      exact hproperty
    rw [Nat.zero_add]
    exact ⟨inner, .inside (.object declared) hp hat, hdescription⟩

theorem describes_of_haveSkeletons : ∀ {ps : List (String × Json)} {ss : List (String × Skeleton)},
    Json.HaveSkeletons ps ss → ∀ {path : String} {fields : List (String × Shape)},
      ofMembers leaf ps path = .ok fields → ∀ first, List.Forall₂
        (fun place description => ∃ number rest p, ps[number]? = some p ∧ place = (first + number) :: rest ∧
          Describes p.2 rest description) (Skeleton.placesFrom first ss) (descriptionsIn fields)
  | _, _, .nil, _, _, h, _ => by
    cases h
    exact .nil
  | _, _, .cons head rest, path, fields, h, first => by
    rw [ofMembers] at h
    obtain ⟨shape, hshape, h⟩ := Node.bind_eq_ok h
    obtain ⟨others, hothers, h⟩ := Node.bind_eq_ok h
    cases h
    rw [Skeleton.placesFrom, descriptionsIn]
    refine List.rel_append ?_ ?_
    · rw [List.forall₂_map_left_iff]
      exact (describes_of_hasSkeleton head hshape).imp fun place _ h => ⟨0, place, _, rfl, rfl, h⟩
    · refine (describes_of_haveSkeletons rest hothers (first + 1)).imp fun _ _ h => ?_
      obtain ⟨number, place, p, hp, rfl, hdescribes⟩ := h
      exact ⟨number + 1, place, p, hp, by rw [Nat.add_assoc, Nat.add_comm 1], hdescribes⟩

end

theorem ofNode_topNode {root : String} {document : Json} {shape : Shape}
    (h : ofProperties leaf root document = .ok shape) : ofNode leaf (topNode document) root = .ok shape := by
  cases document with
  | object members => exact h
  | null | bool _ | number _ | text _ | array _ => cases h

end Shape

namespace ClassStyle

variable {style : ClassStyle} {root : String} {document : Json} {classes : List ClassDef}

mutual

theorem express_descriptions (used : List ClassEntry) (key parent : String) :
    ∀ shape : Shape, (style.express used key parent shape).2.map (·.description) = shape.descriptions
  | .leaf _ => rfl
  | .list item => by
    rw [express, Shape.descriptions]
    exact express_descriptions used key parent item
  | .record description fields => by
    rw [express, Shape.descriptions]
    exact congrArg (description :: ·) (expressFields_descriptions _ _ fields)

theorem expressFields_descriptions (used : List ClassEntry) (parent : String) : ∀ fields : List (String × Shape),
    (style.expressFields used parent fields).2.map (·.description) = Shape.descriptionsIn fields
  | [] => rfl
  | (name, shape) :: rest => by
    rw [expressFields, Shape.descriptionsIn, List.map_append, express_descriptions used name parent shape,
      expressFields_descriptions _ parent rest]

end

theorem topClasses_descriptions (style : ClassStyle) (root : String) {description : Option String}
    {fields : List (String × Shape)} :
    (style.topClasses root (.record description fields)).map (·.description) =
      (Shape.record description fields).descriptions := by
  rw [topClasses, Shape.descriptions]
  exact congrArg (description :: ·) (expressFields_descriptions _ _ fields)

variable {skeletons : List (String × Skeleton)} {place : List Nat} {c : ClassDef}

theorem ClassAt.describes (h : style.classes root document = .ok classes)
    (hskeleton : (Shape.topNode document).HasSkeleton (.object skeletons)) (hc : ClassAt skeletons classes place c) :
    Shape.Describes (Shape.topNode document) place c.description := by
  obtain ⟨shape, hshape, rfl⟩ := exists_shape_of_classes h
  obtain ⟨fields, -, rfl, -, -⟩ := Shape.ofProperties_ok hshape
  have hall := Shape.describes_of_hasSkeleton hskeleton (Shape.ofNode_topNode hshape)
  rw [← topClasses_descriptions style root, List.forall₂_map_right_iff] at hall
  exact (List.forall₂_iff_zip.1 hall).2 hc

/-- The class of an object node. Each of its attributes is made of the property of the same number: of a scalar in
lists, or of the class that the object node there belongs to. -/
structure MadeOf (style : ClassStyle) (owner : List Nat → ClassDef → Prop) (place : List Nat)
    (members : List (String × Json)) (c : ClassDef) : Prop where
  description : c.description = Shape.description? members
  names : c.attributes.map (·.name) = (Json.properties members).map (·.1)
  cores : ∀ p ∈ Json.properties members, ∃ levels core, p.2.Holds levels core
  scalars : ∀ (number : Nat) name (node : Json) levels type, (Json.properties members)[number]? = some (name, node) →
    node.Holds levels (.scalar type) →
    ∃ leaf, style.scalar type = some leaf ∧ c.attributes[number]? = some ⟨name, style.listOf^[levels] leaf⟩
  objects : ∀ (number : Nat) name (node : Json) levels inner, (Json.properties members)[number]? = some (name, node) →
    node.Holds levels (.object inner) →
    ∃ d, owner (place ++ [number]) d ∧ c.attributes[number]? = some ⟨name, style.listed levels d⟩

/-- Each object node has a class of its own, the class of the top first and those of the places after it, and no two
classes clash. -/
structure Separate (style : ClassStyle) (document : Json) (places : List (List Nat)) (classes : List ClassDef) :
    Prop where
  nodup_places : places.Nodup
  mem_places : ∀ place, place ∈ places ↔
    place ≠ [] ∧ ∃ members, (Shape.topNode document).ObjectAt place members
  length : classes.length = 1 + places.length
  nodup_keys : (classes.map (·.key)).Nodup
  nodup_names : (classes.map (·.name)).Nodup
  name_eq : ∀ c ∈ classes, c.name = style.className c.key ∧ c.name ∉ style.imports ∧ c.name ∉ constants
  own : ∀ place members c, (place, c) ∈ ([] :: places).zip classes →
    (Shape.topNode document).ObjectAt place members →
    style.MadeOf (fun place d => (place, d) ∈ ([] :: places).zip classes) place members c

theorem Collects.of_scalar {type : String} : ∀ {node : Json} {levels : Nat} {s : Skeleton} {expression : String}
    {own : List ClassDef}, node.Holds levels (.scalar type) → node.HasSkeleton s → style.Collects s expression own →
      ∃ leaf, style.scalar type = some leaf ∧ expression = style.listOf^[levels] leaf
  | _, _, _, _, _, .scalar declared notObject notArray, hs, h => by
    cases hs.unique (.scalar declared notObject notArray)
    cases h with
    | scalar supported => exact ⟨_, supported, rfl⟩
  | _, _, _, _, _, .array declared items below, hs, h => by
    cases hs with
    | array _ items' hitem =>
      cases items.symm.trans items'
      cases h with
      | array inner =>
        obtain ⟨leaf, hleaf, he⟩ := inner.of_scalar below hitem
        exact ⟨leaf, hleaf, by rw [Function.iterate_succ_apply', he]⟩
    | scalar declared' _ notArray => exact absurd (Json.same_type declared' declared) notArray
    | bare declared' _ | object declared' _ _ => exact absurd (Json.same_type declared declared') (by decide)

variable {top : ClassDef} {rest : List ClassDef} {members : List (String × Json)}

theorem ClassAt.madeOf (h : style.CollectsAll skeletons top.attributes rest)
    (hskeleton : (Shape.topNode document).HasSkeleton (.object skeletons))
    (hdescribes : Shape.Describes (Shape.topNode document) place c.description)
    (hc : ClassAt skeletons (top :: rest) place c) (hat : (Shape.topNode document).ObjectAt place members) :
    style.MadeOf (ClassAt skeletons (top :: rest)) place members c := by
  obtain ⟨below, hbelow, hproperties⟩ := hat.objectAt? hskeleton rfl
  obtain ⟨cs, hcollects, -, -⟩ := hc.collects h hbelow
  exact {
    description := by
      obtain ⟨members', hat', hdescription⟩ := hdescribes
      rw [hat.unique hat', hdescription]
    names := by rw [hcollects.names, hproperties.names]
    cores := fun p hp => by
      obtain ⟨number, hnumber⟩ := List.mem_iff_getElem?.1 hp
      have hproperty : (Json.properties members)[number]? = some (p.1, p.2) := hnumber
      obtain ⟨s, -, hs⟩ := hproperties.exists_skeleton hproperty
      rcases hs.holds with ⟨levels, type, hholds, -⟩ | ⟨levels, inner, -, hholds, -⟩
      · exact ⟨levels, .scalar type, hholds⟩
      · exact ⟨levels, .object inner, hholds⟩
    scalars := fun number name node levels type hp hholds => by
      obtain ⟨s, hs, hnode⟩ := hproperties.exists_skeleton hp
      obtain ⟨expression, own, hattribute, hown, -, -⟩ := hcollects.property hs 0
      obtain ⟨leaf, hleaf, rfl⟩ := hown.of_scalar hholds hnode
      exact ⟨leaf, hleaf, hattribute⟩
    objects := fun number name node levels inner hp hholds => by
      obtain ⟨s, hs, hnode⟩ := hproperties.exists_skeleton hp
      obtain ⟨found, hcore, -⟩ := hnode.core?_of_holds hholds
      obtain ⟨d, hd, hattribute, -⟩ := hc.reference h hbelow hs hcore
      exact ⟨d, hd, hattribute⟩ }

theorem classes_separate (hnaming : style.className = id ∨ style.className = Text.upperCamelCase)
    (h : style.classes root document = .ok classes) : ∃ places, style.Separate document places classes := by
  have hfresh : style.Fresh [] classes := classes_fresh (hnaming.elim numbers_of_id numbers_of_upperCamelCase) h
  obtain ⟨top, rest, skeletons, rfl, hskeleton, hcollects⟩ := classes_ok h
  have hnodup := Skeleton.places_nodup (.object skeletons)
  rw [Skeleton.places, List.nodup_cons] at hnodup
  exact ⟨Skeleton.placesFrom 0 skeletons, {
    nodup_places := hnodup.2
    mem_places := fun place => by
      rw [← hskeleton.mem_places_iff, Skeleton.places, List.mem_cons]
      constructor
      · intro hplace
        exact ⟨fun hnil => hnodup.1 (hnil ▸ hplace), .inr hplace⟩
      · rintro ⟨hne, hplace⟩
        exact hplace.resolve_left hne
    length := by rw [List.length_cons, hcollects.length_placesFrom, Nat.add_comm]
    nodup_keys := hfresh.nodup_keys
    nodup_names := hfresh.nodup_names
    name_eq := fun c hc => hfresh.name_eq hc
    own := fun place members c hc hat =>
      ClassAt.madeOf hcollects hskeleton (ClassAt.describes h hskeleton hc) hc hat }⟩

theorem classes_separate_qualified :
    let record (description : String) (properties : List (String × Json)) : Json :=
      .object [("description", .text description), ("properties", .object properties), ("type", .text "object")]
    let number : Json := .object [("type", .text "number")]
    let document : Json := .object [("a", record "first" [("b", record "second" [])]),
      ("b", .object [("items", record "third" [("x", number)]), ("type", .text "array")]), ("g_b", record "fourth" [])]
    let classes : List ClassDef := [⟨"g", "G", none, [⟨"a", "A"⟩, ⟨"b", "List[GB]"⟩, ⟨"g_b", "GGB"⟩]⟩,
      ⟨"a", "A", some "first", [⟨"b", "B"⟩]⟩, ⟨"b", "B", some "second", []⟩,
      ⟨"g_b", "GB", some "third", [⟨"x", "float"⟩]⟩, ⟨"g_g_b", "GGB", some "fourth", []⟩]
    (ClassFormat.dataclasses.style.className = id ∨ ClassFormat.dataclasses.style.className = Text.upperCamelCase) ∧
      ClassFormat.dataclasses.style.classes "g" document = .ok classes ∧
      ∃ places, ClassFormat.dataclasses.style.Separate document places classes := by
  intro record number document classes
  have hnaming : ClassFormat.dataclasses.style.className = id ∨
      ClassFormat.dataclasses.style.className = Text.upperCamelCase := .inr rfl
  have hclasses : ClassFormat.dataclasses.style.classes "g" document = .ok classes := by
    dsimp only [document, record, number, classes]
    rfl
  exact ⟨hnaming, hclasses, classes_separate hnaming hclasses⟩

end ClassStyle

end DottedSchema
