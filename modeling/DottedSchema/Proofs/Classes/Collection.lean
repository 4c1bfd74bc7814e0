import DottedSchema.Proofs.Classes.Fresh
import DottedSchema.Proofs.Classes.Skeleton

/-!
# What is collected

Apart from the choice of keys, the classes of a schema are determined by its skeleton: one class for each object
node, an object before the objects below it, with one attribute for each property (`Collects`). All else about the
collected classes is derived from this and from their being fresh (`classes_ok`).
-/
set_option autoImplicit false

namespace DottedSchema.ClassStyle

mutual

inductive Collects (style : ClassStyle) : Skeleton → String → List ClassDef → Prop
  | scalar {type expression : String} (supported : style.scalar type = some expression) :
      Collects style (.scalar type) expression []
  | array {s : Skeleton} {expression : String} {classes : List ClassDef} (below : Collects style s expression classes) :
      Collects style (.array s) (style.listOf expression) classes
  | object {properties : List (String × Skeleton)} {c : ClassDef} {classes : List ClassDef}
      (below : CollectsAll style properties c.attributes classes) :
      Collects style (.object properties) (style.nested c.name) (c :: classes)

inductive CollectsAll (style : ClassStyle) : List (String × Skeleton) → List Attribute → List ClassDef → Prop
  | nil : CollectsAll style [] [] []
  | cons {name expression : String} {s : Skeleton} {properties : List (String × Skeleton)}
      {attributes : List Attribute} {classes others : List ClassDef} (first : Collects style s expression classes)
      (rest : CollectsAll style properties attributes others) :
      CollectsAll style ((name, s) :: properties) (⟨name, expression⟩ :: attributes) (classes ++ others)

end

variable {style : ClassStyle} {root : String} {properties : Json} {classes : List ClassDef}

mutual

theorem express_collects (used : List ClassEntry) (key parent : String) : ∀ {shape : Shape} {s : Skeleton},
    shape.Matches style.scalar s →
      style.Collects s (style.express used key parent shape).1 (style.express used key parent shape).2
  | .leaf _, .scalar _, h => .scalar h
  | .list item, .array s, h => by
    rw [express]
    exact .array (express_collects used key parent h)
  | .record description fields, .object properties, h => by
    rw [express]
    exact .object (c := ⟨_, _, description, _⟩) (expressFields_collects _ _ h)

theorem expressFields_collects (used : List ClassEntry) (parent : String) :
    ∀ {fields : List (String × Shape)} {properties : List (String × Skeleton)},
      Shape.MatchFields style.scalar fields properties →
        style.CollectsAll properties (style.expressFields used parent fields).1
          (style.expressFields used parent fields).2
  | [], [], _ => .nil
  | (name, shape) :: rest, (_, s) :: properties, ⟨rfl, hfirst, hrest⟩ => by
    rw [expressFields]
    exact .cons (express_collects used name parent hfirst) (expressFields_collects _ parent hrest)

end

theorem exists_shape_of_classes (h : style.classes root properties = .ok classes) :
    ∃ shape, Shape.ofProperties style.scalar root properties = .ok shape ∧ classes = style.topClasses root shape := by
  unfold ClassStyle.classes at h
  cases hshape : Shape.ofProperties style.scalar root properties with
  | error fault =>
    rw [hshape] at h
    cases h
  | ok shape =>
    rw [hshape] at h
    cases h
    exact ⟨shape, rfl, rfl⟩

theorem classes_object_ok {members : List (String × Json)} (h : style.classes root (.object members) = .ok classes) :
    ∃ fields, Shape.ofMembers style.scalar members root = .ok fields ∧
      classes = style.topClasses root (.record none fields) := by
  obtain ⟨shape, hshape, rfl⟩ := exists_shape_of_classes h
  obtain ⟨fields, hfields, hshape⟩ := Node.bind_eq_ok hshape
  cases hshape
  exact ⟨fields, hfields, rfl⟩

theorem classes_ok (h : style.classes root properties = .ok classes) :
    ∃ first rest skeletons, classes = first :: rest ∧ (Shape.topNode properties).HasSkeleton (.object skeletons) ∧
      style.CollectsAll skeletons first.attributes rest := by
  obtain ⟨shape, hshape, rfl⟩ := exists_shape_of_classes h
  obtain ⟨fields, skeletons, rfl, hskeleton, hmatch⟩ := Shape.ofProperties_ok hshape
  exact ⟨_, _, skeletons, rfl, hskeleton, expressFields_collects _ _ hmatch⟩

theorem classes_fresh (hnumbers : style.Numbers) (h : style.classes root properties = .ok classes) :
    style.Fresh [] classes := by
  obtain ⟨shape, -, rfl⟩ := exists_shape_of_classes h
  exact topClasses_fresh hnumbers root shape

end DottedSchema.ClassStyle
