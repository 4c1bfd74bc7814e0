import DottedSchema.Proofs.Classes.Places

set_option autoImplicit false

namespace DottedSchema

namespace Json

def properties (members : List (String × Json)) : List (String × Json) :=
  ((Keyed.find? "properties" members).bind object?).getD []

inductive Core where
  | scalar (type : String)
  | object (members : List (String × Json))

/-- The core of a node, behind the number of array levels around it. -/
inductive Holds : Json → Nat → Core → Prop
  | scalar {members : List (String × Json)} {type : String}
      (declared : Keyed.find? "type" members = some (.text type)) (notObject : type ≠ "object")
      (notArray : type ≠ "array") : Holds (.object members) 0 (.scalar type)
  | object {members : List (String × Json)} (declared : Keyed.find? "type" members = some (.text "object")) :
      Holds (.object members) 0 (.object members)
  | array {members : List (String × Json)} {item : Json} {levels : Nat} {core : Core}
      (declared : Keyed.find? "type" members = some (.text "array"))
      (items : Keyed.find? "items" members = some item) (below : Holds item levels core) :
      Holds (.object members) (levels + 1) core

/-- The members of the object node at a place in a node. -/
inductive ObjectAt : Json → List Nat → List (String × Json) → Prop
  | here {node : Json} {levels : Nat} {members : List (String × Json)} (holds : node.Holds levels (.object members)) :
      ObjectAt node [] members
  | inside {node child : Json} {levels number : Nat} {name : String} {members inner : List (String × Json)}
      {place : List Nat} (holds : node.Holds levels (.object members))
      (property : (properties members)[number]? = some (name, child)) (rest : ObjectAt child place inner) :
      ObjectAt node (number :: place) inner

variable {node child : Json} {levels levels' number : Nat} {core core' : Core} {type name : String} {s : Skeleton}
  {members inner ps : List (String × Json)} {ss below : List (String × Skeleton)} {place : List Nat}

theorem Holds.unique (h : node.Holds levels core) (h' : node.Holds levels' core') : levels = levels' ∧ core = core' := by
  induction h generalizing levels' with
  | scalar declared notObject notArray =>
    cases h' with
    | scalar declared' _ _ => exact ⟨rfl, congrArg Core.scalar (same_type declared declared')⟩
    | object declared' => exact absurd (same_type declared declared') notObject
    | array declared' _ _ => exact absurd (same_type declared declared') notArray
  | object declared =>
    cases h' with
    | scalar declared' notObject _ => exact absurd (same_type declared' declared) notObject
    | object _ => exact ⟨rfl, rfl⟩
    | array declared' _ _ => exact absurd (same_type declared declared') (by decide)
  | array declared items _ ih =>
    cases h' with
    | scalar declared' _ notArray => exact absurd (same_type declared' declared) notArray
    | object declared' => exact absurd (same_type declared declared') (by decide)
    | array _ items' below' =>
      cases items.symm.trans items'
      obtain ⟨hlevels, hcore⟩ := ih below'
      exact ⟨congrArg (· + 1) hlevels, hcore⟩

theorem ObjectAt.holds (h : node.ObjectAt place members) : ∃ levels inner, node.Holds levels (.object inner) := by
  cases h with
  | here holds => exact ⟨_, _, holds⟩
  | inside holds _ _ => exact ⟨_, _, holds⟩

theorem ObjectAt.unique (h : node.ObjectAt place members) (h' : node.ObjectAt place inner) : members = inner := by
  induction h with
  | here holds =>
    cases h' with
    | here holds' => exact Core.object.inj (holds.unique holds').2
  | inside holds property _ ih =>
    cases h' with
    | inside holds' property' rest' =>
      cases (holds.unique holds').2
      cases property.symm.trans property'
      exact ih rest'

theorem HaveSkeletons.exists_skeleton (h : HaveSkeletons ps ss) (hp : ps[number]? = some (name, child)) :
    ∃ s, ss[number]? = some (name, s) ∧ child.HasSkeleton s := by
  induction number generalizing ps ss with
  | zero =>
    cases h with
    | nil => cases hp
    | cons first _ =>
      cases hp
      exact ⟨_, rfl, first⟩
  | succ number ih =>
    cases h with
    | nil => cases hp
    | cons _ rest => exact ih rest hp

theorem HaveSkeletons.exists_node (h : HaveSkeletons ps ss) (hs : ss[number]? = some (name, s)) :
    ∃ child, ps[number]? = some (name, child) ∧ child.HasSkeleton s := by
  induction number generalizing ps ss with
  | zero =>
    cases h with
    | nil => cases hs
    | cons first _ =>
      cases hs
      exact ⟨_, rfl, first⟩
  | succ number ih =>
    cases h with
    | nil => cases hs
    | cons _ rest => exact ih rest hs

theorem HaveSkeletons.names : ∀ {ps : List (String × Json)} {ss : List (String × Skeleton)}, HaveSkeletons ps ss →
    ps.map (·.1) = ss.map (·.1)
  | _, _, .nil => rfl
  | _, _, .cons _ rest => congrArg (List.cons _) rest.names

theorem HasSkeleton.holds : ∀ {node : Json} {s : Skeleton}, node.HasSkeleton s →
    (∃ levels type, node.Holds levels (.scalar type) ∧ s.core? = none) ∨
      ∃ levels members below, node.Holds levels (.object members) ∧ s.core? = some (levels, below) ∧
        HaveSkeletons (properties members) below
  | _, _, .scalar declared notObject notArray => .inl ⟨0, _, .scalar declared notObject notArray, rfl⟩
  | _, _, .array declared items below => by
    rcases below.holds with ⟨levels, type, hholds, hcore⟩ | ⟨levels, members, inner, hholds, hcore, hbelow⟩
    · exact .inl ⟨levels + 1, type, .array declared items hholds, by rw [Skeleton.core?, hcore]; rfl⟩
    · exact .inr ⟨levels + 1, members, inner, .array declared items hholds, by rw [Skeleton.core?, hcore]; rfl, hbelow⟩
  | .object members, _, .bare declared missing => by
    refine .inr ⟨0, members, [], .object declared, rfl, ?_⟩
    rw [properties, missing]
    exact .nil
  | .object members, _, .object declared mapping below => by
    refine .inr ⟨0, members, _, .object declared, rfl, ?_⟩
    rw [properties, mapping]
    exact below

theorem HasSkeleton.core?_of_holds (h : node.HasSkeleton s) (hholds : node.Holds levels (.object members)) :
    ∃ below, s.core? = some (levels, below) ∧ HaveSkeletons (properties members) below := by
  rcases h.holds with ⟨_, _, hscalar, -⟩ | ⟨_, _, below, hobject, hcore, hbelow⟩
  · cases (hscalar.unique hholds).2
  · obtain ⟨rfl, he⟩ := hobject.unique hholds
    cases he
    exact ⟨below, hcore, hbelow⟩

theorem HasSkeleton.object_of_core? (h : node.HasSkeleton s) (hcore : s.core? = some (levels, below)) :
    ∃ members, node.Holds levels (.object members) ∧ HaveSkeletons (properties members) below := by
  rcases h.holds with ⟨_, _, -, hnone⟩ | ⟨_, members, _, hobject, hcore', hbelow⟩
  · cases hcore.symm.trans hnone
  · cases hcore.symm.trans hcore'
    exact ⟨members, hobject, hbelow⟩

theorem ObjectAt.objectAt? (h : node.ObjectAt place members) (hs : node.HasSkeleton s)
    (hcore : s.core? = some (levels, below)) :
    ∃ inner, Skeleton.objectAt? below place = some inner ∧ HaveSkeletons (properties members) inner := by
  induction h generalizing s levels below with
  | here holds =>
    obtain ⟨_, hcore', hbelow⟩ := hs.core?_of_holds holds
    cases hcore.symm.trans hcore'
    exact ⟨_, rfl, hbelow⟩
  | inside holds property rest ih =>
    obtain ⟨_, hcore', hbelow⟩ := hs.core?_of_holds holds
    cases hcore.symm.trans hcore'
    obtain ⟨s, hp, hchild⟩ := hbelow.exists_skeleton property
    obtain ⟨_, _, hobject⟩ := rest.holds
    obtain ⟨_, hinner, -⟩ := hchild.core?_of_holds hobject
    obtain ⟨found, hfound, hproperties⟩ := ih hchild hinner
    exact ⟨found, by rw [Skeleton.objectAt?, hp, Option.bind_some, hinner, Option.bind_some, hfound], hproperties⟩

theorem HasSkeleton.exists_objectAt (hs : node.HasSkeleton s) (hcore : s.core? = some (levels, below))
    (hplace : (Skeleton.objectAt? below place).isSome) : ∃ members, node.ObjectAt place members := by
  induction place generalizing node s levels below with
  | nil =>
    obtain ⟨members, hholds, -⟩ := hs.object_of_core? hcore
    exact ⟨members, .here hholds⟩
  | cons number rest ih =>
    obtain ⟨members, hholds, hbelow⟩ := hs.object_of_core? hcore
    obtain ⟨found, hfound⟩ := Option.isSome_iff_exists.1 hplace
    obtain ⟨⟨name, s⟩, hp, hfound⟩ := Option.bind_eq_some_iff.1 hfound
    obtain ⟨⟨levels, inner⟩, hinner, hfound⟩ := Option.bind_eq_some_iff.1 hfound
    obtain ⟨child, hproperty, hchild⟩ := hbelow.exists_node hp
    obtain ⟨members, hmembers⟩ := ih hchild hinner (Option.isSome_iff_exists.2 ⟨found, hfound⟩)
    exact ⟨members, .inside hholds hproperty hmembers⟩

theorem HasSkeleton.mem_places_iff (hs : node.HasSkeleton s) :
    place ∈ s.places ↔ ∃ members, node.ObjectAt place members := by
  cases hcore : s.core? with
  | none =>
    rw [Skeleton.places_of_core?_eq_none hcore]
    refine ⟨fun h => (nomatch h), fun ⟨members, h⟩ => ?_⟩
    obtain ⟨_, _, hobject⟩ := h.holds
    obtain ⟨_, hcore', -⟩ := hs.core?_of_holds hobject
    cases hcore.symm.trans hcore'
  | some found =>
    rw [Skeleton.places_of_core? hcore, Skeleton.mem_places_object]
    refine ⟨hs.exists_objectAt hcore, fun ⟨members, h⟩ => ?_⟩
    obtain ⟨inner, hinner, -⟩ := h.objectAt? hs hcore
    exact Option.isSome_iff_exists.2 ⟨inner, hinner⟩

end Json

end DottedSchema
