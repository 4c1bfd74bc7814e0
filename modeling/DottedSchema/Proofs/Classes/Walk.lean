import DottedSchema.Proofs.Classes.Acceptance
import Mathlib.Logic.Relation

/-!
# The walk through a schema

Classes are registered one after the other on a walk through the schema, an object node before its properties and
these in their order (`Advances`). The walk comes to an end just if the schema has classes, and stops at a fault
otherwise (`walk_ends_iff`). At its end all classes are registered, and at the moments before the beginnings of their
list (`reached_iff`).
-/
set_option autoImplicit false

namespace DottedSchema

namespace ClassStyle

/-- What a walk has still to visit: a node, or the properties of an object node whose class has the key `owner`. -/
inductive Visit where
  | node (key : String) (parent : Option String) (node : Json)
  | properties (owner : String) (members : List (String × Json))

structure Walk where
  registered : List ClassEntry
  pending : List Visit

def entryFor (style : ClassStyle) (used : List ClassEntry) (key : String) (parent : Option String) : ClassEntry :=
  ⟨style.reserve used key parent, style.className (style.reserve used key parent)⟩

def visits (owner : String) (properties : List (String × Json)) : List Visit :=
  properties.map fun p => .node p.1 (some owner) p.2

/-- One step of a walk. A node that is not sound is never passed. -/
inductive Advances (style : ClassStyle) : Walk → Walk → Prop
  | scalar {used : List ClassEntry} {rest : List Visit} {key type : String} {parent : Option String}
      {members : List (String × Json)} (declared : Keyed.find? "type" members = some (.text type))
      (notObject : type ≠ "object") (notArray : type ≠ "array") (supported : (style.scalar type).isSome) :
      Advances style ⟨used, .node key parent (.object members) :: rest⟩ ⟨used, rest⟩
  | array {used : List ClassEntry} {rest : List Visit} {key : String} {parent : Option String}
      {members : List (String × Json)} {item : Json} (declared : Keyed.find? "type" members = some (.text "array"))
      (items : Keyed.find? "items" members = some item) :
      Advances style ⟨used, .node key parent (.object members) :: rest⟩ ⟨used, .node key parent item :: rest⟩
  | object {used : List ClassEntry} {rest : List Visit} {key : String} {parent : Option String}
      {members : List (String × Json)} (declared : Keyed.find? "type" members = some (.text "object")) :
      Advances style ⟨used, .node key parent (.object members) :: rest⟩
        ⟨used ++ [style.entryFor used key parent], .properties (style.reserve used key parent) members :: rest⟩
  | bare {used : List ClassEntry} {rest : List Visit} {owner : String} {members : List (String × Json)}
      (missing : Keyed.find? "properties" members = none) :
      Advances style ⟨used, .properties owner members :: rest⟩ ⟨used, rest⟩
  | mapping {used : List ClassEntry} {rest : List Visit} {owner : String} {members properties : List (String × Json)}
      (mapping : Keyed.find? "properties" members = some (.object properties)) :
      Advances style ⟨used, .properties owner members :: rest⟩ ⟨used, visits owner properties ++ rest⟩

def Reaches (style : ClassStyle) (root : String) (properties : List (String × Json)) : Walk → Prop :=
  Relation.ReflTransGen style.Advances ⟨[], [.node root none (Shape.topNode (.object properties))]⟩

variable {style : ClassStyle} {walk walk' later : Walk} {root : String} {properties : List (String × Json)}
  {classes : List ClassDef} {used : List ClassEntry}

theorem Advances.deterministic (h : style.Advances walk walk') (h' : style.Advances walk later) : walk' = later := by
  cases h with
  | scalar declared notObject notArray _ =>
    cases h' with
    | scalar _ _ _ _ => rfl
    | array declared' _ => exact absurd (Json.same_type declared declared') notArray
    | object declared' => exact absurd (Json.same_type declared declared') notObject
  | array declared items =>
    cases h' with
    | scalar declared' _ notArray _ => exact absurd (Json.same_type declared' declared) notArray
    | array _ items' =>
      cases items.symm.trans items'
      rfl
    | object declared' => exact absurd (Json.same_type declared declared') (by decide)
  | object declared =>
    cases h' with
    | scalar declared' notObject _ _ => exact absurd (Json.same_type declared' declared) notObject
    | array declared' _ => exact absurd (Json.same_type declared declared') (by decide)
    | object _ => rfl
  | bare missing =>
    cases h' with
    | bare _ => rfl
    | mapping mapping => cases missing.symm.trans mapping
  | mapping mapping =>
    cases h' with
    | bare missing => cases missing.symm.trans mapping
    | mapping mapping' =>
      cases mapping.symm.trans mapping'
      rfl

theorem Advances.registered_cases (h : style.Advances walk walk') : walk'.registered = walk.registered ∨
    ∃ key parent, walk'.registered = walk.registered ++ [style.entryFor walk.registered key parent] := by
  cases h with
  | scalar _ _ _ _ | array _ _ | bare _ | mapping _ => exact .inl rfl
  | object _ => exact .inr ⟨_, _, rfl⟩

theorem Reaches.named (h : style.Reaches root properties walk) : style.Named walk.registered := by
  induction h with
  | refl => exact fun _ he => nomatch he
  | tail _ hstep ih =>
    rcases hstep.registered_cases with hsame | ⟨key, parent, hnext⟩
    · rw [hsame]
      exact ih
    · rw [hnext]
      exact ih.concat _

mutual

/-- The walk passes a sound node and registers the classes of the object nodes in it. -/
theorem walk_node : ∀ {node : Json} {s : Skeleton}, node.HasSkeleton s → ∀ {shape : Shape},
    shape.Matches style.scalar s → ∀ (used : List ClassEntry) (key parent : String) (rest : List Visit),
      Relation.ReflTransGen style.Advances ⟨used, .node key (some parent) node :: rest⟩
        ⟨used ++ (style.express used key parent shape).2.map ClassDef.entry, rest⟩
  | _, _, .scalar declared notObject notArray, .leaf expression, h, used, key, parent, rest => by
    rw [express, List.map_nil, List.append_nil]
    rw [Shape.Matches] at h
    exact .single (.scalar declared notObject notArray (Option.isSome_iff_exists.2 ⟨expression, h⟩))
  | _, _, .array declared items below, .list item, h, used, key, parent, rest => by
    rw [Shape.Matches] at h
    rw [express]
    exact .head (.array declared items) (walk_node below h used key parent rest)
  | _, _, .bare declared missing, .record description [], _, used, key, parent, rest => by
    rw [express, expressFields]
    exact .head (.object declared) (.single (.bare missing))
  | _, _, .object declared mapping below, .record description fields, h, used, key, parent, rest => by
    rw [Shape.Matches] at h
    -- what is registered before the properties ends with the record itself
    rw [express, List.map_cons, List.append_cons]
    exact .head (.object declared) (.head (.mapping mapping) (walk_properties below h _ _ rest))

theorem walk_properties : ∀ {ps : List (String × Json)} {ss : List (String × Skeleton)}, Json.HaveSkeletons ps ss →
    ∀ {fields : List (String × Shape)}, Shape.MatchFields style.scalar fields ss →
      ∀ (used : List ClassEntry) (owner : String) (rest : List Visit),
        Relation.ReflTransGen style.Advances ⟨used, visits owner ps ++ rest⟩
          ⟨used ++ (style.expressFields used owner fields).2.map ClassDef.entry, rest⟩
  | _, _, .nil, [], _, used, owner, rest => by
    rw [expressFields, List.map_nil, List.append_nil]
    exact .refl
  | _, _, .cons first others, (_, _) :: fields, h, used, owner, rest => by
    obtain ⟨rfl, hfirst, hothers⟩ := h
    rw [expressFields, List.map_append, ← List.append_assoc]
    exact (walk_node first hfirst used _ owner _).trans (walk_properties others hothers _ owner rest)

end

theorem classes_walked (h : style.classes root (.object properties) = .ok classes) :
    style.Reaches root properties ⟨classes.map ClassDef.entry, []⟩ := by
  obtain ⟨fields, hfields, rfl⟩ := classes_object_ok h
  obtain ⟨skeletons, hskeletons, hmatch⟩ := Shape.ofMembers_ok hfields
  exact .head (.object rfl) (.head (.mapping rfl) (walk_properties hskeletons hmatch _ _ []))

theorem registered_prefix (h : Relation.ReflTransGen style.Advances walk later) :
    walk.registered <+: later.registered := by
  induction h with
  | refl => exact List.prefix_refl _
  | tail _ hstep ih =>
    rcases hstep.registered_cases with hsame | ⟨key, parent, hnext⟩
    · rwa [hsame]
    · rw [hnext]
      exact ih.trans (List.prefix_append _ _)

theorem exists_moment (h : Relation.ReflTransGen style.Advances walk later) (hwalk : walk.registered <+: used)
    (hlater : used <+: later.registered) :
    ∃ pending, Relation.ReflTransGen style.Advances walk ⟨used, pending⟩ := by
  induction h with
  | refl =>
    cases hwalk.eq_of_length_le hlater.length_le
    exact ⟨_, .refl⟩
  | tail hbefore hstep ih =>
    rcases hstep.registered_cases with hsame | ⟨key, parent, hnext⟩
    · exact ih (hsame ▸ hlater)
    · rw [hnext, List.prefix_concat_iff] at hlater
      rcases hlater with hall | hearlier
      · rw [hall, ← hnext]
        exact ⟨_, hbefore.tail hstep⟩
      · exact ih hearlier

theorem reached_iff (h : style.classes root (.object properties) = .ok classes) :
    (∃ pending, style.Reaches root properties ⟨used, pending⟩) ↔ used <+: classes.map ClassDef.entry := by
  constructor
  · rintro ⟨pending, hreached⟩
    have hunique : Relator.RightUnique style.Advances := fun _ _ _ => Advances.deterministic
    rcases Relation.ReflTransGen.total_of_right_unique hunique hreached (classes_walked h) with hlater | hafter
    · exact registered_prefix hlater
    · -- nothing comes after the end
      rcases Relation.ReflTransGen.cases_head hafter with heq | ⟨_, hstep, -⟩
      · cases heq
        exact List.prefix_refl _
      · cases hstep
  · exact exists_moment (classes_walked h) (List.nil_prefix)

def Visit.Passable (leaf : String → Option String) : Visit → Prop
  | .node _ _ child => ∃ s, child.HasSkeleton s ∧ s.Supported leaf
  | .properties _ members => Keyed.find? "properties" members = none ∨ ∃ properties ss,
      Keyed.find? "properties" members = some (.object properties) ∧ Json.HaveSkeletons properties ss ∧
        Skeleton.AllSupported leaf ss

theorem exists_skeletons {leaf : String → Option String} {owner : String} {properties : List (String × Json)}
    (h : ∀ v ∈ visits owner properties, v.Passable leaf) :
    ∃ ss, Json.HaveSkeletons properties ss ∧ Skeleton.AllSupported leaf ss := by
  induction properties with
  | nil => exact ⟨[], .nil, trivial⟩
  | cons p rest ih =>
    rw [visits, List.map_cons, List.forall_mem_cons] at h
    obtain ⟨⟨s, hfirst, hsupported⟩, hrest⟩ := h
    obtain ⟨ss, hskeletons, hall⟩ := ih hrest
    exact ⟨(p.1, s) :: ss, .cons hfirst hskeletons, hsupported, hall⟩

theorem Advances.passable (h : style.Advances walk walk') (hnext : ∀ v ∈ walk'.pending, v.Passable style.scalar) :
    ∀ v ∈ walk.pending, v.Passable style.scalar := by
  cases h with
  | scalar declared notObject notArray supported =>
    exact List.forall_mem_cons.2 ⟨⟨_, .scalar declared notObject notArray, supported⟩, hnext⟩
  | array declared items =>
    obtain ⟨⟨s, hitem, hsupported⟩, hrest⟩ := List.forall_mem_cons.1 hnext
    exact List.forall_mem_cons.2 ⟨⟨_, .array declared items hitem, hsupported⟩, hrest⟩
  | object declared =>
    obtain ⟨hproperties, hrest⟩ := List.forall_mem_cons.1 hnext
    refine List.forall_mem_cons.2 ⟨?_, hrest⟩
    rcases hproperties with missing | ⟨properties, ss, mapping, below, hsupported⟩
    · exact ⟨_, .bare declared missing, trivial⟩
    · exact ⟨_, .object declared mapping below, hsupported⟩
  | bare missing => exact List.forall_mem_cons.2 ⟨Or.inl missing, hnext⟩
  | mapping mapping =>
    obtain ⟨hvisits, hrest⟩ := List.forall_mem_append.1 hnext
    obtain ⟨ss, hskeletons, hsupported⟩ := exists_skeletons hvisits
    exact List.forall_mem_cons.2 ⟨Or.inr ⟨_, ss, mapping, hskeletons, hsupported⟩, hrest⟩

theorem passable_of_ends (h : Relation.ReflTransGen style.Advances walk later) (hend : later.pending = []) :
    ∀ v ∈ walk.pending, v.Passable style.scalar := by
  induction h using Relation.ReflTransGen.head_induction_on with
  | refl =>
    rw [hend]
    exact fun _ hv => nomatch hv
  | head hstep _ ih => exact hstep.passable ih

theorem walk_ends_iff : (∃ used, style.Reaches root properties ⟨used, []⟩) ↔
    ∃ classes, style.classes root (.object properties) = .ok classes := by
  constructor
  · rintro ⟨used, h⟩
    obtain ⟨s, hskeleton, hsupported⟩ := List.forall_mem_singleton.1 (passable_of_ends h rfl)
    obtain ⟨ss, rfl, -⟩ := Shape.hasSkeleton_topNode hskeleton
    exact classes_isOk_iff.2 ⟨ss, hskeleton, hsupported⟩
  · rintro ⟨classes, h⟩
    exact ⟨_, classes_walked h⟩

end ClassStyle

end DottedSchema
