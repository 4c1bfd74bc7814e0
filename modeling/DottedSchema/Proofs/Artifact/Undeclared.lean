import DottedSchema.Proofs.Artifact.Congruence

set_option autoImplicit false

namespace DottedSchema

theorem Keyed.Ordered.insert_split {α : Type} {entries : Keyed α} {key : String} {former : α} (ho : Ordered entries)
    (h : find? key entries = some former) (value : α) : ∃ before after,
      entries = before ++ (key, former) :: after ∧
      Keyed.insert key value entries = before ++ (key, value) :: after := by
  induction entries with
  | nil => cases h
  | cons e rest ih =>
    rw [find?_cons] at h
    split at h
    · rename_i heq
      subst heq
      cases h
      refine ⟨[], rest, rfl, ?_⟩
      rw [Keyed.insert, if_neg (String.lt_irrefl _), if_pos rfl]
      rfl
    · rename_i hne
      obtain ⟨before, after, hrest, hinsert⟩ := ih (List.pairwise_cons.1 ho).2 h
      have hlt : e.1 < key := (List.pairwise_cons.1 ho).1 _ (mem_of_find? h)
      have hgt : ¬ key < e.1 := fun hgt => String.lt_irrefl _ (String.lt_trans hlt hgt)
      refine ⟨e :: before, after, by rw [List.cons_append, ← hrest], ?_⟩
      rw [Keyed.insert, if_neg hgt, if_neg (fun heq => hne heq.symm), hinsert]
      rfl

namespace Node

/-- A field that something is below of, without a type code on it or on its element. -/
structure Undeclared (node : Node) : Prop where
  below : node.children ≠ [] ∨ node.element.isSome
  own : node.typeCode? = none
  item : ∀ element, node.element = some element → element.typeCode? = none

def structureCode (node : Node) : String := if node.element.isSome then "STRUCT_ARRAY" else "STRUCTURE"

def asStructure (node : Node) : Node :=
  { node with metadata := Keyed.insert "data_type" (.text node.structureCode) node.metadata }

/-- The second tree is the first one with another node for one of its fields, the two nodes being in `R`. -/
inductive ChangedField (R : Node → Node → Prop) : Node → Node → Prop
  | here {metadata : Keyed Json} {before after : Keyed Node} {element : Option Node} {name : String} {n m : Node} :
      R n m → ChangedField R ⟨metadata, before ++ (name, n) :: after, element⟩
        ⟨metadata, before ++ (name, m) :: after, element⟩
  | inside {metadata : Keyed Json} {before after : Keyed Node} {element : Option Node} {name : String} {n m : Node} :
      ChangedField R n m → ChangedField R ⟨metadata, before ++ (name, n) :: after, element⟩
        ⟨metadata, before ++ (name, m) :: after, element⟩
  | inElement {metadata : Keyed Json} {children : Keyed Node} {n m : Node} :
      ChangedField R n m → ChangedField R ⟨metadata, children, some n⟩ ⟨metadata, children, some m⟩

variable {R : Node → Node → Prop} {a b node new tree : Node} {place : Path} {name : String}

theorem parse?_structureCode (node : Node) :
    TypeCode.parse? node.structureCode = some ⟨.record, node.element.isSome⟩ := by
  unfold structureCode
  cases node.element with
  | none => decide
  | some element => exact (by decide : TypeCode.parse? "STRUCT_ARRAY" = some ⟨.record, true⟩)

theorem declared_asStructure (node : Node) (path : String) :
    declared node.asStructure.metadata path = .ok (some ⟨.record, node.element.isSome⟩) := by
  rw [declared, asStructure, Keyed.find?_insert, if_pos rfl]
  dsimp only
  rw [Json.text?, Option.bind_some, parse?_structureCode]

theorem Undeclared.itemDeclared (h : node.Undeclared) (path : String) : node.itemDeclared path = .ok none := by
  unfold Node.itemDeclared
  split
  · rename_i element helement
    have hnone : Keyed.find? "data_type" element.metadata = none := h.item element helement
    rw [declared, hnone]
  · rfl

theorem Undeclared.resolved (h : node.Undeclared) (path : String) :
    node.resolved path none none = .ok ⟨.record, node.element.isSome⟩ := by
  have hbelow : ¬ (node.children.isEmpty && node.element.isNone) = true := by
    intro hbare
    obtain ⟨hchildren, helement⟩ := Bool.and_eq_true_iff.1 hbare
    rcases h.below with hne | hsome
    · exact hne (List.isEmpty_iff.1 hchildren)
    · rw [Option.isNone_iff_eq_none.1 helement] at hsome
      cases hsome
  rw [Node.resolved, if_neg hbelow]

theorem Undeclared.checkedType (h : node.Undeclared) (path : String) :
    node.checkedType path = node.asStructure.checkedType path := by
  have hown : declared node.metadata path = .ok none := by
    have hnone : Keyed.find? "data_type" node.metadata = none := h.own
    rw [declared, hnone]
  have hitem : node.asStructure.itemDeclared path = .ok none := h.itemDeclared path
  rw [checkedType_eq, checkedType_eq, hown, h.itemDeclared, declared_asStructure, hitem, ok_bind, ok_bind, ok_bind,
    ok_bind, h.resolved]
  rfl

theorem descriptions_asStructure (node : Node) : node.descriptions = node.asStructure.descriptions := by
  refine descriptions_congr ?_ rfl
  change Keyed.find? "documentation" node.metadata =
    Keyed.find? "documentation" (Keyed.insert "data_type" (.text node.structureCode) node.metadata)
  rw [Keyed.find?_insert, if_neg (by decide)]

theorem ChangedField.metadata_eq (h : ChangedField R a b) : a.metadata = b.metadata := by
  cases h <;> rfl

theorem ChangedField.item_metadata_eq (h : ChangedField R a b) (key : String) :
    a.value? [.items] key = b.value? [.items] key := by
  cases h with
  | here hR => rfl
  | inside hbelow => rfl
  | inElement hbelow => exact congrArg (Keyed.find? key) hbelow.metadata_eq

theorem changedField_graft (ho : tree.Ordered) (h : tree.get? (place ++ [.field name]) = some node) (hR : R node new) :
    ChangedField R tree (graft (place ++ [.field name]) new tree) := by
  -- at each step a graft replaces one child or the element, as the constructors have it
  induction place generalizing tree with
  | nil =>
    obtain ⟨metadata, children, element⟩ := tree
    obtain ⟨next, hnext, hnode⟩ := Option.bind_eq_some_iff.1 h
    cases hnode
    obtain ⟨before, after, hchildren, hinsert⟩ := ho.children.insert_split hnext new
    cases hchildren
    change ChangedField R _ ⟨metadata, Keyed.insert name new _, element⟩
    rw [hinsert]
    exact .here hR
  | cons step rest ih =>
    obtain ⟨metadata, children, element⟩ := tree
    obtain ⟨next, hnext, hnode⟩ := Option.bind_eq_some_iff.1 h
    have hchanged := ih (ho.step? step hnext) hnode
    have hat : nodeAt ⟨metadata, children, element⟩ [step] = next :=
      nodeAt_of_get? (by rw [get?, hnext, Option.bind_some, get?])
    rw [List.cons_append, graft, hat]
    cases step with
    | items =>
      cases hnext
      exact .inElement hchanged
    | field name =>
      obtain ⟨before, after, hchildren, hinsert⟩ := ho.children.insert_split hnext (graft (rest ++ [.field _]) new next)
      cases hchildren
      change ChangedField R _ ⟨metadata, Keyed.insert name _ _, element⟩
      rw [hinsert]
      exact .inside hchanged

end Node

namespace Artifact

open Node

variable {artifact : Artifact} {R : Node → Node → Prop} {a b node : Node}

theorem childrenAlike_refl (artifact : Artifact) (children : Keyed Node) : artifact.ChildrenAlike children children :=
  List.forall₂_same.2 fun _ _ => ⟨rfl, fun _ => rfl⟩

theorem childrenAlike_replace {before after : Keyed Node} {name : String} {n m : Node} (h : artifact.WrittenAlike n m) :
    artifact.ChildrenAlike (before ++ (name, n) :: after) (before ++ (name, m) :: after) :=
  List.rel_append (childrenAlike_refl artifact before) (.cons ⟨rfl, h⟩ (childrenAlike_refl artifact after))

theorem itemsAlike_refl (artifact : Artifact) (element : Option Node) : artifact.ItemsAlike element element := by
  cases element with
  | none => exact .none
  | some e => exact .some (childrenAlike_refl artifact e.children)

theorem writtenAlike_asStructure (h : node.Undeclared) : artifact.WrittenAlike node node.asStructure :=
  ofNode_congr
    { checkedType := h.checkedType
      descriptions := fun _ => descriptions_asStructure node
      children := childrenAlike_refl artifact node.children
      items := itemsAlike_refl artifact node.element }

theorem readAlike_of_parts (h : ChangedField R a b) (hchildren : artifact.ChildrenAlike a.children b.children)
    (hitems : artifact.ItemsAlike a.element b.element) : artifact.ReadAlike a b := by
  have hown : ∀ key, a.value? [] key = b.value? [] key := fun key => congrArg (Keyed.find? key) h.metadata_eq
  have hitem : ∀ key, a.value? [.items] key = b.value? [.items] key := h.item_metadata_eq
  exact
    { checkedType := checkedType_congr (hown _) (hitem _) (Keyed.forall₂_isEmpty hchildren) (Keyed.rel_isSome hitems)
      descriptions := fun _ => descriptions_congr (hown _) (hitem _)
      children := hchildren
      items := hitems }

/-- A node reads no more of a field below it than what that is written as. -/
theorem readAlike_of_changedField (hR : ∀ n m, R n m → artifact.WrittenAlike n m) (h : ChangedField R a b) :
    artifact.ReadAlike a b := by
  induction h with
  | @here metadata before after element name n m hn =>
    exact readAlike_of_parts (.here hn) (childrenAlike_replace (hR n m hn)) (itemsAlike_refl artifact element)
  | @inside metadata before after element name n m hn ih =>
    exact readAlike_of_parts (.inside hn) (childrenAlike_replace (ofNode_congr ih)) (itemsAlike_refl artifact element)
  | @inElement metadata children n m hn ih =>
    -- Of an element only the children are fields, whatever stands in it besides.
    exact readAlike_of_parts (.inElement hn) (childrenAlike_refl artifact children) (.some ih.children)

/-- Whether a structure is declared as one or is one by its shape alone makes no difference to an artifact. -/
theorem ofTree_declared (artifact : Artifact) (root : String) :
    (∀ tree changed, ChangedField (fun n m => n.Undeclared ∧ m = n.asStructure) tree changed →
      artifact.ofTree root changed = artifact.ofTree root tree) ∧
    ∀ tree node place name, tree.Ordered → tree.get? (place ++ [.field name]) = some node → node.Undeclared →
      artifact.ofTree root (graft (place ++ [.field name]) node.asStructure tree) = artifact.ofTree root tree := by
  have halike : ∀ n m : Node, n.Undeclared ∧ m = n.asStructure → artifact.WrittenAlike n m := by
    rintro n m ⟨hn, rfl⟩
    exact writtenAlike_asStructure hn
  have hchanged : ∀ tree changed, ChangedField (fun n m => n.Undeclared ∧ m = n.asStructure) tree changed →
      artifact.ofTree root changed = artifact.ofTree root tree :=
    fun tree changed h => (ofTree_congr root (readAlike_of_changedField halike h).children).symm
  refine ⟨hchanged, fun tree node place name ho hget hnode => hchanged _ _ ?_⟩
  exact changedField_graft ho hget ⟨hnode, rfl⟩

theorem ofTree_declared_element :
    let leaf : Node := ⟨[("data_type", .text "FLT_0D")], [], none⟩
    let tree := graft [.field "c", .items, .field "d", .items, .field "e"] leaf empty
    let node := tree.nodeAt [.field "c", .items, .field "d"]
    let changed := graft ([.field "c", .items] ++ [.field "d"]) node.asStructure tree
    (tree.Ordered ∧ tree.get? ([.field "c", .items] ++ [.field "d"]) = some node ∧ node.Undeclared ∧
      jsonSchema.ofTree "g" changed = jsonSchema.ofTree "g" tree) ∧
    ChangedField (fun n m => n.Undeclared ∧ m = n.asStructure) tree changed ∧
      searchMapping.ofTree "g" changed = searchMapping.ofTree "g" tree := by
  intro leaf tree node changed
  have hleaf : leaf.Ordered :=
    .intro (List.pairwise_singleton _ _) .nil (fun _ _ h => nomatch h) (fun _ h => nomatch h)
  have htree : tree.Ordered := ordered_empty.graft hleaf
  have hget : tree.get? ([.field "c", .items] ++ [.field "d"]) = some node := rfl
  have hnode : node.Undeclared := ⟨.inr rfl, rfl, fun element he => Option.some.inj he ▸ rfl⟩
  have hchanged : ChangedField (fun n m => n.Undeclared ∧ m = n.asStructure) tree changed :=
    changedField_graft htree hget ⟨hnode, rfl⟩
  exact ⟨⟨htree, hget, hnode, (ofTree_declared jsonSchema "g").2 tree node _ "d" htree hget hnode⟩, hchanged,
    (ofTree_declared searchMapping "g").1 tree changed hchanged⟩

end Artifact

end DottedSchema
