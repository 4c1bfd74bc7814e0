import DottedSchema.Proofs.Artifact.Grammar
import DottedSchema.Proofs.Node.Equality

set_option autoImplicit false

namespace DottedSchema

theorem map_bind_congr {α β γ δ : Type} {x y : Except Fault α} {next next' : α → Except Fault β} {f : α → γ}
    {g : β → δ} (hxy : x.map f = y.map f)
    (hnext : ∀ u v, f u = f v → (next u).map g = (next' v).map g) : (x >>= next).map g = (y >>= next').map g := by
  cases x with
  | error fault =>
    cases y with
    | error fault' =>
      cases hxy
      rfl
    | ok v => cases hxy
  | ok u =>
    cases y with
    | error fault' => cases hxy
    | ok v => exact hnext u v (Except.ok.inj hxy)

namespace Node

variable {a b : Node} {path : String}

theorem itemDeclared_eq (node : Node) (path : String) :
    node.itemDeclared path = declared (node.nodeAt [.items]).metadata (path ++ "[:]") := by
  unfold itemDeclared nodeAt
  rw [get?, step?]
  cases node.element <;> rfl

theorem declared_congr (h : a.value? [] "data_type" = b.value? [] "data_type") (path : String) :
    declared a.metadata path = declared b.metadata path := by
  change Keyed.find? "data_type" a.metadata = Keyed.find? "data_type" b.metadata at h
  unfold declared
  rw [h]

theorem checkedType_congr (hown : a.value? [] "data_type" = b.value? [] "data_type")
    (hitem : a.value? [.items] "data_type" = b.value? [.items] "data_type")
    (hchildren : a.children.isEmpty = b.children.isEmpty) (helement : a.element.isSome = b.element.isSome)
    (path : String) : a.checkedType path = b.checkedType path := by
  have hnone : a.element.isNone = b.element.isNone := by rw [← Option.not_isSome, helement, Option.not_isSome]
  have hresolved : ∀ own item, a.resolved path own item = b.resolved path own item := by
    intro own item
    unfold resolved
    rw [hchildren, hnone, helement]
  have hdeclared : a.itemDeclared path = b.itemDeclared path := by
    rw [itemDeclared_eq, itemDeclared_eq]
    exact declared_congr hitem _
  rw [checkedType_eq, checkedType_eq, declared_congr hown, hdeclared, helement]
  simp only [hresolved]

theorem documentation?_congr (h : a.value? [] "documentation" = b.value? [] "documentation") :
    a.documentation? = b.documentation? := by
  change Keyed.find? "documentation" a.metadata = Keyed.find? "documentation" b.metadata at h
  unfold documentation?
  rw [h]

theorem descriptions_congr (hown : a.value? [] "documentation" = b.value? [] "documentation")
    (hitem : a.value? [.items] "documentation" = b.value? [.items] "documentation") :
    a.descriptions = b.descriptions := by
  have hat : ∀ node : Node, node.element.bind documentation? = (node.nodeAt [.items]).documentation? := by
    intro node
    unfold nodeAt
    rw [get?, step?]
    cases node.element <;> rfl
  have hbelow : (a.nodeAt [.items]).documentation? = (b.nodeAt [.items]).documentation? := documentation?_congr hitem
  unfold descriptions
  rw [hat, hat, documentation?_congr hown, hbelow]

end Node

namespace Artifact

open Node

variable {artifact : Artifact} {a b : Node} {children others : Keyed Node} {found found' : Keyed Field} {f g : Field}
  {name path : String}

def readKeys : Artifact → List String
  | .jsonSchema => ["data_type", "documentation"]
  | .searchMapping => ["data_type"]

def written (artifact : Artifact) (fields : Keyed Field) : Keyed Json :=
  fields.map fun p => (p.1, artifact.writeField p.2)

theorem written_insert (artifact : Artifact) (name : String) (f : Field) (fields : Keyed Field) :
    artifact.written (Keyed.insert name f fields) = Keyed.insert name (artifact.writeField f) (artifact.written fields) :=
  Keyed.map_insert name f artifact.writeField fields

theorem has_written (artifact : Artifact) (name : String) (fields : Keyed Field) :
    Keyed.has name (artifact.written fields) = Keyed.has name fields := by
  rw [Keyed.has, Keyed.has, written, Keyed.find?_map, Option.isSome_map]

theorem writeField_congr (hkind : f.kind = g.kind) (harray : f.isArray = g.isArray)
    (hdescriptions : artifact = .jsonSchema →
      (f.description, f.itemDescription) = (g.description, g.itemDescription))
    (hproperties : artifact.written f.properties = artifact.written g.properties) :
    artifact.writeField f = artifact.writeField g := by
  obtain ⟨kind, isArray, description, itemDescription, properties⟩ := f
  obtain ⟨kind', isArray', description', itemDescription', properties'⟩ := g
  cases hkind
  cases harray
  cases artifact with
  | jsonSchema =>
    cases hdescriptions rfl
    have hbelow : Field.jsonSchemas properties = Field.jsonSchemas properties' := by
      rw [Field.jsonSchemas_eq_map, Field.jsonSchemas_eq_map]
      exact hproperties
    rw [writeField, Field.jsonSchema, Field.jsonSchema, hbelow]
  | searchMapping =>
    have hbelow : Field.searchMappings properties = Field.searchMappings properties' := by
      rw [Field.searchMappings_eq_map, Field.searchMappings_eq_map]
      exact hproperties
    rw [writeField, Field.searchMapping, Field.searchMapping, hbelow]

def WrittenAlike (artifact : Artifact) (a b : Node) : Prop :=
  ∀ path, artifact.ofNode path a = artifact.ofNode path b

def ChildrenAlike (artifact : Artifact) (children others : Keyed Node) : Prop :=
  List.Forall₂ (fun c d => c.1 = d.1 ∧ artifact.WrittenAlike c.2 d.2) children others

def ItemsAlike (artifact : Artifact) (element element' : Option Node) : Prop :=
  Option.Rel (fun e e' => artifact.ChildrenAlike (Node.children e) (Node.children e')) element element'

theorem fields_congr (h : artifact.ChildrenAlike children others) (path : String)
    (hfound : artifact.written found = artifact.written found') :
    (fields children path found).map artifact.written = (fields others path found').map artifact.written := by
  induction h generalizing found found' with
  | nil =>
    rw [fields, fields]
    exact congrArg Except.ok hfound
  | @cons c d rest rest' hcd _ ih =>
    obtain ⟨name, n⟩ := c
    obtain ⟨name', m⟩ := d
    obtain ⟨hname, hwritten⟩ := hcd
    cases hname
    rw [fields_cons_eq, fields_cons_eq, ← has_written artifact name found, hfound, has_written]
    split
    · rfl
    · refine map_bind_congr (hwritten (path ++ "." ++ name)) fun typed typed' htyped => ih ?_
      rw [written_insert, written_insert, hfound, htyped]

/-- The nodes agree on all that decides what the artifact writes for a field. -/
structure ReadAlike (artifact : Artifact) (a b : Node) : Prop where
  checkedType : ∀ path, a.checkedType path = b.checkedType path
  descriptions : artifact = .jsonSchema → a.descriptions = b.descriptions
  children : artifact.ChildrenAlike a.children b.children
  items : artifact.ItemsAlike a.element b.element

theorem ReadAlike.properties (h : artifact.ReadAlike a b) (path : String) :
    (a.properties path).map artifact.written = (b.properties path).map artifact.written := by
  unfold Node.properties
  refine map_bind_congr (fields_congr h.children path rfl) fun own own' hown => ?_
  have hitems := h.items
  generalize a.element = element at hitems
  generalize b.element = element' at hitems
  cases hitems with
  | none => exact congrArg Except.ok hown
  | some hbelow => exact fields_congr hbelow _ hown

theorem ofNode_congr (h : artifact.ReadAlike a b) : artifact.WrittenAlike a b := by
  intro path
  unfold ofNode
  rw [field_eq, field_eq, h.checkedType]
  cases b.checkedType path with
  | error fault => rfl
  | ok type =>
    have hproperties : (if type.kind = .record then a.properties path else .ok []).map artifact.written =
        (if type.kind = .record then b.properties path else .ok []).map artifact.written := by
      split
      · exact h.properties path
      · rfl
    rw [ok_bind, ok_bind]
    refine map_bind_congr hproperties fun own own' hown => congrArg Except.ok ?_
    exact writeField_congr rfl rfl (fun hartifact => h.descriptions hartifact) hown

theorem ofTree_eq (artifact : Artifact) (root : String) (tree : Node) : artifact.ofTree root tree =
    ((fields tree.children root []).map artifact.written).map Json.object := by
  unfold ofTree topFields
  cases fields tree.children root [] with
  | error fault => rfl
  | ok found => exact congrArg Except.ok (writeFields_eq_map artifact found)

theorem ofTree_congr (root : String) (h : artifact.ChildrenAlike a.children b.children) :
    artifact.ofTree root a = artifact.ofTree root b := by
  rw [ofTree_eq, ofTree_eq, fields_congr h root rfl]

abbrev Agree (artifact : Artifact) (a b : Node) : Prop :=
  Related (fun key v w => key ∈ artifact.readKeys → v = w) a b

theorem readAlike_of_agree (h : artifact.Agree a b) (hchildren : artifact.ChildrenAlike a.children b.children)
    (hitems : artifact.ItemsAlike a.element b.element) : artifact.ReadAlike a b where
  checkedType := by
    have htype : "data_type" ∈ artifact.readKeys := by cases artifact <;> decide
    exact checkedType_congr (h.value [] _ htype) (h.value [.items] _ htype) (Keyed.forall₂_isEmpty hchildren)
      (Keyed.rel_isSome hitems)
  descriptions hartifact := by
    subst hartifact
    exact descriptions_congr (h.value [] _ (by decide)) (h.value [.items] _ (by decide))
  children := hchildren
  items := hitems

theorem writtenAlike_of_agree (h : artifact.Agree a b) : artifact.WrittenAlike a b := by
  induction a using Node.field_induction generalizing b with
  | field a own items =>
    refine ofNode_congr (readAlike_of_agree h ?_ ?_)
    · exact Keyed.forall₂_imp_of_mem h.children fun c hc _ hcd => hcd.imp_right (own c hc)
    · refine Keyed.rel_imp h.element fun element he element' hrel => ?_
      exact Keyed.forall₂_imp_of_mem hrel.children fun c hc _ hcd => hcd.imp_right (items element he c hc)

theorem ofTree_agree (root : String) (h : artifact.Agree a b) : artifact.ofTree root a = artifact.ofTree root b :=
  ofTree_congr root (h.children.imp fun _ _ hcd => hcd.imp_right writtenAlike_of_agree)

end Artifact

end DottedSchema
