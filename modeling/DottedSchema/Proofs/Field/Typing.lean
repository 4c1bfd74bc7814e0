import DottedSchema.Artifact
import DottedSchema.Proofs.Pairing

set_option autoImplicit false

namespace DottedSchema

namespace Field

def below? (field : Field) : List String → Option Field
  | [] => some field
  | name :: rest => (Keyed.find? name field.properties).bind (below? · rest)

theorem below?_append (field : Field) (p q : List String) :
    field.below? (p ++ q) = (field.below? p).bind (below? · q) := by
  induction p generalizing field with
  | nil => rfl
  | cons name rest ih =>
    rw [List.cons_append, below?, below?]
    cases Keyed.find? name field.properties with
    | none => rfl
    | some next => exact ih next

def at? (fields : Keyed Field) : List String → Option Field
  | [] => none
  | name :: rest => (Keyed.find? name fields).bind (below? · rest)

/-- Names stand in order, and only structures have properties, at the field and at all below it. -/
def Regular (field : Field) : Prop :=
  ∀ names f, field.below? names = some f →
    Keyed.Ordered f.properties ∧ (f.kind ≠ .record → f.properties = [])

theorem Regular.below {field f : Field} {name : String} (h : field.Regular)
    (hf : Keyed.find? name field.properties = some f) : f.Regular := by
  intro names g hg
  apply h (name :: names) g
  rw [below?, hf]
  exact hg

end Field

namespace Node

def kind? (node : Node) : Option Kind := (node.type "").toOption.map (·.kind)

/-- The field that a structure has under a name, on itself or on its elements. -/
def property? (node : Node) (name : String) : Option Node :=
  (Keyed.find? name node.children).or (node.element.bind fun e => Keyed.find? name e.children)

def fieldBelow? (node : Node) : List String → Option Node
  | [] => some node
  | name :: rest => if node.kind? = some .record then (node.property? name).bind (fieldBelow? · rest) else none

def fieldAt? (tree : Node) : List String → Option Node
  | [] => none
  | name :: rest => (Keyed.find? name tree.children).bind (fieldBelow? · rest)

variable {node n tree : Node} {children : Keyed Node} {path name root : String} {type : TypeCode}
  {found result : Keyed Field} {typed : Field}

theorem declared_ok {metadata : Keyed Json} {code : Option TypeCode} (h : declared metadata path = .ok code)
    (path' : String) : declared metadata path' = .ok code := by
  unfold declared at *
  split at h
  · exact h
  · split at h
    · exact h
    · cases h

def itemDeclared (node : Node) (path : String) : Except Fault (Option TypeCode) :=
  match node.element with
  | some element => declared element.metadata (path ++ "[:]")
  | none => .ok none

def resolved (node : Node) (path : String) : Option TypeCode → Option TypeCode → Except Fault TypeCode
  | some own, some item =>
    if own.kind = item.kind then .ok own
    else .error (.inconsistent (path ++ "[:]") (.elementKind item.kind own.kind))
  | some own, none => .ok own
  | none, some item => .ok ⟨item.kind, true⟩
  | none, none =>
    if node.children.isEmpty && node.element.isNone then .error (.unknownType "<missing>" path)
    else .ok ⟨.record, node.element.isSome⟩

theorem type_eq (node : Node) (path : String) :
    node.type path = declared node.metadata path >>= fun own =>
    node.itemDeclared path >>= fun item => node.resolved path own item := by
  unfold Node.type itemDeclared resolved
  cases node.element <;> cases declared node.metadata path <;> rfl

theorem itemDeclared_ok {code : Option TypeCode} (h : node.itemDeclared path = .ok code) (path' : String) :
    node.itemDeclared path' = .ok code := by
  unfold itemDeclared at *
  cases he : node.element with
  | none => rwa [he] at h
  | some element =>
    rw [he] at h
    exact declared_ok h _

theorem resolved_ok {own item : Option TypeCode} (h : node.resolved path own item = .ok type) (path' : String) :
    node.resolved path' own item = .ok type := by
  unfold resolved at *
  split at h
  · split at h
    · rename_i hk
      rw [if_pos hk]
      exact h
    · cases h
  · exact h
  · exact h
  · split at h
    · cases h
    · rename_i hbare
      rw [if_neg hbare]
      exact h

/-- A path only names the place in faults. -/
theorem type_ok (h : node.type path = .ok type) (path' : String) : node.type path' = .ok type := by
  rw [type_eq] at *
  obtain ⟨own, hown, h⟩ := bind_eq_ok h
  obtain ⟨item, hitem, h⟩ := bind_eq_ok h
  rw [declared_ok hown path']
  change node.itemDeclared path' >>= _ = _
  rw [itemDeclared_ok hitem path']
  exact resolved_ok h path'

theorem kind?_of_type (h : node.type path = .ok type) : node.kind? = some type.kind := by
  unfold kind?
  rw [type_ok h ""]
  rfl

theorem checkedType_eq (node : Node) (path : String) : node.checkedType path =
    declared node.metadata path >>= fun own => node.itemDeclared path >>= fun item =>
      node.resolved path own item >>= fun type =>
        if node.element.isSome && !type.isArray then
          .error (.malformedPath (path ++ "[:]") .elementOfNonArray)
        else .ok type := by
  unfold checkedType
  rw [type_eq]
  cases declared node.metadata path with
  | error _ => rfl
  | ok own =>
    change (node.itemDeclared path >>= _) >>= _ = node.itemDeclared path >>= _
    cases node.itemDeclared path <;> rfl

theorem type_of_checkedType (h : node.checkedType path = .ok type) : node.type path = .ok type := by
  obtain ⟨t, ht, hcheck⟩ := bind_eq_ok h
  split at hcheck
  · cases hcheck
  · cases hcheck
    exact ht

def properties (node : Node) (path : String) : Except Fault (Keyed Field) :=
  fields node.children path [] >>= fun own =>
    match node.element with
    | some element => fields element.children (path ++ "[:]") own
    | none => .ok own

theorem field_eq (node : Node) (path : String) : node.field path = node.checkedType path >>= fun type =>
    (if type.kind = .record then node.properties path else .ok []) >>= fun properties =>
      .ok ⟨type.kind, type.isArray, node.descriptions.1, node.descriptions.2, properties⟩ := by
  obtain ⟨metadata, children, element⟩ := node
  rw [Node.field]
  cases checkedType ⟨metadata, children, element⟩ path with
  | error _ => rfl
  | ok type =>
    change (if _ then _ else _) = (if _ then _ else _) >>= _
    unfold properties
    by_cases hk : type.kind = .record
    · rw [if_pos hk, if_pos hk]
      cases fields children path [] with
      | error _ => rfl
      | ok own => obtain _ | ⟨_, _, _⟩ := element <;> rfl
    · rw [if_neg hk, if_neg hk]
      rfl

theorem field_ok (h : node.field path = .ok typed) : node.kind? = some typed.kind ∧
    if typed.kind = .record then node.properties path = .ok typed.properties else typed.properties = [] := by
  rw [field_eq] at h
  obtain ⟨type, htype, h⟩ := bind_eq_ok h
  obtain ⟨properties, hproperties, h⟩ := bind_eq_ok h
  cases h
  refine ⟨kind?_of_type (type_of_checkedType htype), ?_⟩
  dsimp only
  split at hproperties
  · rename_i hk
    rw [if_pos hk]
    exact hproperties
  · rename_i hk
    rw [if_neg hk]
    cases hproperties
    rfl

/-- Fields are typed from the children of a node and from those of its element, which is no field itself. -/
theorem field_induction {P : Node → Prop}
    (field : ∀ node : Node, (∀ c ∈ node.children, P c.2) →
      (∀ element, node.element = some element → ∀ c ∈ element.children, P c.2) → P node) (node : Node) : P node := by
  suffices h : P node ∧ ∀ c ∈ node.children, P c.2 from h.1
  induction node using Node.induction with
  | node metadata children element ihc ihe =>
    have hown : ∀ c ∈ children, P c.2 := fun c hc => (ihc c hc).1
    exact ⟨field _ hown fun e he => (ihe e he).2, hown⟩

def Types (node : Node) (typed : Field) : Prop := ∃ path, node.field path = .ok typed

theorem Types.parts (h : node.Types typed) : ∃ path type properties, node.checkedType path = .ok type ∧
    typed = ⟨type.kind, type.isArray, node.descriptions.1, node.descriptions.2, properties⟩ := by
  obtain ⟨path, h⟩ := h
  rw [field_eq] at h
  obtain ⟨type, htype, h⟩ := bind_eq_ok h
  obtain ⟨properties, -, h⟩ := bind_eq_ok h
  cases h
  exact ⟨path, type, properties, htype, rfl⟩

theorem fields_cons_eq (name : String) (n : Node) (rest : Keyed Node) (path : String) (found : Keyed Field) :
    fields ((name, n) :: rest) path found =
      if Keyed.has name found then .error (.inconsistent (path ++ "." ++ name) .declaredTwice)
      else n.field (path ++ "." ++ name) >>= fun typed => fields rest path (Keyed.insert name typed found) := by
  rw [fields]
  split <;> rfl

theorem fields_cons {rest : Keyed Node} (h : fields ((name, n) :: rest) path found = .ok result) :
    Keyed.find? name found = none ∧ ∃ typed, n.field (path ++ "." ++ name) = .ok typed ∧
      fields rest path (Keyed.insert name typed found) = .ok result := by
  rw [fields_cons_eq] at h
  split at h
  · cases h
  · rename_i hf
    obtain ⟨typed, ht, hrest⟩ := bind_eq_ok h
    exact ⟨by simpa [Keyed.has] using hf, typed, ht, hrest⟩

theorem fields_ordered (ho : Keyed.Ordered found) (h : fields children path found = .ok result) :
    Keyed.Ordered result := by
  induction children generalizing found with
  | nil =>
    rw [fields] at h
    cases h
    exact ho
  | cons c rest ih =>
    obtain ⟨-, typed, -, hrest⟩ := fields_cons h
    exact ih (ho.insert c.1 typed) hrest

/-- Each name is found among the children, and typed at its own path, or was found before, never both. -/
theorem fields_typed (h : fields children path found = .ok result) (name : String) :
    Option.Rel (fun n typed => Node.field n (path ++ "." ++ name) = .ok typed) (Keyed.find? name children)
      (Keyed.find? name result) ∧ Keyed.find? name found = none ∨
      Keyed.find? name children = none ∧ Keyed.find? name result = Keyed.find? name found := by
  induction children generalizing found with
  | nil =>
    rw [fields] at h
    cases h
    exact .inr ⟨rfl, rfl⟩
  | cons c rest ih =>
    obtain ⟨first, n⟩ := c
    obtain ⟨hnone, typed, ht, hrest⟩ := fields_cons h
    have hlookup := ih hrest
    rw [Keyed.find?_insert] at hlookup
    rw [Keyed.find?_cons]
    by_cases hname : first = name
    · subst hname
      rw [if_pos rfl] at hlookup ⊢
      rcases hlookup with ⟨-, hfresh⟩ | ⟨-, hresult⟩
      · cases hfresh
      · rw [hresult]
        exact .inl ⟨.some ht, hnone⟩
    · rw [if_neg (fun he => hname he.symm)] at hlookup
      rw [if_neg hname]
      exact hlookup

theorem fields_ok (h : fields children path found = .ok result) (name : String) :
    Option.Rel Types (Keyed.find? name children) (Keyed.find? name result) ∧ Keyed.find? name found = none ∨
      Keyed.find? name children = none ∧ Keyed.find? name result = Keyed.find? name found :=
  (fields_typed h name).imp_left fun hrel => hrel.imp_left fun ht => Keyed.rel_imp ht fun _ _ _ ht => ⟨_, ht⟩

theorem fields_rel (h : fields children path [] = .ok result) (name : String) :
    Option.Rel Types (Keyed.find? name children) (Keyed.find? name result) := by
  rcases fields_ok h name with ⟨hrel, -⟩ | ⟨hchild, hfound⟩
  · exact hrel
  · rw [hchild, hfound]
    exact .none

theorem fields_find? (h : fields children path [] = .ok result) (name : String) : Keyed.find? name result =
    (Keyed.find? name children).bind fun n => (Node.field n (path ++ "." ++ name)).toOption := by
  rcases fields_typed h name with ⟨hrel, -⟩ | ⟨hchild, hfound⟩
  · generalize Keyed.find? name children = c at hrel
    generalize Keyed.find? name result = f at hrel
    cases hrel with
    | none => rfl
    | some ht =>
      rw [Option.bind_some, ht]
      rfl
  · rw [hchild, hfound]
    rfl

theorem fields_of_typed (ho : Keyed.Ordered children) (hfresh : ∀ c ∈ children, Keyed.find? c.1 found = none)
    (htyped : ∀ c ∈ children, ∃ typed, Node.field c.2 (path ++ "." ++ c.1) = .ok typed) :
    ∃ result, fields children path found = .ok result := by
  induction children generalizing found with
  | nil => exact ⟨found, rfl⟩
  | cons c rest ih =>
    obtain ⟨name, n⟩ := c
    obtain ⟨hfirst, hrest⟩ := List.forall_mem_cons.1 hfresh
    obtain ⟨⟨typed, ht⟩, htyped⟩ := List.forall_mem_cons.1 htyped
    have hhas : Keyed.has name found = false := by rw [Keyed.has, hfirst]; rfl
    rw [fields_cons_eq, hhas, if_neg Bool.false_ne_true, ht, ok_bind]
    refine ih (List.pairwise_cons.1 ho).2 (fun d hd => ?_) htyped
    have hne : d.1 ≠ name := fun he => String.lt_irrefl _ (he ▸ (List.pairwise_cons.1 ho).1 d hd)
    rw [Keyed.find?_insert, if_neg hne]
    exact hrest d hd

theorem fields_isOk_iff (ho : Keyed.Ordered children) : (∃ result, fields children path [] = .ok result) ↔
    ∀ c ∈ children, ∃ typed, Node.field c.2 (path ++ "." ++ c.1) = .ok typed := by
  refine ⟨fun ⟨result, h⟩ c hc => ?_, fields_of_typed ho fun _ _ => rfl⟩
  rcases fields_typed h c.1 with ⟨hrel, -⟩ | ⟨hnone, -⟩
  · rw [Keyed.find?_of_mem ho hc] at hrel
    obtain ⟨typed, -, ht⟩ := Keyed.rel_some_left hrel
    exact ⟨typed, ht⟩
  · rw [Keyed.find?_of_mem ho hc] at hnone
    cases hnone

theorem properties_ordered (h : node.properties path = .ok result) : Keyed.Ordered result := by
  obtain ⟨own, hown, h⟩ := bind_eq_ok h
  have ho : Keyed.Ordered own := fields_ordered List.Pairwise.nil hown
  cases he : node.element with
  | none =>
    rw [he] at h
    cases h
    exact ho
  | some element =>
    rw [he] at h
    exact fields_ordered ho h

theorem properties_ok (h : node.properties path = .ok result) (name : String) :
    Option.Rel Types (node.property? name) (Keyed.find? name result) ∧
      (Keyed.find? name node.children = none ∨ node.element.bind (Keyed.find? name ·.children) = none) := by
  obtain ⟨own, hown, h⟩ := bind_eq_ok h
  have hown' := fields_rel hown name
  unfold property?
  cases he : node.element with
  | none =>
    rw [he] at h
    cases h
    rw [Option.bind_none, Option.or_none]
    exact ⟨hown', .inr rfl⟩
  | some element =>
    rw [he] at h
    rw [Option.bind_some]
    rcases fields_ok h name with ⟨hrel, hnone⟩ | ⟨hnone, hresult⟩
    · have hchild : Keyed.find? name node.children = none := by
        rw [hnone] at hown'
        generalize Keyed.find? name node.children = c at hown' ⊢
        cases hown'
        rfl
      rw [hchild, Option.none_or]
      exact ⟨hrel, .inl rfl⟩
    · rw [hnone, hresult, Option.or_none]
      exact ⟨hown', .inr rfl⟩

theorem kind?_of_types (h : node.Types typed) : node.kind? = some typed.kind := by
  obtain ⟨path, h⟩ := h
  exact (field_ok h).1

theorem Types.property (h : node.Types typed) (hk : node.kind? = some .record) (name : String) :
    Option.Rel Types (node.property? name) (Keyed.find? name typed.properties) ∧
      (Keyed.find? name node.children = none ∨ node.element.bind (Keyed.find? name ·.children) = none) := by
  obtain ⟨path, hfield⟩ := h
  obtain ⟨hkind, hproperties⟩ := field_ok hfield
  rw [if_pos (Option.some.inj (hkind.symm.trans hk))] at hproperties
  exact properties_ok hproperties name

theorem Types.properties_eq_nil (h : node.Types typed) (hk : node.kind? ≠ some .record) : typed.properties = [] := by
  obtain ⟨path, hfield⟩ := h
  obtain ⟨hkind, hproperties⟩ := field_ok hfield
  rwa [if_neg (fun he => hk (hkind.trans (congrArg some he)))] at hproperties

theorem fieldBelow?_rel (names : List String) (h : node.Types typed) :
    Option.Rel Types (node.fieldBelow? names) (typed.below? names) := by
  induction names generalizing node typed with
  | nil => exact .some h
  | cons name rest ih =>
    rw [fieldBelow?, Field.below?]
    by_cases hk : node.kind? = some .record
    · rw [if_pos hk]
      have hname := (h.property hk name).1
      generalize node.property? name = c at hname
      generalize Keyed.find? name typed.properties = f at hname
      cases hname with
      | none => exact .none
      | some hf => exact ih hf
    · rw [if_neg hk, h.properties_eq_nil hk]
      exact .none

theorem regular_of_types (h : node.Types typed) : typed.Regular := by
  intro names f hf
  obtain ⟨n, -, path, hn⟩ := Keyed.rel_some_right (hf ▸ fieldBelow?_rel names h)
  have hproperties := (field_ok hn).2
  split at hproperties
  · rename_i hk
    exact ⟨properties_ordered hproperties, fun hne => absurd hk hne⟩
  · rw [hproperties]
    exact ⟨List.Pairwise.nil, fun _ => rfl⟩

theorem topFields_rel (h : tree.topFields root = .ok result) (name : String) :
    Option.Rel Types (Keyed.find? name tree.children) (Keyed.find? name result) := fields_rel h name

theorem fieldAt?_rel (h : tree.topFields root = .ok result) (names : List String) :
    Option.Rel Types (tree.fieldAt? names) (Field.at? result names) := by
  cases names with
  | nil => exact .none
  | cons name rest =>
    have hname := topFields_rel h name
    rw [fieldAt?, Field.at?]
    generalize Keyed.find? name tree.children = c at hname
    generalize Keyed.find? name result = f at hname
    cases hname with
    | none => exact .none
    | some hf => exact fieldBelow?_rel rest hf

end Node

end DottedSchema
