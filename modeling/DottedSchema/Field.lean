import DottedSchema.Json.Writer
import DottedSchema.Node

/-!
# Typed fields

`Node.field` gives each field its kind from the type codes declared on it and on its element, or from its shape
where none is declared, and refuses trees whose declarations contradict each other. What a field is written as
is decided later: every artifact starts from the same typed fields.
-/
set_option autoImplicit false

namespace DottedSchema

structure Field where
  kind : Kind
  isArray : Bool
  description : Option String
  /-- What is said of each element of an array besides the description of the whole. -/
  itemDescription : Option String
  properties : List (String × Field)

theorem Field.induction {P : Field → Prop}
    (field : ∀ (kind : Kind) (isArray : Bool) (description itemDescription : Option String)
      (properties : List (String × Field)), (∀ p ∈ properties, P p.2) →
        P ⟨kind, isArray, description, itemDescription, properties⟩)
    (f : Field) : P f :=
  Field.rec (motive_1 := P) (motive_2 := fun properties => ∀ p ∈ properties, P p.2) (motive_3 := fun p => P p.2)
    (fun kind isArray description itemDescription properties ih =>
      field kind isArray description itemDescription properties ih)
    (fun _ hp => absurd hp List.not_mem_nil)
    (fun _ _ hp hps _ hm => (List.mem_cons.1 hm).elim (fun e => e ▸ hp) (hps _))
    (fun _ _ hp => hp) f

namespace Node

def declared (metadata : Keyed Json) (path : String) : Except Fault (Option TypeCode) :=
  match Keyed.find? "data_type" metadata with
  | none => .ok none
  | some value =>
    match value.text?.bind TypeCode.parse? with
    | some code => .ok (some code)
    | none => .error (.unknownType (value.text?.getD value.compact) path)

/-- The type of a field: declared on it, or on its element, or else a structure where anything is below it. -/
def type (node : Node) (path : String) : Except Fault TypeCode := do
  let own ← declared node.metadata path
  let item ← match node.element with
    | some element => declared element.metadata (path ++ "[:]")
    | none => pure none
  match own, item with
  | some own, some item =>
    if own.kind = item.kind then return own
    else throw (.inconsistent (path ++ "[:]") (.elementKind item.kind own.kind))
  | some own, none => return own
  | none, some item => return ⟨item.kind, true⟩
  | none, none =>
    if node.children.isEmpty && node.element.isNone then throw (.unknownType "<missing>" path)
    else return ⟨.record, node.element.isSome⟩

/-- A field whose documentation is on its element alone is described by that; else the element's describes the
items. -/
def descriptions (node : Node) : Option String × Option String :=
  let item := node.element.bind documentation?
  match node.documentation? with
  | some own => (some own, item)
  | none => (item, none)

def checkedType (node : Node) (path : String) : Except Fault TypeCode := do
  let type ← node.type path
  if node.element.isSome && !type.isArray then throw (.malformedPath (path ++ "[:]") .elementOfNonArray)
  else return type

mutual

/-- The typed field of a node. The fields of a structure are its children and the children of its element. -/
def field : Node → String → Except Fault Field
  | ⟨metadata, children, element⟩, path => do
    let node : Node := ⟨metadata, children, element⟩
    let type ← node.checkedType path
    let properties ← if type.kind = .record then do
        let own ← fields children path []
        match element with
        | some ⟨_, below, _⟩ => fields below (path ++ "[:]") own
        | none => pure own
      else pure []
    return ⟨type.kind, type.isArray, node.descriptions.1, node.descriptions.2, properties⟩

def fields : List (String × Node) → String → Keyed Field → Except Fault (Keyed Field)
  | [], _, found => .ok found
  | (name, node) :: rest, path, found => do
    let place := path ++ "." ++ name
    if Keyed.has name found then throw (.inconsistent place .declaredTwice)
    let typed ← field node place
    fields rest path (Keyed.insert name typed found)

end

def topFields (tree : Node) (root : String) : Except Fault (Keyed Field) := fields tree.children root []

end Node

end DottedSchema
