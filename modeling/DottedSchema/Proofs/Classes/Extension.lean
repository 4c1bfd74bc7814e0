import DottedSchema.Proofs.Classes.Collection

set_option autoImplicit false

namespace DottedSchema

theorem Keyed.insert_of_lt {α : Type} {entries : Keyed α} {key : String} (h : ∀ e ∈ entries, e.1 < key) (value : α) :
    Keyed.insert key value entries = entries ++ [(key, value)] := by
  induction entries with
  | nil => rfl
  | cons e rest ih =>
    have hlt : e.1 < key := h e List.mem_cons_self
    have hne : key ≠ e.1 := fun he => String.lt_irrefl _ (he ▸ hlt)
    rw [Keyed.insert, if_neg (String.lt_asymm hlt), if_neg hne, List.cons_append,
      ih fun e he => h e (List.mem_cons_of_mem _ he)]

theorem Shape.ofMembers_append_ok {leaf : String → Option String} {members others : List (String × Json)}
    {path : String} {fields : List (String × Shape)} (h : ofMembers leaf (members ++ others) path = .ok fields) :
    ∃ first second, ofMembers leaf members path = .ok first ∧ ofMembers leaf others path = .ok second ∧
      fields = first ++ second := by
  induction members generalizing fields with
  | nil => exact ⟨[], fields, rfl, h, rfl⟩
  | cons member rest ih =>
    obtain ⟨name, node⟩ := member
    rw [List.cons_append, ofMembers] at h
    obtain ⟨shape, hshape, h⟩ := Node.bind_eq_ok h
    obtain ⟨_, hrest, h⟩ := Node.bind_eq_ok h
    cases h
    obtain ⟨first, second, hfirst, hsecond, rfl⟩ := ih hrest
    refine ⟨(name, shape) :: first, second, ?_, hsecond, rfl⟩
    rw [ofMembers, hshape, Node.ok_bind, hfirst]
    rfl

namespace ClassStyle

variable {style : ClassStyle} {root : String} {description : Option String} {fields : List (String × Shape)}
  {top : ClassDef} {rest : List ClassDef}

/-- Appended fields are expressed with the classes of those before them in use. -/
theorem expressFields_append (used : List ClassEntry) (parent : String) (fields others : List (String × Shape)) :
    let first := style.expressFields used parent fields
    let second := style.expressFields (used ++ first.2.map ClassDef.entry) parent others
    style.expressFields used parent (fields ++ others) = (first.1 ++ second.1, first.2 ++ second.2) := by
  induction fields generalizing used with
  | nil =>
    dsimp only
    rw [List.nil_append, expressFields, List.map_nil, List.append_nil, List.nil_append, List.nil_append]
  | cons field rest ih =>
    obtain ⟨name, shape⟩ := field
    dsimp only at ih ⊢
    rw [List.cons_append, expressFields, expressFields, ih]
    simp only [List.map_append, List.append_assoc, List.cons_append]

theorem topClasses_append (h : style.topClasses root (.record description fields) = top :: rest)
    (others : List (String × Shape)) :
    let added := style.expressFields ((top :: rest).map ClassDef.entry) top.key others
    style.topClasses root (.record description (fields ++ others)) =
      { top with attributes := top.attributes ++ added.1 } :: (rest ++ added.2) := by
  rw [topClasses] at h
  cases h
  dsimp only
  rw [topClasses, expressFields_append]
  rfl

end ClassStyle

namespace ClassFormat

variable {format : ClassFormat} {root name : String} {members : List (String × Json)} {node : Json}
  {classes extended : List ClassDef}

/-- A property after all others renames nothing: the classes stay in their places as they are, but for one attribute
more at the end of the first, that of the top. The classes of the new property's object nodes follow. -/
theorem classes_appended (hlast : ∀ m ∈ members, m.1 < name)
    (h : format.style.classes root (.object members) = .ok classes)
    (hextended : format.style.classes root (.object (Keyed.insert name node members)) = .ok extended) :
    ∃ top rest expression added s, classes = top :: rest ∧
      extended = { top with attributes := top.attributes ++ [⟨name, expression⟩] } :: (rest ++ added) ∧
      node.HasSkeleton s ∧ format.style.Collects s expression added := by
  obtain ⟨top, rest, -, rfl, -, -⟩ := ClassStyle.classes_ok h
  obtain ⟨fields, hfields, htop⟩ := ClassStyle.classes_object_ok h
  obtain ⟨all, hall, rfl⟩ := ClassStyle.classes_object_ok hextended
  rw [Keyed.insert_of_lt hlast] at hall
  obtain ⟨first, new, hfirst, hnew, rfl⟩ := Shape.ofMembers_append_ok hall
  cases hfields.symm.trans hfirst
  -- the shape of the new property
  obtain ⟨shape, hshape, hnew⟩ := Node.bind_eq_ok hnew
  cases hnew
  obtain ⟨s, hskeleton, hmatches⟩ := Shape.ofNode_ok hshape
  refine ⟨top, rest, _, _, s, rfl, ?_, hskeleton, ClassStyle.express_collects ((top :: rest).map ClassDef.entry)
    name top.key hmatches⟩
  rw [ClassStyle.topClasses_append htop.symm, ClassStyle.expressFields, ClassStyle.expressFields, List.append_nil]

theorem classes_appended_qualified :
    let record (properties : List (String × Json)) : Json :=
      .object [("properties", .object properties), ("type", .text "object")]
    let node : Json := .object [("items", record [("a", record [])]), ("type", .text "array")]
    let members : List (String × Json) := [("a", record [("b", record [])])]
    let rest : List ClassDef := [⟨"a", "A", none, [⟨"b", "B"⟩]⟩, ⟨"b", "B", none, []⟩]
    let classes : List ClassDef := ⟨"g", "G", none, [⟨"a", "A"⟩]⟩ :: rest
    let extended : List ClassDef := ⟨"g", "G", none, [⟨"a", "A"⟩, ⟨"b", "List[GB]"⟩]⟩ ::
      (rest ++ [⟨"g_b", "GB", none, [⟨"a", "GBA"⟩]⟩, ⟨"g_b_a", "GBA", none, []⟩])
    (∀ m ∈ members, m.1 < "b") ∧ dataclasses.style.classes "g" (.object members) = .ok classes ∧
      dataclasses.style.classes "g" (.object (Keyed.insert "b" node members)) = .ok extended ∧
      ∃ top rest expression added s, classes = top :: rest ∧
        extended = { top with attributes := top.attributes ++ [⟨"b", expression⟩] } :: (rest ++ added) ∧
        node.HasSkeleton s ∧ dataclasses.style.Collects s expression added := by
  intro record node members rest classes extended
  have hlast : ∀ m ∈ members, m.1 < "b" := by decide
  have hclasses : dataclasses.style.classes "g" (.object members) = .ok classes := by
    dsimp only [members, record, classes, rest]
    rfl
  have hextended : dataclasses.style.classes "g" (.object (Keyed.insert "b" node members)) = .ok extended := by
    dsimp only [node, members, record, extended, rest]
    rfl
  exact ⟨hlast, hclasses, hextended, classes_appended hlast hclasses hextended⟩

end ClassFormat

end DottedSchema
