import DottedSchema.Proofs.Field.Reached

set_option autoImplicit false

namespace DottedSchema

/-- The value is a text that begins with the tag of the type's kind. -/
def Json.Codes (value : Json) (type : TypeCode) : Prop :=
  ∃ text, value = .text text ∧ type.kind.tag.toList <+: text.toList ∧
    type.isArray = TypeCode.isArrayCode text.toList

namespace TypeCode

theorem ofTag?_take_iff {text : String} {kind : Kind} :
    Kind.ofTag? (String.ofList (text.toList.take 4)) = some kind ↔ kind.tag.toList <+: text.toList := by
  have hlength : kind.tag.toList.length = 4 := by cases kind <;> rfl
  rw [Kind.ofTag?_eq_some_iff, List.prefix_iff_eq_take, hlength]
  constructor
  · intro h
    rw [← h, String.toList_ofList]
  · intro h
    rw [← h, String.ofList_toList]

theorem parse?_eq_some_iff {text : String} {type : TypeCode} : parse? text = some type ↔
    type.kind.tag.toList <+: text.toList ∧ type.isArray = isArrayCode text.toList := by
  obtain ⟨kind, isArray⟩ := type
  unfold parse?
  rw [Option.map_eq_some_iff, ← ofTag?_take_iff]
  constructor
  · rintro ⟨k, hk, htype⟩
    cases htype
    exact ⟨hk, rfl⟩
  · rintro ⟨hk, harray⟩
    exact ⟨kind, hk, harray ▸ rfl⟩

end TypeCode

theorem Json.codes_iff {value : Json} {type : TypeCode} :
    value.Codes type ↔ value.text?.bind TypeCode.parse? = some type := by
  rw [Option.bind_eq_some_iff]
  constructor
  · rintro ⟨text, rfl, htag, harray⟩
    exact ⟨text, rfl, TypeCode.parse?_eq_some_iff.2 ⟨htag, harray⟩⟩
  · rintro ⟨text, htext, hparse⟩
    refine ⟨text, ?_, TypeCode.parse?_eq_some_iff.1 hparse⟩
    cases value with
    | text _ => cases htext; rfl
    | null | bool _ | number _ | array _ | object _ => cases htext

theorem Json.Codes.unique {value : Json} {type type' : TypeCode} (h : value.Codes type) (h' : value.Codes type') :
    type = type' :=
  Option.some.inj ((Json.codes_iff.1 h).symm.trans (Json.codes_iff.1 h'))

namespace Node

inductive Defect where
  | unknownCode
  | unknownElementCode
  | elementKind
  | untyped
  | elementOfNonArray
  | declaredTwice (name : String)

namespace Defect

/-- Where a defect shows, as seen from its field. -/
def site : Defect → Path
  | unknownCode | untyped => []
  | unknownElementCode | elementKind | elementOfNonArray => [.items]
  | declaredTwice name => [.items, .field name]

def code : Defect → String
  | unknownCode | unknownElementCode | untyped => "unknown_type"
  | elementOfNonArray => "malformed_path"
  | elementKind | declaredTwice _ => "consistency_error"

end Defect

def elementTypeCode? (node : Node) : Option Json := node.element.bind typeCode?

variable {node n tree : Node} {path root root' : String} {place : Path} {defect : Defect} {typed : Field}
  {own item : Option TypeCode} {type : TypeCode} {fault : Fault} {children : Keyed Node}
  {found result : Keyed Field}

/-- The node itself, its element or their children show what is wrong with the field. -/
inductive HasDefect (node : Node) : Defect → Prop
  | unknownCode {value : Json} (declared : node.typeCode? = some value) (unknown : ∀ type, ¬ value.Codes type) :
      HasDefect node .unknownCode
  | unknownElementCode {value : Json} (declared : node.elementTypeCode? = some value)
      (unknown : ∀ type, ¬ value.Codes type) : HasDefect node .unknownElementCode
  | elementKind {own item : Json} {type itemType : TypeCode} (declared : node.typeCode? = some own)
      (itemDeclared : node.elementTypeCode? = some item) (codes : own.Codes type) (itemCodes : item.Codes itemType)
      (differ : type.kind ≠ itemType.kind) : HasDefect node .elementKind
  | untyped (undeclared : node.typeCode? = none) (itemUndeclared : node.elementTypeCode? = none)
      (noChildren : node.children = []) (noElement : node.element = none) : HasDefect node .untyped
  | elementOfNonArray {value : Json} {type : TypeCode} (declared : node.typeCode? = some value)
      (codes : value.Codes type) (single : type.isArray = false) (hasElement : node.element.isSome) :
      HasDefect node .elementOfNonArray
  | declaredTwice {element own below : Node} {name : String} (record : node.kind? = some .record)
      (hasElement : node.element = some element) (ownChild : Keyed.find? name node.children = some own)
      (itemChild : Keyed.find? name element.children = some below) : HasDefect node (.declaredTwice name)

/-- What a place declares: nothing, or a code that the value under `data_type` stands for. -/
def Declares (value : Option Json) (code : Option TypeCode) : Prop := Option.Rel Json.Codes value code

theorem declared_cases (metadata : Keyed Json) (path : String) :
    (∃ code, declared metadata path = .ok code ∧ Declares (Keyed.find? "data_type" metadata) code) ∨
      ∃ value text, Keyed.find? "data_type" metadata = some value ∧ (∀ type, ¬ value.Codes type) ∧
        declared metadata path = .error (.unknownType text path) := by
  unfold declared
  cases Keyed.find? "data_type" metadata with
  | none => exact .inl ⟨none, rfl, .none⟩
  | some value =>
    cases hcode : value.text?.bind TypeCode.parse? with
    | some code => exact .inl ⟨some code, by dsimp only; rw [hcode], .some (Json.codes_iff.2 hcode)⟩
    | none =>
      refine .inr ⟨value, _, rfl, fun type hcodes => ?_, by dsimp only; rw [hcode]⟩
      rw [Json.codes_iff, hcode] at hcodes
      cases hcodes

theorem itemDeclared_cases (node : Node) (path : String) :
    (∃ code, node.itemDeclared path = .ok code ∧ Declares node.elementTypeCode? code) ∨
      ∃ value text, node.elementTypeCode? = some value ∧ (∀ type, ¬ value.Codes type) ∧
        node.itemDeclared path = .error (.unknownType text (path ++ "[:]")) := by
  unfold itemDeclared elementTypeCode?
  cases node.element with
  | none => exact .inl ⟨none, rfl, .none⟩
  | some element => exact declared_cases element.metadata (path ++ "[:]")

def Reports (path : String) (defect : Defect) (fault : Fault) : Prop :=
  fault.path = defect.site.foldl Path.append path ∧ fault.code = defect.code

theorem resolved_cases (path : String) (hown : Declares node.typeCode? own)
    (hitem : Declares node.elementTypeCode? item) :
    (∃ type, node.resolved path own item = .ok type) ∨
      ∃ defect fault, node.HasDefect defect ∧ node.resolved path own item = .error fault ∧
        Reports path defect fault := by
  unfold Declares at hown hitem
  unfold resolved
  generalize hv : node.typeCode? = v at hown
  generalize hw : node.elementTypeCode? = w at hitem
  cases hown with
  | some codes =>
    cases hitem with
    | none => exact .inl ⟨_, rfl⟩
    | some itemCodes =>
      dsimp only
      split
      · exact .inl ⟨_, rfl⟩
      · rename_i hkind
        exact .inr ⟨_, _, .elementKind hv hw codes itemCodes hkind, rfl, rfl, rfl⟩
  | none =>
    cases hitem with
    | some _ => exact .inl ⟨_, rfl⟩
    | none =>
      dsimp only
      split
      · rename_i hbare
        obtain ⟨hchildren, helement⟩ := Bool.and_eq_true_iff.1 hbare
        rw [List.isEmpty_iff] at hchildren
        rw [Option.isNone_iff_eq_none] at helement
        exact .inr ⟨_, _, .untyped hv hw hchildren helement, rfl, rfl, rfl⟩
      · exact .inl ⟨_, rfl⟩

/-- A field takes the type of its own code; without one it is an array where it has an element. -/
theorem resolved_own (h : node.resolved path own item = .ok type) :
    own = some type ∨ own = none ∧ (node.element.isSome → type.isArray = true) := by
  unfold resolved at h
  split at h
  · split at h
    · cases h
      exact .inl rfl
    · cases h
  · cases h
    exact .inl rfl
  · cases h
    exact .inr ⟨rfl, fun _ => rfl⟩
  · split at h
    · cases h
    · cases h
      exact .inr ⟨rfl, fun helement => helement⟩

theorem elementOfNonArray_of_resolved (hown : Declares node.typeCode? own)
    (h : node.resolved path own item = .ok type) (helement : node.element.isSome) (hsingle : type.isArray = false) :
    node.HasDefect .elementOfNonArray := by
  rcases resolved_own h with rfl | ⟨-, harray⟩
  · obtain ⟨value, hvalue, hcodes⟩ := Keyed.rel_some_right hown
    exact .elementOfNonArray hvalue hcodes hsingle helement
  · rw [harray helement] at hsingle
    cases hsingle

theorem checkedType_error (h : node.checkedType path = .error fault) :
    ∃ defect, node.HasDefect defect ∧ Reports path defect fault := by
  rw [checkedType_eq] at h
  rcases declared_cases node.metadata path with ⟨own, hown, hdeclares⟩ | ⟨value, text, hvalue, hunknown, hfault⟩
  · rcases itemDeclared_cases node path with ⟨item, hitem, hitemDeclares⟩ | ⟨value, text, hvalue, hunknown, hfault⟩
    · rcases resolved_cases path hdeclares hitemDeclares with
        ⟨type, htype⟩ | ⟨defect, fault', hdefect, hfault, hreports⟩
      · rw [hown, ok_bind, hitem, ok_bind, htype, ok_bind] at h
        split at h
        · rename_i hcheck
          obtain ⟨helement, hsingle⟩ := Bool.and_eq_true_iff.1 hcheck
          cases h
          exact ⟨_, elementOfNonArray_of_resolved hdeclares htype helement (by simpa using hsingle), rfl, rfl⟩
        · cases h
      · rw [hown, ok_bind, hitem, ok_bind, hfault] at h
        cases h
        exact ⟨defect, hdefect, hreports⟩
    · rw [hown, ok_bind, hfault] at h
      cases h
      exact ⟨_, .unknownElementCode hvalue hunknown, rfl, rfl⟩
  · rw [hfault] at h
    cases h
    exact ⟨_, .unknownCode hvalue hunknown, rfl, rfl⟩

theorem declares_of_declared {metadata : Keyed Json} (h : declared metadata path = .ok own) :
    Declares (Keyed.find? "data_type" metadata) own := by
  rcases declared_cases metadata path with ⟨code, hcode, hdeclares⟩ | ⟨_, _, _, _, hfault⟩
  · cases h.symm.trans hcode
    exact hdeclares
  · cases h.symm.trans hfault

theorem declares_of_itemDeclared (h : node.itemDeclared path = .ok item) :
    Declares node.elementTypeCode? item := by
  rcases itemDeclared_cases node path with ⟨code, hcode, hdeclares⟩ | ⟨_, _, _, _, hfault⟩
  · cases h.symm.trans hcode
    exact hdeclares
  · cases h.symm.trans hfault

theorem checkedType_ok (h : node.checkedType path = .ok type) :
    ∃ own item, Declares node.typeCode? own ∧ Declares node.elementTypeCode? item ∧
      node.resolved path own item = .ok type ∧ (node.element.isSome → type.isArray = true) := by
  rw [checkedType_eq] at h
  obtain ⟨own, hown, h⟩ := bind_eq_ok h
  obtain ⟨item, hitem, h⟩ := bind_eq_ok h
  obtain ⟨type', htype, hcheck⟩ := bind_eq_ok h
  refine ⟨own, item, declares_of_declared hown, declares_of_itemDeclared hitem, ?_⟩
  split at hcheck
  · cases hcheck
  · rename_i harray
    cases hcheck
    refine ⟨htype, fun helement => ?_⟩
    rw [helement, Bool.true_and, Bool.not_eq_true', Bool.not_eq_false] at harray
    exact harray

theorem HasDefect.of_checkedType (hd : node.HasDefect defect) (h : node.checkedType path = .ok type) :
    ∃ name, defect = .declaredTwice name := by
  obtain ⟨own, item, hown, hitem, htype, harray⟩ := checkedType_ok h
  cases hd with
  | unknownCode declared unknown =>
    obtain ⟨code, -, hcodes⟩ := Keyed.rel_some_left (declared ▸ hown)
    exact absurd hcodes (unknown code)
  | unknownElementCode declared unknown =>
    obtain ⟨code, -, hcodes⟩ := Keyed.rel_some_left (declared ▸ hitem)
    exact absurd hcodes (unknown code)
  | elementKind declared itemDeclared codes itemCodes differ =>
    obtain ⟨code, rfl, hcodes⟩ := Keyed.rel_some_left (declared ▸ hown)
    obtain ⟨itemCode, rfl, hitemCodes⟩ := Keyed.rel_some_left (itemDeclared ▸ hitem)
    rw [codes.unique hcodes, itemCodes.unique hitemCodes] at differ
    rw [resolved, if_neg differ] at htype
    cases htype
  | untyped undeclared itemUndeclared noChildren noElement =>
    rw [undeclared] at hown
    rw [itemUndeclared] at hitem
    cases hown
    cases hitem
    rw [resolved, noChildren, noElement] at htype
    cases htype
  | elementOfNonArray declared codes single hasElement =>
    obtain ⟨code, rfl, hcodes⟩ := Keyed.rel_some_left (declared ▸ hown)
    have hsame : code = type := by
      rcases resolved_own htype with he | ⟨he, -⟩
      · exact Option.some.inj he
      · cases he
    rw [codes.unique hcodes, hsame, harray hasElement] at single
    cases single
  | @declaredTwice _ _ _ name _ _ _ _ => exact ⟨name, rfl⟩

theorem Types.no_defect (h : node.Types typed) : ¬ node.HasDefect defect := by
  intro hd
  have htypes := h
  obtain ⟨path, hfield⟩ := h
  rw [field_eq] at hfield
  obtain ⟨type, htype, -⟩ := bind_eq_ok hfield
  obtain ⟨name, rfl⟩ := hd.of_checkedType htype
  cases hd with
  | declaredTwice record hasElement ownChild itemChild =>
    rcases (htypes.property record name).2 with hone | hone
    · rw [ownChild] at hone
      cases hone
    · rw [hasElement, Option.bind_some, itemChild] at hone
      cases hone

def Blames (node : Node) (path : String) (fault : Fault) : Prop :=
  ∃ place n defect, Descends node place n ∧ n.HasDefect defect ∧
    fault.path = (place ++ defect.site).foldl Path.append path ∧ fault.code = defect.code

theorem Blames.through {name : String} {steps : Path} (hrecord : node.kind? = some .record)
    (leads : Leads node name n steps) (h : n.Blames (steps.foldl Path.append path) fault) :
    node.Blames path fault := by
  obtain ⟨place, m, defect, hdown, hdefect, hpath, hcode⟩ := h
  refine ⟨steps ++ place, m, defect, .step hrecord leads hdown, hdefect, ?_, hcode⟩
  rw [hpath, ← List.foldl_append, List.append_assoc]

/-- The first child that cannot be typed is one whose name is found already, or it has a fault of its own. -/
theorem fields_error (ho : Keyed.Ordered children) (h : fields children path found = .error fault) :
    ∃ name n, Keyed.find? name children = some n ∧
      (Keyed.has name found = true ∧ fault = .inconsistent (path ++ "." ++ name) .declaredTwice ∨
        n.field (path ++ "." ++ name) = .error fault) := by
  induction children generalizing found with
  | nil =>
    rw [fields] at h
    cases h
  | cons c rest ih =>
    obtain ⟨first, n⟩ := c
    rw [fields_cons_eq] at h
    by_cases hf : Keyed.has first found
    · rw [if_pos hf] at h
      cases h
      exact ⟨first, n, if_pos rfl, .inl ⟨hf, rfl⟩⟩
    · rw [if_neg hf] at h
      cases htyped : n.field (path ++ "." ++ first) with
      | error fault' =>
        rw [htyped] at h
        cases h
        exact ⟨first, n, if_pos rfl, .inr htyped⟩
      | ok typed =>
        rw [htyped, ok_bind] at h
        obtain ⟨name, m, hm, hcause⟩ := ih (List.pairwise_cons.1 ho).2 h
        -- the fault is about a later child, so it does not matter to it that the first one is found by now
        have hne : first ≠ name := by
          rintro rfl
          rw [Keyed.find?_tail_eq_none ho] at hm
          cases hm
        refine ⟨name, m, (if_neg hne).trans hm, ?_⟩
        rwa [Keyed.has, Keyed.find?_insert, if_neg (Ne.symm hne)] at hcause

def FieldBlames (node : Node) : Prop :=
  ∀ path fault, node.Ordered → path ≠ "" → node.field path = .error fault → node.Blames path fault

theorem Leads.ordered {name : String} {steps : Path} (leads : Leads node name n steps) (ho : node.Ordered) :
    n.Ordered := by
  cases leads with
  | own found => exact ho.step? (.field name) found
  | item hasElement found => exact (ho.step? .items hasElement).step? (.field name) found

theorem Leads.blames {name : String} {steps : Path} (leads : Leads node name n steps)
    (hn : n.FieldBlames) (ho : node.Ordered) (hpath : path ≠ "") (hrecord : node.kind? = some .record)
    (h : n.field (steps.foldl Path.append path) = .error fault) : node.Blames path fault :=
  .through hrecord leads (hn _ _ (leads.ordered ho) (Path.foldl_append_ne_empty hpath steps) h)

theorem properties_blames (below : ∀ name n steps, Leads node name n steps → n.FieldBlames) (ho : node.Ordered)
    (hpath : path ≠ "") (hrecord : node.kind? = some .record) (h : node.properties path = .error fault) :
    node.Blames path fault := by
  unfold properties at h
  cases hown : fields node.children path [] with
  | error fault' =>
    rw [hown] at h
    cases h
    obtain ⟨name, n, hn, ⟨hfound, -⟩ | hfield⟩ := fields_error ho.children hown
    · -- the node's own children are typed first, so no name is found before them
      cases hfound
    · rw [← Path.append_field hpath] at hfield
      exact (Leads.own hn).blames (below _ _ _ (.own hn)) ho hpath hrecord hfield
  | ok own =>
    rw [hown, ok_bind] at h
    cases he : node.element with
    | none =>
      rw [he] at h
      cases h
    | some element =>
      rw [he] at h
      have hpath' : path ++ "[:]" ≠ "" := Path.append_ne_empty hpath .items
      obtain ⟨name, n, hn, ⟨hfound, rfl⟩ | hfield⟩ := fields_error (ho.step? .items he).children h
      · obtain ⟨typed, htyped⟩ := Option.isSome_iff_exists.1 hfound
        obtain ⟨own, hchild, -⟩ := Keyed.rel_some_right (htyped ▸ fields_rel hown name)
        refine ⟨[], node, .declaredTwice name, .here node, .declaredTwice hrecord he hchild hn, ?_, rfl⟩
        exact (Path.append_field hpath' name).symm
      · rw [← Path.append_field hpath'] at hfield
        exact (Leads.item he hn).blames (below _ _ _ (.item he hn)) ho hpath hrecord hfield

theorem fieldBlames_of_below (below : ∀ name n steps, Leads node name n steps → n.FieldBlames) :
    node.FieldBlames := by
  intro path fault ho hpath h
  rw [field_eq] at h
  cases hc : node.checkedType path with
  | error fault' =>
    rw [hc] at h
    cases h
    obtain ⟨defect, hdefect, hreports⟩ := checkedType_error hc
    exact ⟨[], node, defect, .here node, hdefect, hreports⟩
  | ok type =>
    rw [hc, ok_bind] at h
    by_cases hk : type.kind = .record
    · rw [if_pos hk] at h
      cases hp : node.properties path with
      | error fault' =>
        rw [hp] at h
        cases h
        have hrecord : node.kind? = some .record := hk ▸ kind?_of_type (type_of_checkedType hc)
        exact properties_blames below ho hpath hrecord hp
      | ok properties =>
        rw [hp] at h
        cases h
    · rw [if_neg hk] at h
      cases h

theorem fieldBlames_all (node : Node) : node.FieldBlames := by
  induction node using Node.field_induction with
  | field node own items =>
    refine fieldBlames_of_below fun name n steps leads => ?_
    cases leads with
    | own found => exact own _ (Keyed.mem_of_find? found)
    | item hasElement found => exact items _ hasElement _ (Keyed.mem_of_find? found)

theorem topFields_blames (ho : tree.Ordered) (hroot : root ≠ "") (h : tree.topFields root = .error fault) :
    ∃ place n defect, tree.Reached place n ∧ n.HasDefect defect ∧
      fault.path = Path.dotted (.field root :: (place ++ defect.site)) ∧ fault.code = defect.code := by
  obtain ⟨name, n, hn, ⟨hfound, -⟩ | hfield⟩ := fields_error ho.children h
  · cases hfound
  · rw [← Path.append_field hroot] at hfield
    obtain ⟨place, m, defect, hdown, hdefect, hpath, hcode⟩ := fieldBlames_all n _ _ (ho.step? (.field name) hn)
      (Path.append_ne_empty hroot (.field name)) hfield
    exact ⟨.field name :: place, m, defect, reached_of_descends hn hdown, hdefect, hpath, hcode⟩

theorem HasDefect.site_get? (h : n.HasDefect defect) : (n.get? defect.site).isSome := by
  have helement (element : Node) (he : n.element = some element) (rest : Path) :
      n.get? (.items :: rest) = element.get? rest := by
    rw [get?, step?, he, Option.bind_some]
  cases h with
  | unknownCode _ _ => rfl
  | untyped _ _ _ _ => rfl
  | unknownElementCode declared _ =>
    obtain ⟨element, he, -⟩ := Option.bind_eq_some_iff.1 declared
    exact helement element he [] ▸ rfl
  | elementKind _ itemDeclared _ _ _ =>
    obtain ⟨element, he, -⟩ := Option.bind_eq_some_iff.1 itemDeclared
    exact helement element he [] ▸ rfl
  | elementOfNonArray _ _ _ hasElement =>
    obtain ⟨element, he⟩ := Option.isSome_iff_exists.1 hasElement
    exact helement element he [] ▸ rfl
  | @declaredTwice element _ below name _ hasElement _ itemChild =>
    rw [Defect.site, helement element hasElement, get?, step?, itemChild]
    rfl

variable {artifact : Artifact} {limit : Nat} {entries : List (String × Json)}

theorem ofTree_eq_error_iff : artifact.ofTree root tree = .error fault ↔ tree.topFields root = .error fault := by
  unfold Artifact.ofTree
  cases tree.topFields root with
  | error fault' => constructor <;> (intro h; cases h; rfl)
  | ok fields => constructor <;> (intro h; cases h)

/-- Typing accepts exactly the trees without defects, and a fault names a defect that is there. -/
theorem ofTree_faults (h : assemble root limit entries = .ok tree) (hroot : root' ≠ "") :
    ((∃ fault, artifact.ofTree root' tree = .error fault) ↔
      ∃ place node defect, tree.Reached place node ∧ node.HasDefect defect) ∧
    ∀ fault, artifact.ofTree root' tree = .error fault →
      ∃ place node defect, tree.Reached place node ∧ node.HasDefect defect ∧
        (tree.get? (place ++ defect.site)).isSome ∧
        fault.path = Path.dotted (.field root' :: (place ++ defect.site)) ∧ fault.code = defect.code := by
  have hspaced : ∀ place, tree.Has place → place.Spaced := fun _ hplace => assemble_spaced h hplace
  have hordered : tree.Ordered := ordered_assemble h
  simp only [ofTree_eq_error_iff]
  refine ⟨⟨?_, ?_⟩, ?_⟩
  · rintro ⟨fault, hf⟩
    obtain ⟨place, n, defect, hreached, hdefect, -⟩ := topFields_blames hordered hroot hf
    exact ⟨place, n, defect, hreached, hdefect⟩
  · rintro ⟨place, n, defect, hreached, hdefect⟩
    cases ht : tree.topFields root' with
    | error fault => exact ⟨fault, rfl⟩
    | ok fields =>
      have hat := hreached.fieldAt? hspaced ht
      obtain ⟨typed, -, htypes⟩ := Keyed.rel_some_left (hat ▸ fieldAt?_rel ht (Path.names place))
      exact absurd hdefect htypes.no_defect
  · intro fault hf
    obtain ⟨place, n, defect, hreached, hdefect, hpath, hcode⟩ := topFields_blames hordered hroot hf
    refine ⟨place, n, defect, hreached, hdefect, ?_, hpath, hcode⟩
    rw [get?_append, hreached.found]
    exact hdefect.site_get?

theorem ofTree_faults_declared_twice :
    let entries := [("g.a", Json.object [("data_type", .text "STRUCT_ARRAY")]),
      ("g.a.x", Json.object [("data_type", .text "FLT_0D")]),
      ("g.a[:].x", Json.object [("data_type", .text "FLT_1D")])]
    let real : Node := ⟨[("data_type", .text "FLT_0D")], [], none⟩
    let reals : Node := ⟨[("data_type", .text "FLT_1D")], [], none⟩
    let tree : Node := ⟨[], [("a", ⟨[("data_type", .text "STRUCT_ARRAY")], [("x", real)],
      some ⟨[], [("x", reals)], none⟩⟩)], none⟩
    let fault : Fault := .inconsistent "g.a[:].x" .declaredTwice
    assemble "g" 4 entries = .ok tree ∧ "g" ≠ "" ∧ Artifact.searchMapping.ofTree "g" tree = .error fault ∧
      ((∃ fault, Artifact.searchMapping.ofTree "g" tree = .error fault) ↔
        ∃ place node defect, tree.Reached place node ∧ node.HasDefect defect) ∧
      ∃ place node defect, tree.Reached place node ∧ node.HasDefect defect ∧
        (tree.get? (place ++ defect.site)).isSome ∧
        fault.path = Path.dotted (.field "g" :: (place ++ defect.site)) ∧ fault.code = defect.code := by
  intro entries real reals tree fault
  have h : assemble "g" 4 entries = .ok tree := by cbv
  have hf : Artifact.searchMapping.ofTree "g" tree = .error fault := by cbv
  have hroot : "g" ≠ "" := by decide
  exact ⟨h, hroot, hf, (ofTree_faults h hroot).1, (ofTree_faults h hroot).2 fault hf⟩

end Node

end DottedSchema
