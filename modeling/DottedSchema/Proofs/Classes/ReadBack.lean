import DottedSchema.Proofs.Classes.Collection

set_option autoImplicit false

namespace DottedSchema

namespace ClassStyle

inductive Form where
  | scalar (type : String)
  | list (inner : String)
  | reference (c : ClassDef)

def HasForm (style : ClassStyle) (classes : List ClassDef) (expression : String) : Form → Prop
  | .scalar type => style.scalar type = some expression
  | .list inner => expression = style.listOf inner
  | .reference c => c ∈ classes ∧ expression = style.nested c.name

def Unambiguous (style : ClassStyle) (classes : List ClassDef) : Prop :=
  ∀ expression form form', style.HasForm classes expression form → style.HasForm classes expression form' → form = form'

mutual

/-- The types that an expression stands for, each reference read as the class that it names. -/
inductive Reads (style : ClassStyle) (classes : List ClassDef) : String → Skeleton → Prop
  | scalar {expression type : String} (form : style.HasForm classes expression (.scalar type)) :
      Reads style classes expression (.scalar type)
  | array {expression inner : String} {s : Skeleton} (form : style.HasForm classes expression (.list inner))
      (below : Reads style classes inner s) : Reads style classes expression (.array s)
  | object {expression : String} {c : ClassDef} {properties : List (String × Skeleton)}
      (form : style.HasForm classes expression (.reference c))
      (below : ReadsAll style classes c.attributes properties) :
      Reads style classes expression (.object properties)

inductive ReadsAll (style : ClassStyle) (classes : List ClassDef) : List Attribute → List (String × Skeleton) → Prop
  | nil : ReadsAll style classes [] []
  | cons {name expression : String} {s : Skeleton} {attributes : List Attribute} {properties : List (String × Skeleton)}
      (first : Reads style classes expression s) (rest : ReadsAll style classes attributes properties) :
      ReadsAll style classes (⟨name, expression⟩ :: attributes) ((name, s) :: properties)

end

inductive Opens (style : ClassStyle) (classes : List ClassDef) : String → String → Prop
  | list {expression inner : String} (form : style.HasForm classes expression (.list inner)) :
      Opens style classes inner expression
  | reference {expression : String} {c : ClassDef} {a : Attribute}
      (form : style.HasForm classes expression (.reference c)) (mem : a ∈ c.attributes) :
      Opens style classes a.expression expression

variable {style : ClassStyle} {classes : List ClassDef} {root : String} {properties : Json}

mutual

theorem Collects.reads {s : Skeleton} {expression : String} {cs : List ClassDef} :
    style.Collects s expression cs → cs ⊆ classes → style.Reads classes expression s
  | .scalar supported, _ => .scalar supported
  | .array below, hsub => .array rfl (below.reads hsub)
  | .object below, hsub =>
    .object ⟨hsub List.mem_cons_self, rfl⟩ (below.reads fun _ hc => hsub (List.mem_cons_of_mem _ hc))

theorem CollectsAll.reads {ps : List (String × Skeleton)} {attributes : List Attribute} {cs : List ClassDef} :
    style.CollectsAll ps attributes cs → cs ⊆ classes → style.ReadsAll classes attributes ps
  | .nil, _ => .nil
  | .cons first rest, hsub =>
    .cons (first.reads fun _ hc => hsub (List.mem_append_left _ hc))
      (rest.reads fun _ hc => hsub (List.mem_append_right _ hc))

end

mutual

theorem Reads.unique (hforms : style.Unambiguous classes) {expression : String} {s t : Skeleton} :
    style.Reads classes expression s → style.Reads classes expression t → s = t
  | .scalar form, .scalar form' => by
    cases hforms _ _ _ form form'
    rfl
  | .array form below, .array form' below' => by
    cases hforms _ _ _ form form'
    rw [below.unique hforms below']
  | .object form below, .object form' below' => by
    cases hforms _ _ _ form form'
    rw [below.unique hforms below']
  | .scalar form, .array form' _ | .scalar form, .object form' _ | .array form _, .scalar form'
  | .array form _, .object form' _ | .object form _, .scalar form' | .object form _, .array form' _ =>
    nomatch hforms _ _ _ form form'

theorem ReadsAll.unique (hforms : style.Unambiguous classes) {attributes : List Attribute}
    {ps qs : List (String × Skeleton)} :
    style.ReadsAll classes attributes ps → style.ReadsAll classes attributes qs → ps = qs
  | .nil, .nil => rfl
  | .cons first rest, .cons first' rest' => by rw [first.unique hforms first', rest.unique hforms rest']

end

mutual

/-- Reading comes to an end: an expression that stands for a type opens no endless chain. -/
theorem Reads.acc (hforms : style.Unambiguous classes) {expression : String} {s : Skeleton} :
    style.Reads classes expression s → Acc (style.Opens classes) expression
  | .scalar form => .intro _ fun
    | _, .list form' => nomatch hforms _ _ _ form form'
    | _, .reference form' _ => nomatch hforms _ _ _ form form'
  | .array form below => .intro _ fun
    | _, .list form' => by
      cases hforms _ _ _ form form'
      exact below.acc hforms
    | _, .reference form' _ => nomatch hforms _ _ _ form form'
  | .object form below => .intro _ fun
    | _, .list form' => nomatch hforms _ _ _ form form'
    | _, .reference form' mem => by
      cases hforms _ _ _ form form'
      exact below.acc hforms _ mem

theorem ReadsAll.acc (hforms : style.Unambiguous classes) {attributes : List Attribute}
    {ps : List (String × Skeleton)} :
    style.ReadsAll classes attributes ps → ∀ a ∈ attributes, Acc (style.Opens classes) a.expression
  | .cons first rest, a, ha => by
    rcases List.mem_cons.1 ha with rfl | ha
    · exact first.acc hforms
    · exact rest.acc hforms a ha

end

/-- The three forms of expressions differ, and each says what is in it. -/
structure Legible (style : ClassStyle) : Prop where
  scalar_inj {type type' expression : String} (h : style.scalar type = some expression)
    (h' : style.scalar type' = some expression) : type = type'
  listOf_inj : Function.Injective style.listOf
  nested_inj : Function.Injective style.nested
  scalar_ne_listOf {type expression : String} (h : style.scalar type = some expression) (inner : String) :
    expression ≠ style.listOf inner
  scalar_ne_nested {type expression : String} (h : style.scalar type = some expression) (key : String) :
    expression ≠ style.nested (style.className key)
  listOf_ne_nested (inner key : String) : style.listOf inner ≠ style.nested (style.className key)

theorem Legible.unambiguous (hstyle : style.Legible) (hfresh : style.Fresh [] classes) :
    style.Unambiguous classes := by
  intro expression form form' h h'
  have hname (c : ClassDef) (hc : c ∈ classes) : c.name = style.className c.key :=
    hfresh.named (fun _ he => nomatch he) c.entry (List.mem_map_of_mem hc)
  cases form with
  | scalar type =>
    cases form' with
    | scalar type' => rw [hstyle.scalar_inj h h']
    | list inner => exact absurd h' (hstyle.scalar_ne_listOf h inner)
    | reference c => exact absurd (hname c h'.1 ▸ h'.2) (hstyle.scalar_ne_nested h c.key)
  | list inner =>
    cases form' with
    | scalar type' => exact absurd h (hstyle.scalar_ne_listOf h' inner)
    | list inner' => rw [hstyle.listOf_inj (h.symm.trans h')]
    | reference c => exact absurd (h.symm.trans (hname c h'.1 ▸ h'.2)) (hstyle.listOf_ne_nested inner c.key)
  | reference c =>
    cases form' with
    | scalar type' => exact absurd (hname c h.1 ▸ h.2) (hstyle.scalar_ne_nested h' c.key)
    | list inner' => exact absurd (h'.symm.trans (hname c h.1 ▸ h.2)) (hstyle.listOf_ne_nested inner' c.key)
    | reference c' => rw [hfresh.eq_of_name h.1 h'.1 (hstyle.nested_inj (h.2.symm.trans h'.2))]

end ClassStyle

namespace ClassFormat

def scalars : ClassFormat → List (String × String)
  | .marshmallow => [("number", "fields.Number()"), ("string", "SanitizedUnicode()"), ("boolean", "fields.Boolean()")]
  | .dataclasses => [("number", "float"), ("string", "str"), ("boolean", "bool")]

theorem mem_scalars {format : ClassFormat} {type expression : String}
    (h : format.style.scalar type = some expression) : (type, expression) ∈ format.scalars := by
  have hscalar : format.style.scalar = format.scalar := by cases format <;> rfl
  rw [hscalar, scalar.eq_def] at h
  split at h <;> cases h <;> decide

theorem scalar_inj {format : ClassFormat} {type type' expression : String}
    (h : format.style.scalar type = some expression) (h' : format.style.scalar type' = some expression) :
    type = type' := by
  have hall : ∀ format : ClassFormat, ∀ p ∈ format.scalars, ∀ q ∈ format.scalars, p.2 = q.2 → p.1 = q.1 := by
    intro format
    cases format <;> decide
  exact hall format _ (mem_scalars h) _ (mem_scalars h') rfl

theorem wrap_injective (before after : String) : Function.Injective fun inner : String => before ++ inner ++ after := by
  intro a b h
  have hlists := congrArg String.toList h
  simp only [String.toList_append] at hlists
  exact String.toList_inj.1 (List.append_cancel_left (List.append_cancel_right hlists))

/-- The character at which the forms of marshmallow expressions part. -/
def mark (expression : String) : Option Char := expression.toList[8]?

theorem mark_listOf (inner : String) : mark (marshmallow.style.listOf inner) = some 'i' := by
  change ("fields.List(" ++ inner ++ ")").toList[8]? = some 'i'
  rw [String.append_assoc, String.toList_append, List.getElem?_append_left (by decide)]
  decide

theorem mark_nested (name : String) : mark (marshmallow.style.nested name) = some 'e' := by
  change ("fields.Nested(" ++ name ++ ")").toList[8]? = some 'e'
  rw [String.append_assoc, String.toList_append, List.getElem?_append_left (by decide)]
  decide

theorem mark_scalar {type expression : String} (h : marshmallow.style.scalar type = some expression) :
    mark expression ≠ some 'i' ∧ mark expression ≠ some 'e' := by
  have hall : ∀ p ∈ marshmallow.scalars, mark p.2 ≠ some 'i' ∧ mark p.2 ≠ some 'e' := by decide
  exact hall _ (mem_scalars h)

theorem legible_marshmallow : marshmallow.style.Legible where
  scalar_inj := scalar_inj
  listOf_inj := wrap_injective "fields.List(" ")"
  nested_inj := wrap_injective "fields.Nested(" ")"
  scalar_ne_listOf := fun h inner he => (mark_scalar h).1 (he ▸ mark_listOf inner)
  scalar_ne_nested := fun h key he => (mark_scalar h).2 (he ▸ mark_nested _)
  listOf_ne_nested := fun inner key he => by
    have hmark := congrArg mark he
    rw [mark_listOf, mark_nested] at hmark
    cases hmark

theorem head_scalar {type expression : String} (h : dataclasses.style.scalar type = some expression) :
    ∃ d, expression.toList.head? = some d ∧ 97 ≤ d.toNat ∧ d.toNat ≤ 122 := by
  have hall : ∀ p ∈ dataclasses.scalars, p.2.toList.head? ∈ [some 'f', some 's', some 'b'] := by decide
  have hhead := hall _ (mem_scalars h)
  simp only [List.mem_cons, List.not_mem_nil, or_false] at hhead
  rcases hhead with hd | hd | hd
  · exact ⟨_, hd, by decide⟩
  · exact ⟨_, hd, by decide⟩
  · exact ⟨_, hd, by decide⟩

theorem toList_listOf (inner : String) :
    (dataclasses.style.listOf inner).toList = ['L', 'i', 's', 't', '['] ++ (inner.toList ++ [']']) := by
  change ("List[" ++ inner ++ "]").toList = _
  rw [String.append_assoc, String.toList_append, String.toList_append]
  rfl

theorem legible_dataclasses : dataclasses.style.Legible where
  scalar_inj := scalar_inj
  listOf_inj := wrap_injective "List[" "]"
  nested_inj := fun _ _ h => h
  scalar_ne_listOf := fun h inner he => by
    obtain ⟨d, hd, hlow, -⟩ := head_scalar h
    rw [he, toList_listOf] at hd
    cases hd
    exact absurd hlow (by decide)
  scalar_ne_nested := fun h key he => by
    obtain ⟨d, hd, hlow, hhigh⟩ := head_scalar h
    rw [he] at hd
    rcases Text.head_upperCamelCase hd with hout | hout
    · exact absurd hlow (Nat.not_le.2 hout)
    · exact absurd hhigh (Nat.not_le.2 hout)
  listOf_ne_nested := fun inner key he => by
    have hmem : '[' ∈ (dataclasses.style.listOf inner).toList := by
      rw [toList_listOf]
      exact List.mem_append_left _ (by decide)
    rw [he] at hmem
    exact Text.mark_not_mem (by decide) key hmem

theorem legible (format : ClassFormat) : format.style.Legible := by
  cases format with
  | marshmallow => exact legible_marshmallow
  | dataclasses => exact legible_dataclasses

/-- Read from the first class on, the classes of a schema are its skeleton, and nothing else. -/
theorem reads_skeleton {format : ClassFormat} {root : String} {properties : Json} {classes : List ClassDef}
    (h : format.style.classes root properties = .ok classes) :
    ∃ first rest, classes = first :: rest ∧ format.style.Unambiguous classes ∧
      (∀ a ∈ first.attributes, Acc (format.style.Opens classes) a.expression) ∧
      (∃ skeletons, format.style.ReadsAll classes first.attributes skeletons) ∧
      ∀ skeletons, format.style.ReadsAll classes first.attributes skeletons ↔
        (Shape.topNode properties).HasSkeleton (.object skeletons) := by
  obtain ⟨first, rest, skeletons, rfl, hskeleton, hcollects⟩ := ClassStyle.classes_ok h
  have hforms := format.legible.unambiguous (ClassStyle.classes_fresh format.numbers h)
  have hreads := hcollects.reads (List.subset_cons_self first rest)
  refine ⟨first, rest, rfl, hforms, hreads.acc hforms, ⟨skeletons, hreads⟩, fun others => ?_⟩
  constructor <;> intro hothers
  · rw [hothers.unique hforms hreads]
    exact hskeleton
  · cases hothers.unique hskeleton
    exact hreads

theorem reads_skeleton_renamed :
    let inner : Json := .object [("properties", .object [("x", .object [("type", .text "number")])]),
      ("type", .text "object")]
    let properties : Json := .object [("a", .object [("properties", .object [
      ("b", .object [("items", inner), ("type", .text "array")])]), ("type", .text "object")]),
      ("b", .object [("description", .text "Empty."), ("type", .text "object")])]
    let first : ClassDef := ⟨"g", "G", none, [⟨"a", "A"⟩, ⟨"b", "GB"⟩]⟩
    let rest : List ClassDef := [⟨"a", "A", none, [⟨"b", "List[B]"⟩]⟩, ⟨"b", "B", none, [⟨"x", "float"⟩]⟩,
      ⟨"g_b", "GB", some "Empty.", []⟩]
    dataclasses.style.classes "g" properties = .ok (first :: rest) ∧
      dataclasses.style.Unambiguous (first :: rest) ∧
      Acc (dataclasses.style.Opens (first :: rest)) "A" ∧
      ∀ skeletons, dataclasses.style.ReadsAll (first :: rest) first.attributes skeletons ↔
        skeletons = [("a", .object [("b", .array (.object [("x", .scalar "number")]))]), ("b", .object [])] := by
  intro inner properties first rest
  have h : dataclasses.style.classes "g" properties = .ok (first :: rest) := by
    dsimp only [properties, inner, first, rest]
    rfl
  obtain ⟨_, _, hclasses, hforms, hacc, -, hreads⟩ := reads_skeleton h
  cases hclasses
  have hskeleton : (Shape.topNode properties).HasSkeleton
      (.object [("a", .object [("b", .array (.object [("x", .scalar "number")]))]), ("b", .object [])]) := by
    have hx : Json.HaveSkeletons [("x", .object [("type", .text "number")])] [("x", .scalar "number")] :=
      .cons (.scalar rfl (by decide) (by decide)) .nil
    exact .object rfl rfl (.cons (.object rfl rfl (.cons (.array rfl rfl (.object rfl rfl hx)) .nil))
      (.cons (.bare rfl rfl) .nil))
  refine ⟨h, hforms, hacc _ List.mem_cons_self, fun skeletons => ?_⟩
  rw [hreads]
  constructor
  · intro hothers
    cases hothers.unique hskeleton
    rfl
  · rintro rfl
    exact hskeleton

end ClassFormat

end DottedSchema
