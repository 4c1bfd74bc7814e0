import DottedSchema.Proofs.Classes.Separate

/-!
# Names hidden by attributes

The attributes of a marshmallow class are assignments in the body of the class, so each of them hides what is
called the same around the class from the attributes after it. The names that an expression takes from around the
class are read off its text (`Text.freeNames`); they depend only on what the property holds (`mem_freeNames_iff`).
Attributes keep the names of their properties, whatever the module imports or defines, so it is the names of the
properties that decide whether something is hidden (`marshmallow_shadowing`).
-/
set_option autoImplicit false

namespace DottedSchema

namespace Text

/-- The word, unless it is empty or looked up in something else. -/
def ended (member : Bool) (word : List Char) : List (List Char) := if member || word.isEmpty then [] else [word]

/-- The names that the rest of an expression takes from around it, behind the `word` that is read already. What
follows a dot is looked up in what stands before the dot. -/
def namesFrom (member : Bool) (word : List Char) : List Char → List (List Char)
  | [] => ended member word
  | c :: rest =>
    if c ∈ marks then ended member word ++ namesFrom (c = '.') [] rest
    else namesFrom member (word ++ [c]) rest

def freeNames (expression : String) : List String := (namesFrom false [] expression.toList).map String.ofList

def Plain (text : String) : Prop := ∀ c ∈ text.toList, c ∉ marks

variable {member : Bool} {word cs rest : List Char} {mark : Char} {name object method : String}

theorem namesFrom_append (hcs : ∀ c ∈ cs, c ∉ marks) :
    namesFrom member word (cs ++ rest) = namesFrom member (word ++ cs) rest := by
  induction cs generalizing word with
  | nil => rw [List.nil_append, List.append_nil]
  | cons c cs ih =>
    have hrest : ∀ d ∈ cs, d ∉ marks := fun d hd => hcs d (List.mem_cons_of_mem _ hd)
    rw [List.cons_append, namesFrom, if_neg (hcs c List.mem_cons_self), ih hrest, List.append_assoc,
      List.singleton_append]

theorem namesFrom_mark (hmark : mark ∈ marks) :
    namesFrom member word (mark :: rest) = ended member word ++ namesFrom (mark = '.') [] rest := if_pos hmark

theorem ended_nil (member : Bool) : ended member [] = [] := by cases member <;> rfl

theorem namesFrom_concat (hmark : mark ∈ marks) : namesFrom member word (cs ++ [mark]) = namesFrom member word cs := by
  induction cs generalizing member word with
  | nil => rw [List.nil_append, namesFrom_mark hmark, namesFrom, ended_nil, List.append_nil, namesFrom]
  | cons c cs ih =>
    rw [List.cons_append, namesFrom, namesFrom]
    split
    · rw [ih]
    · rw [ih]

theorem freeNames_of_plain (h : Plain name) : freeNames name = if name = "" then [] else [name] := by
  have hnames : namesFrom false [] name.toList = ended false name.toList := by
    rw [← List.append_nil name.toList, namesFrom_append h, namesFrom, List.append_nil]
    rfl
  rw [freeNames, hnames, ended]
  by_cases hname : name = ""
  · rw [if_pos hname, hname]
    rfl
  · have hne : name.toList.isEmpty = false := by simpa using hname
    rw [if_neg hname, hne, if_neg (by decide), List.map_singleton, String.ofList_toList]

theorem freeNames_call (hobject : Plain object) (hne : object ≠ "") (hmethod : Plain method) (argument : String) :
    freeNames (object ++ "." ++ method ++ "(" ++ argument ++ ")") = object :: freeNames argument := by
  have htext : (object ++ "." ++ method ++ "(" ++ argument ++ ")").toList =
      object.toList ++ '.' :: (method.toList ++ '(' :: (argument.toList ++ [')'])) := by
    simp
  have hsome : object.toList.isEmpty = false := by simpa using hne
  rw [freeNames, htext, namesFrom_append hobject, namesFrom_mark (by decide), namesFrom_append hmethod,
    namesFrom_mark (by decide), namesFrom_concat (by decide), List.nil_append, ended, hsome, ended]
  simp [freeNames]

end Text

/-- No attribute of the class has a name that a later one takes from around the class. -/
def ClassDef.Unshadowed (c : ClassDef) : Prop :=
  c.attributes.Pairwise fun a b => a.name ∉ Text.freeNames b.expression

instance (c : ClassDef) : Decidable c.Unshadowed := inferInstanceAs (Decidable (List.Pairwise _ _))

namespace ClassFormat

open ClassStyle

/-- The names that stand for a property at a place: that of the imported field types, except for a plain text, that
of the text type, and that of the class of an object. -/
inductive Uses (owner : List Nat → ClassDef → Prop) (place : List Nat) (node : Json) : String → Prop
  | fields {levels : Nat} {core : Json.Core} (holds : node.Holds levels core)
      (wrapped : levels = 0 → core ≠ .scalar "string") : Uses owner place node "fields"
  | text {levels : Nat} (holds : node.Holds levels (.scalar "string")) : Uses owner place node "SanitizedUnicode"
  | reference {levels : Nat} {members : List (String × Json)} {d : ClassDef}
      (holds : node.Holds levels (.object members)) (owned : owner place d) (named : d.name ≠ "") :
      Uses owner place node d.name

variable {levels number : Nat} {place : List Nat} {members : List (String × Json)} {c d : ClassDef} {type name : String}
  {leaf : String} {node : Json} {skeletons : List (String × Skeleton)} {classes : List ClassDef} {a : Attribute}

theorem plain_fields : Text.Plain "fields" := by simp [Text.Plain, Text.marks]

theorem freeNames_listOf (inner : String) :
    Text.freeNames (marshmallow.style.listOf inner) = "fields" :: Text.freeNames inner :=
  Text.freeNames_call plain_fields (by decide) (by simp [Text.Plain, Text.marks] : Text.Plain "List") inner

theorem freeNames_nested (name : String) :
    Text.freeNames (marshmallow.style.nested name) = "fields" :: Text.freeNames name :=
  Text.freeNames_call plain_fields (by decide) (by simp [Text.Plain, Text.marks] : Text.Plain "Nested") name

theorem freeNames_iterate (levels : Nat) (expression : String) :
    Text.freeNames (marshmallow.style.listOf^[levels] expression) =
      List.replicate levels "fields" ++ Text.freeNames expression := by
  induction levels with
  | zero => rfl
  | succ levels ih => rw [Function.iterate_succ_apply', freeNames_listOf, ih, List.replicate_succ, List.cons_append]

theorem freeNames_scalar (h : marshmallow.style.scalar type = some leaf) :
    Text.freeNames leaf = [if type = "string" then "SanitizedUnicode" else "fields"] := by
  have hall : ∀ p ∈ marshmallow.scalars,
      Text.freeNames p.2 = [if p.1 = "string" then "SanitizedUnicode" else "fields"] := by decide
  exact hall _ (mem_scalars h)

theorem plain_upperCamelCase (key : String) : Text.Plain (Text.upperCamelCase key) :=
  fun _ hc hmark => Text.mark_not_mem hmark key hc

section

variable {owner : List Nat → ClassDef → Prop} {used : String} {inner : List (String × Json)}

theorem uses_scalar_iff (h : node.Holds levels (.scalar type)) : Uses owner place node used ↔
    levels ≠ 0 ∧ used = "fields" ∨ used = if type = "string" then "SanitizedUnicode" else "fields" := by
  constructor
  · intro huses
    cases huses with
    | fields holds wrapped =>
      obtain ⟨rfl, rfl⟩ := h.unique holds
      by_cases htype : type = "string"
      · exact .inl ⟨fun hlevels => wrapped hlevels (congrArg Json.Core.scalar htype), rfl⟩
      · exact .inr (if_neg htype).symm
    | text holds => exact .inr (if_pos (Json.Core.scalar.inj (h.unique holds).2)).symm
    | reference holds _ _ => cases (h.unique holds).2
  · rintro (⟨hlevels, rfl⟩ | rfl)
    · exact .fields h fun hzero => absurd hzero hlevels
    · split
      · rename_i htype
        exact .text (htype ▸ h)
      · rename_i htype
        exact .fields h fun _ he => htype (Json.Core.scalar.inj he)

theorem uses_object_iff (h : node.Holds levels (.object inner)) (hd : owner place d)
    (hunique : ∀ d', owner place d' → d' = d) :
    Uses owner place node used ↔ used = "fields" ∨ used = d.name ∧ d.name ≠ "" := by
  constructor
  · intro huses
    cases huses with
    | fields _ _ => exact .inl rfl
    | text holds => cases (h.unique holds).2
    | reference _ owned named =>
      obtain rfl := hunique _ owned
      exact .inr ⟨rfl, named⟩
  · rintro (rfl | ⟨rfl, hnamed⟩)
    · exact .fields h fun _ => nofun
    · exact .reference h hd hnamed

theorem mem_freeNames_iff (hmade : marshmallow.style.MadeOf owner place members c)
    (hunique : ∀ place d d', owner place d → owner place d' → d' = d)
    (hplain : ∀ place d, owner place d → Text.Plain d.name)
    (hp : (Json.properties members)[number]? = some (name, node)) (ha : c.attributes[number]? = some a) :
    used ∈ Text.freeNames a.expression ↔ Uses owner (place ++ [number]) node used := by
  obtain ⟨levels, core, hholds⟩ := hmade.cores _ (List.mem_of_getElem? hp)
  cases core with
  | scalar type =>
    obtain ⟨leaf, hleaf, hattribute⟩ := hmade.scalars number name node levels type hp hholds
    cases ha.symm.trans hattribute
    rw [uses_scalar_iff hholds, freeNames_iterate, freeNames_scalar hleaf, List.mem_append, List.mem_replicate,
      List.mem_singleton]
  | object inner =>
    obtain ⟨d, hd, hattribute⟩ := hmade.objects number name node levels inner hp hholds
    cases ha.symm.trans hattribute
    -- the key of a class may have no letters, and then the class has no name to be hidden
    have hname : used ∈ Text.freeNames d.name ↔ used = d.name ∧ d.name ≠ "" := by
      rw [Text.freeNames_of_plain (hplain _ _ hd)]
      split <;> simp_all
    rw [uses_object_iff hholds hd fun d' => hunique _ d d' hd, listed, freeNames_iterate, freeNames_nested,
      List.mem_append, List.mem_replicate, List.mem_cons, hname]
    exact ⟨fun h => h.elim (fun hfields => .inl hfields.2) id, .inr⟩

theorem pairwise_iff_getElem? {α : Type} {r : α → α → Prop} {xs : List α} : xs.Pairwise r ↔
    ∀ (i j : Nat) x y, i < j → xs[i]? = some x → xs[j]? = some y → r x y := by
  rw [List.pairwise_iff_getElem]
  constructor
  · intro h i j x y hij hx hy
    obtain ⟨hi, rfl⟩ := List.getElem?_eq_some_iff.1 hx
    obtain ⟨hj, rfl⟩ := List.getElem?_eq_some_iff.1 hy
    exact h i j hi hj hij
  · intro h i j hi hj hij
    exact h i j _ _ hij (List.getElem?_eq_getElem hi) (List.getElem?_eq_getElem hj)

theorem getElem?_of_map_eq {α β γ : Type} {f : α → γ} {g : β → γ} {xs : List α} {ys : List β} {x : α}
    (h : xs.map f = ys.map g) (hx : xs[number]? = some x) : ∃ y, ys[number]? = some y ∧ g y = f x := by
  have hy : (ys.map g)[number]? = some (f x) := by rw [← h, List.getElem?_map, hx, Option.map_some]
  rw [List.getElem?_map] at hy
  exact Option.map_eq_some_iff.1 hy

theorem unshadowed_iff (hmade : marshmallow.style.MadeOf owner place members c)
    (hunique : ∀ place d d', owner place d → owner place d' → d' = d)
    (hplain : ∀ place d, owner place d → Text.Plain d.name) :
    c.Unshadowed ↔ ∀ (i j : Nat) (p q : String × Json), i < j → (Json.properties members)[i]? = some p →
      (Json.properties members)[j]? = some q → ¬ Uses owner (place ++ [j]) q.2 p.1 := by
  unfold ClassDef.Unshadowed
  rw [pairwise_iff_getElem?]
  constructor
  · intro h i j p q hij hp hq
    obtain ⟨a, ha, hname⟩ := getElem?_of_map_eq hmade.names.symm hp
    obtain ⟨b, hb, -⟩ := getElem?_of_map_eq hmade.names.symm hq
    rw [← mem_freeNames_iff hmade hunique hplain hq hb, ← hname]
    exact h i j a b hij ha hb
  · intro h i j a b hij ha hb
    obtain ⟨p, hp, hname⟩ := getElem?_of_map_eq hmade.names ha
    obtain ⟨q, hq, -⟩ := getElem?_of_map_eq hmade.names hb
    rw [mem_freeNames_iff hmade hunique hplain hq hb, ← hname]
    exact h i j p q hij hp hq

end

variable {root : String} {document : Json}

/-- A class of a marshmallow module hides nothing from its attributes exactly where no property of its object node is
called like a name that a later one is written with. -/
theorem marshmallow_shadowing (h : marshmallow.style.classes root document = .ok classes) :
    ∃ skeletons, (Shape.topNode document).HasSkeleton (.object skeletons) ∧ ∀ c ∈ classes, ∃ place members,
      ClassAt skeletons classes place c ∧ (Shape.topNode document).ObjectAt place members ∧
      (c.Unshadowed ↔ ∀ (i j : Nat) (p q : String × Json), i < j → (Json.properties members)[i]? = some p →
        (Json.properties members)[j]? = some q → ¬ Uses (ClassAt skeletons classes) (place ++ [j]) q.2 p.1) := by
  have hfresh : marshmallow.style.Fresh [] classes := classes_fresh (numbers marshmallow) h
  obtain ⟨top, rest, skeletons, rfl, hskeleton, hcollects⟩ := classes_ok h
  have hplain : ∀ place d, ClassAt skeletons (top :: rest) place d → Text.Plain d.name := by
    intro place d hd
    rw [(hfresh.name_eq hd.mem).1]
    exact plain_upperCamelCase d.key
  refine ⟨skeletons, hskeleton, fun c hc => ?_⟩
  obtain ⟨place, hplace⟩ := hcollects.exists_place hc
  obtain ⟨members, hat⟩ := hskeleton.exists_objectAt rfl hplace.objectAt?
  have hmade := hplace.madeOf hcollects hskeleton (hplace.describes h hskeleton) hat
  exact ⟨place, members, hplace, hat, unshadowed_iff hmade (fun _ _ _ hd hd' => hd'.unique hd) hplain⟩

theorem marshmallow_shadowing_class :
    let number : Json := .object [("type", .text "number")]
    let document : Json := .object [("A", number), ("a", .object [("properties", .object [("x", number)]),
      ("type", .text "object")])]
    let classes : List ClassDef := [⟨"g", "G", none, [⟨"A", "fields.Number()"⟩, ⟨"a", "fields.Nested(A)"⟩]⟩,
      ⟨"a", "A", none, [⟨"x", "fields.Number()"⟩]⟩]
    marshmallow.style.classes "g" document = .ok classes ∧
      ∃ skeletons, (Shape.topNode document).HasSkeleton (.object skeletons) ∧ ∀ c ∈ classes, ∃ place members,
        ClassAt skeletons classes place c ∧ (Shape.topNode document).ObjectAt place members ∧
        (c.Unshadowed ↔ ∀ (i j : Nat) (p q : String × Json), i < j → (Json.properties members)[i]? = some p →
          (Json.properties members)[j]? = some q → ¬ Uses (ClassAt skeletons classes) (place ++ [j]) q.2 p.1) := by
  intro number document classes
  have hclasses : marshmallow.style.classes "g" document = .ok classes := rfl
  exact ⟨hclasses, marshmallow_shadowing hclasses⟩

/-- Two numbers, the first of which is named as the module that the types of both are taken from. -/
theorem not_unshadowed_fields :
    let number : Json := .object [("type", .text "number")]
    let document : Json := .object [("fields", number), ("x", number)]
    ∃ classes, marshmallow.style.classes "g" document = .ok classes ∧ ¬ ∀ c ∈ classes, c.Unshadowed := by
  intro number document
  let c : ClassDef := ⟨"g", "G", none, [⟨"fields", "fields.Number()"⟩, ⟨"x", "fields.Number()"⟩]⟩
  have hclasses : marshmallow.style.classes "g" document = .ok [c] := rfl
  have hhidden : ¬ c.Unshadowed := by decide
  exact ⟨[c], hclasses, fun hall => hhidden (hall c List.mem_cons_self)⟩

end ClassFormat

end DottedSchema
