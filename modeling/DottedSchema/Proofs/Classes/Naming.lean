import DottedSchema.Proofs.Classes.ObjectNodes
import DottedSchema.Proofs.Generation
import DottedSchema.Proofs.Text.Identifier

/-!
# Class names

A class is named after the property its object node stands under, qualified or numbered if need be. So all class
names of a schema have a property that qualifying and numbering keep (`ClassStyle.Closed`) just if the names of all
its object nodes have it (`classes_names_iff`). Being an identifier is such a property
(`ClassFormat.names_of_conversion`).
-/
set_option autoImplicit false

namespace DottedSchema

namespace Skeleton

mutual

def objectNames (own : String) : Skeleton → List String
  | .scalar _ => []
  | .array s => objectNames own s
  | .object properties => own :: objectNamesIn properties

def objectNamesIn : List (String × Skeleton) → List String
  | [] => []
  | (name, s) :: rest => objectNames name s ++ objectNamesIn rest

end

variable {s : Skeleton} {below ss : List (String × Skeleton)} {levels : Nat} {name own : String}

theorem objectNames_of_core? : ∀ {s : Skeleton} {levels : Nat} {below : List (String × Skeleton)},
    s.core? = some (levels, below) → s.objectNames own = own :: objectNamesIn below
  | .scalar _, _, _, h => nomatch h
  | .array s, _, _, h => by
    rw [core?] at h
    obtain ⟨⟨levels, below⟩, hcore, h⟩ := Option.map_eq_some_iff.1 h
    cases h
    rw [objectNames]
    exact objectNames_of_core? hcore
  | .object properties, _, _, h => by
    cases h
    rw [objectNames]

theorem mem_objectNamesIn : name ∈ objectNamesIn ss ↔ ∃ p ∈ ss, name ∈ p.2.objectNames p.1 := by
  induction ss with
  | nil => simp [objectNamesIn]
  | cons p rest ih =>
    obtain ⟨first, s⟩ := p
    rw [objectNamesIn, List.mem_append, ih]
    simp

end Skeleton

namespace Json

/-- There is an object node under this name in a node of the given name. A name also stands for the objects in the
arrays under it. -/
inductive ObjectNamed : String → Json → String → Prop
  | here {own : String} {node : Json} {levels : Nat} {members : List (String × Json)}
      (holds : node.Holds levels (.object members)) : ObjectNamed own node own
  | inside {own name found : String} {node child : Json} {levels : Nat} {members : List (String × Json)}
      (holds : node.Holds levels (.object members)) (property : (name, child) ∈ properties members)
      (rest : ObjectNamed name child found) : ObjectNamed own node found

variable {node item : Json} {s : Skeleton} {members : List (String × Json)} {own name : String}

theorem ObjectNamed.of_items (declared : Keyed.find? "type" members = some (.text "array"))
    (items : Keyed.find? "items" members = some item) (h : item.ObjectNamed own name) :
    ObjectNamed own (.object members) name := by
  cases h with
  | here holds => exact .here (.array declared items holds)
  | inside holds property rest => exact .inside (.array declared items holds) property rest

mutual

theorem HasSkeleton.objectNamed : ∀ {node : Json} {s : Skeleton}, node.HasSkeleton s → ∀ {own name : String},
    name ∈ s.objectNames own → node.ObjectNamed own name
  | _, _, .scalar _ _ _, _, _, h => nomatch h
  | _, _, .array declared items below, _, _, h => by
    rw [Skeleton.objectNames] at h
    exact (below.objectNamed h).of_items declared items
  | _, _, .bare declared _, own, name, h => by
    rw [Skeleton.objectNames, Skeleton.objectNamesIn, List.mem_singleton] at h
    rw [h]
    exact .here (.object declared)
  | .object members, _, .object declared mapping below, own, name, h => by
    rw [Skeleton.objectNames, List.mem_cons] at h
    rcases h with rfl | h
    · exact .here (.object declared)
    · obtain ⟨p, hp, hnamed⟩ := below.objectNamed h
      have hproperty : (p.1, p.2) ∈ properties members := by
        rw [properties, mapping]
        exact hp
      exact .inside (.object declared) hproperty hnamed

theorem HaveSkeletons.objectNamed : ∀ {ps : List (String × Json)} {ss : List (String × Skeleton)},
    HaveSkeletons ps ss → ∀ {name : String}, name ∈ Skeleton.objectNamesIn ss →
      ∃ p ∈ ps, p.2.ObjectNamed p.1 name
  | _, _, .nil, _, h => nomatch h
  | _, _, .cons first rest, _, h => by
    rw [Skeleton.objectNamesIn, List.mem_append] at h
    rcases h with h | h
    · exact ⟨_, List.mem_cons_self, first.objectNamed h⟩
    · obtain ⟨p, hp, hnamed⟩ := rest.objectNamed h
      exact ⟨p, List.mem_cons_of_mem _ hp, hnamed⟩

end

theorem HasSkeleton.mem_objectNames_iff (hs : node.HasSkeleton s) :
    name ∈ s.objectNames own ↔ node.ObjectNamed own name := by
  refine ⟨hs.objectNamed, fun h => ?_⟩
  induction h generalizing s with
  | here holds =>
    obtain ⟨below, hcore, -⟩ := hs.core?_of_holds holds
    rw [Skeleton.objectNames_of_core? hcore]
    exact List.mem_cons_self
  | inside holds property _ ih =>
    obtain ⟨below, hcore, hbelow⟩ := hs.core?_of_holds holds
    obtain ⟨number, hnumber⟩ := List.mem_iff_getElem?.1 property
    obtain ⟨inner, hinner, hchild⟩ := hbelow.exists_skeleton hnumber
    rw [Skeleton.objectNames_of_core? hcore, List.mem_cons, Skeleton.mem_objectNamesIn]
    exact .inr ⟨_, List.mem_of_getElem? hinner, ih hchild⟩

end Json

namespace ClassStyle

/-- A property of class names that numbering and qualifying a key keep. The names that no class may have, have it. -/
structure Closed (style : ClassStyle) (P : String → Prop) : Prop where
  qualified : ∀ parent key, P (style.className parent) → P (style.className key) →
    P (style.className (parent ++ "_" ++ key))
  numbered : ∀ key (n : Nat), P (style.className key) → P (style.className (key ++ "_" ++ n.repr))
  others : ∀ name ∈ constants ++ style.imports, P name

variable {style : ClassStyle} {P : String → Prop} {used : List ClassEntry} {key name root : String}

theorem numbered_cases (style : ClassStyle) (used : List ClassEntry) (key : String) :
    style.numbered used key = key ∨ ∃ n : Nat, style.numbered used key = key ++ "_" ++ n.repr := by
  unfold numbered
  dsimp only
  cases hfind : List.find? (fun key => !style.isTaken used key)
      ((List.range (style.obstacles used + 1)).map fun i => key ++ "_" ++ (i + 2).repr) with
  | none => exact .inl rfl
  | some found =>
    obtain ⟨i, -, hi⟩ := List.mem_map.1 (List.mem_of_find?_eq_some hfind)
    exact .inr ⟨i + 2, hi.symm⟩

theorem Closed.reserve (hP : style.Closed P) (used : List ClassEntry) (parent : Option String)
    (hkey : P (style.className key)) (hparent : ∀ p ∈ parent, P (style.className p)) :
    P (style.className (style.reserve used key parent)) := by
  have hqualified : P (style.className (ClassStyle.qualified key parent)) := by
    cases parent with
    | none => exact hkey
    | some p => exact hP.qualified p key (hparent p rfl) hkey
  rw [reserve_eq]
  split
  · exact hkey
  · split
    · exact hqualified
    · rcases numbered_cases style used (ClassStyle.qualified key parent) with hkept | ⟨n, hn⟩
      · rw [hkept]
        exact hqualified
      · rw [hn]
        exact hP.numbered _ n hqualified

mutual

theorem Closed.express (hP : style.Closed P) (used : List ClassEntry) {key parent : String}
    (hparent : P (style.className parent)) : ∀ {shape : Shape} {s : Skeleton}, shape.Matches style.scalar s →
      (∀ name ∈ s.objectNames key, P (style.className name)) →
        ∀ c ∈ (style.express used key parent shape).2, P c.name
  | .leaf _, .scalar _, _, _, c, hc => nomatch hc
  | .list item, .array s, h, hnames, c, hc => by
    rw [Shape.Matches] at h
    rw [ClassStyle.express] at hc
    rw [Skeleton.objectNames] at hnames
    exact hP.express used hparent h hnames c hc
  | .record description fields, .object properties, h, hnames, c, hc => by
    rw [Shape.Matches] at h
    rw [ClassStyle.express] at hc
    rw [Skeleton.objectNames] at hnames
    have hown := hP.reserve used (some parent) (hnames key List.mem_cons_self)
      fun p hp => Option.some.inj hp ▸ hparent
    rcases List.mem_cons.1 hc with rfl | hc
    · exact hown
    · exact hP.expressFields _ hown h (fun name hname => hnames name (List.mem_cons_of_mem _ hname)) c hc

theorem Closed.expressFields (hP : style.Closed P) (used : List ClassEntry) {parent : String}
    (hparent : P (style.className parent)) : ∀ {fields : List (String × Shape)} {properties : List (String × Skeleton)},
      Shape.MatchFields style.scalar fields properties →
        (∀ name ∈ Skeleton.objectNamesIn properties, P (style.className name)) →
          ∀ c ∈ (style.expressFields used parent fields).2, P c.name
  | [], [], _, _, c, hc => nomatch hc
  | (name, shape) :: rest, (_, s) :: properties, ⟨rfl, hfirst, hrest⟩, hnames, c, hc => by
    rw [ClassStyle.expressFields] at hc
    rw [Skeleton.objectNamesIn] at hnames
    rcases List.mem_append.1 hc with hc | hc
    · exact hP.express used hparent hfirst (fun n hn => hnames n (List.mem_append_left _ hn)) c hc
    · exact hP.expressFields _ hparent hrest (fun n hn => hnames n (List.mem_append_right _ hn)) c hc

end

/-- A key whose class name has not the property is registered, unless a name without it is in use already. -/
theorem Closed.reserve_of_not (hP : style.Closed P) (hnamed : style.Named used) (parent : Option String)
    (hkey : ¬ P (style.className key)) :
    (∃ e ∈ used, ¬ P e.name) ∨ style.reserve used key parent = key := by
  cases htaken : style.isTaken used key with
  | false =>
    refine .inr ?_
    rw [reserve_eq, htaken]
    rfl
  | true =>
    refine .inl ?_
    have hblocked := (isTaken_iff_blocked hnamed).1 htaken
    rw [blockers, List.mem_append, List.mem_map] at hblocked
    rcases hblocked with hother | ⟨e, he, hname⟩
    · -- constants and imports have the property
      exact absurd (hP.others _ hother) hkey
    · exact ⟨e, he, hname ▸ hkey⟩

mutual

theorem Closed.express_of_not (hP : style.Closed P) (hnumbers : style.Numbers) (used : List ClassEntry)
    (hnamed : style.Named used) {key parent : String} : ∀ {shape : Shape} {s : Skeleton},
      shape.Matches style.scalar s → name ∈ s.objectNames key → ¬ P (style.className name) →
        ∃ e ∈ used ++ (style.express used key parent shape).2.map ClassDef.entry, ¬ P e.name
  | .leaf _, .scalar _, _, hname, _ => nomatch hname
  | .list item, .array s, h, hname, hnot => by
    rw [Shape.Matches] at h
    rw [Skeleton.objectNames] at hname
    rw [ClassStyle.express]
    exact hP.express_of_not hnumbers used hnamed h hname hnot
  | .record description fields, .object properties, h, hname, hnot => by
    rw [Shape.Matches] at h
    rw [Skeleton.objectNames] at hname
    rw [ClassStyle.express, List.map_cons, ← List.singleton_append, ← List.append_assoc]
    rcases List.mem_cons.1 hname with rfl | hname
    · -- the object may have to take a longer key, but then some class in use has the name that it wanted
      rcases hP.reserve_of_not hnamed (some parent) hnot with ⟨e, he, hne⟩ | hown
      · exact ⟨e, List.mem_append_left _ (List.mem_append_left _ he), hne⟩
      · refine ⟨_, List.mem_append_left _ (List.mem_append_right _ List.mem_cons_self), ?_⟩
        rw [hown]
        exact hnot
    · exact hP.expressFields_of_not hnumbers _ (hnamed.concat _) h hname hnot

theorem Closed.expressFields_of_not (hP : style.Closed P) (hnumbers : style.Numbers) (used : List ClassEntry)
    (hnamed : style.Named used) {parent : String} : ∀ {fields : List (String × Shape)}
      {properties : List (String × Skeleton)}, Shape.MatchFields style.scalar fields properties →
        name ∈ Skeleton.objectNamesIn properties → ¬ P (style.className name) →
          ∃ e ∈ used ++ (style.expressFields used parent fields).2.map ClassDef.entry, ¬ P e.name
  | [], [], _, hname, _ => nomatch hname
  | (key, shape) :: rest, (_, s) :: properties, ⟨rfl, hfirst, hrest⟩, hname, hnot => by
    rw [Skeleton.objectNamesIn] at hname
    rw [ClassStyle.expressFields, List.map_append, ← List.append_assoc]
    rcases List.mem_append.1 hname with hname | hname
    · obtain ⟨e, he, hne⟩ := hP.express_of_not hnumbers used hnamed hfirst hname hnot
      exact ⟨e, List.mem_append_left _ he, hne⟩
    · have hnamed' := (express_fresh hnumbers used hnamed key parent shape).named hnamed
      exact hP.expressFields_of_not hnumbers _ hnamed' hrest hname hnot

end

variable {document : Json} {classes : List ClassDef}

theorem Closed.classes_names_iff (hP : style.Closed P) (hnumbers : style.Numbers)
    (h : style.classes root document = .ok classes) : (∀ c ∈ classes, P c.name) ↔
      ∀ name, (Shape.topNode document).ObjectNamed root name → P (style.className name) := by
  obtain ⟨shape, hshape, rfl⟩ := exists_shape_of_classes h
  obtain ⟨fields, skeletons, rfl, hskeleton, hmatch⟩ := Shape.ofProperties_ok hshape
  have hnone : style.Named [] := fun _ he => nomatch he
  simp only [← hskeleton.mem_objectNames_iff, Skeleton.objectNames, topClasses]
  constructor
  · intro hall name hname
    by_contra hnot
    have hbad : ∃ e ∈ (style.topClasses root (.record none fields)).map ClassDef.entry, ¬ P e.name := by
      rcases List.mem_cons.1 hname with rfl | hname
      · have hown := (hP.reserve_of_not hnone none hnot).resolve_left fun ⟨_, he, _⟩ => nomatch he
        refine ⟨_, List.mem_cons_self, ?_⟩
        change ¬ P (style.className (style.reserve [] name none))
        rw [hown]
        exact hnot
      · exact hP.expressFields_of_not hnumbers _ (hnone.concat _) hmatch hname hnot
    obtain ⟨e, he, hne⟩ := hbad
    obtain ⟨c, hc, rfl⟩ := List.mem_map.1 he
    exact hne (hall c hc)
  · intro hall c hc
    have hown := hP.reserve [] none (hall root List.mem_cons_self) fun _ hp => nomatch hp
    rcases List.mem_cons.1 hc with rfl | hc
    · exact hown
    · exact hP.expressFields _ hown hmatch (fun name hname => hall name (List.mem_cons_of_mem _ hname)) c hc

end ClassStyle

namespace ClassFormat

theorem className_eq (format : ClassFormat) (key : String) : format.style.className key = Text.upperCamelCase key := by
  cases format <;> rfl

theorem closed_isIdentifier (format : ClassFormat) : format.style.Closed fun name => Text.isIdentifier name = true where
  qualified parent key hparent hkey := by
    rw [className_eq, Text.isIdentifier_upperCamelCase] at *
    exact Text.isNameable_qualified hparent hkey
  numbered key n h := by
    rw [className_eq, Text.isIdentifier_upperCamelCase] at *
    exact Text.isNameable_numbered h n
  others := by
    cases format <;> decide +kernel

/-- A schema converted to JSON Schema has a module in each format. None of its class names is a keyword, and all
of them are identifiers just if the names of the object nodes make identifiers. -/
theorem names_of_conversion {document written : Json} {options : Options} (artifact : options.artifact = .jsonSchema)
    (h : convertDocument document options = .ok written) (format : ClassFormat) (root : String) :
    ∃ m, format.style.module root written = .ok m ∧ format.generate root written = .ok (format.render m) ∧
      (∀ c ∈ m.classes, c.name ∉ Text.keywords) ∧
      ((∀ c ∈ m.classes, Text.isIdentifier c.name = true) ↔
        ∀ name, (Shape.topNode written).ObjectNamed root name → Text.isNameable name = true) := by
  obtain ⟨fields, rfl⟩ := convertDocument_ok h
  rw [artifact]
  obtain ⟨classes, hclasses, hfresh⟩ := classes_of_fields format root fields
  have hmodule : format.style.module root (Artifact.jsonSchema.writeFields fields) =
      .ok (ClassModule.ofClasses root classes) := by
    rw [ClassStyle.module, hclasses]
    rfl
  have hmem : ∀ Q : String → Prop, (∀ c ∈ (ClassModule.ofClasses root classes).classes, Q c.name) ↔
      ∀ c ∈ classes, Q c.name := by
    intro Q
    simp [ClassModule.ofClasses, ClassModule.ofClass]
  have hnames := format.closed_isIdentifier.classes_names_iff format.numbers hclasses
  simp only [className_eq, Text.isIdentifier_upperCamelCase] at hnames
  refine ⟨_, hmodule, by rw [generate, hmodule]; rfl, (hmem (· ∉ Text.keywords)).2 fun c hc => ?_,
    (hmem (Text.isIdentifier · = true)).trans hnames⟩
  obtain ⟨hname, -, hconstant⟩ := hfresh.name_eq hc
  rw [hname, className_eq] at *
  exact Text.not_keyword hconstant

theorem names_of_conversion_qualified :
    let document : Json := .object [("g", .object []), ("g.a[:].none", .object [("data_type", .text "STRUCTURE")])]
    let options : Options := ⟨.jsonSchema, "g", .empty, 4⟩
    let record (properties : List (String × Json)) : Json :=
      .object [("properties", .object properties), ("type", .text "object")]
    let schema : Json := .object [("a", .object [("items", record [("none", record [])]), ("type", .text "array")])]
    let m : ClassModule :=
      ⟨"g", [⟨"ANone", none, []⟩, ⟨"A", none, [⟨"none", "ANone"⟩]⟩, ⟨"G", none, [⟨"a", "List[A]"⟩]⟩]⟩
    options.artifact = .jsonSchema ∧ convertDocument document options = .ok schema ∧
      ClassFormat.dataclasses.style.module "g" schema = .ok m ∧
      ClassFormat.dataclasses.generate "g" schema = .ok (ClassFormat.dataclasses.render m) ∧
      (∀ c ∈ m.classes, c.name ∉ Text.keywords) ∧
      ((∀ c ∈ m.classes, Text.isIdentifier c.name = true) ↔
        ∀ name, (Shape.topNode schema).ObjectNamed "g" name → Text.isNameable name = true) := by
  intro document options record schema m
  let entries : Keyed Json := [("g.a[:].none", .object [("data_type", .text "STRUCTURE")])]
  let tree : Node :=
    ⟨[], [("a", ⟨[], [], some ⟨[], [("none", ⟨[("data_type", .text "STRUCTURE")], [], none⟩)], none⟩⟩)], none⟩
  have hdocument : convertDocument document options = .ok schema := by
    have hentries : Schema.ofDocument "g" memoryLabel document = .ok ⟨"g", entries⟩ := rfl
    have htree : Schema.tree ⟨"g", entries⟩ options = .ok tree := by cbv
    rw [convertDocument_of_tree hentries htree]
    rfl
  have hmodule : ClassFormat.dataclasses.style.module "g" schema = .ok m := rfl
  obtain ⟨m', hmodule', hnames⟩ := names_of_conversion rfl hdocument .dataclasses "g"
  cases hmodule.symm.trans hmodule'
  exact ⟨rfl, hdocument, hmodule, hnames⟩

/-- A record whose name, a good one for a property, makes a class name that is a number. -/
theorem not_isIdentifier_number :
    let document : Json := .object [("g", .object []), ("g._1", .object [("data_type", .text "STRUCTURE")])]
    let options : Options := ⟨.jsonSchema, "g", .empty, 4⟩
    ∃ schema, options.artifact = .jsonSchema ∧ convertDocument document options = .ok schema ∧
      ∀ format : ClassFormat, ∃ m, format.style.module options.root schema = .ok m ∧
        ¬ ∀ c ∈ m.classes, Text.isIdentifier c.name = true ∧ c.name ∉ Text.keywords := by
  intro document options
  let record : Json := .object [("properties", .object []), ("type", .text "object")]
  have hdocument : convertDocument document options = .ok (.object [("_1", record)]) := by
    have hentries : Schema.ofDocument "g" memoryLabel document =
        .ok ⟨"g", [("g._1", .object [("data_type", .text "STRUCTURE")])]⟩ := rfl
    have htree : Schema.tree ⟨"g", [("g._1", .object [("data_type", .text "STRUCTURE")])]⟩ options =
        .ok ⟨[], [("_1", ⟨[("data_type", .text "STRUCTURE")], [], none⟩)], none⟩ := by cbv
    rw [convertDocument_of_tree hentries htree]
    rfl
  refine ⟨_, rfl, hdocument, fun format => ?_⟩
  have hmodule : ∃ top : ModuleClass, format.style.module "g" (.object [("_1", record)]) =
      .ok ⟨"g", [⟨"1", none, []⟩, top]⟩ := by
    cases format <;> exact ⟨_, rfl⟩
  obtain ⟨top, hmodule⟩ := hmodule
  refine ⟨_, hmodule, fun hall => ?_⟩
  have hnumber := (hall _ List.mem_cons_self).1
  revert hnumber
  decide

end ClassFormat

end DottedSchema
