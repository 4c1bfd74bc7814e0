import DottedSchema.Proofs.Classes.Places
import DottedSchema.Proofs.Classes.ReadBack

set_option autoImplicit false

namespace DottedSchema

open scoped List

def Before {α : Type} (xs : List α) (x y : α) : Prop := [x, y] <+ xs

section

variable {α β : Type} {xs ys : List α} {x y : α}

theorem Before.map (h : Before xs x y) (f : α → β) : Before (xs.map f) (f x) (f y) := List.Sublist.map f h

theorem Before.reverse (h : Before xs x y) : Before xs.reverse y x := List.Sublist.reverse h

end

namespace ClassStyle

/-- An attribute of one class, by its number, was made of the object node that another class belongs to. -/
def Refers (properties : List (String × Skeleton)) (classes : List ClassDef) (c : ClassDef) (number : Nat)
    (d : ClassDef) : Prop :=
  ∃ place, ClassAt properties classes place c ∧ ClassAt properties classes (place ++ [number]) d

def listed (style : ClassStyle) (levels : Nat) (d : ClassDef) : String :=
  style.listOf^[levels] (style.nested d.name)

structure References (style : ClassStyle) (root : String) (properties : List (String × Skeleton))
    (classes : List ClassDef) : Prop where
  one_class : ∀ place, (Skeleton.objectAt? properties place).isSome → ∃! c, ClassAt properties classes place c
  one_place : ∀ c ∈ classes, ∃! place, ClassAt properties classes place c
  names : ∀ place c below, ClassAt properties classes place c → Skeleton.objectAt? properties place = some below →
    c.attributes.map (·.name) = below.map (·.1)
  /-- An attribute made of an object node refers to a class that is listed later and written earlier. -/
  backward : ∀ place c below number name s levels inner, ClassAt properties classes place c →
    Skeleton.objectAt? properties place = some below → below[number]? = some (name, s) →
    s.core? = some (levels, inner) → ∃ d, ClassAt properties classes (place ++ [number]) d ∧
      c.attributes[number]? = some ⟨name, style.listed levels d⟩ ∧ Before classes c d ∧ Before classes.reverse d c ∧
      Before (ClassModule.ofClasses root classes).classes (ClassModule.ofClass d) (ClassModule.ofClass c)
  top_last : ∃ c, ClassAt properties classes [] c ∧ classes.reverse.getLast? = some c ∧
    (ClassModule.ofClasses root classes).classes.getLast? = some (ClassModule.ofClass c)
  referred_once : ∀ d ∈ classes, ¬ ClassAt properties classes [] d →
    ∃! r : ClassDef × Nat, Refers properties classes r.1 r.2 d
  /-- Where expressions can be told apart, its name stands in one attribute of one class. -/
  named_once : style.Unambiguous classes → ∀ d ∈ classes, ¬ ClassAt properties classes [] d →
    ∃! r : ClassDef × Nat, r.1 ∈ classes ∧
      ∃ name levels, r.1.attributes[r.2]? = some ⟨name, style.listed levels d⟩

variable {style : ClassStyle} {properties below : List (String × Skeleton)} {classes own rest : List ClassDef}
  {top c d : ClassDef} {place : List Nat} {number levels : Nat} {name expression : String} {s : Skeleton}

theorem ClassAt.reference {inner : List (String × Skeleton)} (h : style.CollectsAll properties top.attributes rest)
    (hc : ClassAt properties (top :: rest) place c) (hplace : Skeleton.objectAt? properties place = some below)
    (hp : below[number]? = some (name, s)) (hcore : s.core? = some (levels, inner)) :
    ∃ d, ClassAt properties (top :: rest) (place ++ [number]) d ∧
      c.attributes[number]? = some ⟨name, style.listed levels d⟩ ∧ Before (top :: rest) c d := by
  obtain ⟨cs, hbelow, -, hsub⟩ := hc.collects h hplace
  obtain ⟨expression, own, hattribute, hcollects, -, hown⟩ := hbelow.property hp 0
  obtain ⟨d, ds, rfl, rfl, -⟩ := hcollects.core hcore
  -- the class of the property's node is the first that is collected from the property
  have hd : ([number], d) ∈ (Skeleton.placesFrom 0 below).zip cs := by
    refine hown.subset ?_
    rw [Skeleton.places_of_core? hcore, Skeleton.places, Nat.zero_add, List.map_cons]
    exact List.mem_cons_self
  have hdown : (place ++ [number], d) ∈ ((Skeleton.placesFrom 0 below).map (place ++ ·)).zip cs := by
    rw [List.zip_map_left]
    exact List.mem_map_of_mem hd
  have hpair : [(place ++ [], c), (place ++ [number], d)] <+ (Skeleton.object properties).places.zip (top :: rest) :=
    (List.Sublist.cons_cons _ (List.singleton_sublist.2 hdown)).trans hsub
  refine ⟨d, hpair.subset (List.mem_cons_of_mem _ List.mem_cons_self), hattribute, ?_⟩
  have hsnd := hpair.map Prod.snd
  rwa [List.map_snd_zip (Nat.le_of_eq h.length_places.symm)] at hsnd

theorem Collects.core_of_listed (hforms : style.Unambiguous classes) (hd : d ∈ classes) :
    ∀ {s : Skeleton} {expression : String} {own : List ClassDef} {levels : Nat}, style.Collects s expression own →
      own ⊆ classes → expression = style.listed levels d → ∃ inner, s.core? = some (levels, inner)
  | _, _, _, 0, .scalar supported, _, he => nomatch hforms _ (.scalar _) (.reference d) supported ⟨hd, he⟩
  | _, _, _, 0, .array _, _, he => nomatch hforms _ (.list _) (.reference d) rfl ⟨hd, he⟩
  | _, _, _, 0, .object _, _, _ => ⟨_, rfl⟩
  | _, _, _, levels + 1, .scalar supported, _, he => by
    rw [listed, Function.iterate_succ_apply'] at he
    nomatch hforms _ (.scalar _) (.list _) supported he
  | _, _, _, levels + 1, .array below, hown, he => by
    rw [listed, Function.iterate_succ_apply'] at he
    obtain he := Form.list.inj (hforms _ (.list _) (.list _) rfl he)
    obtain ⟨inner, hcore⟩ := below.core_of_listed hforms hd hown he
    exact ⟨inner, by rw [Skeleton.core?, hcore]; rfl⟩
  | _, _, _, levels + 1, .object _, hown, he => by
    rw [listed, Function.iterate_succ_apply'] at he
    nomatch hforms _ (.reference _) (.list _) ⟨hown List.mem_cons_self, rfl⟩ he

theorem listed_injective (hforms : style.Unambiguous classes) (hc : c ∈ classes) (hd : d ∈ classes)
    (h : style.listed levels c = style.listed levels d) : c = d := by
  induction levels with
  | zero => exact Form.reference.inj (hforms _ (.reference c) (.reference d) ⟨hc, rfl⟩ ⟨hd, h⟩)
  | succ levels ih =>
    rw [listed, listed, Function.iterate_succ_apply', Function.iterate_succ_apply'] at h
    exact ih (Form.list.inj (hforms _ (.list _) (.list _) rfl h))

theorem ClassAt.parent (hd : ClassAt properties classes (place ++ [number]) d) :
    ∃ below name s levels inner, Skeleton.objectAt? properties place = some below ∧
      below[number]? = some (name, s) ∧ s.core? = some (levels, inner) := by
  obtain ⟨qs, hqs⟩ := Option.isSome_iff_exists.1 hd.objectAt?
  rw [Skeleton.objectAt?_append] at hqs
  obtain ⟨below, hplace, hqs⟩ := Option.bind_eq_some_iff.1 hqs
  obtain ⟨⟨name, s⟩, hp, hqs⟩ := Option.bind_eq_some_iff.1 hqs
  obtain ⟨⟨levels, inner⟩, hcore, -⟩ := Option.bind_eq_some_iff.1 hqs
  exact ⟨below, name, s, levels, inner, hplace, hp, hcore⟩

theorem Refers.attribute (h : style.CollectsAll properties top.attributes rest)
    (hr : Refers properties (top :: rest) c number d) :
    ∃ name levels, c.attributes[number]? = some ⟨name, style.listed levels d⟩ := by
  obtain ⟨place, hc, hd⟩ := hr
  obtain ⟨below, name, s, levels, inner, hplace, hp, hcore⟩ := hd.parent
  obtain ⟨d', hd', hattribute, -⟩ := hc.reference h hplace hp hcore
  cases hd.unique hd'
  exact ⟨name, levels, hattribute⟩

theorem refers_of_attribute (h : style.CollectsAll properties top.attributes rest)
    (hforms : style.Unambiguous (top :: rest)) (hc : c ∈ top :: rest) (hd : d ∈ top :: rest)
    (hattribute : c.attributes[number]? = some ⟨name, style.listed levels d⟩) :
    Refers properties (top :: rest) c number d := by
  obtain ⟨place, hplace⟩ := h.exists_place hc
  obtain ⟨below, hbelow⟩ := Option.isSome_iff_exists.1 hplace.objectAt?
  obtain ⟨cs, hcollects, hcs, -⟩ := hplace.collects h hbelow
  have hname : (below.map (·.1))[number]? = some name := by
    rw [← hcollects.names, List.getElem?_map, hattribute]
    rfl
  rw [List.getElem?_map] at hname
  obtain ⟨⟨_, s⟩, hp, rfl⟩ := Option.map_eq_some_iff.1 hname
  obtain ⟨expression, own, hattribute', hown, hsub, -⟩ := hcollects.property hp 0
  have hexpression : expression = style.listed levels d :=
    congrArg Attribute.expression (Option.some.inj (hattribute'.symm.trans hattribute))
  have howned : own ⊆ top :: rest := fun _ he => hcs.subset (List.mem_cons_of_mem _ (hsub.subset he))
  obtain ⟨inner, hcore⟩ := hown.core_of_listed hforms hd howned hexpression
  obtain ⟨d', hd', hattribute', -⟩ := hplace.reference h hbelow hp hcore
  have hlisted : style.listed levels d' = style.listed levels d :=
    congrArg Attribute.expression (Option.some.inj (hattribute'.symm.trans hattribute))
  rw [listed_injective hforms hd'.mem hd hlisted] at hd'
  exact ⟨place, hplace, hd'⟩

theorem refers_unique (hnodup : classes.Nodup) {c' : ClassDef} {number' : Nat}
    (h : Refers properties classes c number d) (h' : Refers properties classes c' number' d) :
    (c, number) = (c', number') := by
  obtain ⟨place, hc, hd⟩ := h
  obtain ⟨place', hc', hd'⟩ := h'
  obtain ⟨rfl, hnumber⟩ := List.append_inj' (hd.place_unique hnodup hd') rfl
  cases hnumber
  rw [hc.unique hc']

theorem exists_refers (h : style.CollectsAll properties top.attributes rest) (hd : d ∈ top :: rest)
    (hother : ¬ ClassAt properties (top :: rest) [] d) :
    ∃ c number, Refers properties (top :: rest) c number d := by
  obtain ⟨place, hplace⟩ := h.exists_place hd
  rcases List.eq_nil_or_concat place with rfl | ⟨place, number, rfl⟩
  · exact absurd hplace hother
  · rw [List.concat_eq_append] at hplace
    obtain ⟨below, -, -, -, -, hbelow, -⟩ := hplace.parent
    obtain ⟨c, hc⟩ := h.exists_class (Option.isSome_iff_exists.2 ⟨below, hbelow⟩)
    exact ⟨c, number, place, hc, hplace⟩

theorem CollectsAll.references (h : style.CollectsAll properties top.attributes rest) (hnodup : (top :: rest).Nodup)
    (root : String) : style.References root properties (top :: rest) where
  one_class := fun _ hplace => by
    obtain ⟨c, hc⟩ := h.exists_class hplace
    exact ⟨c, hc, fun _ hd => hd.unique hc⟩
  one_place := fun _ hc => by
    obtain ⟨place, hplace⟩ := h.exists_place hc
    exact ⟨place, hplace, fun _ hother => hother.place_unique hnodup hplace⟩
  names := fun _ _ _ hc hplace => by
    obtain ⟨_, hcollects, -⟩ := hc.collects h hplace
    exact hcollects.names
  backward := fun _ _ _ _ _ _ _ _ hc hplace hp hcore => by
    obtain ⟨d, hd, hattribute, hbefore⟩ := hc.reference h hplace hp hcore
    exact ⟨d, hd, hattribute, hbefore, hbefore.reverse, hbefore.reverse.map ClassModule.ofClass⟩
  top_last := by
    refine ⟨top, List.mem_cons_self, ?_, ?_⟩
    · rw [List.getLast?_reverse]
      rfl
    · rw [ClassModule.ofClasses, List.getLast?_map, List.getLast?_reverse]
      rfl
  referred_once := fun _ hd hother => by
    obtain ⟨c, number, hc⟩ := exists_refers h hd hother
    exact ⟨(c, number), hc, fun _ hr => refers_unique hnodup hr hc⟩
  named_once := fun hforms _ hd hother => by
    obtain ⟨c, number, hc⟩ := exists_refers h hd hother
    obtain ⟨_, hplace, -⟩ := id hc
    refine ⟨(c, number), ⟨hplace.mem, hc.attribute h⟩, fun r hr => ?_⟩
    obtain ⟨hmem, _, _, hattribute⟩ := hr
    exact refers_unique hnodup (refers_of_attribute h hforms hmem hd hattribute) hc

/-- In the classes of a schema every reference goes to a class that the module defines before, and every class but
the last one is referred to once. -/
theorem classes_references {root : String} {document : Json}
    (hnaming : style.className = id ∨ style.className = Text.upperCamelCase)
    (h : style.classes root document = .ok classes) :
    ∃ skeletons, (Shape.topNode document).HasSkeleton (.object skeletons) ∧
      style.module root document = .ok (ClassModule.ofClasses root classes) ∧
      style.References root skeletons classes := by
  have hnumbers : style.Numbers := hnaming.elim numbers_of_id numbers_of_upperCamelCase
  have hnodup : classes.Nodup := (classes_fresh hnumbers h).nodup_names.of_map
  have hmodule : style.module root document = .ok (ClassModule.ofClasses root classes) := by
    rw [ClassStyle.module, h]
    rfl
  obtain ⟨top, rest, skeletons, rfl, hskeleton, hcollects⟩ := classes_ok h
  exact ⟨skeletons, hskeleton, hmodule, hcollects.references hnodup root⟩

theorem classes_references_nested :
    let style : ClassStyle := {
      scalar := fun _ => some "any"
      listOf := fun e => "[" ++ e ++ "]"
      nested := fun c => "&" ++ c
      imports := ["any"]
      className := id }
    let record (properties : List (String × Json)) : Json :=
      .object [("properties", .object properties), ("type", .text "object")]
    let list (items : Json) : Json := .object [("items", items), ("type", .text "array")]
    let document : Json := .object [("a", list (list (record [("a", record [("x", .object [("type", .text "date")])])]))),
      ("any", record [])]
    let classes : List ClassDef := [⟨"g", "g", none, [⟨"a", "[[&a]]"⟩, ⟨"any", "&g_any"⟩]⟩,
      ⟨"a", "a", none, [⟨"a", "&a_a"⟩]⟩, ⟨"a_a", "a_a", none, [⟨"x", "any"⟩]⟩, ⟨"g_any", "g_any", none, []⟩]
    (style.className = id ∨ style.className = Text.upperCamelCase) ∧ style.classes "g" document = .ok classes ∧
      ∃ skeletons, (Shape.topNode document).HasSkeleton (.object skeletons) ∧
        style.module "g" document = .ok (ClassModule.ofClasses "g" classes) ∧
        style.References "g" skeletons classes := by
  intro style record list document classes
  have hclasses : style.classes "g" document = .ok classes := by
    dsimp only [style, document, list, record, classes]
    rfl
  exact ⟨.inl rfl, hclasses, classes_references (.inl rfl) hclasses⟩

end ClassStyle

end DottedSchema
