import DottedSchema.Proofs.Classes.Collection
import Mathlib.Data.List.Zip
import Mathlib.Logic.Function.Iterate

set_option autoImplicit false

namespace DottedSchema

namespace Skeleton

def core? : Skeleton → Option (Nat × List (String × Skeleton))
  | .scalar _ => none
  | .array s => s.core?.map fun found => (found.1 + 1, found.2)
  | .object properties => some (0, properties)

def objectAt? : List (String × Skeleton) → List Nat → Option (List (String × Skeleton))
  | properties, [] => some properties
  | properties, number :: place =>
    properties[number]?.bind fun p => p.2.core?.bind fun found => objectAt? found.2 place

mutual

/-- The places of the object nodes in a skeleton, each before those below it. A place is the numbers of the properties
that lead there, with arrays passed over. -/
def places : Skeleton → List (List Nat)
  | .scalar _ => []
  | .array s => places s
  | .object properties => [] :: placesFrom 0 properties

def placesFrom : Nat → List (String × Skeleton) → List (List Nat)
  | _, [] => []
  | number, (_, s) :: rest => (places s).map (number :: ·) ++ placesFrom (number + 1) rest

end

variable {properties below : List (String × Skeleton)} {place : List Nat} {levels number : Nat}

theorem places_of_core? : ∀ {s : Skeleton} {levels : Nat} {below : List (String × Skeleton)},
    s.core? = some (levels, below) → s.places = (Skeleton.object below).places
  | .array s, _, _, h => by
    obtain ⟨⟨inner, properties⟩, hcore, he⟩ := Option.map_eq_some_iff.1 h
    cases he
    rw [places]
    exact places_of_core? hcore
  | .object properties, _, _, h => by
    cases h
    rfl

theorem places_of_core?_eq_none : ∀ {s : Skeleton}, s.core? = none → s.places = []
  | .scalar _, _ => rfl
  | .array s, h => by
    rw [places]
    exact places_of_core?_eq_none (Option.map_eq_none_iff.1 h)

theorem mem_placesFrom {first : Nat} : place ∈ placesFrom first properties ↔
    ∃ number p rest, properties[number]? = some p ∧ rest ∈ p.2.places ∧ place = (first + number) :: rest := by
  induction properties generalizing first with
  | nil => simp [placesFrom]
  | cons p others ih =>
    obtain ⟨name, s⟩ := p
    rw [placesFrom, List.mem_append, List.mem_map, ih]
    constructor
    · rintro (⟨rest, hrest, rfl⟩ | ⟨number, p, rest, hp, hrest, rfl⟩)
      · exact ⟨0, (name, s), rest, rfl, hrest, rfl⟩
      · exact ⟨number + 1, p, rest, hp, hrest, by rw [Nat.add_assoc, Nat.add_comm 1]⟩
    · rintro ⟨number, p, rest, hp, hrest, rfl⟩
      cases number with
      | zero =>
        cases hp
        exact .inl ⟨rest, hrest, rfl⟩
      | succ number => exact .inr ⟨number, p, rest, hp, hrest, by rw [Nat.add_assoc, Nat.add_comm 1]⟩

theorem mem_places_object : place ∈ (Skeleton.object properties).places ↔ (objectAt? properties place).isSome := by
  induction place generalizing properties with
  | nil => exact ⟨fun _ => rfl, fun _ => List.mem_cons_self⟩
  | cons number rest ih =>
    rw [places, List.mem_cons, mem_placesFrom, objectAt?]
    constructor
    · rintro (he | ⟨_, p, _, hp, hrest, he⟩)
      · cases he
      · obtain ⟨rfl, rfl⟩ := List.cons_eq_cons.1 he
        cases hcore : p.2.core? with
        | none =>
          rw [places_of_core?_eq_none hcore] at hrest
          cases hrest
        | some found =>
          rw [places_of_core? hcore] at hrest
          rw [Nat.zero_add, hp, Option.bind_some, hcore]
          exact ih.1 hrest
    · intro hsome
      obtain ⟨qs, hqs⟩ := Option.isSome_iff_exists.1 hsome
      obtain ⟨p, hp, hqs⟩ := Option.bind_eq_some_iff.1 hqs
      obtain ⟨found, hcore, hqs⟩ := Option.bind_eq_some_iff.1 hqs
      refine .inr ⟨number, p, rest, hp, ?_, by rw [Nat.zero_add]⟩
      rw [places_of_core? hcore]
      exact ih.2 (Option.isSome_iff_exists.2 ⟨qs, hqs⟩)

theorem objectAt?_append (properties : List (String × Skeleton)) (place rest : List Nat) :
    objectAt? properties (place ++ rest) = (objectAt? properties place).bind (objectAt? · rest) := by
  induction place generalizing properties with
  | nil => rfl
  | cons number place ih =>
    rw [List.cons_append, objectAt?, objectAt?, Option.bind_assoc]
    congr 1
    funext p
    rw [Option.bind_assoc]
    congr 1
    funext found
    exact ih found.2

mutual

theorem places_nodup : ∀ s : Skeleton, s.places.Nodup
  | .scalar _ => List.nodup_nil
  | .array s => by
    rw [places]
    exact places_nodup s
  | .object properties => by
    rw [places]
    refine List.nodup_cons.2 ⟨fun hmem => ?_, placesFrom_nodup 0 properties⟩
    obtain ⟨_, _, _, _, _, he⟩ := mem_placesFrom.1 hmem
    cases he

theorem placesFrom_nodup : ∀ (first : Nat) (properties : List (String × Skeleton)), (placesFrom first properties).Nodup
  | _, [] => List.nodup_nil
  | first, (_, s) :: rest => by
    rw [placesFrom]
    refine List.nodup_append'.2 ⟨(places_nodup s).map fun _ _ he => List.tail_eq_of_cons_eq he,
      placesFrom_nodup (first + 1) rest, fun place hmem hmem' => ?_⟩
    obtain ⟨place, -, rfl⟩ := List.mem_map.1 hmem
    obtain ⟨number, p, rest, -, -, he⟩ := mem_placesFrom.1 hmem'
    have hnumber := List.head_eq_of_cons_eq he
    omega

end

end Skeleton

namespace ClassStyle

open scoped List

variable {style : ClassStyle} {properties below : List (String × Skeleton)} {attributes : List Attribute}
  {classes own : List ClassDef} {s : Skeleton} {name expression : String} {number first levels : Nat}

mutual

theorem Collects.length_places {s : Skeleton} {expression : String} {classes : List ClassDef} :
    style.Collects s expression classes → s.places.length = classes.length
  | .scalar _ => rfl
  | .array below => by
    rw [Skeleton.places]
    exact below.length_places
  | .object below => by
    rw [Skeleton.places, List.length_cons, List.length_cons, below.length_placesFrom 0]

theorem CollectsAll.length_placesFrom {properties : List (String × Skeleton)} {attributes : List Attribute}
    {classes : List ClassDef} :
    style.CollectsAll properties attributes classes →
      ∀ first, (Skeleton.placesFrom first properties).length = classes.length
  | .nil, _ => rfl
  | .cons head rest, first => by
    rw [Skeleton.placesFrom, List.length_append, List.length_append, List.length_map, head.length_places,
      rest.length_placesFrom]

end

theorem CollectsAll.property {name : String} {s : Skeleton} : ∀ {properties : List (String × Skeleton)}
    {attributes : List Attribute} {classes : List ClassDef} {number : Nat},
    style.CollectsAll properties attributes classes → properties[number]? = some (name, s) → ∀ first,
      ∃ expression own, attributes[number]? = some ⟨name, expression⟩ ∧ style.Collects s expression own ∧
        own <+ classes ∧
        (s.places.map ((first + number) :: ·)).zip own <+ (Skeleton.placesFrom first properties).zip classes
  | _, _, _, 0, .cons head rest, h, first => by
    cases h
    refine ⟨_, _, rfl, head, List.sublist_append_left _ _, ?_⟩
    rw [Skeleton.placesFrom, List.zip_append ((List.length_map _).trans head.length_places)]
    exact List.sublist_append_left _ _
  | _, _, _, number + 1, .cons head rest, h, first => by
    obtain ⟨expression, own, hattribute, hcollects, hown, hsub⟩ := rest.property h (first + 1)
    refine ⟨expression, own, hattribute, hcollects, hown.trans (List.sublist_append_right _ _), ?_⟩
    rw [Skeleton.placesFrom, List.zip_append ((List.length_map _).trans head.length_places)]
    rw [Nat.add_assoc, Nat.add_comm 1] at hsub
    exact hsub.trans (List.sublist_append_right _ _)

theorem Collects.core : ∀ {s : Skeleton} {expression : String} {own : List ClassDef} {levels : Nat}
    {below : List (String × Skeleton)}, style.Collects s expression own → s.core? = some (levels, below) →
      ∃ c rest, own = c :: rest ∧ expression = style.listOf^[levels] (style.nested c.name) ∧
        style.CollectsAll below c.attributes rest
  | _, _, _, _, _, .array inner, h => by
    obtain ⟨⟨levels, below⟩, hcore, he⟩ := Option.map_eq_some_iff.1 h
    cases he
    obtain ⟨c, rest, hown, hexpression, hbelow⟩ := inner.core hcore
    refine ⟨c, rest, hown, ?_, hbelow⟩
    rw [Function.iterate_succ_apply', hexpression]
  | _, _, _, _, _, .object below, h => by
    cases h
    exact ⟨_, _, rfl, rfl, below⟩

/-- The classes at and below a place are collected from the object there, and stand in the order of its nodes. -/
theorem CollectsAll.at_place {top : ClassDef} {rest : List ClassDef} {place : List Nat}
    (h : style.CollectsAll properties top.attributes rest)
    (hplace : Skeleton.objectAt? properties place = some below) :
    ∃ c cs, style.CollectsAll below c.attributes cs ∧ c :: cs <+ top :: rest ∧
      ((Skeleton.object below).places.map (place ++ ·)).zip (c :: cs) <+
        (Skeleton.object properties).places.zip (top :: rest) := by
  induction place generalizing properties top rest with
  | nil =>
    cases hplace
    exact ⟨top, rest, h, List.Sublist.refl _, by simp⟩
  | cons number place ih =>
    obtain ⟨⟨name, s⟩, hp, hplace⟩ := Option.bind_eq_some_iff.1 hplace
    obtain ⟨⟨levels, inner⟩, hcore, hplace⟩ := Option.bind_eq_some_iff.1 hplace
    obtain ⟨expression, own, -, hcollects, hown, hsub⟩ := h.property hp 0
    obtain ⟨d, ds, rfl, -, hinner⟩ := hcollects.core hcore
    obtain ⟨c, cs, hbelow, hcs, hsub'⟩ := ih hinner hplace
    refine ⟨c, cs, hbelow, (hcs.trans hown).trans (List.sublist_cons_self _ _), ?_⟩
    have hshift := hsub'.map (Prod.map (number :: ·) id)
    rw [← List.zip_map_left, ← List.zip_map_left, List.map_map, ← Skeleton.places_of_core? hcore] at hshift
    rw [Nat.zero_add] at hsub
    have hzip : (Skeleton.object properties).places.zip (top :: rest) =
        ([], top) :: (Skeleton.placesFrom 0 properties).zip rest := rfl
    rw [hzip]
    exact (hshift.trans hsub).trans (List.sublist_cons_self _ _)

theorem CollectsAll.names : ∀ {properties : List (String × Skeleton)} {attributes : List Attribute}
    {classes : List ClassDef}, style.CollectsAll properties attributes classes →
      attributes.map (·.name) = properties.map (·.1)
  | _, _, _, .nil => rfl
  | _, _, _, .cons _ rest => congrArg (List.cons _) rest.names

def ClassAt (properties : List (String × Skeleton)) (classes : List ClassDef) (place : List Nat)
    (c : ClassDef) : Prop :=
  (place, c) ∈ (Skeleton.object properties).places.zip classes

section

variable {α β : Type} {xs : List α} {ys : List β} {x x' : α} {y y' : β}

theorem mem_zip_right_unique (hnodup : xs.Nodup) (h : (x, y) ∈ xs.zip ys) (h' : (x, y') ∈ xs.zip ys) : y = y' := by
  obtain ⟨i, hi⟩ := List.mem_iff_getElem?.1 h
  obtain ⟨j, hj⟩ := List.mem_iff_getElem?.1 h'
  rw [List.getElem?_zip_eq_some] at hi hj
  have hij : i = j := (List.getElem?_inj (List.getElem?_eq_some_iff.1 hi.1).1 hnodup).1 (hi.1.trans hj.1.symm)
  subst hij
  exact Option.some.inj (hi.2.symm.trans hj.2)

theorem mem_zip_left_unique (hnodup : ys.Nodup) (h : (x, y) ∈ xs.zip ys) (h' : (x', y) ∈ xs.zip ys) : x = x' := by
  rw [← List.zip_swap] at h h'
  obtain ⟨⟨_, _⟩, hp, he⟩ := List.mem_map.1 h
  obtain ⟨⟨_, _⟩, hp', he'⟩ := List.mem_map.1 h'
  cases he
  cases he'
  exact mem_zip_right_unique hnodup hp hp'

end

variable {top c d : ClassDef} {rest : List ClassDef} {place : List Nat}

theorem ClassAt.mem (h : ClassAt properties classes place c) : c ∈ classes := (List.of_mem_zip h).2

theorem ClassAt.objectAt? (h : ClassAt properties classes place c) : (Skeleton.objectAt? properties place).isSome :=
  Skeleton.mem_places_object.1 (List.of_mem_zip h).1

theorem ClassAt.unique (h : ClassAt properties classes place c) (h' : ClassAt properties classes place d) : c = d :=
  mem_zip_right_unique (Skeleton.places_nodup _) h h'

theorem ClassAt.place_unique {place' : List Nat} (hnodup : classes.Nodup) (h : ClassAt properties classes place c)
    (h' : ClassAt properties classes place' c) : place = place' :=
  mem_zip_left_unique hnodup h h'

theorem CollectsAll.length_places (h : style.CollectsAll properties top.attributes rest) :
    (Skeleton.object properties).places.length = (top :: rest).length :=
  congrArg (· + 1) (h.length_placesFrom 0)

theorem CollectsAll.exists_place (h : style.CollectsAll properties top.attributes rest) (hc : c ∈ top :: rest) :
    ∃ place, ClassAt properties (top :: rest) place c := by
  rw [← List.map_snd_zip (Nat.le_of_eq h.length_places.symm)] at hc
  obtain ⟨⟨place, _⟩, hmem, rfl⟩ := List.mem_map.1 hc
  exact ⟨place, hmem⟩

theorem CollectsAll.exists_class (h : style.CollectsAll properties top.attributes rest)
    (hplace : (Skeleton.objectAt? properties place).isSome) : ∃ c, ClassAt properties (top :: rest) place c := by
  rw [← Skeleton.mem_places_object, ← List.map_fst_zip (Nat.le_of_eq h.length_places)] at hplace
  obtain ⟨⟨_, c⟩, hmem, rfl⟩ := List.mem_map.1 hplace
  exact ⟨c, hmem⟩

theorem ClassAt.collects (hc : ClassAt properties (top :: rest) place c)
    (h : style.CollectsAll properties top.attributes rest)
    (hplace : Skeleton.objectAt? properties place = some below) :
    ∃ cs, style.CollectsAll below c.attributes cs ∧ c :: cs <+ top :: rest ∧
      ((Skeleton.object below).places.map (place ++ ·)).zip (c :: cs) <+
        (Skeleton.object properties).places.zip (top :: rest) := by
  obtain ⟨d, cs, hbelow, hcs, hsub⟩ := h.at_place hplace
  have hd : ClassAt properties (top :: rest) place d := by
    refine hsub.subset ?_
    rw [Skeleton.places, List.map_cons, List.append_nil]
    exact List.mem_cons_self
  cases hc.unique hd
  exact ⟨cs, hbelow, hcs, hsub⟩

end ClassStyle

end DottedSchema
