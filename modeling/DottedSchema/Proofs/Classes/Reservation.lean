import DottedSchema.Proofs.Classes.Walk

set_option autoImplicit false

namespace DottedSchema.ClassStyle

/-- Numbers are tried behind a key, one after the other, until the key is free. -/
inductive Search (style : ClassStyle) (used : List ClassEntry) (base : String) : Nat → Nat → Prop
  | found {n : Nat} (free : style.isTaken used (base ++ "_" ++ n.repr) = false) : Search style used base n n
  | next {n last : Nat} (taken : style.isTaken used (base ++ "_" ++ n.repr) = true)
      (rest : Search style used base (n + 1) last) : Search style used base n last

variable {style : ClassStyle} {used : List ClassEntry} {base root : String} {n last k : Nat}
  {properties : List (String × Json)} {walk : Walk}

theorem Search.free (h : style.Search used base n last) : style.isTaken used (base ++ "_" ++ last.repr) = false := by
  induction h with
  | found free => exact free
  | next _ _ ih => exact ih

theorem Search.le (h : style.Search used base n last) : n ≤ last := by
  induction h with
  | found _ => exact Nat.le_refl _
  | next _ _ ih => omega

theorem Search.taken (h : style.Search used base n last) (hn : n ≤ k) (hk : k < last) :
    style.isTaken used (base ++ "_" ++ k.repr) = true := by
  induction h with
  | found _ => omega
  | next taken _ ih =>
    rcases Nat.eq_or_lt_of_le hn with rfl | hlt
    · exact taken
    · exact ih hlt hk

/-- The search ends at the next number that makes a free key, or before. -/
theorem exists_search (h : style.isTaken used (base ++ "_" ++ (n + k).repr) = false) :
    ∃ last ≤ n + k, style.Search used base n last := by
  induction k generalizing n with
  | zero => exact ⟨n, Nat.le_refl n, .found h⟩
  | succ k ih =>
    cases htaken : style.isTaken used (base ++ "_" ++ n.repr) with
    | false => exact ⟨n, Nat.le_add_right n _, .found htaken⟩
    | true =>
      rw [← Nat.add_assoc, Nat.add_right_comm] at h
      obtain ⟨last, hlast, hsearch⟩ := ih h
      exact ⟨last, by omega, .next htaken hsearch⟩

/-- Trying as many keys as can be in use comes to the same key as trying until one is free. -/
theorem numbered_eq (h : style.Search used base 2 last) (hlast : last ≤ style.obstacles used + 2) :
    style.numbered used base = base ++ "_" ++ last.repr := by
  have hle := h.le
  -- the candidate at `i` has the number `i + 2`
  have hfind : (List.range (style.obstacles used + 1)).find?
      ((fun key => !style.isTaken used key) ∘ fun i => base ++ "_" ++ (i + 2).repr) = some (last - 2) := by
    rw [List.find?_range_eq_some, List.mem_range]
    refine ⟨?_, by omega, fun i hi => ?_⟩
    · rw [Function.comp, Nat.sub_add_cancel hle, h.free]
      rfl
    · rw [Function.comp, h.taken (Nat.le_add_left 2 i) (by omega)]
      rfl
  unfold numbered
  dsimp only
  rw [List.find?_map, hfind, Option.map_some, Option.getD_some, Nat.sub_add_cancel hle]

structure Reserves (style : ClassStyle) (used : List ClassEntry) (key : String) (parent : Option String) : Prop where
  /-- The search through the numbers ends, and the key is the first free one. -/
  ends : ∃ last ≤ 2 + 3 + style.imports.length + used.length,
    style.Search used (qualified key parent) 2 last ∧
      style.reserve used key parent = if !style.isTaken used key then key
        else if !style.isTaken used (qualified key parent) then qualified key parent
        else qualified key parent ++ "_" ++ last.repr
  free : style.isTaken used (style.reserve used key parent) = false
  not_registered : ∀ e ∈ used, e.key ≠ style.reserve used key parent ∧
    e.name ≠ style.className (style.reserve used key parent)
  not_imported : style.className (style.reserve used key parent) ∉ style.imports
  not_constant : style.className (style.reserve used key parent) ∉ ["False", "None", "True"]
  /-- In class names a number stays what it is, so different numbers give different names. -/
  name_numbered : style.className = Text.upperCamelCase → ∀ n : Nat,
    style.className (qualified key parent ++ "_" ++ n.repr) = style.className (qualified key parent) ++ n.repr

/-- At every moment of a walk the search for a key ends with a free one. -/
theorem reserves_of_reaches (hnaming : style.className = id ∨ style.className = Text.upperCamelCase)
    (h : style.Reaches root properties walk) (key : String) (parent : Option String) :
    style.Reserves walk.registered key parent := by
  have hnumbers : style.Numbers := hnaming.elim numbers_of_id numbers_of_upperCamelCase
  have hfree := reserve_free hnumbers h.named key parent
  have hnot := fun htaken => Bool.eq_false_iff.1 hfree (isTaken_iff.2 htaken)
  exact {
    ends := by
      obtain ⟨i, hi, hfound⟩ := exists_free hnumbers h.named (qualified key parent)
      rw [Nat.add_comm] at hfound
      obtain ⟨last, hlast, hsearch⟩ := exists_search hfound
      refine ⟨last, ?_, hsearch, ?_⟩
      · change i < 3 + style.imports.length + walk.registered.length + 1 at hi
        omega
      · rw [reserve_eq, numbered_eq hsearch (by omega)]
    free := hfree
    not_registered := fun e he =>
      ⟨fun hkey => hnot (.inl ⟨e, he, hkey⟩), fun hname => hnot (.inr (.inr (.inr ⟨e, he, hname⟩)))⟩
    not_imported := fun himport => hnot (.inr (.inr (.inl himport)))
    not_constant := fun hconstant => hnot (.inr (.inl hconstant))
    name_numbered := fun hname n => by
      rw [hname]
      exact Text.upperCamelCase_numbered _ n }

theorem reserves_of_reaches_third :
    let style := ClassFormat.dataclasses.style
    let record : Json := .object [("properties", .object []), ("type", .text "object")]
    let properties : List (String × Json) := [("A", record), ("G_A", record), ("G_A_2", record)]
    let used : List ClassEntry := [⟨"g", "G"⟩, ⟨"A", "A"⟩, ⟨"G_A", "GA"⟩, ⟨"G_A_2", "GA2"⟩]
    (style.className = id ∨ style.className = Text.upperCamelCase) ∧ style.Reaches "g" properties ⟨used, []⟩ ∧
      style.reserve used "a" (some "g") = "g_a_3" ∧ style.Reserves used "a" (some "g") := by
  intro style record properties used
  let classes : List ClassDef := [⟨"g", "G", none, [⟨"A", "A"⟩, ⟨"G_A", "GA"⟩, ⟨"G_A_2", "GA2"⟩]⟩, ⟨"A", "A", none, []⟩,
    ⟨"G_A", "GA", none, []⟩, ⟨"G_A_2", "GA2", none, []⟩]
  have hnaming : style.className = id ∨ style.className = Text.upperCamelCase := .inr rfl
  have hclasses : style.classes "g" (.object properties) = .ok classes := by
    dsimp only [style, properties, record, classes]
    rfl
  have hreached : style.Reaches "g" properties ⟨used, []⟩ := classes_walked hclasses
  have hreserved : style.reserve used "a" (some "g") = "g_a_3" := by
    dsimp only [style, used]
    decide +kernel
  exact ⟨hnaming, hreached, hreserved, reserves_of_reaches hnaming hreached "a" (some "g")⟩

end DottedSchema.ClassStyle
