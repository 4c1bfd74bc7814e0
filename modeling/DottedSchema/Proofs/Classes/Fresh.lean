import DottedSchema.Classes.Module
import DottedSchema.Proofs.Text.CamelCase
import Mathlib.Data.List.Nodup
import Mathlib.Data.List.Perm.Subperm

set_option autoImplicit false

namespace DottedSchema

namespace ClassStyle

variable {style : ClassStyle} {used : List ClassEntry} {key base name : String} {parent : Option String}

def Numbers (style : ClassStyle) : Prop :=
  ∀ base, Function.Injective fun n : Nat => style.className (base ++ "_" ++ n.repr)

theorem append_repr_injective (base : String) : Function.Injective fun n : Nat => base ++ n.repr := by
  intro n m h
  have hlists := congrArg String.toList h
  rw [String.toList_append, String.toList_append, Nat.toList_repr, Nat.toList_repr] at hlists
  have hread := congrArg (fun digits => Nat.ofDigitChars 10 digits 0) (List.append_cancel_left hlists)
  simpa using hread

theorem numbers_of_upperCamelCase (h : style.className = Text.upperCamelCase) : style.Numbers := by
  intro base n m hnm
  simp only [h, Text.upperCamelCase_numbered] at hnm
  exact append_repr_injective _ hnm

theorem numbers_of_id (h : style.className = id) : style.Numbers := by
  intro base n m hnm
  simp only [h] at hnm
  exact append_repr_injective _ hnm

theorem isTaken_iff : style.isTaken used key = true ↔ (∃ e ∈ used, e.key = key) ∨
    style.className key ∈ constants ∨ style.className key ∈ style.imports ∨
      ∃ e ∈ used, e.name = style.className key := by
  simp [isTaken, or_assoc]

def Named (style : ClassStyle) (used : List ClassEntry) : Prop := ∀ e ∈ used, e.name = style.className e.key

theorem Named.concat (h : style.Named used) (key : String) :
    style.Named (used ++ [⟨key, style.className key⟩]) := by
  intro e he
  rcases List.mem_append.1 he with he | he
  · exact h e he
  · rw [List.mem_singleton.1 he]

def blockers (style : ClassStyle) (used : List ClassEntry) : List String :=
  constants ++ style.imports ++ used.map (·.name)

theorem length_blockers : (style.blockers used).length = style.obstacles used := by
  rw [blockers, obstacles, List.length_append, List.length_append, List.length_map]

theorem isTaken_iff_blocked (hnamed : style.Named used) :
    style.isTaken used key = true ↔ style.className key ∈ style.blockers used := by
  rw [isTaken_iff, blockers, List.mem_append, List.mem_append, List.mem_map, or_assoc]
  constructor
  · rintro (⟨e, he, rfl⟩ | h)
    · exact .inr (.inr ⟨e, he, hnamed e he⟩)
    · exact h
  · exact .inr

/-- Among as many numbered keys as there are names in the way, and one more, there is a free one. -/
theorem exists_free (hnumbers : style.Numbers) (hnamed : style.Named used) (base : String) :
    ∃ i < style.obstacles used + 1, style.isTaken used (base ++ "_" ++ (i + 2).repr) = false := by
  by_contra hnone
  let names := (List.range (style.obstacles used + 1)).map fun i => style.className (base ++ "_" ++ (i + 2).repr)
  have hnodup : names.Nodup := by
    refine List.Nodup.map ?_ List.nodup_range
    intro i j hij
    exact Nat.add_right_cancel (hnumbers base hij)
  have hblocked : names ⊆ style.blockers used := by
    intro name hname
    obtain ⟨i, hi, rfl⟩ := List.mem_map.1 hname
    rw [← isTaken_iff_blocked hnamed]
    by_contra hfree
    exact hnone ⟨i, List.mem_range.1 hi, Bool.eq_false_iff.2 hfree⟩
  -- different numbers make different names, one more of them than can be in the way
  have hlength := (List.subperm_of_subset hnodup hblocked).length_le
  rw [length_blockers, List.length_map, List.length_range] at hlength
  omega

theorem numbered_free (hnumbers : style.Numbers) (hnamed : style.Named used) (base : String) :
    style.isTaken used (style.numbered used base) = false := by
  obtain ⟨i, hi, hfree⟩ := exists_free hnumbers hnamed base
  unfold numbered
  dsimp only
  cases hfind : List.find? (fun key => !style.isTaken used key)
      ((List.range (style.obstacles used + 1)).map fun i => base ++ "_" ++ (i + 2).repr) with
  | some key => simpa using List.find?_some hfind
  | none =>
    have htaken := List.find?_eq_none.1 hfind _ (List.mem_map_of_mem (List.mem_range.2 hi))
    rw [hfree] at htaken
    exact absurd rfl htaken

def qualified (key : String) : Option String → String
  | some parent => parent ++ "_" ++ key
  | none => key

theorem reserve_eq (style : ClassStyle) (used : List ClassEntry) (key : String) (parent : Option String) :
    style.reserve used key parent = if !style.isTaken used key then key
      else if !style.isTaken used (qualified key parent) then qualified key parent
      else style.numbered used (qualified key parent) := by
  cases parent <;> rfl

theorem reserve_free (hnumbers : style.Numbers) (hnamed : style.Named used) (key : String)
    (parent : Option String) : style.isTaken used (style.reserve used key parent) = false := by
  rw [reserve_eq]
  cases hkey : style.isTaken used key with
  | false => exact hkey
  | true =>
    cases hqualified : style.isTaken used (qualified key parent) with
    | false => exact hqualified
    | true => exact numbered_free hnumbers hnamed _

/-- Each class stands under a key that is free after the classes in use and those before it, and bears the name of
that key. -/
def Fresh (style : ClassStyle) (used : List ClassEntry) : List ClassDef → Prop
  | [] => True
  | c :: rest =>
    style.isTaken used c.key = false ∧ c.name = style.className c.key ∧ Fresh style (used ++ [c.entry]) rest

variable {classes others : List ClassDef}

theorem Fresh.append (h : style.Fresh used classes) (h' : style.Fresh (used ++ classes.map ClassDef.entry) others) :
    style.Fresh used (classes ++ others) := by
  induction classes generalizing used with
  | nil =>
    rw [List.map_nil, List.append_nil] at h'
    exact h'
  | cons c rest ih =>
    obtain ⟨hfree, hname, hrest⟩ := h
    refine ⟨hfree, hname, ih hrest ?_⟩
    rwa [List.append_assoc, List.singleton_append, ← List.map_cons]

theorem Fresh.named (h : style.Fresh used classes) (hnamed : style.Named used) :
    style.Named (used ++ classes.map ClassDef.entry) := by
  induction classes generalizing used with
  | nil =>
    rw [List.map_nil, List.append_nil]
    exact hnamed
  | cons c rest ih =>
    obtain ⟨-, hname, hrest⟩ := h
    have hentry : c.entry = ⟨c.key, style.className c.key⟩ := by rw [ClassDef.entry, hname]
    rw [List.map_cons, ← List.singleton_append, ← List.append_assoc]
    exact ih hrest (hentry ▸ hnamed.concat c.key)

mutual

theorem express_fresh (hnumbers : style.Numbers) (used : List ClassEntry) (hnamed : style.Named used)
    (key parent : String) : ∀ shape : Shape, style.Fresh used (style.express used key parent shape).2
  | .leaf _ => trivial
  | .list item => by
    rw [express]
    exact express_fresh hnumbers used hnamed key parent item
  | .record description fields => by
    rw [express]
    refine ⟨reserve_free hnumbers hnamed key (some parent), rfl, ?_⟩
    exact expressFields_fresh hnumbers _ (hnamed.concat _) _ fields

theorem expressFields_fresh (hnumbers : style.Numbers) (used : List ClassEntry) (hnamed : style.Named used)
    (parent : String) : ∀ fields : List (String × Shape), style.Fresh used (style.expressFields used parent fields).2
  | [] => trivial
  | (name, shape) :: rest => by
    rw [expressFields]
    have hfirst := express_fresh hnumbers used hnamed name parent shape
    exact hfirst.append (expressFields_fresh hnumbers _ (hfirst.named hnamed) parent rest)

end

theorem topClasses_fresh (hnumbers : style.Numbers) (root : String) (shape : Shape) :
    style.Fresh [] (style.topClasses root shape) := by
  have hnone : style.Named [] := fun _ he => nomatch he
  cases shape with
  | leaf _ => trivial
  | list _ => trivial
  | record description fields =>
    refine ⟨reserve_free hnumbers hnone root none, rfl, ?_⟩
    exact expressFields_fresh hnumbers _ (hnone.concat _) _ fields

theorem Fresh.name_not_used (h : style.Fresh used classes) {c : ClassDef} (hc : c ∈ classes) {e : ClassEntry}
    (he : e ∈ used) : c.name ≠ e.name := by
  induction classes generalizing used with
  | nil => cases hc
  | cons first rest ih =>
    obtain ⟨hfree, hname, hrest⟩ := h
    rcases List.mem_cons.1 hc with rfl | hc
    · intro heq
      have htaken : style.isTaken used c.key = true :=
        isTaken_iff.2 (.inr (.inr (.inr ⟨e, he, heq.symm.trans hname⟩)))
      rw [hfree] at htaken
      cases htaken
    · exact ih hrest hc (List.mem_append_left _ he)

theorem Fresh.name_eq (h : style.Fresh used classes) {c : ClassDef} (hc : c ∈ classes) :
    c.name = style.className c.key ∧ c.name ∉ style.imports ∧ c.name ∉ constants := by
  induction classes generalizing used with
  | nil => cases hc
  | cons first rest ih =>
    obtain ⟨hfree, hname, hrest⟩ := h
    rcases List.mem_cons.1 hc with rfl | hc
    · have hnot := fun htaken => Bool.eq_false_iff.1 hfree (isTaken_iff.2 htaken)
      rw [hname]
      exact ⟨rfl, fun himport => hnot (.inr (.inr (.inl himport))), fun hconstant => hnot (.inr (.inl hconstant))⟩
    · exact ih hrest hc

theorem Fresh.nodup_names (h : style.Fresh used classes) : (classes.map (·.name)).Nodup := by
  induction classes generalizing used with
  | nil => exact List.nodup_nil
  | cons c rest ih =>
    obtain ⟨-, -, hrest⟩ := h
    refine List.nodup_cons.2 ⟨fun hmem => ?_, ih hrest⟩
    obtain ⟨d, hd, hname⟩ := List.mem_map.1 hmem
    exact hrest.name_not_used hd (List.mem_append_right _ List.mem_cons_self) hname

theorem Fresh.nodup_keys (h : style.Fresh used classes) : (classes.map (·.key)).Nodup := by
  have hnames : classes.map (·.name) = (classes.map (·.key)).map style.className := by
    rw [List.map_map]
    exact List.map_congr_left fun c hc => (h.name_eq hc).1
  have hnodup := h.nodup_names
  rw [hnames] at hnodup
  exact hnodup.of_map

theorem Fresh.eq_of_name (h : style.Fresh used classes) {c d : ClassDef} (hc : c ∈ classes) (hd : d ∈ classes)
    (hname : c.name = d.name) : c = d :=
  List.inj_on_of_nodup_map h.nodup_names hc hd hname

end ClassStyle

theorem ClassFormat.numbers (format : ClassFormat) : format.style.Numbers := by
  cases format <;> exact ClassStyle.numbers_of_upperCamelCase rfl

end DottedSchema
