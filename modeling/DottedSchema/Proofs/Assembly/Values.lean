import DottedSchema.Proofs.Assembly.Content

/-!
# The values of an assembled tree

Several statements can give a value under one key of one place. The values then are equal, though two equal values
may be spelled differently, and the tree holds the one that was given last (`value?_assemble`).
-/
set_option autoImplicit false

namespace DottedSchema

namespace Statement

variable {statements : List Statement} {entries : List (String × Json)} {root : String} {limit : Nat} {q : Path}
  {key : String}

def values (statements : List Statement) (q : Path) (key : String) : List Json :=
  statements.filterMap (·.given? q key)

theorem values_cons (s : Statement) (rest : List Statement) (q : Path) (key : String) :
    values (s :: rest) q key = (s.given? q key).toList ++ values rest q key := by
  rw [values, List.filterMap_cons]
  cases s.given? q key <;> rfl

theorem values_eq_nil (h : ∀ s ∈ statements, s.given? q key = none) : values statements q key = [] :=
  List.filterMap_eq_nil_iff.2 h

theorem values_filter {p : Statement → Bool} (h : ∀ s ∈ statements, p s = false → s.given? q key = none) :
    values (statements.filter p) q key = values statements q key := by
  rw [values, List.filterMap_filter]
  refine List.filterMap_congr fun s hs => ?_
  cases hp : p s with
  | true => rfl
  | false => exact (h s hs hp).symm

theorem values_ofEntries : values (ofEntries root limit entries) q key =
    entries.flatMap fun e => values (ofEntry root limit e.1 e.2) q key := List.filterMap_flatMap

end Statement

namespace Node

open Statement

variable {statements : List Statement} {entries others : List (String × Json)} {root : String} {limit : Nat}
  {tree changed other : Node} {R : String → Option Json → Option Json → Prop}

theorem value?_assertAll (h : assertAll root statements tree = .ok changed) (q : Path) (key : String) :
    changed.value? q key = (values statements q key).getLast?.or (tree.value? q key) := by
  induction statements generalizing tree with
  | nil =>
    cases h
    rfl
  | cons s rest ih =>
    rw [assertAll_cons] at h
    obtain ⟨next, hs, hrest⟩ := bind_eq_ok h
    have hlast : (s.given? q key).toList.getLast? = s.given? q key := by cases s.given? q key <;> rfl
    rw [ih hrest, value?_assert hs, values_cons, List.getLast?_append, hlast, Option.or_assoc]

theorem value?_assemble (h : assemble root limit entries = .ok tree) (q : Path) (key : String) :
    tree.value? q key = (values (ofEntries root limit entries) q key).getLast? := by
  rw [value?_assertAll h, value?_empty, Option.or_none]

theorem related_assemble (h : assemble root limit entries = .ok tree) (h' : assemble root limit others = .ok other)
    (hplace : ∀ q, Content.HasPlace root entries q ↔ Content.HasPlace root others q)
    (hvalue : ∀ q key, R key (values (ofEntries root limit entries) q key).getLast?
      (values (ofEntries root limit others) q key).getLast?) : Related R tree other where
  left := ordered_assemble h
  right := ordered_assemble h'
  has_iff q := by rw [has_assemble_iff h, has_assemble_iff h', hplace]
  value q key := by
    rw [value?_assemble h, value?_assemble h']
    exact hvalue q key

end Node

end DottedSchema
