import DottedSchema.Proofs.Assembly.Spacing
import DottedSchema.Proofs.Curation

set_option autoImplicit false

namespace DottedSchema

def Path.Addressed (root : String) (place : Path) : Prop :=
  parse (dotted (.field root :: place)) = .ok (.field root :: place)

namespace Content

variable {root : String} {entries : List (String × Json)} {place : Path} {members : List (String × Json)}

/-- Each child that is written inside metadata has a name that a path could have. -/
def ProperlyNamed (root : String) (entries : List (String × Json)) : Prop :=
  ∀ place members key below, Put root entries place members → (key, Json.object below) ∈ members →
    key ∉ Statement.reservedKeys → Path.IsName key

theorem Put.names (h : Put root entries place members) (hnamed : ProperlyNamed root entries) :
    ∀ name, .field name ∈ place → Path.IsName name := by
  induction h with
  | entry _ hparse => exact fun name hm => (Path.canonical_of_parse hparse).names name (List.mem_cons_of_mem _ hm)
  | inline hput hmem hfree ih =>
    intro name hm
    rcases List.mem_append.1 hm with hm | hm
    · exact ih name hm
    · cases List.mem_singleton.1 hm
      exact hnamed _ _ _ _ hput hmem hfree

theorem HasPlace.names (h : HasPlace root entries place) (hnamed : ProperlyNamed root entries) :
    ∀ name, .field name ∈ place → Path.IsName name := by
  obtain ⟨lower, members, hput, hplace⟩ := h
  exact fun name hm => hput.names hnamed name (hplace.subset hm)

theorem OnPath.addressed (h : OnPath root entries place) : Path.Addressed root place := by
  obtain ⟨e, -, lower, hparse, hplace⟩ := h
  have hcanonical : Path.Canonical (.field root :: place) :=
    (Path.canonical_of_parse hparse).initial (List.cons_prefix_cons.2 ⟨rfl, hplace⟩)
  exact Path.parse_dotted hcanonical (List.cons_ne_nil _ _)

end Content

namespace Node

open Content

variable {root : String} {entries : List (String × Json)} {limit : Nat} {tree : Node} {place : Path}

theorem isSome_onPath (h : assemble root limit entries = .ok tree) (hpath : OnPath root entries place) :
    (tree.get? place).isSome := by
  obtain ⟨⟨path, value⟩, he, lower, hparse, hplace⟩ := hpath
  obtain ⟨_, members, rfl, -⟩ := entry_of_assemble h he
  exact (has_assemble_iff h place).2 (.inr ⟨lower, members, .entry he hparse, hplace⟩)

theorem addressed_iff (hroot : Path.parse root = .ok [.field root]) (h : assemble root limit entries = .ok tree)
    (hplace : (tree.get? place).isSome) :
    Path.Addressed root place ↔ ∀ name, .field name ∈ place → Path.IsName name := by
  constructor
  · exact fun haddressed name hm => (Path.canonical_of_parse haddressed).names name (List.mem_cons_of_mem _ hm)
  · intro hnames
    have hspaced : Path.Spaced (.field root :: place) := Path.spaced_cons_field.2 (assemble_spaced h hplace).chain
    refine Path.parse_dotted ⟨hspaced, fun name hm => ?_⟩ (List.cons_ne_nil _ _)
    rcases List.mem_cons.1 hm with hfirst | hm
    · exact (Path.canonical_of_parse hroot).names name (hfirst ▸ List.mem_cons_self)
    · exact hnames name hm

theorem all_addressed_iff (hroot : Path.parse root = .ok [.field root]) (h : assemble root limit entries = .ok tree) :
    (∀ place, (tree.get? place).isSome → Path.Addressed root place) ↔ ProperlyNamed root entries := by
  constructor
  · intro hall place members key below hput hmem hfree
    have hchild : HasPlace root entries (place ++ [.field key]) :=
      ⟨_, below, hput.inline hmem hfree, List.prefix_refl _⟩
    have hget := (has_assemble_iff h _).2 (.inr hchild)
    exact (addressed_iff hroot h hget).1 (hall _ hget) key (List.mem_append_right _ List.mem_cons_self)
  · intro hnamed place hget
    rw [addressed_iff hroot h hget]
    rcases (has_assemble_iff h place).1 hget with rfl | hplace
    · exact fun name hm => absurd hm List.not_mem_nil
    · exact hplace.names hnamed

/-- The nodes on the paths of entries can be addressed, any other node exactly when the names that lead to it are
proper, and so all nodes exactly when the inline children are properly named. -/
theorem assemble_addressed (hroot : Path.parse root = .ok [.field root])
    (h : assemble root limit entries = .ok tree) :
    (∀ place, OnPath root entries place → (tree.get? place).isSome ∧ Path.Addressed root place) ∧
      (∀ place, (tree.get? place).isSome →
        (Path.Addressed root place ↔ ∀ name, .field name ∈ place → Path.IsName name)) ∧
      ((∀ place, (tree.get? place).isSome → Path.Addressed root place) ↔ ProperlyNamed root entries) := by
  exact ⟨fun place hpath => ⟨isSome_onPath h hpath, hpath.addressed⟩, fun place => addressed_iff hroot h,
    all_addressed_iff hroot h⟩

theorem assemble_addressed_inside :
    let entries := [("g.a", Json.object [("u", .object [("units", .text "m")])]), ("g.a.u[:].b", .object [])]
    let tree : Node := ⟨[], [("a", ⟨[], [("u", ⟨[("units", .text "m")], [], some ⟨[], [("b", empty)], none⟩⟩)],
      none⟩)], none⟩
    Path.parse "g" = .ok [.field "g"] ∧ assemble "g" 4 entries = .ok tree ∧
      (∀ place, OnPath "g" entries place → (tree.get? place).isSome ∧ Path.Addressed "g" place) ∧
      (∀ place, (tree.get? place).isSome →
        (Path.Addressed "g" place ↔ ∀ name, .field name ∈ place → Path.IsName name)) ∧
      ((∀ place, (tree.get? place).isSome → Path.Addressed "g" place) ↔ ProperlyNamed "g" entries) := by
  intro entries tree
  have hroot : Path.parse "g" = .ok [.field "g"] := by cbv
  have h : assemble "g" 4 entries = .ok tree := by cbv
  exact ⟨hroot, h, assemble_addressed hroot h⟩

/-- The name of an inline child can make a node whose dotted path cannot be read. -/
theorem not_addressed_inside :
    let entries := [("g.a", Json.object [("b[0]", .object [("data_type", .text "FLT_0D")]),
      ("data_type", .text "STRUCTURE")])]
    Path.parse "g" = .ok [.field "g"] ∧ ∃ tree, assemble "g" 50 entries = .ok tree ∧
      ¬ (∀ place, (tree.get? place).isSome → Path.Addressed "g" place) ∧
      ¬ (∀ place name, (tree.get? (place ++ [.field name])).isSome → '[' ∉ name.toList) := by
  intro entries
  let tree : Node := ⟨[], [("a", ⟨[("data_type", .text "STRUCTURE")],
    [("b[0]", ⟨[("data_type", .text "FLT_0D")], [], none⟩)], none⟩)], none⟩
  have h : assemble "g" 50 entries = .ok tree := by cbv
  refine ⟨by cbv, tree, h, fun hall => ?_, fun hall => ?_⟩
  · have hread : Path.parse "g.a.b[0]" = .ok [.field "g", .field "a", .field "b[0]"] :=
      hall [.field "a", .field "b[0]"] rfl
    have hfault : Path.parse "g.a.b[0]" = .error (.malformedPath "g.a.b[0]" (.misplacedMarker "b[0]")) := by cbv
    rw [hfault] at hread
    cases hread
  · exact hall [.field "a"] "b[0]" rfl (by decide)

end Node

end DottedSchema
