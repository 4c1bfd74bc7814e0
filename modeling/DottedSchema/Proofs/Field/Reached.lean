import DottedSchema.Proofs.Assembly.Spacing
import DottedSchema.Proofs.Field.Typing

set_option autoImplicit false

namespace DottedSchema

namespace Path

/-- The names on a path: what is left without its items steps. -/
def names : Path → List String
  | [] => []
  | .field name :: rest => name :: names rest
  | .items :: rest => names rest

theorem names_append (p q : Path) : names (p ++ q) = names p ++ names q := by
  induction p with
  | nil => rfl
  | cons step rest ih =>
    cases step with
    | field name => rw [List.cons_append, names, names, ih, List.cons_append]
    | items => rw [List.cons_append, names, names, ih]

def EndsInField (path : Path) : Prop := ∃ name, path.getLast? = some (.field name)

theorem EndsInField.ne_nil {path : Path} (h : EndsInField path) : path ≠ [] := by
  rintro rfl
  obtain ⟨_, h⟩ := h
  cases h

theorem endsInField_append (p : Path) {q : Path} (hq : q ≠ []) :
    EndsInField (p ++ q) ↔ EndsInField q := by
  unfold EndsInField
  rw [List.getLast?_append, List.getLast?_eq_getLast_of_ne_nil hq, Option.some_or]

end Path

namespace Node

variable {node next element n n' tree : Node} {place steps rest c c' : Path} {name root : String}
  {fields : Keyed Field} {typed : Field} {names : List String}

/-- A field of the tree such that every field strictly above it is a structure. -/
structure Reached (tree : Node) (place : Path) (node : Node) : Prop where
  found : tree.get? place = some node
  isField : Path.EndsInField place
  above : ∀ (q : Path) (upper : Node), Path.EndsInField q → q <+: place → q ≠ place →
    tree.get? q = some upper → upper.kind? = some .record

inductive Leads (node : Node) (name : String) (next : Node) : Path → Prop
  | own (found : Keyed.find? name node.children = some next) : Leads node name next [.field name]
  | item {element : Node} (hasElement : node.element = some element)
      (found : Keyed.find? name element.children = some next) : Leads node name next [.items, .field name]

theorem Leads.names_eq (h : Leads node name next steps) : Path.names steps = [name] := by
  cases h <;> rfl

theorem Leads.endsInField (h : Leads node name next steps) : Path.EndsInField steps := by
  cases h <;> exact ⟨name, rfl⟩

theorem Leads.get?_append (h : Leads node name next steps) (q : Path) :
    node.get? (steps ++ q) = next.get? q := by
  have hsteps : node.get? steps = some next := by
    cases h with
    | own found =>
      rw [Node.get?, step?, found]
      rfl
    | item hasElement found =>
      rw [Node.get?, step?, hasElement, Option.bind_some, Node.get?, step?, found]
      rfl
  rw [Node.get?_append, hsteps, Option.bind_some]

theorem Leads.prefix_split (h : Leads node name next steps) {q : Path} (hq : Path.EndsInField q)
    (hp : q <+: steps ++ rest) : ∃ t, q = steps ++ t ∧ t <+: rest := by
  cases q with
  | nil => exact absurd rfl hq.ne_nil
  | cons first q =>
    cases h with
    | own found =>
      obtain ⟨rfl, ht⟩ := List.cons_prefix_cons.1 hp
      exact ⟨q, rfl, ht⟩
    | item hasElement found =>
      obtain ⟨rfl, htail⟩ := List.cons_prefix_cons.1 hp
      cases q with
      | nil =>
        obtain ⟨_, hlast⟩ := hq
        cases hlast
      | cons second t =>
        obtain ⟨rfl, ht⟩ := List.cons_prefix_cons.1 htail
        exact ⟨t, rfl, ht⟩

theorem Leads.property? (h : Leads node name next steps)
    (hone : Keyed.find? name node.children = none ∨ node.element.bind (Keyed.find? name ·.children) = none) :
    node.property? name = some next := by
  unfold Node.property?
  cases h with
  | own found => rw [found, Option.some_or]
  | item hasElement found =>
    rw [hasElement, Option.bind_some, found] at hone ⊢
    rw [hone.resolve_right (Option.some_ne_none next), Option.none_or]

theorem leads_of_property? (h : node.property? name = some next) :
    ∃ steps, Leads node name next steps := by
  unfold Node.property? at h
  rcases Option.or_eq_some_iff.1 h with h | ⟨-, h⟩
  · exact ⟨_, .own h⟩
  · obtain ⟨element, he, hf⟩ := Option.bind_eq_some_iff.1 h
    exact ⟨_, .item he hf⟩

theorem Leads.unique {steps' : Path} {next' : Node} (h : Leads node name next steps)
    (h' : Leads node name next' steps')
    (hone : Keyed.find? name node.children = none ∨ node.element.bind (Keyed.find? name ·.children) = none) :
    steps = steps' ∧ next = next' := by
  have hnext : next = next' := Option.some.inj ((h.property? hone).symm.trans (h'.property? hone))
  refine ⟨?_, hnext⟩
  cases h with
  | own found =>
    cases h' with
    | own _ => rfl
    | item hasElement found' => simp [found, hasElement, found'] at hone
  | item hasElement found =>
    cases h' with
    | own found' => simp [found', hasElement, found] at hone
    | item _ _ => rfl

/-- The way down from a field through structures, one field at a time. -/
inductive Descends : Node → Path → Node → Prop
  | here (node : Node) : Descends node [] node
  | step {node next n : Node} {name : String} {steps rest : Path} (record : node.kind? = some .record)
      (leads : Leads node name next steps) (below : Descends next rest n) : Descends node (steps ++ rest) n

theorem Descends.record (h : Descends node c n) (hc : c ≠ []) : node.kind? = some .record := by
  cases h with
  | here => exact absurd rfl hc
  | step record _ _ => exact record

theorem Descends.get? (h : Descends node c n) : node.get? c = some n := by
  induction h with
  | here => rfl
  | step _ leads _ ih => rw [leads.get?_append, ih]

theorem Descends.endsInField (h : Descends node c n) (hc : c ≠ []) : Path.EndsInField c := by
  induction h with
  | here => exact absurd rfl hc
  | @step _ _ _ _ steps rest _ leads _ ih =>
    by_cases hr : rest = []
    · rw [hr, List.append_nil]
      exact leads.endsInField
    · exact (Path.endsInField_append steps hr).2 (ih hr)

theorem Descends.above (h : Descends node c n) {q : Path} {upper : Node} (hq : Path.EndsInField q) (hp : q <+: c)
    (hne : q ≠ c) (hu : node.get? q = some upper) : upper.kind? = some .record := by
  induction h generalizing q with
  | here => exact absurd (List.prefix_nil.1 hp) hne
  | @step _ _ _ _ steps rest _ leads below ih =>
    obtain ⟨t, rfl, ht⟩ := leads.prefix_split hq hp
    have hne' : t ≠ rest := fun he => hne (congrArg (steps ++ ·) he)
    rw [leads.get?_append] at hu
    by_cases hnil : t = []
    · subst hnil
      cases hu
      exact below.record (Ne.symm hne')
    · exact ih ((Path.endsInField_append steps hnil).1 hq) ht hne' hu

theorem Descends.fieldBelow? (h : Descends node c n) (ht : node.Types typed) :
    node.fieldBelow? (Path.names c) = some n := by
  induction h generalizing typed with
  | here => rfl
  | step record leads _ ih =>
    obtain ⟨hrel, hone⟩ := ht.property record _
    have hproperty := leads.property? hone
    rw [Path.names_append, leads.names_eq, List.singleton_append, Node.fieldBelow?, if_pos record, hproperty,
      Option.bind_some]
    obtain ⟨f, -, hf⟩ := Keyed.rel_some_left (hproperty ▸ hrel)
    exact ih hf

theorem descends_of_fieldBelow? (h : node.fieldBelow? names = some n) :
    ∃ c, Descends node c n ∧ Path.names c = names := by
  induction names generalizing node with
  | nil =>
    cases h
    exact ⟨[], .here _, rfl⟩
  | cons name rest ih =>
    rw [Node.fieldBelow?] at h
    by_cases hk : node.kind? = some .record
    · rw [if_pos hk] at h
      obtain ⟨next, hnext, hrest⟩ := Option.bind_eq_some_iff.1 h
      obtain ⟨steps, leads⟩ := leads_of_property? hnext
      obtain ⟨c, hc, hnames⟩ := ih hrest
      refine ⟨steps ++ c, .step hk leads hc, ?_⟩
      rw [Path.names_append, leads.names_eq, hnames]
      rfl
    · rw [if_neg hk] at h
      cases h

theorem Descends.unique (h : Descends node c n) (h' : Descends node c' n') (ht : node.Types typed)
    (hnames : Path.names c = Path.names c') : c = c' := by
  induction h generalizing c' typed with
  | here =>
    cases h' with
    | here => rfl
    | step _ leads _ =>
      rw [Path.names_append, leads.names_eq] at hnames
      cases hnames
  | step record leads _ ih =>
    cases h' with
    | here =>
      rw [Path.names_append, leads.names_eq] at hnames
      cases hnames
    | step _ leads' below' =>
      rw [Path.names_append, Path.names_append, leads.names_eq, leads'.names_eq] at hnames
      obtain ⟨rfl, hrest⟩ := List.cons_eq_cons.1 hnames
      obtain ⟨hrel, hone⟩ := ht.property record _
      obtain ⟨rfl, rfl⟩ := leads.unique leads' hone
      obtain ⟨f, -, hf⟩ := Keyed.rel_some_left (leads.property? hone ▸ hrel)
      rw [ih below' hf hrest]

theorem Reached.prefix_leads (h : Reached node place n) (hchain : ∀ q, node.Has q → List.IsChain Step.Follows q) :
    ∃ name next steps rest, Leads node name next steps ∧ place = steps ++ rest := by
  have hfound := h.found
  have hplace := hchain place (has_iff_exists.2 ⟨n, hfound⟩)
  match place, h.isField, hfound, hplace with
  | [], hfield, _, _ => exact absurd rfl hfield.ne_nil
  | [.items], ⟨_, hlast⟩, _, _ => cases hlast
  | .items :: .items :: rest, _, _, hplace => exact absurd rfl ((List.isChain_cons_cons.1 hplace).1 rfl)
  | .field name :: rest, _, hfound, _ =>
    obtain ⟨next, hnext, -⟩ := Option.bind_eq_some_iff.1 hfound
    exact ⟨name, next, _, rest, .own hnext, rfl⟩
  | .items :: .field name :: rest, _, hfound, _ =>
    obtain ⟨element, he, hfound⟩ := Option.bind_eq_some_iff.1 hfound
    obtain ⟨next, hnext, -⟩ := Option.bind_eq_some_iff.1 hfound
    exact ⟨name, next, _, rest, .item he hnext, rfl⟩

theorem Reached.below (h : Reached node (steps ++ rest) n) (leads : Leads node name next steps) (hrest : rest ≠ []) :
    Reached next rest n ∧ next.kind? = some .record := by
  constructor
  · refine ⟨leads.get?_append rest ▸ h.found, (Path.endsInField_append steps hrest).1 h.isField, ?_⟩
    intro q upper hq hp hne hupper
    refine h.above (steps ++ q) upper ((Path.endsInField_append steps hq.ne_nil).2 hq) ?_ ?_ ?_
    · exact (List.prefix_append_right_inj steps).2 hp
    · exact fun he => hne (List.append_cancel_left he)
    · rw [leads.get?_append]
      exact hupper
  · refine h.above steps next leads.endsInField (List.prefix_append steps rest) ?_ ?_
    · exact fun he => hrest (List.self_eq_append_right.1 he)
    · have hsteps := leads.get?_append []
      rwa [List.append_nil] at hsteps

theorem Leads.chain (leads : Leads node name next steps) (hchain : ∀ q, node.Has q → List.IsChain Step.Follows q)
    (q : Path) (hq : next.Has q) : List.IsChain Step.Follows q := by
  have hq' : node.Has (steps ++ q) := by
    unfold Has
    rw [leads.get?_append]
    exact hq
  exact (List.isChain_append.1 (hchain _ hq')).2.1

theorem Reached.descends {node n : Node} {place : Path} (h : Reached node place n)
    (hkind : node.kind? = some .record)
    (hchain : ∀ q, node.Has q → List.IsChain Step.Follows q) : Descends node place n := by
  obtain ⟨name, next, steps, rest, leads, hplace⟩ := h.prefix_leads hchain
  rw [hplace] at h ⊢
  by_cases hrest : rest = []
  · subst hrest
    have hnext : next = n := by
      have hfound := h.found
      rw [leads.get?_append] at hfound
      exact Option.some.inj hfound
    exact hnext ▸ .step hkind leads (.here next)
  · obtain ⟨hbelow, hnext⟩ := h.below leads hrest
    exact .step hkind leads (Reached.descends hbelow hnext (leads.chain hchain))
termination_by place.length
decreasing_by
  have hlength : place.length = steps.length + rest.length := by
    rw [hplace, List.length_append]
  have hpos := List.length_pos_iff.2 leads.endsInField.ne_nil
  omega

theorem Reached.top (h : Reached tree place n) (hspaced : ∀ q, tree.Has q → Path.Spaced q) :
    ∃ name next rest, place = .field name :: rest ∧ Keyed.find? name tree.children = some next ∧
      Descends next rest n := by
  have hchain : ∀ q, tree.Has q → List.IsChain Step.Follows q := fun q hq => (hspaced q hq).chain
  obtain ⟨name, next, steps, rest, leads, rfl⟩ := h.prefix_leads hchain
  cases leads with
  | item hasElement found =>
    have hroot := hspaced _ (has_iff_exists.2 ⟨n, h.found⟩)
    exact absurd rfl ((List.isChain_cons_cons.1 hroot).1 rfl)
  | own found =>
    refine ⟨name, next, rest, rfl, found, ?_⟩
    by_cases hrest : rest = []
    · subst hrest
      have hfound := h.found
      rw [(Leads.own found).get?_append] at hfound
      cases hfound
      exact .here _
    · obtain ⟨hbelow, hnext⟩ := h.below (.own found) hrest
      exact hbelow.descends hnext ((Leads.own found).chain hchain)

theorem reached_of_descends (hfound : Keyed.find? name tree.children = some next) (h : Descends next rest n) :
    Reached tree (.field name :: rest) n := by
  have leads : Leads tree name next [.field name] := .own hfound
  refine ⟨?_, ?_, ?_⟩
  · exact (leads.get?_append rest).trans h.get?
  · by_cases hrest : rest = []
    · rw [hrest]
      exact leads.endsInField
    · exact (Path.endsInField_append [.field name] hrest).2 (h.endsInField hrest)
  · intro q upper hq hp hne hupper
    obtain ⟨t, rfl, ht⟩ := leads.prefix_split hq hp
    have hne' : t ≠ rest := fun he => hne (congrArg (Step.field name :: ·) he)
    rw [leads.get?_append] at hupper
    by_cases hnil : t = []
    · subst hnil
      cases hupper
      exact h.record (Ne.symm hne')
    · exact h.above ((Path.endsInField_append [.field name] hnil).1 hq) ht hne' hupper

variable (hspaced : ∀ q, tree.Has q → Path.Spaced q) (ht : tree.topFields root = .ok fields)
include hspaced ht

theorem Reached.fieldAt? (h : Reached tree place n) : tree.fieldAt? (Path.names place) = some n := by
  obtain ⟨name, next, rest, rfl, hfound, hdown⟩ := h.top hspaced
  obtain ⟨f, -, hf⟩ := Keyed.rel_some_left (hfound ▸ topFields_rel ht name)
  rw [Path.names, Node.fieldAt?, hfound, Option.bind_some]
  exact hdown.fieldBelow? hf

theorem Reached.unique (h : Reached tree c n) (h' : Reached tree c' n') (hnames : Path.names c = Path.names c') :
    c = c' := by
  obtain ⟨name, next, rest, rfl, hfound, hdown⟩ := h.top hspaced
  obtain ⟨name', next', rest', rfl, hfound', hdown'⟩ := h'.top hspaced
  obtain ⟨rfl, hrest⟩ := List.cons_eq_cons.1 hnames
  obtain rfl : next = next' := Option.some.inj (hfound.symm.trans hfound')
  obtain ⟨f, -, hf⟩ := Keyed.rel_some_left (hfound ▸ topFields_rel ht name)
  rw [hdown.unique hdown' hf hrest]

omit hspaced ht in
theorem reached_of_fieldAt? (h : tree.fieldAt? names = some n) : ∃ place, Reached tree place n ∧
    Path.names place = names := by
  cases names with
  | nil => cases h
  | cons name rest =>
    obtain ⟨next, hnext, hbelow⟩ := Option.bind_eq_some_iff.1 h
    obtain ⟨c, hdown, hnames⟩ := descends_of_fieldBelow? hbelow
    refine ⟨.field name :: c, reached_of_descends hnext hdown, ?_⟩
    rw [Path.names, hnames]

end Node

end DottedSchema
