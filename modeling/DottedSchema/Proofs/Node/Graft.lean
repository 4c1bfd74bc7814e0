import DottedSchema.Node

set_option autoImplicit false

namespace DottedSchema.Node

variable {node new old changed : Node} {path place rest : Path} {step : Step} {key name : String}

/-- The node at a place, or the empty node that would be created there. -/
def nodeAt (node : Node) (place : Path) : Node := (node.get? place).getD empty

def Has (node : Node) (place : Path) : Prop := (node.get? place).isSome

def value? (node : Node) (place : Path) (key : String) : Option Json :=
  Keyed.find? key (node.nodeAt place).metadata

theorem nodeAt_cons (step : Step) (rest : Path) :
    node.nodeAt (step :: rest) = (node.nodeAt [step]).nodeAt rest := by
  have h := get?_getD_cons node step rest
  have hs : node.nodeAt [step] = (node.step? step).getD empty := by
    unfold nodeAt
    rw [get?_getD_cons]
    rfl
  rw [hs]
  exact h

theorem nodeAt_append (p q : Path) : node.nodeAt (p ++ q) = (node.nodeAt p).nodeAt q := by
  induction p generalizing node with
  | nil => rfl
  | cons step rest ih =>
    rw [List.cons_append, nodeAt_cons, ih, nodeAt_cons step rest]

theorem value?_append (p q : Path) : node.value? (p ++ q) key = (node.nodeAt p).value? q key := by
  unfold value?
  rw [nodeAt_append]

theorem value?_cons : node.value? (step :: rest) key = (node.nodeAt [step]).value? rest key :=
  value?_append [step] rest

theorem nodeAt_of_get? (h : node.get? place = some old) : node.nodeAt place = old := by
  unfold nodeAt
  rw [h]
  rfl

theorem value?_of_get? (h : node.get? place = some old) :
    node.value? place key = Keyed.find? key old.metadata := by
  unfold value?
  rw [nodeAt_of_get? h]

theorem has_nil (node : Node) : node.Has [] := rfl

theorem has_empty_iff : empty.Has place ↔ place = [] := by
  cases place with
  | nil => exact ⟨fun _ => rfl, fun _ => has_nil empty⟩
  | cons step rest =>
    unfold Has
    rw [get?_empty_cons]
    simp

theorem value?_empty : empty.value? place key = none := by
  cases place with
  | nil => rfl
  | cons step rest =>
    unfold value? nodeAt
    rw [get?_empty_cons]
    rfl

theorem has_append (node : Node) (p : Path) {q : Path} (hq : q ≠ []) :
    node.Has (p ++ q) ↔ (node.nodeAt p).Has q := by
  unfold Has nodeAt
  rw [get?_append]
  cases node.get? p with
  | some _ => rfl
  | none =>
    have h : ¬ empty.Has q := fun h => hq (has_empty_iff.1 h)
    exact ⟨fun h => (nomatch h), fun h' => absurd h' h⟩

theorem has_cons :
    node.Has (step :: rest) ↔ (node.step? step).isSome ∧ (node.nodeAt [step]).Has rest := by
  unfold Has nodeAt
  simp only [get?]
  cases node.step? step with
  | some next => simp
  | none => simp

theorem has_nodeAt_iff {q : Path} : (node.nodeAt [step]).Has q ↔ node.Has (step :: q) ∨ q = [] := by
  rw [has_cons]
  cases h : node.step? step with
  | some next =>
    simp only [Option.isSome_some, true_and]
    constructor
    · exact .inl
    · rintro (hq | rfl)
      · exact hq
      · exact has_nil _
  | none =>
    have hempty : node.nodeAt [step] = empty := by
      unfold nodeAt
      simp only [get?, h]
      rfl
    rw [hempty, has_empty_iff]
    simp

theorem has_iff_exists : node.Has place ↔ ∃ n, node.get? place = some n := Option.isSome_iff_exists

def setStep (node : Node) : Step → Node → Node
  | .field name, next => { node with children := Keyed.insert name next node.children }
  | .items, next => { node with element := some next }

theorem step?_setStep (s : Step) (next : Node) :
    (node.setStep step next).step? s = if s = step then some next else node.step? s := by
  cases step with
  | items => cases s <;> simp [setStep, step?]
  | field name =>
    cases s with
    | items => simp [setStep, step?]
    | field other => simp [setStep, step?, Keyed.find?_insert]

theorem metadata_setStep (next : Node) : (node.setStep step next).metadata = node.metadata := by
  cases step <;> rfl

/-- The tree with `new` at the path and with the nodes that this needs on the way. -/
def graft : Path → Node → Node → Node
  | [], new, _ => new
  | step :: rest, new, node => node.setStep step (graft rest new (node.nodeAt [step]))

theorem graft_append (p q : Path) :
    graft (p ++ q) new node = graft p (graft q new (node.nodeAt p)) node := by
  induction p generalizing node with
  | nil => rfl
  | cons step rest ih =>
    rw [List.cons_append, graft, graft, ih, nodeAt_cons step rest]

theorem get?_graft (path q : Path) : (graft path new node).get? (path ++ q) = new.get? q := by
  induction path generalizing node with
  | nil => rfl
  | cons step rest ih =>
    rw [List.cons_append, graft, get?, step?_setStep, if_pos rfl]
    exact ih

theorem nodeAt_setStep (next : Node) (s : Step) :
    (node.setStep step next).nodeAt [s] = if s = step then next else node.nodeAt [s] := by
  unfold nodeAt
  simp only [get?, step?_setStep]
  split <;> rfl

theorem graft_off (key : String) {q : Path} (hq : ¬ path <+: q) :
    ((graft path new node).Has q ↔ node.Has q ∨ q <+: path) ∧
      (graft path new node).value? q key = node.value? q key := by
  induction path generalizing node q with
  | nil => exact absurd List.nil_prefix hq
  | cons step rest ih =>
    rw [graft]
    cases q with
    | nil =>
      refine ⟨⟨fun _ => .inr List.nil_prefix, fun _ => has_nil _⟩, ?_⟩
      change Keyed.find? key (setStep _ _ _).metadata = Keyed.find? key node.metadata
      rw [metadata_setStep]
    | cons s q =>
      rw [has_cons, value?_cons, value?_cons, step?_setStep, nodeAt_setStep]
      by_cases hs : s = step
      · -- the node on the way may be new, and then it has no place but itself
        subst hs
        have hrest : ¬ rest <+: q := fun h => hq (List.cons_prefix_cons.2 ⟨rfl, h⟩)
        obtain ⟨hhas, hvalue⟩ := @ih (node.nodeAt [s]) q hrest
        rw [if_pos rfl, if_pos rfl, hhas, hvalue, has_nodeAt_iff, List.cons_prefix_cons]
        refine ⟨?_, rfl⟩
        have hnil : q = [] → q <+: rest := fun he => he ▸ List.nil_prefix
        simp only [Option.isSome_some, true_and, or_assoc, or_iff_right_of_imp hnil]
      · rw [if_neg hs, if_neg hs, has_cons]
        simp [List.cons_prefix_cons, hs]

def SameBelow (n m : Node) : Prop := n.children = m.children ∧ n.element = m.element

theorem SameBelow.get?_eq {n m : Node} (h : SameBelow n m) {q : Path} (hq : q ≠ []) :
    n.get? q = m.get? q := by
  cases q with
  | nil => exact absurd rfl hq
  | cons s q =>
    have hs : n.step? s = m.step? s := by
      cases s with
      | field name => exact congrArg (Keyed.find? name) h.1
      | items => exact h.2
    rw [get?, get?, hs]

theorem has_graft (h : SameBelow new (node.nodeAt path)) (q : Path) :
    (graft path new node).Has q ↔ node.Has q ∨ q <+: path := by
  by_cases hq : path <+: q
  · obtain ⟨t, rfl⟩ := hq
    by_cases ht : t = []
    · subst ht
      rw [List.append_nil]
      have hhas : (graft path new node).Has (path ++ []) := by
        unfold Has
        rw [get?_graft]
        rfl
      rw [List.append_nil] at hhas
      exact ⟨fun _ => .inr (List.prefix_refl _), fun _ => hhas⟩
    · have hlong : ¬ path ++ t <+: path := by
        intro hp
        have := hp.length_le
        rw [List.length_append] at this
        exact ht (List.eq_nil_of_length_eq_zero (by omega))
      rw [has_append node path ht, or_iff_left hlong]
      unfold Has
      rw [get?_graft, h.get?_eq ht]
  · exact (graft_off "" hq).1

theorem value?_graft (h : SameBelow new (node.nodeAt path)) (q : Path) :
    (graft path new node).value? q key =
      if q = path then Keyed.find? key new.metadata else node.value? q key := by
  by_cases hq : path <+: q
  · obtain ⟨t, rfl⟩ := hq
    have hat : (graft path new node).value? (path ++ t) key = new.value? t key := by
      unfold value? nodeAt
      rw [get?_graft]
    by_cases ht : t = []
    · subst ht
      rw [List.append_nil] at hat ⊢
      rw [if_pos rfl, hat]
      rfl
    · rw [if_neg (fun he => ht (List.append_right_eq_self.1 he)), hat, value?_append]
      unfold value?
      rw [nodeAt, h.get?_eq ht]
      rfl
  · have hne : q ≠ path := by
      rintro rfl
      exact hq (List.prefix_refl _)
    rw [if_neg hne]
    exact (graft_off key hq).2

def Open (node : Node) (path : Path) : Prop :=
  ∀ (q : Path) (name : String), q ++ [.field name] <+: path → node.value? q name = none

theorem open_nil (node : Node) : node.Open [] := by
  intro q name h
  have := h.length_le
  simp at this

def blocks (node : Node) : Step → Bool
  | .field name => Keyed.has name node.metadata
  | .items => false

theorem blocks_eq_false_iff :
    node.blocks step = false ↔ ∀ name, step = .field name → Keyed.find? name node.metadata = none := by
  cases step <;> simp [blocks, Keyed.has]

theorem open_cons :
    node.Open (step :: rest) ↔ node.blocks step = false ∧ (node.nodeAt [step]).Open rest := by
  rw [blocks_eq_false_iff]
  constructor
  · intro h
    refine ⟨fun name hs => ?_, fun q name hq => ?_⟩
    · exact h [] name (by rw [hs]; exact List.cons_prefix_cons.2 ⟨rfl, List.nil_prefix⟩)
    · have := h (step :: q) name (List.cons_prefix_cons.2 ⟨rfl, hq⟩)
      rwa [value?_cons] at this
  · rintro ⟨hfirst, hrest⟩ q name hq
    cases q with
    | nil => exact hfirst name (List.cons_prefix_cons.1 hq).1.symm
    | cons s q =>
      rw [List.cons_append] at hq
      obtain ⟨hs, hq'⟩ := List.cons_prefix_cons.1 hq
      rw [hs, value?_cons]
      exact hrest q name hq'

theorem open_append (p q : Path) : node.Open (p ++ q) ↔ node.Open p ∧ (node.nodeAt p).Open q := by
  induction p generalizing node with
  | nil => exact ⟨fun h => ⟨open_nil _, h⟩, fun h => h.2⟩
  | cons step rest ih =>
    rw [List.cons_append, open_cons, open_cons, ih, nodeAt_cons step rest, and_assoc]

theorem alter_cons (f : Node → Except Fault Node) (blocked : Path → Fault) :
    alter f blocked (step :: rest) node =
      if node.blocks step then .error (blocked [step])
      else do
        let next ← alter f (fun steps => blocked (step :: steps)) rest (node.nodeAt [step])
        return node.setStep step next := by
  have hat : node.nodeAt [step] = (node.step? step).getD empty := by
    unfold nodeAt
    rw [get?_getD_cons]
    rfl
  rw [hat]
  cases step <;> rfl

theorem alter_ok_iff {f : Node → Except Fault Node} {blocked : Path → Fault} :
    alter f blocked path node = .ok changed ↔
      node.Open path ∧ ∃ new, f (node.nodeAt path) = .ok new ∧ changed = graft path new node := by
  induction path generalizing node changed blocked with
  | nil =>
    refine ⟨fun h => ⟨open_nil _, changed, h, rfl⟩, ?_⟩
    rintro ⟨-, new, h, rfl⟩
    exact h
  | cons step rest ih =>
    rw [open_cons, nodeAt_cons step rest, alter_cons]
    cases hb : node.blocks step with
    | true => exact ⟨fun h => (nomatch h), fun h => (nomatch h.1.1)⟩
    | false =>
      constructor
      · intro h
        obtain ⟨next, hnext, hchanged⟩ := bind_eq_ok h
        obtain ⟨hopen, new, hnew, rfl⟩ := ih.1 hnext
        cases hchanged
        exact ⟨⟨rfl, hopen⟩, new, hnew, rfl⟩
      · rintro ⟨⟨-, hopen⟩, new, hnew, rfl⟩
        rw [ih.2 ⟨hopen, new, hnew, rfl⟩]
        rfl

end DottedSchema.Node
