import DottedSchema.Assembly
import DottedSchema.Proofs.Node.Equality

/-!
# Statements that agree

Whether statements have a tree, and which one, is a matter of what is stated and not of the order: they have a
tree exactly when they agree (`assertAll_ok_iff`), and that tree has the places they need and the values they give
(`describes_of_assertAll`).
-/
set_option autoImplicit false

namespace DottedSchema

namespace Statement

def target : Statement → Path
  | nodes place => place
  | child place _ name => place ++ [.field name]
  | metadata place _ _ _ => place
  | refused _ => []

def given? : Statement → Path → String → Option Json
  | metadata place _ name value, q, key => if q = place ∧ key = name then some value else none
  | _, _, _ => none

def Fits (s : Statement) (node : Node) : Prop :=
  (∀ fault, s ≠ refused fault) ∧ ∀ key value, s.given? s.target key = some value →
    Keyed.find? key node.children = none ∧ ∀ w, Keyed.find? key node.metadata = some w → (w == value) = true

def update : Statement → Node → Node
  | metadata _ _ key value, node => { node with metadata := Keyed.insert key value node.metadata }
  | _, node => node

variable {statements done others : List Statement} {s : Statement} {place q : Path} {key : String} {value : Json}

theorem given?_metadata_iff {label name : String} {v : Json} :
    (metadata place label name v).given? q key = some value ↔ q = place ∧ key = name ∧ v = value := by
  simp [given?, and_assoc]

theorem eq_target_of_given? (h : s.given? q key = some value) : q = s.target := by
  cases s with
  | metadata place label name v => exact (given?_metadata_iff.1 h).1
  | nodes _ | child _ _ _ | refused _ => cases h

theorem fits_child (place : Path) (label name : String) (node : Node) : (child place label name).Fits node := by
  constructor
  · intro fault h
    cases h
  · intro key value h
    cases h

theorem update_sameBelow (s : Statement) (node : Node) : Node.SameBelow (s.update node) node := by
  cases s <;> exact ⟨rfl, rfl⟩

theorem update_ordered (s : Statement) {node : Node} (h : node.Ordered) : (s.update node).Ordered := by
  cases s with
  | metadata place label key value =>
    cases h with
    | intro hm hc child item => exact .intro (hm.insert key value) hc child item
  | nodes _ | child _ _ _ | refused _ => exact h

theorem find?_update (s : Statement) (node : Node) (key : String) :
    Keyed.find? key (s.update node).metadata = (s.given? s.target key).or (Keyed.find? key node.metadata) := by
  cases s with
  | metadata place label name value =>
    simp only [update, given?, target, Keyed.find?_insert, true_and]
    split <;> rfl
  | nodes _ | child _ _ _ | refused _ => rfl

def Gives (statements : List Statement) (place : Path) (key : String) (value : Json) : Prop :=
  ∃ s ∈ statements, s.given? place key = some value

/-- No statement is refused, values under one key are equal, and nothing is below a metadata value. -/
structure Consistent (statements : List Statement) : Prop where
  accepted : ∀ fault, refused fault ∉ statements
  agree : ∀ place key v w, Gives statements place key v → Gives statements place key w → (v == w) = true
  apart : ∀ place key v, Gives statements place key v → ∀ s ∈ statements, ¬ place ++ [.field key] <+: s.target

theorem Gives.mono (h : Gives done place key value) (hs : ∀ s ∈ done, s ∈ statements) :
    Gives statements place key value := by
  obtain ⟨s, hm, hv⟩ := h
  exact ⟨s, hs s hm, hv⟩

theorem Consistent.mono (h : Consistent statements) (hs : ∀ s ∈ done, s ∈ statements) :
    Consistent done where
  accepted fault hf := h.accepted fault (hs _ hf)
  agree place key v w hv hw := h.agree place key v w (hv.mono hs) (hw.mono hs)
  apart place key v hv s hm := h.apart place key v (hv.mono hs) s (hs s hm)

theorem consistent_nil : Consistent [] where
  accepted _ h := nomatch h
  agree _ _ _ _ h := nomatch h
  apart _ _ _ h := nomatch h

theorem gives_concat : Gives (done ++ [s]) place key value ↔
    Gives done place key value ∨ s.given? place key = some value := by
  simp [Gives, or_and_right, exists_or]

end Statement

open Statement

namespace Node

variable {root : String} {statements done : List Statement} {s : Statement} {tree changed : Node}

/-- The tree has the places that the statements need and the values that they give, and no others. -/
structure Describes (statements : List Statement) (tree : Node) : Prop where
  ordered : tree.Ordered
  has_iff : ∀ q, tree.Has q ↔ q = [] ∨ ∃ s ∈ statements, q <+: s.target
  given : ∀ q key v, tree.value? q key = some v → Gives statements q key v
  stored : ∀ q key v, Gives statements q key v → ∃ w, tree.value? q key = some w ∧ (w == v) = true

theorem describes_empty : Describes [] empty where
  ordered := ordered_empty
  has_iff q := by simp [has_empty_iff]
  given q key v h := by rw [value?_empty] at h; cases h
  stored _ _ _ h := nomatch h

theorem annotate_ok_iff (place : Path) {label key : String} {value : Json} {node new : Node} :
    annotate label key value node = .ok new ↔
      Fits (.metadata place label key value) node ∧ new = update (.metadata place label key value) node := by
  have hfits : Fits (.metadata place label key value) node ↔ Keyed.find? key node.children = none ∧
      (Keyed.find? key node.metadata).all (· == value) = true := by
    cases hk : Keyed.find? key node.metadata <;> simp [Fits, given?, target, hk]
  rw [hfits]
  unfold annotate Keyed.has
  cases Keyed.find? key node.children with
  | some _ => simp
  | none =>
    by_cases hv : (Keyed.find? key node.metadata).all (· == value) = true
    · simp [hv, update, eq_comm]
    · simp [hv]

theorem assert_ok_iff : assert root tree s = .ok changed ↔
    tree.Open s.target ∧ s.Fits (tree.nodeAt s.target) ∧
      changed = graft s.target (s.update (tree.nodeAt s.target)) tree := by
  cases s with
  | nodes place =>
    rw [assert, alter_ok_iff]
    simp [Fits, given?, update, target]
  | metadata place label key value =>
    rw [assert, alter_ok_iff]
    simp only [annotate_ok_iff place, target]
    constructor
    · rintro ⟨hopen, new, ⟨hfits, rfl⟩, rfl⟩
      exact ⟨hopen, hfits, rfl⟩
    · rintro ⟨hopen, hfits, rfl⟩
      exact ⟨hopen, _, ⟨hfits, rfl⟩, rfl⟩
  | refused fault =>
    constructor
    · intro h
      cases h
    · rintro ⟨-, hfits, -⟩
      exact absurd rfl (hfits.1 fault)
  | child place label name =>
    rw [assert, alter_ok_iff]
    -- the node is grafted at its place and the child onto it, which is one graft at the child's place
    simp only [alter_ok_iff, target, open_append, nodeAt_append, graft_append, update]
    constructor
    · rintro ⟨hopen, _, ⟨hlast, _, hnew, rfl⟩, rfl⟩
      cases hnew
      exact ⟨⟨hopen, hlast⟩, fits_child place label name _, rfl⟩
    · rintro ⟨⟨hopen, hlast⟩, -, rfl⟩
      exact ⟨hopen, _, ⟨hlast, _, rfl, rfl⟩, rfl⟩

theorem assert_isOk_iff : (∃ changed, assert root tree s = .ok changed) ↔
    tree.Open s.target ∧ s.Fits (tree.nodeAt s.target) := by
  constructor
  · rintro ⟨changed, h⟩
    obtain ⟨hopen, hfits, -⟩ := assert_ok_iff.1 h
    exact ⟨hopen, hfits⟩
  · rintro ⟨hopen, hfits⟩
    exact ⟨_, assert_ok_iff.2 ⟨hopen, hfits, rfl⟩⟩

theorem value?_assert (h : assert root tree s = .ok changed) (q : Path) (key : String) :
    changed.value? q key = (s.given? q key).or (tree.value? q key) := by
  obtain ⟨-, -, rfl⟩ := assert_ok_iff.1 h
  rw [value?_graft (update_sameBelow s _)]
  by_cases hq : q = s.target
  · rw [if_pos hq, find?_update, hq]
    rfl
  · have hnone : s.given? q key = none := Option.eq_none_iff_forall_ne_some.2 fun v hv => hq (eq_target_of_given? hv)
    rw [if_neg hq, hnone, Option.none_or]

theorem has_assert (h : assert root tree s = .ok changed) (q : Path) :
    changed.Has q ↔ tree.Has q ∨ q <+: s.target := by
  obtain ⟨-, -, rfl⟩ := assert_ok_iff.1 h
  exact has_graft (update_sameBelow s _) q

theorem Describes.assert (hd : Describes done tree) (h : assert root tree s = .ok changed) :
    Describes (done ++ [s]) changed where
  ordered := by
    obtain ⟨-, -, rfl⟩ := assert_ok_iff.1 h
    exact hd.ordered.graft (update_ordered s (hd.ordered.nodeAt _))
  has_iff q := by
    rw [has_assert h, hd.has_iff]
    simp only [List.mem_append, List.mem_singleton, or_and_right, exists_or, exists_eq_left, or_assoc]
  given q key v hv := by
    rw [value?_assert h, Option.or_eq_some_iff] at hv
    rw [gives_concat]
    rcases hv with hv | ⟨-, hv⟩
    · exact .inr hv
    · exact .inl (hd.given q key v hv)
  stored q key v hv := by
    rw [value?_assert h]
    cases hs : s.given? q key with
    | none =>
      rw [gives_concat, hs] at hv
      exact hd.stored q key v (hv.resolve_right fun h => nomatch h)
    | some value =>
      refine ⟨value, rfl, ?_⟩
      rw [gives_concat, hs] at hv
      rcases hv with hv | hv
      · obtain ⟨w, hw, hwv⟩ := hd.stored q key v hv
        have hq : q = s.target := eq_target_of_given? hs
        subst hq
        have hvalue : (w == value) = true := (((assert_ok_iff.1 h).2.1.2 key value hs).2 w hw)
        exact BEq.trans (BEq.symm hvalue) hwv
      · cases hv
        exact BEq.rfl

theorem find?_children_eq_none_iff (q : Path) (key : String) :
    Keyed.find? key (tree.nodeAt q).children = none ↔ ¬ tree.Has (q ++ [.field key]) := by
  rw [has_append tree q (List.cons_ne_nil _ _), has_cons]
  simp [has_nil, step?]

theorem Describes.agree_of_fits (hd : Describes done tree) (hfits : s.Fits (tree.nodeAt s.target)) {q : Path}
    {key : String} {v w : Json} (hv : Gives done q key v) (hw : s.given? q key = some w) : (v == w) = true := by
  obtain ⟨u, hu, huv⟩ := hd.stored q key v hv
  have hq : q = s.target := eq_target_of_given? hw
  subst hq
  have huw : (u == w) = true := (hfits.2 key w hw).2 u hu
  exact BEq.trans (BEq.symm huv) huw

theorem Describes.apart_of_fits (hd : Describes done tree) (hc : Consistent done) (hopen : tree.Open s.target)
    (hfits : s.Fits (tree.nodeAt s.target)) {q : Path} {key : String} {v : Json}
    (hv : Gives (done ++ [s]) q key v) {t : Statement} (ht : t ∈ done ++ [s]) : ¬ q ++ [.field key] <+: t.target := by
  intro hp
  rw [gives_concat] at hv
  rw [List.mem_append, List.mem_singleton] at ht
  rcases hv with hv | hv
  · rcases ht with ht | rfl
    · exact hc.apart q key v hv t ht hp
    · -- a value that stands would block the new path
      obtain ⟨w, hw, -⟩ := hd.stored q key v hv
      rw [hopen q key hp] at hw
      cases hw
  · have hq : q = s.target := eq_target_of_given? hv
    subst hq
    rcases ht with ht | rfl
    · -- where the value fits there is no child of that name, and so no place below it
      have hnot := (find?_children_eq_none_iff _ key).1 (hfits.2 key v hv).1
      exact hnot ((hd.has_iff _).2 (.inr ⟨t, ht, hp⟩))
    · have hlength := hp.length_le
      rw [List.length_append, List.length_singleton] at hlength
      omega

theorem Describes.consistent_concat (hd : Describes done tree) (hc : Consistent done) (hopen : tree.Open s.target)
    (hfits : s.Fits (tree.nodeAt s.target)) : Consistent (done ++ [s]) where
  accepted fault hf := by
    rcases List.mem_append.1 hf with hf | hf
    · exact hc.accepted fault hf
    · exact hfits.1 fault (List.mem_singleton.1 hf).symm
  agree q key v w hv hw := by
    rw [gives_concat] at hv hw
    rcases hv with hv | hv <;> rcases hw with hw | hw
    · exact hc.agree q key v w hv hw
    · exact hd.agree_of_fits hfits hv hw
    · exact BEq.symm (hd.agree_of_fits hfits hw hv)
    · rw [Option.some.inj (hv.symm.trans hw)]
      exact BEq.rfl
  apart q key v hv t ht := hd.apart_of_fits hc hopen hfits hv ht

theorem Describes.open_and_fits (hd : Describes done tree) (hall : Consistent (done ++ [s])) :
    tree.Open s.target ∧ s.Fits (tree.nodeAt s.target) := by
  have hmem : s ∈ done ++ [s] := List.mem_append_right _ List.mem_cons_self
  have hold {q key v} (h : tree.value? q key = some v) : Gives (done ++ [s]) q key v :=
    gives_concat.2 (.inl (hd.given q key v h))
  refine ⟨fun q name hp => ?_, fun fault hf => ?_, fun key value hv => ?_⟩
  · refine Option.eq_none_iff_forall_ne_some.2 fun v hv => ?_
    exact hall.apart q name v (hold hv) s hmem hp
  · subst hf
    exact hall.accepted fault hmem
  · have hgives : Gives (done ++ [s]) s.target key value := gives_concat.2 (.inr hv)
    constructor
    · rw [find?_children_eq_none_iff, hd.has_iff]
      rintro (he | ⟨t, ht, hp⟩)
      · exact List.append_ne_nil_of_right_ne_nil _ (List.cons_ne_nil _ _) he
      · exact hall.apart s.target key value hgives t (List.mem_append_left _ ht) hp
    · intro w hw
      exact hall.agree s.target key w value (hold hw) hgives

/-- A statement can be added exactly when it agrees with those that hold. -/
theorem assert_agrees (root : String) (hd : Describes done tree) (hc : Consistent done) :
    (∃ changed, assert root tree s = .ok changed) ↔ Consistent (done ++ [s]) := by
  rw [assert_isOk_iff]
  constructor
  · rintro ⟨hopen, hfits⟩
    exact hd.consistent_concat hc hopen hfits
  · exact fun hall => hd.open_and_fits hall

theorem assertAll_cons : assertAll root (s :: statements) tree =
    assert root tree s >>= assertAll root statements := rfl

theorem assertAll_from (hd : Describes done tree) (hc : Consistent done) (statements : List Statement) :
    ((∃ changed, assertAll root statements tree = .ok changed) ↔ Consistent (done ++ statements)) ∧
      ∀ changed, assertAll root statements tree = .ok changed → Describes (done ++ statements) changed := by
  induction statements generalizing done tree with
  | nil =>
    rw [List.append_nil]
    refine ⟨⟨fun _ => hc, fun _ => ⟨tree, rfl⟩⟩, fun changed h => ?_⟩
    cases h
    exact hd
  | cons s rest ih =>
    rw [assertAll_cons]
    have hsplit : done ++ s :: rest = (done ++ [s]) ++ rest := by simp
    rw [hsplit]
    cases hs : assert root tree s with
    | error fault =>
      have hnot : ¬ Consistent (done ++ [s]) := by
        rw [← assert_agrees root hd hc, hs]
        rintro ⟨_, h⟩
        cases h
      have hrest : ¬ Consistent (done ++ [s] ++ rest) := fun h => hnot (h.mono fun t ht => List.mem_append_left _ ht)
      exact ⟨⟨fun ⟨_, h⟩ => (nomatch h), fun h => absurd h hrest⟩, fun _ h => nomatch h⟩
    | ok next =>
      exact ih (hd.assert hs) ((assert_agrees root hd hc).1 ⟨next, hs⟩)

theorem assertAll_ok_iff :
    (∃ tree, assertAll root statements empty = .ok tree) ↔ Consistent statements :=
  (assertAll_from describes_empty consistent_nil statements).1

theorem describes_of_assertAll (h : assertAll root statements empty = .ok tree) :
    Describes statements tree :=
  (assertAll_from describes_empty consistent_nil statements).2 tree h

end Node

end DottedSchema
