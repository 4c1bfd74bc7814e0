import DottedSchema.Proofs.Node.Graft
import DottedSchema.Proofs.Pairing

set_option autoImplicit false

namespace DottedSchema.Node

mutual

def beq : Node → Node → Bool
  | ⟨m, c, e⟩, ⟨m', c', e'⟩ => Json.beqMembers m m' && beqChildren c c' && beqElement e e'

def beqChildren : List (String × Node) → List (String × Node) → Bool
  | [], [] => true
  | (k, a) :: as, (l, b) :: bs => k == l && beq a b && beqChildren as bs
  | _, _ => false

def beqElement : Option Node → Option Node → Bool
  | none, none => true
  | some a, some b => beq a b
  | _, _ => false

end

instance : BEq Node := ⟨beq⟩

inductive Ordered : Node → Prop
  | intro {metadata : List (String × Json)} {children : List (String × Node)} {element : Option Node}
      (metadata_ordered : Keyed.Ordered metadata) (children_ordered : Keyed.Ordered children)
      (child : ∀ name n, Keyed.find? name children = some n → Ordered n)
      (item : ∀ n, element = some n → Ordered n) : Ordered ⟨metadata, children, element⟩

variable {node new a b : Node} {path place : Path} {step : Step} {key : String}

theorem Ordered.metadata (h : node.Ordered) : Keyed.Ordered node.metadata := by
  cases h with | intro hm _ _ _ => exact hm

theorem Ordered.children (h : node.Ordered) : Keyed.Ordered node.children := by
  cases h with | intro _ hc _ _ => exact hc

theorem Ordered.step? (h : node.Ordered) (step : Step) {next : Node} (hn : node.step? step = some next) :
    next.Ordered := by
  cases h with
  | intro _ _ child item =>
    cases step with
    | field name => exact child name next hn
    | items => exact item next hn

theorem ordered_empty : empty.Ordered :=
  .intro List.Pairwise.nil List.Pairwise.nil (fun _ _ h => nomatch h) (fun _ h => nomatch h)

theorem Ordered.get? (h : node.Ordered) {n : Node} (hn : node.get? place = some n) : n.Ordered := by
  induction place generalizing node with
  | nil => exact Option.some.inj hn ▸ h
  | cons step rest ih =>
    obtain ⟨next, hnext, hrest⟩ := Option.bind_eq_some_iff.1 hn
    exact ih (h.step? step hnext) hrest

theorem Ordered.nodeAt (h : node.Ordered) (place : Path) : (node.nodeAt place).Ordered := by
  unfold Node.nodeAt
  cases hg : node.get? place with
  | none => exact ordered_empty
  | some n => exact h.get? hg

theorem Ordered.setStep (h : node.Ordered) {next : Node} (hn : next.Ordered) :
    (node.setStep step next).Ordered := by
  cases h with
  | intro hm hc child item =>
    cases step with
    | items => exact .intro hm hc child fun n he => Option.some.inj he ▸ hn
    | field name =>
      refine .intro hm (hc.insert name next) (fun other n hf => ?_) item
      rw [Keyed.find?_insert] at hf
      split at hf
      · exact Option.some.inj hf ▸ hn
      · exact child other n hf

theorem Ordered.graft (h : node.Ordered) (hn : new.Ordered) : (graft path new node).Ordered := by
  induction path generalizing node with
  | nil => exact hn
  | cons step rest ih => exact h.setStep (ih (h.nodeAt [step]))

theorem beqMembers_of_forall₂ {xs ys : List (String × Json)}
    (h : List.Forall₂ (fun x y => x.1 = y.1 ∧ (x.2 == y.2) = true) xs ys) : Json.beqMembers xs ys = true := by
  induction h with
  | nil => rfl
  | @cons x y _ _ hxy _ ih =>
    have hv : Json.beq x.2 y.2 = true := hxy.2
    simp [Json.beqMembers, hxy.1, hv, ih]

theorem beqChildren_of_forall₂ {xs ys : List (String × Node)}
    (h : List.Forall₂ (fun x y => x.1 = y.1 ∧ beq x.2 y.2 = true) xs ys) : beqChildren xs ys = true := by
  induction h with
  | nil => rfl
  | @cons x y _ _ hxy _ ih => simp [beqChildren, hxy.1, hxy.2, ih]

structure SamePlaces (a b : Node) : Prop where
  has_iff : ∀ q, a.Has q ↔ b.Has q
  value : ∀ q key, Option.Rel (fun v w => (v == w) = true) (a.value? q key) (b.value? q key)

/-- Both trees are in order and have the same places, at each of which the values under a key are related. -/
structure Related (R : String → Option Json → Option Json → Prop) (a b : Node) : Prop where
  left : a.Ordered
  right : b.Ordered
  has_iff : ∀ q, a.Has q ↔ b.Has q
  value : ∀ q key, R key (a.value? q key) (b.value? q key)

variable {R : String → Option Json → Option Json → Prop}

theorem has_of_step? {next : Node} (h : node.step? step = some next) (q : Path) :
    node.Has (step :: q) ↔ next.Has q := by
  unfold Has
  rw [get?, h, Option.bind_some]

theorem value?_of_step? {next : Node} (h : node.step? step = some next) (q : Path) (key : String) :
    node.value? (step :: q) key = next.value? q key := by
  unfold value? nodeAt
  rw [get?, h, Option.bind_some]

/-- Trees that are related below a step have related nodes there, whatever they are elsewhere. -/
theorem related_step? (ha : a.Ordered) (hb : b.Ordered) (hhas : ∀ q, a.Has (step :: q) ↔ b.Has (step :: q))
    (hvalue : ∀ q key, R key (a.value? (step :: q) key) (b.value? (step :: q) key)) :
    Option.Rel (Related R) (a.step? step) (b.step? step) := by
  have hsome : (a.step? step).isSome ↔ (b.step? step).isSome := by
    simpa [has_cons, has_nil] using hhas []
  cases hn : a.step? step with
  | none =>
    cases hm : b.step? step with
    | none => exact .none
    | some m => simp [hn, hm] at hsome
  | some n =>
    cases hm : b.step? step with
    | none => simp [hn, hm] at hsome
    | some m =>
      refine .some ⟨ha.step? step hn, hb.step? step hm, fun q => ?_, fun q key => ?_⟩
      · rw [← has_of_step? hn, ← has_of_step? hm]
        exact hhas q
      · rw [← value?_of_step? hn, ← value?_of_step? hm]
        exact hvalue q key

theorem Related.step? (h : Related R a b) (step : Step) : Option.Rel (Related R) (a.step? step) (b.step? step) :=
  related_step? h.left h.right (fun q => h.has_iff (step :: q)) fun q key => h.value (step :: q) key

theorem Related.children (h : Related R a b) :
    List.Forall₂ (fun c d => c.1 = d.1 ∧ Related R c.2 d.2) a.children b.children :=
  h.left.children.forall₂ h.right.children fun name => h.step? (.field name)

theorem Related.element (h : Related R a b) : Option.Rel (Related R) a.element b.element := h.step? .items

theorem beq_of_related (h : Related (fun _ => Option.Rel fun v w => (v == w) = true) a b) : beq a b = true := by
  induction a using Node.induction generalizing b with
  | node metadata children element ihc ihe =>
    obtain ⟨metadata', children', element'⟩ := b
    have hm : Json.beqMembers metadata metadata' = true :=
      beqMembers_of_forall₂ (h.left.metadata.forall₂ h.right.metadata fun key => h.value [] key)
    have hc : beqChildren children children' = true :=
      beqChildren_of_forall₂ (Keyed.forall₂_imp_of_mem h.children fun c hc _ hcd => hcd.imp_right (ihc c hc))
    have he : beqElement element element' = true := by
      have hitem : Option.Rel _ element element' := h.element
      cases hitem with
      | none => rfl
      | some hnm => exact ihe _ rfl hnm
    simp [beq, hm, hc, he]

theorem beq_of_places (ha : a.Ordered) (hb : b.Ordered) (h : SamePlaces a b) : (a == b) = true :=
  beq_of_related ⟨ha, hb, h.has_iff, h.value⟩

theorem eq_of_related (h : Related (fun _ v w => v = w) a b) : a = b := by
  induction a using Node.induction generalizing b with
  | node metadata children element ihc ihe =>
    obtain ⟨metadata', children', element'⟩ := b
    have hm : metadata = metadata' := h.left.metadata.ext h.right.metadata fun key => h.value [] key
    have hc : children = children' := by
      rw [← List.forall₂_eq_eq_eq]
      exact Keyed.forall₂_imp_of_mem h.children fun c hc d hcd => Prod.ext hcd.1 (ihc c hc hcd.2)
    have he : element = element' := by
      have hitem : Option.Rel _ element element' := h.element
      cases hitem with
      | none => rfl
      | some hnm => exact congrArg some (ihe _ rfl hnm)
    rw [hm, hc, he]

end DottedSchema.Node
