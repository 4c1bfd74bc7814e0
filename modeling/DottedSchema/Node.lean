import DottedSchema.Json.Equality
import DottedSchema.Path

set_option autoImplicit false

namespace DottedSchema

structure Node where
  metadata : List (String × Json)
  children : List (String × Node)
  element : Option Node

namespace Node

def empty : Node := ⟨[], [], none⟩

instance : Inhabited Node := ⟨empty⟩

def step? (node : Node) : Step → Option Node
  | .field name => Keyed.find? name node.children
  | .items => node.element

def get? (node : Node) : Path → Option Node
  | [] => some node
  | step :: rest => (node.step? step).bind (get? · rest)

theorem get?_append (node : Node) (p q : Path) : node.get? (p ++ q) = (node.get? p).bind (get? · q) := by
  induction p generalizing node with
  | nil => rfl
  | cons step rest ih =>
    simp only [List.cons_append, get?]
    cases node.step? step with
    | none => rfl
    | some next => exact ih next

theorem get?_empty_cons (step : Step) (rest : Path) : empty.get? (step :: rest) = none := by
  cases step <;> rfl

def typeCode? (node : Node) : Option Json := Keyed.find? "data_type" node.metadata

/-- The documentation, where it is a text that says anything. -/
def documentation? (node : Node) : Option String :=
  ((Keyed.find? "documentation" node.metadata).bind Json.text?).filter (· ≠ "")

def isEmpty (node : Node) : Bool := node.metadata.isEmpty && node.children.isEmpty && node.element.isNone

theorem ok_bind {α β : Type} (produced : α) (next : α → Except Fault β) :
    Except.ok produced >>= next = next produced := rfl

theorem bind_eq_ok {α β : Type} {value : Except Fault α} {next : α → Except Fault β} {result : β}
    (h : value >>= next = .ok result) : ∃ produced, value = .ok produced ∧ next produced = .ok result := by
  cases value with
  | error fault => cases h
  | ok produced => exact ⟨produced, rfl, h⟩

/-- Replaces the node at a path by `f` of it; nodes missing on the way are created. A name on the way that is a
metadata key stops this: the fault is `blocked` of the steps up to that name. -/
def alter (f : Node → Except Fault Node) (blocked : Path → Fault) : Path → Node → Except Fault Node
  | [], node => f node
  | .field name :: rest, node =>
    if Keyed.has name node.metadata then .error (blocked [.field name])
    else do
      let child ← alter f (fun steps => blocked (.field name :: steps)) rest
        ((Keyed.find? name node.children).getD empty)
      return { node with children := Keyed.insert name child node.children }
  | .items :: rest, node => do
    let element ← alter f (fun steps => blocked (.items :: steps)) rest (node.element.getD empty)
    return { node with element := some element }

theorem get?_getD_cons (node : Node) (step : Step) (rest : Path) :
    (node.get? (step :: rest)).getD empty = ((((node.step? step).getD empty).get? rest).getD empty) := by
  simp only [get?]
  cases node.step? step with
  | some next => rfl
  | none =>
    cases rest with
    | nil => rfl
    | cons step rest => simp [get?_empty_cons]

/-- Puts a value under a metadata key. A child of that name or a different value there is a conflict; `label` is
the node's dotted path. -/
def annotate (label key : String) (value : Json) (node : Node) : Except Fault Node :=
  if Keyed.has key node.children then .error (.inconsistent (label ++ "." ++ key) .metadataOverChild)
  else if ((Keyed.find? key node.metadata).all (· == value)) then
    .ok { node with metadata := Keyed.insert key value node.metadata }
  else .error (.inconsistent label (.differingValues key))

theorem induction {P : Node → Prop}
    (node : ∀ (metadata : List (String × Json)) (children : List (String × Node)) (element : Option Node),
      (∀ c ∈ children, P c.2) → (∀ e, element = some e → P e) → P ⟨metadata, children, element⟩)
    (n : Node) : P n :=
  Node.rec (motive_1 := P) (motive_2 := fun children => ∀ c ∈ children, P c.2)
    (motive_3 := fun element => ∀ e, element = some e → P e) (motive_4 := fun c => P c.2)
    (fun metadata children element hc he => node metadata children element hc he)
    (fun _ hc => absurd hc List.not_mem_nil)
    (fun _ _ hc hcs _ hm => (List.mem_cons.1 hm).elim (fun e => e ▸ hc) (hcs _))
    (fun _ he => nomatch he)
    (fun _ hn _ he => Option.some.inj he ▸ hn)
    (fun _ _ hn => hn) n

end Node

end DottedSchema
