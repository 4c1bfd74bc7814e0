import DottedSchema.Fault

/-!
# Dotted paths

A dotted path is one or more segments joined by `.`, each a name without `.`, `[` and `]`, with an optional array
marker `[:]` at its end. As a list of steps, each segment is a `field` step, followed by an `items` step where it
is marked.
-/
set_option autoImplicit false

namespace DottedSchema

inductive Step where
  | field (name : String)
  | items
deriving DecidableEq

def Step.label : Step → String
  | .field name => name
  | .items => "items"

abbrev Path := List Step

namespace Path

def marker : List Char := ['[', ':', ']']

def segments : List Char → List (List Char)
  | [] => [[]]
  | c :: cs =>
    if c = '.' then [] :: segments cs
    else match segments cs with
      | [] => [[c]]
      | s :: rest => (c :: s) :: rest

theorem segments_ne_nil (cs : List Char) : segments cs ≠ [] := by
  cases cs with
  | nil => simp [segments]
  | cons c cs =>
    simp only [segments]
    split
    · simp
    · split <;> simp

theorem intercalate_segments (cs : List Char) : ['.'].intercalate (segments cs) = cs := by
  induction cs with
  | nil => rfl
  | cons c cs ih =>
    simp only [segments]
    split
    · rename_i hc
      cases h : segments cs with
      | nil => exact absurd h (segments_ne_nil cs)
      | cons s rest =>
        rw [h] at ih
        simp [List.intercalate, List.intersperse, hc] at ih ⊢
        exact ih
    · split
      · rename_i h
        exact absurd h (segments_ne_nil cs)
      · rename_i s rest h
        rw [h] at ih
        cases rest with
        | nil => simpa [List.intercalate, List.intersperse] using ih
        | cons t rest =>
          simp only [List.intercalate, List.intersperse, List.flatten_cons, List.cons_append] at ih ⊢
          rw [ih]

theorem dot_not_mem_of_mem_segments {cs s : List Char} (h : s ∈ segments cs) : '.' ∉ s := by
  induction cs generalizing s with
  | nil => simp_all [segments]
  | cons c cs ih =>
    simp only [segments] at h
    split at h
    · rcases List.mem_cons.1 h with rfl | h
      · simp
      · exact ih h
    · rename_i hc
      split at h
      · rw [List.mem_singleton.1 h]
        exact fun hm => hc (List.mem_singleton.1 hm).symm
      · rename_i t rest hs
        rcases List.mem_cons.1 h with rfl | h
        · have ht := ih (s := t) (by simp [hs])
          exact fun hm => (List.mem_cons.1 hm).elim (fun he => hc he.symm) ht
        · exact ih (by simp [hs, h])

def stripMarker (segment : List Char) : List Char × Bool :=
  if marker.isSuffixOf segment then (segment.take (segment.length - 3), true) else (segment, false)

def segmentSteps (segment : List Char) : Except PathFault Path :=
  let (name, marked) := stripMarker segment
  if name = [] then .error .emptySegment
  else if name.contains '[' || name.contains ']' then .error (.misplacedMarker (String.ofList segment))
  else .ok (.field (String.ofList name) :: if marked then [.items] else [])

def ofSegments : List (List Char) → Except PathFault Path
  | [] => .ok []
  | s :: rest => do return (← segmentSteps s) ++ (← ofSegments rest)

def parse (dotted : String) : Except Fault Path :=
  (ofSegments (segments dotted.toList)).mapError (.malformedPath dotted)

def append (dotted : String) : Step → String
  | .field name => if dotted = "" then name else dotted ++ "." ++ name
  | .items => dotted ++ "[:]"

def dotted (path : Path) : String := path.foldl append ""

end Path

end DottedSchema
