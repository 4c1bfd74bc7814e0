/-!
# Named values in the order of their names

JSON objects, the children of a tree node and the properties of an artifact are lists of named values whose
names strictly increase in code-point order. So such a list is determined by what `find?` sees.
-/
set_option autoImplicit false

namespace DottedSchema

abbrev Keyed (α : Type) := List (String × α)

namespace Keyed

variable {α : Type}

def keys (entries : Keyed α) : List String := entries.map (·.1)

def find? (key : String) : Keyed α → Option α
  | [] => none
  | (k, v) :: rest => if k = key then some v else find? key rest

def has (key : String) (entries : Keyed α) : Bool := (find? key entries).isSome

def insert (key : String) (value : α) : Keyed α → Keyed α
  | [] => [(key, value)]
  | (k, v) :: rest =>
    if key < k then (key, value) :: (k, v) :: rest
    else if key = k then (key, value) :: rest
    else (k, v) :: insert key value rest

def erase (key : String) (entries : Keyed α) : Keyed α := entries.filter (·.1 ≠ key)

def modify (key : String) (f : α → α) (entries : Keyed α) : Keyed α :=
  entries.map fun e => if e.1 = key then (e.1, f e.2) else e

def ofList (pairs : List (String × α)) : Keyed α :=
  pairs.foldl (fun entries e => insert e.1 e.2 entries) []

def Ordered (entries : Keyed α) : Prop := entries.Pairwise (fun a b => a.1 < b.1)

instance (entries : Keyed α) : Decidable (Ordered entries) :=
  inferInstanceAs (Decidable (entries.Pairwise _))

theorem mem_of_find? {key : String} {value : α} {entries : Keyed α}
    (h : find? key entries = some value) : (key, value) ∈ entries := by
  induction entries with
  | nil => simp [find?] at h
  | cons e rest ih =>
    obtain ⟨k, v⟩ := e
    by_cases hk : k = key
    · simp_all [find?]
    · simp only [find?, hk, if_false] at h
      exact List.mem_cons_of_mem _ (ih h)

theorem find?_eq_none_iff {key : String} {entries : Keyed α} :
    find? key entries = none ↔ key ∉ keys entries := by
  induction entries with
  | nil => simp [find?, keys]
  | cons e rest ih =>
    obtain ⟨k, v⟩ := e
    by_cases hk : k = key
    · simp [find?, keys, hk]
    · have hk' : ¬ key = k := fun h => hk h.symm
      simp only [find?, hk, if_false, ih]
      simp [keys, hk']

theorem eq_nil_iff {entries : Keyed α} : entries = [] ↔ ∀ key, find? key entries = none := by
  constructor
  · rintro rfl key
    rfl
  · intro h
    cases entries with
    | nil => rfl
    | cons e rest =>
      have hfirst := h e.1
      rw [find?, if_pos rfl] at hfirst
      cases hfirst

theorem find?_insert (key other : String) (value : α) (entries : Keyed α) :
    find? other (insert key value entries) = if other = key then some value else find? other entries := by
  induction entries with
  | nil => simp only [insert, find?, eq_comm]
  | cons e rest ih =>
    obtain ⟨k, v⟩ := e
    simp only [insert]
    split
    · simp only [find?, eq_comm]
    · split
      · rename_i h
        subst h
        by_cases ho : other = key
        · simp [find?, ho]
        · have : ¬ key = other := fun h => ho h.symm
          simp [find?, ho, this]
      · rename_i hne
        by_cases ho : k = other
        · subst ho
          have : ¬ k = key := fun h => hne h.symm
          simp [find?, this]
        · simp only [find?, ho, if_false, ih]

theorem mem_keys_insert {key other : String} {value : α} {entries : Keyed α} :
    other ∈ keys (insert key value entries) ↔ other = key ∨ other ∈ keys entries := by
  have h := find?_insert key other value entries
  by_cases ho : other = key
  · simp only [ho, if_true] at h
    simp only [ho, true_or, iff_true]
    refine Classical.byContradiction fun hn => ?_
    rw [find?_eq_none_iff.2 hn] at h
    cases h
  · simp only [ho, if_false] at h
    simp only [ho, false_or]
    exact Decidable.not_iff_not.1 (by rw [← find?_eq_none_iff, ← find?_eq_none_iff, h])

theorem insert_insert (key : String) (former value : α) (entries : Keyed α) :
    insert key value (insert key former entries) = insert key value entries := by
  induction entries with
  | nil => simp [insert]
  | cons e rest ih =>
    obtain ⟨k, v⟩ := e
    by_cases hlt : key < k
    · simp [insert, hlt]
    · by_cases heq : key = k
      · simp [insert, heq]
      · simp only [insert, hlt, heq, if_false, ih]

theorem mem_of_mem_insert {key : String} {value : α} {entries : Keyed α} {e : String × α}
    (h : e ∈ insert key value entries) : e = (key, value) ∨ e ∈ entries := by
  induction entries with
  | nil => exact .inl (List.mem_singleton.1 h)
  | cons first rest ih =>
    simp only [insert] at h
    split at h
    · exact List.mem_cons.1 h
    · split at h
      · exact (List.mem_cons.1 h).imp_right (List.mem_cons_of_mem _)
      · rcases List.mem_cons.1 h with rfl | h
        · exact .inr List.mem_cons_self
        · exact (ih h).imp_right (List.mem_cons_of_mem _)

theorem Ordered.insert {entries : Keyed α} (h : Ordered entries) (key : String) (value : α) :
    Ordered (insert key value entries) := by
  induction entries with
  | nil => simp [Keyed.insert, Ordered]
  | cons e rest ih =>
    obtain ⟨k, v⟩ := e
    obtain ⟨hk, hrest⟩ := List.pairwise_cons.1 h
    simp only [Keyed.insert]
    split
    · rename_i hlt
      refine List.pairwise_cons.2 ⟨fun e he => ?_, h⟩
      rcases List.mem_cons.1 he with rfl | he
      · exact hlt
      · exact String.lt_trans hlt (hk e he)
    · split
      · rename_i heq
        subst heq
        exact List.pairwise_cons.2 ⟨hk, hrest⟩
      · rename_i hge hne
        refine List.pairwise_cons.2 ⟨fun e he => ?_, ih hrest⟩
        have hm : e.1 ∈ keys (Keyed.insert key value rest) := List.mem_map_of_mem he
        rcases mem_keys_insert.1 hm with heq | hm
        · rw [heq]
          exact Decidable.byContradiction fun hlt =>
            hne (String.le_antisymm (String.not_lt.1 hlt) (String.not_lt.1 hge))
        · obtain ⟨e', he', heq⟩ := List.mem_map.1 hm
          rw [← heq]
          exact hk e' he'

theorem Ordered.filter {entries : Keyed α} (h : Ordered entries) (p : String × α → Bool) :
    Ordered (entries.filter p) := List.Pairwise.filter p h

theorem ordered_iff_keys {entries : Keyed α} : Ordered entries ↔ (keys entries).Pairwise (· < ·) := by
  rw [keys, List.pairwise_map]
  rfl

end Keyed

end DottedSchema
