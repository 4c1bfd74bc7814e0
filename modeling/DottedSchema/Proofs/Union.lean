import DottedSchema.Proofs.Pairing

set_option autoImplicit false

namespace DottedSchema.Keyed

variable {α β : Type} {key : String} {value : α} {added entries : Keyed α} {p : String × α → Bool}

/-- The entries with all of `added` put among them, in place of those under the same names. -/
def union (added entries : Keyed α) : Keyed α := added.foldl (fun entries e => insert e.1 e.2 entries) entries

theorem union_cons (e : String × α) (added entries : Keyed α) :
    union (e :: added) entries = union added (insert e.1 e.2 entries) := rfl

theorem Ordered.union (h : Ordered entries) (added : Keyed α) : Ordered (Keyed.union added entries) := by
  induction added generalizing entries with
  | nil => exact h
  | cons e rest ih => exact ih (h.insert e.1 e.2)

theorem mem_of_mem_union {e : String × α} (h : e ∈ union added entries) : e ∈ added ∨ e ∈ entries := by
  induction added generalizing entries with
  | nil => exact .inr h
  | cons first rest ih =>
    rcases ih h with h | h
    · exact .inl (List.mem_cons_of_mem _ h)
    · refine (mem_of_mem_insert h).imp_left fun he => ?_
      rw [he]
      exact List.mem_cons_self

theorem find?_union (hadded : Ordered added) (key : String) (entries : Keyed α) :
    find? key (union added entries) = (find? key added).or (find? key entries) := by
  induction added generalizing entries with
  | nil => rfl
  | cons e rest ih =>
    obtain ⟨-, hrest⟩ := List.pairwise_cons.1 hadded
    rw [union_cons, ih hrest, find?_insert, find?_cons]
    by_cases hkey : e.1 = key
    · rw [if_pos hkey, if_pos hkey.symm, ← hkey, find?_tail_eq_none hadded]
      rfl
    · rw [if_neg hkey, if_neg (Ne.symm hkey)]

theorem find?_union_of_ne (h : ∀ e ∈ added, e.1 ≠ key) : find? key (union added entries) = find? key entries := by
  induction added generalizing entries with
  | nil => rfl
  | cons e rest ih =>
    obtain ⟨hfirst, hrest⟩ := List.forall_mem_cons.1 h
    rw [union_cons, ih hrest, find?_insert, if_neg (Ne.symm hfirst)]

theorem mem_union_iff (hadded : Ordered added) (hentries : Ordered entries)
    (hapart : List.Disjoint (keys added) (keys entries)) {e : String × α} :
    e ∈ union added entries ↔ e ∈ added ∨ e ∈ entries := by
  refine ⟨mem_of_mem_union, fun h => mem_of_find? ?_⟩
  rw [find?_union hadded]
  rcases h with h | h
  · rw [find?_of_mem hadded h, Option.some_or]
  · have hnone : find? e.1 added = none := find?_eq_none_iff.2 fun hkey => hapart hkey (List.mem_map_of_mem h)
    rw [hnone, Option.none_or, find?_of_mem hentries h]

theorem map_union (f : α → β) (added entries : Keyed α) : (union added entries).map (fun e => (e.1, f e.2)) =
    union (added.map fun e => (e.1, f e.2)) (entries.map fun e => (e.1, f e.2)) := by
  induction added generalizing entries with
  | nil => rfl
  | cons e rest ih => rw [union_cons, ih, map_insert, List.map_cons, union_cons]

theorem filter_insert (hnew : p (key, value) = false) (hold : ∀ e ∈ entries, e.1 = key → p e = false) :
    (insert key value entries).filter p = entries.filter p := by
  induction entries with
  | nil => simp [insert, hnew]
  | cons e rest ih =>
    obtain ⟨hfirst, hrest⟩ := List.forall_mem_cons.1 hold
    rw [insert]
    split
    · rw [List.filter_cons_of_neg (Bool.eq_false_iff.1 hnew)]
    · split
      · rename_i heq
        rw [List.filter_cons_of_neg (Bool.eq_false_iff.1 hnew),
          List.filter_cons_of_neg (Bool.eq_false_iff.1 (hfirst heq.symm))]
      · rw [List.filter_cons, List.filter_cons, ih hrest]

theorem filter_union (hnew : ∀ e ∈ added, p e = false)
    (hold : ∀ e ∈ added, ∀ e' ∈ entries, e'.1 = e.1 → p e' = false) :
    (union added entries).filter p = entries.filter p := by
  induction added generalizing entries with
  | nil => rfl
  | cons e rest ih =>
    obtain ⟨hfirst, hrest⟩ := List.forall_mem_cons.1 hnew
    obtain ⟨hentries, hothers⟩ := List.forall_mem_cons.1 hold
    rw [union_cons, ih hrest, filter_insert hfirst hentries]
    intro other hother e' he' hkey
    rcases mem_of_mem_insert he' with rfl | he'
    · exact hfirst
    · exact hothers other hother e' he' hkey

theorem filter_union_right (hapart : List.Disjoint (keys added) (keys entries)) :
    (union added entries).filter (fun e => !decide (e.1 ∈ keys added)) = entries := by
  rw [filter_union]
  · refine List.filter_eq_self.2 fun e he => ?_
    rw [Bool.not_eq_true', decide_eq_false_iff_not]
    exact fun hkey => hapart hkey (List.mem_map_of_mem he)
  · intro e he
    rw [Bool.not_eq_false', decide_eq_true_eq]
    exact List.mem_map_of_mem he
  · intro e he e' _ hkey
    rw [Bool.not_eq_false', decide_eq_true_eq, hkey]
    exact List.mem_map_of_mem he

theorem find?_filter_keys (key : String) (q : String → Bool) (entries : Keyed α) :
    find? key (entries.filter (q ·.1)) = if q key then find? key entries else none := by
  induction entries with
  | nil => exact (ite_self _).symm
  | cons e rest ih =>
    rw [List.filter_cons]
    by_cases hkey : e.1 = key
    · subst hkey
      cases hq : q e.1 with
      | true => simp [find?_cons]
      | false => simp [ih, hq]
    · rw [find?_cons, if_neg hkey, ← ih]
      split
      · rw [find?_cons, if_neg hkey]
      · rfl

theorem filter_union_left (hadded : Ordered added) (hentries : Ordered entries) :
    (union added entries).filter (fun e => decide (e.1 ∈ keys added)) = added := by
  refine ((hentries.union added).filter _).ext hadded fun key => ?_
  refine (find?_filter_keys key (fun key => decide (key ∈ keys added)) _).trans ?_
  rw [find?_union hadded]
  by_cases hkey : key ∈ keys added
  · obtain ⟨e, he, rfl⟩ := List.mem_map.1 hkey
    rw [if_pos (decide_eq_true hkey), find?_of_mem hadded he, Option.some_or]
  · rw [if_neg fun h => hkey (of_decide_eq_true h), find?_eq_none_iff.2 hkey]

end DottedSchema.Keyed
