import DottedSchema.Keyed
import Mathlib.Data.List.Permutation

set_option autoImplicit false

namespace DottedSchema.Keyed

variable {α β : Type} {R : α → β → Prop}

theorem find?_cons (key : String) (e : String × α) (rest : Keyed α) :
    find? key (e :: rest) = if e.1 = key then some e.2 else find? key rest := rfl

theorem find?_map (key : String) (f : α → β) (entries : Keyed α) :
    find? key (entries.map fun e => (e.1, f e.2)) = (find? key entries).map f := by
  induction entries with
  | nil => rfl
  | cons e rest ih =>
    rw [List.map_cons, find?_cons, find?_cons, ih]
    split <;> rfl

theorem map_insert (key : String) (value : α) (f : α → β) (entries : Keyed α) :
    (insert key value entries).map (fun e => (e.1, f e.2)) = insert key (f value) (entries.map fun e => (e.1, f e.2)) := by
  induction entries with
  | nil => rfl
  | cons e rest ih =>
    rw [insert, List.map_cons, insert]
    split
    · rfl
    · split
      · rfl
      · rw [List.map_cons, ih]

theorem find?_of_mem {key : String} {value : α} {entries : Keyed α} (ho : Ordered entries)
    (h : (key, value) ∈ entries) : find? key entries = some value := by
  induction entries with
  | nil => exact absurd h List.not_mem_nil
  | cons e rest ih =>
    obtain ⟨hfirst, hrest⟩ := List.pairwise_cons.1 ho
    rw [find?_cons]
    rcases List.mem_cons.1 h with rfl | h
    · rw [if_pos rfl]
    · have hne : e.1 ≠ key := by
        intro he
        have hlt := hfirst _ h
        rw [he] at hlt
        exact String.lt_irrefl _ hlt
      rw [if_neg hne]
      exact ih hrest h

theorem find?_tail_eq_none {e : String × α} {rest : Keyed α} (ho : Ordered (e :: rest)) :
    find? e.1 rest = none := by
  rw [find?_eq_none_iff]
  intro hm
  obtain ⟨e', he', heq⟩ := List.mem_map.1 hm
  have hlt := (List.pairwise_cons.1 ho).1 e' he'
  rw [heq] at hlt
  exact String.lt_irrefl _ hlt

theorem find?_eq_none_of_lt {e : String × α} {rest : Keyed α} (ho : Ordered (e :: rest)) {key : String}
    (h : key < e.1) : find? key (e :: rest) = none := by
  rw [find?_eq_none_iff]
  intro hm
  rcases List.mem_cons.1 hm with rfl | hm
  · exact String.lt_irrefl _ h
  · obtain ⟨e', he', rfl⟩ := List.mem_map.1 hm
    exact String.lt_irrefl _ (String.lt_trans h ((List.pairwise_cons.1 ho).1 e' he'))

theorem Ordered.first_eq {x : String × α} {xs : Keyed α} {y : String × β} {ys : Keyed β}
    (hx : Ordered (x :: xs)) (hy : Ordered (y :: ys))
    (h : ∀ key, Option.Rel R (find? key (x :: xs)) (find? key (y :: ys))) : x.1 = y.1 := by
  have hxkey := h x.1
  have hykey := h y.1
  rw [find?_cons, if_pos rfl] at hxkey
  rw [find?_cons y.1 y, if_pos rfl] at hykey
  -- each list has its least name in front, so neither name comes before the other
  have hlt : ¬ x.1 < y.1 := by
    intro hlt
    rw [find?_eq_none_of_lt hy hlt] at hxkey
    cases hxkey
  have hgt : ¬ y.1 < x.1 := by
    intro hgt
    rw [find?_eq_none_of_lt hx hgt] at hykey
    cases hykey
  exact String.le_antisymm (String.not_lt.1 hgt) (String.not_lt.1 hlt)

theorem Ordered.forall₂ {xs : Keyed α} {ys : Keyed β} (hx : Ordered xs) (hy : Ordered ys)
    (h : ∀ key, Option.Rel R (find? key xs) (find? key ys)) :
    List.Forall₂ (fun x y => x.1 = y.1 ∧ R x.2 y.2) xs ys := by
  induction xs generalizing ys with
  | nil =>
    cases ys with
    | nil => exact .nil
    | cons y ys =>
      have hy := h y.1
      rw [find?_cons, if_pos rfl] at hy
      cases hy
  | cons x xs ih =>
    cases ys with
    | nil =>
      have hx := h x.1
      rw [find?_cons, if_pos rfl] at hx
      cases hx
    | cons y ys =>
      have hfirst : x.1 = y.1 := hx.first_eq hy h
      have hvalues := h x.1
      rw [find?_cons, if_pos rfl, find?_cons, if_pos hfirst.symm, Option.rel_some_some] at hvalues
      refine .cons ⟨hfirst, hvalues⟩ (ih (List.pairwise_cons.1 hx).2 (List.pairwise_cons.1 hy).2 fun key => ?_)
      by_cases hk : x.1 = key
      · -- the name at the front does not come again
        rw [← hk, find?_tail_eq_none hx, hfirst, find?_tail_eq_none hy]
        exact .none
      · have hrest := h key
        rwa [find?_cons, if_neg hk, find?_cons, if_neg (hfirst ▸ hk)] at hrest

/-- Ordered lists that answer every look-up alike are one list. -/
theorem Ordered.ext {xs ys : Keyed α} (hx : Ordered xs) (hy : Ordered ys)
    (h : ∀ key, find? key xs = find? key ys) : xs = ys := by
  have hrel : ∀ key, Option.Rel Eq (find? key xs) (find? key ys) := by
    intro key
    rw [h key]
    cases find? key ys with
    | none => exact .none
    | some value => exact .some rfl
  exact List.forall₂_eq_eq_eq ▸ (hx.forall₂ hy hrel).imp fun _ _ hxy => Prod.ext hxy.1 hxy.2

theorem erase_cons (key : String) (e : String × α) (rest : Keyed α) :
    erase key (e :: rest) = if e.1 = key then erase key rest else e :: erase key rest := by
  rw [erase, erase, List.filter_cons]
  by_cases h : e.1 = key <;> simp [h]

theorem erase_of_find?_eq_none {key : String} {entries : Keyed α} (h : find? key entries = none) :
    erase key entries = entries := by
  refine List.filter_eq_self.2 fun e he => decide_eq_true fun hkey => ?_
  exact find?_eq_none_iff.1 h (hkey ▸ List.mem_map_of_mem he)

theorem Ordered.insert_perm {entries : Keyed α} (ho : Ordered entries) (key : String) (value : α) :
    (Keyed.insert key value entries).Perm ((key, value) :: Keyed.erase key entries) := by
  induction entries with
  | nil => exact .refl _
  | cons e rest ih =>
    rw [Keyed.insert]
    split
    · rename_i hlt
      rw [erase_of_find?_eq_none (find?_eq_none_of_lt ho hlt)]
    · split
      · rename_i heq
        subst heq
        rw [erase_cons, if_pos rfl, erase_of_find?_eq_none (find?_tail_eq_none ho)]
      · rename_i hne
        rw [erase_cons, if_neg (fun heq => hne heq.symm)]
        exact ((ih (List.pairwise_cons.1 ho).2).cons e).trans (.swap _ _ _)

theorem Ordered.insert_of_find? {key : String} {value : α} {entries : Keyed α} (ho : Ordered entries)
    (h : find? key entries = some value) : Keyed.insert key value entries = entries := by
  refine (ho.insert key value).ext ho fun other => ?_
  rw [find?_insert]
  split
  · rename_i heq
    rw [heq, h]
  · rfl

theorem Ordered.perm_of_find? {key : String} {value : α} {entries : Keyed α} (ho : Ordered entries)
    (h : find? key entries = some value) : entries.Perm ((key, value) :: Keyed.erase key entries) := by
  have hperm := ho.insert_perm key value
  rwa [ho.insert_of_find? h] at hperm

theorem rel_some_left {a : α} {o : Option β} (h : Option.Rel R (some a) o) :
    ∃ b, o = some b ∧ R a b := by
  cases h with
  | some hr => exact ⟨_, rfl, hr⟩

theorem rel_some_right {o : Option α} {b : β} (h : Option.Rel R o (some b)) :
    ∃ a, o = some a ∧ R a b := by
  cases h with
  | some hr => exact ⟨_, rfl, hr⟩

theorem rel_isSome {o : Option α} {p : Option β} (h : Option.Rel R o p) : o.isSome = p.isSome := by
  cases h <;> rfl

theorem rel_imp {S : α → β → Prop} {o : Option α} {p : Option β} (h : Option.Rel R o p)
    (himp : ∀ a, o = some a → ∀ b, R a b → S a b) : Option.Rel S o p := by
  cases h with
  | none => exact .none
  | some hab => exact .some (himp _ rfl _ hab)

theorem forall₂_isEmpty {xs : List α} {ys : List β} (h : List.Forall₂ R xs ys) : xs.isEmpty = ys.isEmpty := by
  cases h <;> rfl

theorem forall₂_imp_of_mem {S : α → β → Prop} {xs : List α} {ys : List β} (h : List.Forall₂ R xs ys)
    (himp : ∀ x ∈ xs, ∀ y, R x y → S x y) : List.Forall₂ S xs ys :=
  ((List.forall₂_and_left xs ys).2 ⟨himp, h⟩).imp fun _ y hxy => hxy.1 y hxy.2

end DottedSchema.Keyed
