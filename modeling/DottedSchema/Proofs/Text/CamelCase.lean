import DottedSchema.Text.CamelCase
import Mathlib.Data.List.Basic

set_option autoImplicit false

namespace DottedSchema.Text

variable {c d : Char} {cs xs ys word piece : List Char} {mode : CaseMode} {name : String}

theorem pieces_ne_nil (cs : List Char) : pieces cs ≠ [] := by
  cases cs with
  | nil => exact List.cons_ne_nil _ _
  | cons c cs =>
    rw [pieces]
    split
    · split <;> exact List.cons_ne_nil _ _
    · exact List.cons_ne_nil _ _

theorem pieces_append (h : isAlphanumeric c = false) (xs ys : List Char) :
    pieces (xs ++ c :: ys) = pieces xs ++ pieces ys := by
  induction xs with
  | nil =>
    have hc : pieces (c :: ys) = [] :: pieces ys := by
      rw [pieces, h]
      rfl
    exact hc
  | cons x xs ih =>
    rw [List.cons_append, pieces, pieces, ih]
    split
    · obtain ⟨piece, rest, hpieces⟩ := List.exists_cons_of_ne_nil (pieces_ne_nil xs)
      rw [hpieces]
      rfl
    · rfl

theorem pieces_of_alphanumeric (h : ∀ c ∈ cs, isAlphanumeric c = true) : pieces cs = [cs] := by
  induction cs with
  | nil => rfl
  | cons c cs ih =>
    rw [pieces, if_pos (h c List.mem_cons_self), ih fun d hd => h d (List.mem_cons_of_mem _ hd)]

/-- Without letters that have a case a piece is one word. -/
theorem words_of_caseless (h : ∀ c ∈ cs, isLower c = false ∧ isUpper c = false) (word : List Char) :
    words .none word cs = [word.reverse ++ cs] := by
  induction cs generalizing word with
  | nil =>
    rw [words, List.append_nil]
  | cons c cs ih =>
    obtain ⟨hlower, hupper⟩ := h c List.mem_cons_self
    have hafter : CaseMode.none.after c = .none := by
      rw [CaseMode.after, hlower, hupper]
      rfl
    have hrest := ih (fun d hd => h d (List.mem_cons_of_mem _ hd)) (c :: word)
    cases cs with
    | nil => rw [words, List.reverse_cons]
    | cons d rest =>
      have hnone : ¬ (CaseMode.none = .lower ∧ isUpper d = true) := fun he => nomatch he.1
      have hnone' : ¬ (CaseMode.none = .upper ∧ isUpper c = true ∧ isLower d = true) := fun he => nomatch he.1
      rw [words, hafter, if_neg hnone, if_neg hnone', hrest, List.reverse_cons, List.append_assoc]
      rfl

def digits : List Char := ['0', '1', '2', '3', '4', '5', '6', '7', '8', '9']

theorem mem_digits (h : c.isDigit = true) : c ∈ digits := by
  have hcode : ∀ n ∈ List.range' 48 10, Char.ofNat n ∈ digits := by decide
  obtain ⟨hlow, hhigh⟩ := Bool.and_eq_true_iff.1 h
  have hlow' : 48 ≤ c.toNat := UInt32.le_iff_toNat_le.1 (of_decide_eq_true hlow)
  have hhigh' : c.toNat ≤ 57 := UInt32.le_iff_toNat_le.1 (of_decide_eq_true hhigh)
  rw [← Char.ofNat_toNat c]
  exact hcode _ (List.mem_range'_1.2 ⟨hlow', by omega⟩)

theorem digit_facts : ∀ c ∈ digits, isAlphanumeric c = true ∧ isLower c = false ∧ isUpper c = false ∧
    toUpper c = [c] ∧ toLower c = [c] ∧ c ≠ 'Σ' :=
  List.forall_iff_forall_mem.1 (by decide)

theorem lowerRest_digits (h : ∀ c ∈ cs, c ∈ digits) : lowerRest cs = cs := by
  induction cs with
  | nil => rfl
  | cons c cs ih =>
    obtain ⟨-, -, -, -, hlower, hsigma⟩ := digit_facts c (h c List.mem_cons_self)
    have hrest := ih fun d hd => h d (List.mem_cons_of_mem _ hd)
    cases cs with
    | nil => rw [lowerRest, if_neg hsigma, hlower]
    | cons d rest =>
      rw [lowerRest, hlower, hrest]
      · rfl
      · exact fun he => nomatch he

theorem capitalize_digits (h : ∀ c ∈ cs, c ∈ digits) : capitalize cs = cs := by
  cases cs with
  | nil => rfl
  | cons c cs =>
    obtain ⟨-, -, -, hupper, -⟩ := digit_facts c (h c List.mem_cons_self)
    rw [capitalize, hupper, lowerRest_digits fun d hd => h d (List.mem_cons_of_mem _ hd)]
    rfl

theorem upperCamelCase_numbered (base : String) (n : Nat) :
    upperCamelCase (base ++ "_" ++ n.repr) = upperCamelCase base ++ n.repr := by
  have hdigits : ∀ c ∈ n.repr.toList, c ∈ digits := by
    intro c hc
    rw [Nat.toList_repr] at hc
    exact mem_digits (Nat.isDigit_of_mem_toDigits (by decide) (by decide) hc)
  -- the number is a piece by itself, that piece is one word, and capitalizing does not change it
  have hpieces : pieces (base ++ "_" ++ n.repr).toList = pieces base.toList ++ [n.repr.toList] := by
    rw [String.toList_append, String.toList_append, List.append_assoc]
    change pieces (base.toList ++ '_' :: n.repr.toList) = _
    rw [pieces_append (by decide), pieces_of_alphanumeric fun c hc => (digit_facts c (hdigits c hc)).1]
  have hwords : words .none [] n.repr.toList = [n.repr.toList] :=
    words_of_caseless (fun c hc => ⟨(digit_facts c (hdigits c hc)).2.1, (digit_facts c (hdigits c hc)).2.2.1⟩) []
  apply String.toList_inj.1
  rw [String.toList_append, upperCamelCase, upperCamelCase, hpieces, String.toList_ofList, String.toList_ofList,
    List.flatMap_append, List.flatMap_append, List.flatMap_singleton, hwords, List.flatMap_singleton,
    capitalize_digits hdigits]

theorem toNat_ofNat (n : Nat) : (Char.ofNat n).toNat = n ∨ (Char.ofNat n).toNat = 0 := by
  by_cases hn : n.isValidChar
  · exact .inl (by rw [Char.ofNat, dif_pos hn]; rfl)
  · exact .inr (by rw [Char.ofNat, dif_neg hn]; rfl)

def Outside (low high m : Nat) : Prop := 128 ≤ m ∨ low ≤ m ∧ m ≤ high

instance (low high m : Nat) : Decidable (Outside low high m) := inferInstanceAs (Decidable (_ ∨ _))

def Shift.Outside (low high : Nat) (s : Shift) : Prop :=
  128 ≤ s.span.first + s.distance ∨ low ≤ s.span.first + s.distance ∧ s.span.last + s.distance ≤ high

instance (low high : Nat) (s : Shift) : Decidable (s.Outside low high) := inferInstanceAs (Decidable (_ ∨ _))

variable {shifts : List Shift} {expansions : List (Nat × List Nat)} {low high n m : Nat}

theorem mem_of_lookup {codes : List Nat} (h : expansions.lookup n = some codes) : (n, codes) ∈ expansions := by
  obtain ⟨before, after, rfl, -⟩ := List.lookup_eq_some_iff.1 h
  exact List.mem_append_right _ List.mem_cons_self

theorem Shift.Outside.mem {s : Shift} (hs : s.Outside low high) (h : s.span.contains n = true) :
    Text.Outside low high (n + s.distance).toNat := by
  unfold Span.contains at h
  simp only [Bool.and_eq_true, decide_eq_true_eq] at h
  unfold Shift.Outside at hs
  unfold Text.Outside
  omega

theorem mem_mapCode (hshifts : ∀ s ∈ shifts, s.Outside low high)
    (hexpansions : ∀ e ∈ expansions, e.2 ≠ [] ∧ ∀ m ∈ e.2, Outside low high m) (hn : 128 ≤ n)
    (h : m ∈ mapCode shifts expansions n) : Outside low high m := by
  unfold mapCode at h
  split at h
  · rename_i codes hcodes
    exact (hexpansions _ (mem_of_lookup hcodes)).2 m h
  · split at h
    · rename_i s hs
      rw [List.mem_singleton.1 h]
      have hn : s.span.contains n = true := by simpa using List.find?_some hs
      exact (hshifts s (List.mem_of_find?_eq_some hs)).mem hn
    · rw [List.mem_singleton.1 h]
      exact .inl hn

theorem mapCode_ne_nil (hexpansions : ∀ e ∈ expansions, e.2 ≠ [] ∧ ∀ m ∈ e.2, Outside low high m) :
    mapCode shifts expansions n ≠ [] := by
  unfold mapCode
  split
  · rename_i codes hcodes
    exact (hexpansions _ (mem_of_lookup hcodes)).1
  · split <;> exact List.cons_ne_nil _ _

theorem upper_outside : (∀ s ∈ upperShifts, s.Outside 65 90) ∧
    ∀ e ∈ upperExpansions, e.2 ≠ [] ∧ ∀ m ∈ e.2, Outside 65 90 m := by
  decide +kernel

theorem lower_outside : (∀ s ∈ lowerShifts, s.Outside 97 122) ∧
    ∀ e ∈ lowerExpansions, e.2 ≠ [] ∧ ∀ m ∈ e.2, Outside 97 122 m := by
  decide +kernel

theorem toUpper_ne_nil (c : Char) : toUpper c ≠ [] := by
  unfold toUpper
  split
  · exact List.cons_ne_nil _ _
  · intro h
    exact mapCode_ne_nil upper_outside.2 (List.map_eq_nil_iff.1 h)

theorem mem_map_mapCode (hshifts : ∀ s ∈ shifts, s.Outside low high)
    (hexpansions : ∀ e ∈ expansions, e.2 ≠ [] ∧ ∀ m ∈ e.2, Outside low high m) (hc : isAscii c = false)
    (h : d ∈ (mapCode shifts expansions c.toNat).map Char.ofNat) : Outside low high d.toNat ∨ d.toNat = 0 := by
  obtain ⟨m, hm, rfl⟩ := List.mem_map.1 h
  have hn : 128 ≤ c.toNat := by
    unfold isAscii at hc
    rw [decide_eq_false_iff_not] at hc
    omega
  have hout := mem_mapCode hshifts hexpansions hn hm
  rcases toNat_ofNat m with he | he
  · exact .inl (he.symm ▸ hout)
  · exact .inr he

theorem toNat_toUpper (c : Char) :
    c.toUpper.toNat = if 97 ≤ c.toNat ∧ c.toNat ≤ 122 then c.toNat - 32 else c.toNat := by
  have hcode : c.val.toNat = c.toNat := rfl
  unfold Char.toUpper
  simp only [UInt32.le_iff_toNat_le, Char.reduceVal, UInt32.reduceToNat, hcode]
  by_cases h : 97 ≤ c.toNat ∧ c.toNat ≤ 122
  · rw [dif_pos h, if_pos h]
    change (c.val + (65 - 97)).toNat = _
    rw [UInt32.toNat_add, hcode]
    change (c.toNat + 4294967264) % 4294967296 = _
    omega
  · rw [dif_neg h, if_neg h]

theorem toNat_toLower (c : Char) :
    c.toLower.toNat = if 65 ≤ c.toNat ∧ c.toNat ≤ 90 then c.toNat + 32 else c.toNat := by
  have hcode : c.val.toNat = c.toNat := rfl
  unfold Char.toLower
  simp only [UInt32.le_iff_toNat_le, Char.reduceVal, UInt32.reduceToNat, hcode]
  by_cases h : 65 ≤ c.toNat ∧ c.toNat ≤ 90
  · rw [dif_pos h, if_pos h]
    change (c.val + (97 - 65)).toNat = _
    rw [UInt32.toNat_add, hcode]
    change (c.toNat + 32) % 4294967296 = _
    omega
  · rw [dif_neg h, if_neg h]

theorem toNat_of_mem_toUpper (h : d ∈ toUpper c) : d.toNat < 97 ∨ 122 < d.toNat := by
  unfold toUpper at h
  split at h
  · rw [List.mem_singleton.1 h, toNat_toUpper]
    split <;> omega
  · rename_i hc
    rcases mem_map_mapCode upper_outside.1 upper_outside.2 (Bool.eq_false_iff.2 hc) h with hout | hout
    · unfold Outside at hout
      omega
    · omega

/-- Characters of expressions that stand in no name. -/
def marks : List Char := ['.', '(', ')', '[', ']']

theorem mark_facts : ∀ mark ∈ marks, 0 < mark.toNat ∧ mark.toNat < 128 ∧ ¬ (65 ≤ mark.toNat ∧ mark.toNat ≤ 90) ∧
    ¬ (97 ≤ mark.toNat ∧ mark.toNat ≤ 122) ∧ isAlphanumeric mark = false :=
  List.forall_iff_forall_mem.1 (by decide)

variable {mark : Char}

theorem mark_not_mem_mapCode (hshifts : ∀ s ∈ shifts, s.Outside low high)
    (hexpansions : ∀ e ∈ expansions, e.2 ≠ [] ∧ ∀ m ∈ e.2, Outside low high m) (hc : isAscii c = false)
    (hmark : mark ∈ marks) (hbounds : ¬ (low ≤ mark.toNat ∧ mark.toNat ≤ high)) :
    mark ∉ (mapCode shifts expansions c.toNat).map Char.ofNat := by
  intro h
  obtain ⟨hpositive, hascii, -⟩ := mark_facts mark hmark
  rcases mem_map_mapCode hshifts hexpansions hc h with hout | hout
  · unfold Outside at hout
    omega
  · omega

theorem mark_of_mem_toUpper (hmark : mark ∈ marks) (h : mark ∈ toUpper c) : c = mark := by
  obtain ⟨-, -, hupper, -, -⟩ := mark_facts mark hmark
  unfold toUpper at h
  split at h
  · have hc := toNat_toUpper c
    rw [← List.mem_singleton.1 h] at hc
    apply Char.toNat_inj.1
    split at hc <;> omega
  · rename_i hc
    exact absurd h (mark_not_mem_mapCode upper_outside.1 upper_outside.2 (Bool.eq_false_iff.2 hc) hmark hupper)

theorem mark_of_mem_toLower (hmark : mark ∈ marks) (h : mark ∈ toLower c) : c = mark := by
  obtain ⟨-, -, -, hlower, -⟩ := mark_facts mark hmark
  unfold toLower at h
  split at h
  · have hc := toNat_toLower c
    rw [← List.mem_singleton.1 h] at hc
    apply Char.toNat_inj.1
    split at hc <;> omega
  · rename_i hc
    exact absurd h (mark_not_mem_mapCode lower_outside.1 lower_outside.2 (Bool.eq_false_iff.2 hc) hmark hlower)

theorem mark_of_mem_lowerRest (hmark : mark ∈ marks) (h : mark ∈ lowerRest cs) : mark ∈ cs := by
  induction cs with
  | nil => cases h
  | cons c cs ih =>
    cases cs with
    | nil =>
      rw [lowerRest] at h
      split at h
      · rw [List.mem_singleton.1 h] at hmark
        exact absurd hmark (by decide)
      · rw [mark_of_mem_toLower hmark h]
        exact List.mem_cons_self
    | cons d rest =>
      rw [lowerRest] at h
      · rcases List.mem_append.1 h with h | h
        · rw [mark_of_mem_toLower hmark h]
          exact List.mem_cons_self
        · exact List.mem_cons_of_mem _ (ih h)
      · exact fun he => nomatch he

theorem mark_of_mem_capitalize (hmark : mark ∈ marks) (h : mark ∈ capitalize cs) : mark ∈ cs := by
  cases cs with
  | nil => cases h
  | cons c cs =>
    rcases List.mem_append.1 h with h | h
    · rw [mark_of_mem_toUpper hmark h]
      exact List.mem_cons_self
    · exact List.mem_cons_of_mem _ (mark_of_mem_lowerRest hmark h)

theorem mem_of_mem_words (hword : word ∈ words mode xs cs) (h : c ∈ word) : c ∈ xs ∨ c ∈ cs := by
  fun_induction words mode xs cs with
  | case1 mode xs =>
    rw [List.mem_singleton.1 hword, List.mem_reverse] at h
    exact .inl h
  | case2 mode xs d =>
    rw [List.mem_singleton.1 hword, List.mem_reverse, List.mem_cons] at h
    exact h.symm.imp_right List.mem_singleton.2
  | case3 mode xs d next rest _ ih =>
    rcases List.mem_cons.1 hword with rfl | hword
    · rw [List.mem_reverse] at h
      rcases List.mem_cons.1 h with rfl | h
      · exact .inr List.mem_cons_self
      · exact .inl h
    · exact .inr (List.mem_cons_of_mem _ ((ih hword).resolve_left List.not_mem_nil))
  | case4 mode xs d next rest _ _ ih =>
    rcases List.mem_cons.1 hword with rfl | hword
    · exact .inl (List.mem_reverse.1 h)
    · rcases ih hword with hd | hrest
      · exact .inr (List.mem_singleton.1 hd ▸ List.mem_cons_self)
      · exact .inr (List.mem_cons_of_mem _ hrest)
  | case5 mode xs d next rest _ _ ih =>
    rcases ih hword with hd | hrest
    · rcases List.mem_cons.1 hd with rfl | hd
      · exact .inr List.mem_cons_self
      · exact .inl hd
    · exact .inr (List.mem_cons_of_mem _ hrest)

theorem alphanumeric_of_mem_pieces (hpiece : piece ∈ pieces cs) (h : c ∈ piece) : isAlphanumeric c = true := by
  induction cs generalizing piece with
  | nil =>
    rw [List.mem_singleton.1 hpiece] at h
    cases h
  | cons d cs ih =>
    rw [pieces] at hpiece
    split at hpiece
    · rename_i hd
      obtain ⟨first, rest, hpieces⟩ := List.exists_cons_of_ne_nil (pieces_ne_nil cs)
      rw [hpieces] at hpiece ih
      rcases List.mem_cons.1 hpiece with rfl | hpiece
      · rcases List.mem_cons.1 h with rfl | h
        · exact hd
        · exact ih List.mem_cons_self h
      · exact ih (List.mem_cons_of_mem _ hpiece) h
    · rcases List.mem_cons.1 hpiece with rfl | hpiece
      · cases h
      · exact ih hpiece h

theorem mark_not_mem (hmark : mark ∈ marks) (name : String) : mark ∉ (upperCamelCase name).toList := by
  intro h
  rw [upperCamelCase, String.toList_ofList, List.mem_flatMap] at h
  obtain ⟨word, hword, h⟩ := h
  obtain ⟨piece, hpiece, hword⟩ := List.mem_flatMap.1 hword
  have hmem := (mem_of_mem_words hword (mark_of_mem_capitalize hmark h)).resolve_left List.not_mem_nil
  obtain ⟨-, -, -, -, halphanumeric⟩ := mark_facts mark hmark
  rw [alphanumeric_of_mem_pieces hpiece hmem] at halphanumeric
  cases halphanumeric

theorem head_upperCamelCase (h : (upperCamelCase name).toList.head? = some d) : d.toNat < 97 ∨ 122 < d.toNat := by
  rw [upperCamelCase, String.toList_ofList, List.head?_flatMap] at h
  obtain ⟨word, -, h⟩ := List.exists_of_findSome?_eq_some h
  cases word with
  | nil => cases h
  | cons c rest =>
    obtain ⟨first, others, hupper⟩ := List.exists_cons_of_ne_nil (toUpper_ne_nil c)
    rw [capitalize, hupper] at h
    cases h
    exact toNat_of_mem_toUpper (hupper ▸ List.mem_cons_self)

end DottedSchema.Text
