import DottedSchema.Proofs.Assembly.Invariant
import DottedSchema.Proofs.Assembly.Values
import DottedSchema.Proofs.Union

set_option autoImplicit false

namespace DottedSchema

variable {root path : String} {limit : Nat} {entries : List (String × Json)} {value : Json} {step first : Step}
  {p : String × Json → Bool}

namespace Content

def Begins (root : String) (entries : List (String × Json)) (first : Step) : Prop :=
  ∃ e ∈ entries, ∃ rest, Path.parse e.1 = .ok (.field root :: first :: rest)

end Content

namespace Statement

open Content

variable {statements done others : List Statement} {s : Statement} {q : Path} {key : String}

theorem begins_of_mem_ofEntry (hs : s ∈ ofEntry root limit path value) : (∃ fault, s = refused fault) ∨
    ∃ first rest, Path.parse path = .ok (.field root :: first :: rest) ∧ s.target.head? = some first := by
  rcases ofEntry_cases root limit path value with ⟨fault, hc⟩ | ⟨place, members, rfl, hparse, -, -, hc⟩
  · rw [hc] at hs
    exact .inl ⟨fault, List.mem_singleton.1 hs⟩
  · have hsingle : s ∈ ofEntries root limit [(path, .object members)] := by
      rw [ofEntries, List.flatMap_singleton]
      exact hs
    rcases sound_ofEntries s hsingle with hrefused | ⟨⟨below, hput⟩, -⟩
    · exact .inl hrefused
    · obtain ⟨e, he, upper, names, hupper, htarget⟩ := hput.below_entry
      cases List.mem_singleton.1 he
      cases hparse.symm.trans hupper
      obtain ⟨first, rest, rfl⟩ := List.exists_cons_of_ne_nil (ne_nil_of_ofEntry hparse hc)
      exact .inr ⟨first, rest, hparse, by rw [htarget]; rfl⟩

theorem begins_of_mem (accepted : ∀ fault, refused fault ∉ ofEntries root limit entries)
    (hs : s ∈ ofEntries root limit entries) : ∃ first, Begins root entries first ∧ s.target.head? = some first := by
  obtain ⟨e, he, hmem⟩ := List.mem_flatMap.1 hs
  rcases begins_of_mem_ofEntry hmem with ⟨fault, rfl⟩ | ⟨first, rest, hparse, hhead⟩
  · exact absurd hs (accepted fault)
  · exact ⟨first, ⟨e, he, rest, hparse⟩, hhead⟩

theorem head?_of_begins {p q : Path} (h : p <+: q) (hp : p ≠ []) : q.head? = p.head? := by
  obtain ⟨rest, rfl⟩ := h
  exact List.head?_append_of_ne_nil p hp

/-- Statements of two consistent groups are consistent when no statement of one is near one of the other. -/
theorem Consistent.join (hdone : Consistent done) (hothers : Consistent others)
    (hmem : ∀ s ∈ statements, s ∈ done ∨ s ∈ others) (hbelow : ∀ s ∈ statements, s.target ≠ [])
    (hapart : ∀ s ∈ done, ∀ t ∈ others, s.target.head? ≠ t.target.head?) : Consistent statements := by
  -- two statements can only contradict each other below one first step, and so within one group
  have hside : ∀ s ∈ statements, ∀ t ∈ statements, s.target.head? = t.target.head? →
      s ∈ done ∧ t ∈ done ∨ s ∈ others ∧ t ∈ others := by
    intro s hs t ht hhead
    rcases hmem s hs with hs | hs <;> rcases hmem t ht with ht | ht
    · exact .inl ⟨hs, ht⟩
    · exact absurd hhead (hapart s hs t ht)
    · exact absurd hhead.symm (hapart t ht s hs)
    · exact .inr ⟨hs, ht⟩
  refine ⟨fun fault hf => ?_, fun place key v w hv hw => ?_, fun place key v hv t ht hp => ?_⟩
  · exact (hmem _ hf).elim (hdone.accepted fault) (hothers.accepted fault)
  · obtain ⟨s, hs, hv⟩ := hv
    obtain ⟨t, ht, hw⟩ := hw
    have hhead : s.target.head? = t.target.head? := by rw [← eq_target_of_given? hv, ← eq_target_of_given? hw]
    rcases hside s hs t ht hhead with ⟨hs, ht⟩ | ⟨hs, ht⟩
    · exact hdone.agree place key v w ⟨s, hs, hv⟩ ⟨t, ht, hw⟩
    · exact hothers.agree place key v w ⟨s, hs, hv⟩ ⟨t, ht, hw⟩
  · obtain ⟨s, hs, hv⟩ := hv
    have hplace := eq_target_of_given? hv
    have hhead : t.target.head? = s.target.head? :=
      head?_of_begins (hplace ▸ (List.prefix_append place _).trans hp) (hbelow s hs)
    rcases hside s hs t ht hhead.symm with ⟨hs, ht⟩ | ⟨hs, ht⟩
    · exact hdone.apart place key v ⟨s, hs, hv⟩ t ht hp
    · exact hothers.apart place key v ⟨s, hs, hv⟩ t ht hp

theorem mem_ofEntries_filter (hs : s ∈ ofEntries root limit (entries.filter p)) : s ∈ ofEntries root limit entries := by
  obtain ⟨e, he, hmem⟩ := List.mem_flatMap.1 hs
  exact List.mem_flatMap.2 ⟨e, (List.mem_filter.1 he).1, hmem⟩

theorem mem_ofEntries_or (p : String × Json → Bool) (hs : s ∈ ofEntries root limit entries) :
    s ∈ ofEntries root limit (entries.filter p) ∨ s ∈ ofEntries root limit (entries.filter (!p ·)) := by
  obtain ⟨e, he, hmem⟩ := List.mem_flatMap.1 hs
  cases hp : p e with
  | true => exact .inl (List.mem_flatMap.2 ⟨e, List.mem_filter.2 ⟨he, hp⟩, hmem⟩)
  | false => exact .inr (List.mem_flatMap.2 ⟨e, List.mem_filter.2 ⟨he, by rw [hp]; rfl⟩, hmem⟩)

theorem values_ofEntries_filter
    (h : ∀ e ∈ entries, p e = false → values (ofEntry root limit e.1 e.2) q key = []) :
    values (ofEntries root limit (entries.filter p)) q key = values (ofEntries root limit entries) q key := by
  rw [values_ofEntries, values_ofEntries]
  induction entries with
  | nil => rfl
  | cons e rest ih =>
    obtain ⟨hfirst, hrest⟩ := List.forall_mem_cons.1 h
    rw [List.filter_cons, List.flatMap_cons, ← ih hrest]
    cases hp : p e with
    | true => rfl
    | false =>
      rw [hfirst hp]
      rfl

end Statement

namespace Node

open Statement Content

variable {tree left right : Node}

theorem begins_of_entry (h : assemble root limit entries = .ok tree) (hm : (path, value) ∈ entries) :
    ∃ first rest, Path.parse path = .ok (.field root :: first :: rest) := by
  rcases ofEntry_cases root limit path value with ⟨fault, hc⟩ | ⟨place, members, -, hparse, -, -, hc⟩
  · exact absurd (List.mem_flatMap.2 ⟨_, hm, hc ▸ List.mem_cons_self⟩) (accepted_of_assemble h fault)
  · obtain ⟨first, rest, rfl⟩ := List.exists_cons_of_ne_nil (ne_nil_of_ofEntry hparse hc)
    exact ⟨first, rest, hparse⟩

theorem assemble_filter (h : assemble root limit entries = .ok tree) (p : String × Json → Bool) :
    ∃ part, assemble root limit (entries.filter p) = .ok part :=
  assertAll_ok_iff.2 ((assertAll_ok_iff.1 ⟨tree, h⟩).mono fun _ hs => mem_ofEntries_filter hs)

theorem begins_of_step? (h : assemble root limit entries = .ok tree) (hstep : (tree.step? step).isSome) :
    Begins root entries step := by
  have hplace : tree.Has [step] := has_cons.2 ⟨hstep, has_nil _⟩
  obtain ⟨s, hs, hprefix⟩ := (((describes_of_assertAll h).has_iff [step]).1 hplace).resolve_left (List.cons_ne_nil _ _)
  obtain ⟨first, hbegins, hhead⟩ := begins_of_mem (accepted_of_assemble h) hs
  cases (head?_of_begins hprefix (List.cons_ne_nil _ _)).symm.trans hhead
  exact hbegins

theorem step?_eq_none (h : assemble root limit entries = .ok tree) (hbegins : ¬ Begins root entries step) :
    tree.step? step = none :=
  Option.not_isSome_iff_eq_none.1 fun hstep => hbegins (begins_of_step? h hstep)

theorem step?_of_filter (h : assemble root limit entries = .ok tree)
    (hleft : assemble root limit (entries.filter p) = .ok left)
    (hout : ∀ e ∈ entries, p e = false → ∀ rest, Path.parse e.1 ≠ .ok (.field root :: step :: rest)) :
    tree.step? step = left.step? step := by
  -- what the entries that are left out say begins with other steps
  have hoff : ∀ e ∈ entries, p e = false → ∀ s ∈ ofEntry root limit e.1 e.2, s.target.head? ≠ some step := by
    intro e he hp s hs hhead
    rcases begins_of_mem_ofEntry hs with ⟨fault, rfl⟩ | ⟨first, rest, hparse, hfirst⟩
    · exact accepted_of_assemble h fault (List.mem_flatMap.2 ⟨e, he, hs⟩)
    · cases hhead.symm.trans hfirst
      exact hout e he hp rest hparse
  have hhas : ∀ q, tree.Has (step :: q) ↔ left.Has (step :: q) := by
    intro q
    rw [(describes_of_assertAll h).has_iff, (describes_of_assertAll hleft).has_iff]
    refine or_congr Iff.rfl ⟨?_, fun ⟨s, hs, hq⟩ => ⟨s, mem_ofEntries_filter hs, hq⟩⟩
    rintro ⟨s, hs, hq⟩
    obtain ⟨e, he, hmem⟩ := List.mem_flatMap.1 hs
    cases hp : p e with
    | true => exact ⟨s, List.mem_flatMap.2 ⟨e, List.mem_filter.2 ⟨he, hp⟩, hmem⟩, hq⟩
    | false => exact absurd (head?_of_begins hq (List.cons_ne_nil _ _)) (hoff e he hp s hmem)
  have hvalue : ∀ q key, tree.value? (step :: q) key = left.value? (step :: q) key := by
    intro q key
    rw [value?_assemble h, value?_assemble hleft, values_ofEntries_filter]
    intro e he hp
    refine values_eq_nil fun s hs => Option.eq_none_iff_forall_ne_some.2 fun v hv => hoff e he hp s hs ?_
    rw [← eq_target_of_given? hv]
    rfl
  have hrel := related_step? (ordered_assemble h) (ordered_assemble hleft) hhas hvalue
  generalize tree.step? step = n at hrel
  generalize left.step? step = m at hrel
  cases hrel with
  | none => rfl
  | some hnm => exact congrArg some (eq_of_related hnm)

def Apart (root : String) (entries : List (String × Json)) (p : String × Json → Bool) : Prop :=
  ∀ first, Begins root (entries.filter p) first → ¬ Begins root (entries.filter (!p ·)) first

/-- There is a tree of all entries exactly when each group has a tree. -/
theorem assemble_parts_iff (hapart : Apart root entries p) : (∃ tree, assemble root limit entries = .ok tree) ↔
    (∃ left, assemble root limit (entries.filter p) = .ok left) ∧
      ∃ right, assemble root limit (entries.filter (!p ·)) = .ok right := by
  constructor
  · rintro ⟨tree, h⟩
    exact ⟨assemble_filter h p, assemble_filter h (!p ·)⟩
  · rintro ⟨⟨left, hleft⟩, right, hright⟩
    have hl := accepted_of_assemble hleft
    have hr := accepted_of_assemble hright
    refine assertAll_ok_iff.2 ((assertAll_ok_iff.1 ⟨left, hleft⟩).join (assertAll_ok_iff.1 ⟨right, hright⟩)
      (fun s hs => mem_ofEntries_or p hs) (fun s hs hnil => ?_) fun s hs t ht hhead => ?_)
    · obtain ⟨first, hfirst⟩ : ∃ first, s.target.head? = some first :=
        (mem_ofEntries_or p hs).elim (fun hs => (begins_of_mem hl hs).imp fun _ => And.right)
          fun hs => (begins_of_mem hr hs).imp fun _ => And.right
      rw [hnil] at hfirst
      cases hfirst
    · obtain ⟨first, hfirst, hs⟩ := begins_of_mem hl hs
      obtain ⟨second, hsecond, ht⟩ := begins_of_mem hr ht
      cases hs.symm.trans (hhead.trans ht)
      exact hapart first hfirst hsecond

theorem children_of_parts (h : assemble root limit entries = .ok tree)
    (hleft : assemble root limit (entries.filter p) = .ok left)
    (hright : assemble root limit (entries.filter (!p ·)) = .ok right) (hapart : Apart root entries p) :
    tree.children = Keyed.union left.children right.children ∧
      List.Disjoint (Keyed.keys left.children) (Keyed.keys right.children) := by
  have hnone : ∀ step, left.step? step = none ∧ tree.step? step = right.step? step ∨
      right.step? step = none ∧ tree.step? step = left.step? step := by
    intro step
    by_cases hbegins : Begins root (entries.filter p) step
    · refine .inr ⟨step?_eq_none hright (hapart step hbegins), step?_of_filter h hleft fun e he hp rest hparse => ?_⟩
      exact hapart step hbegins ⟨e, List.mem_filter.2 ⟨he, by rw [hp]; rfl⟩, rest, hparse⟩
    · refine .inl ⟨step?_eq_none hleft hbegins, step?_of_filter h hright fun e he hp rest hparse => ?_⟩
      exact hbegins ⟨e, List.mem_filter.2 ⟨he, by simpa using hp⟩, rest, hparse⟩
  have hl := (ordered_assemble hleft).children
  have hr := (ordered_assemble hright).children
  refine ⟨(ordered_assemble h).children.ext (hr.union left.children) fun name => ?_, fun name hname hname' => ?_⟩
  · rw [Keyed.find?_union hl]
    change tree.step? (.field name) = (left.step? (.field name)).or (right.step? (.field name))
    rcases hnone (.field name) with ⟨hn, htree⟩ | ⟨hn, htree⟩
    · rw [htree, hn, Option.none_or]
    · rw [htree, hn, Option.or_none]
  · rcases hnone (.field name) with ⟨hn, -⟩ | ⟨hn, -⟩
    · exact Keyed.find?_eq_none_iff.1 hn hname
    · exact Keyed.find?_eq_none_iff.1 hn hname'

end Node

end DottedSchema
