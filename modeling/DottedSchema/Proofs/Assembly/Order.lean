import DottedSchema.Proofs.Assembly.Content

set_option autoImplicit false

namespace DottedSchema

namespace Content

/-- The same members in another order, also inside those members that are children. -/
inductive Reordered : List (String × Json) → List (String × Json) → Prop
  | nil : Reordered [] []
  | cons {ms ns : List (String × Json)} (m : String × Json) (rest : Reordered ms ns) :
      Reordered (m :: ms) (m :: ns)
  | inside {below below' ms ns : List (String × Json)} {key : String} (free : key ∉ Statement.reservedKeys)
      (child : Reordered below below') (rest : Reordered ms ns) :
      Reordered ((key, .object below) :: ms) ((key, .object below') :: ns)
  | swap (m n : String × Json) (ms : List (String × Json)) : Reordered (m :: n :: ms) (n :: m :: ms)
  | trans {ls ms ns : List (String × Json)} (first : Reordered ls ms) (second : Reordered ms ns) :
      Reordered ls ns

theorem Reordered.of_perm {ms ns : List (String × Json)} (h : ms.Perm ns) : Reordered ms ns := by
  induction h with
  | nil => exact .nil
  | cons m _ ih => exact .cons m ih
  | swap m n ms => exact .swap n m ms
  | trans _ _ ih ih' => exact .trans ih ih'

inductive EntryReordered : String × Json → String × Json → Prop
  | same (entry : String × Json) : EntryReordered entry entry
  | mapping (path : String) {ms ns : List (String × Json)} (h : Reordered ms ns) :
      EntryReordered (path, .object ms) (path, .object ns)

end Content

namespace Statement

open Content

variable {limit : Nat} {root : String} {entries others : List (String × Json)}

theorem ofMembers_perm {ms ns : List (String × Json)} (h : Reordered ms ns) :
    ∀ (place : Path) (label : String), (ofMembers limit place label ms).Perm (ofMembers limit place label ns) := by
  induction h with
  | nil => exact fun _ _ => .nil
  | cons m _ ih =>
    intro place label
    rw [ofMembers, ofMembers]
    exact (ih place label).append_left _
  | inside free _ _ ihchild ihrest =>
    intro place label
    rw [ofMembers, ofMembers, ofMember_inline free, ofMember_inline free]
    refine List.Perm.append ?_ (ihrest place label)
    split
    · exact .refl _
    · exact (ihchild _ _).cons _
  | swap m n ms =>
    intro place label
    simp only [ofMembers, ← List.append_assoc]
    exact List.perm_append_comm.append_right _
  | trans _ _ ih ih' => exact fun place label => (ih place label).trans (ih' place label)

theorem ofEntry_perm {e f : String × Json} (h : EntryReordered e f) :
    (ofEntry root limit e.1 e.2).Perm (ofEntry root limit f.1 f.2) := by
  cases h with
  | same => exact .refl _
  | mapping path h =>
    rcases ofEntry_object root limit path with ⟨fault, hall⟩ | ⟨place, -, -, -, hall⟩
    · rw [hall, hall]
    · rw [hall, hall]
      exact (ofMembers_perm h _ _).cons _

theorem ofEntries_perm {mid : List (String × Json)} (hperm : entries.Perm mid)
    (hinside : List.Forall₂ EntryReordered mid others) :
    (ofEntries root limit entries).Perm (ofEntries root limit others) := by
  refine (hperm.flatMap_right _).trans ?_
  change (ofEntries root limit mid).Perm _
  induction hinside generalizing entries with
  | nil => exact .nil
  | cons h _ ih =>
    rw [ofEntries, ofEntries, List.flatMap_cons, List.flatMap_cons]
    exact (ofEntry_perm h).append (ih (.refl _))

/-- What a statement says apart from the fault that it may report. -/
structure Alike (s t : Statement) : Prop where
  target : s.target = t.target
  given : ∀ q key, s.given? q key = t.given? q key
  refused : ∀ fault, s = refused fault → ∃ fault', t = Statement.refused fault'

theorem Alike.refl (s : Statement) : Alike s s := ⟨rfl, fun _ _ => rfl, fun fault h => ⟨fault, h⟩⟩

def Within (statements others : List Statement) : Prop := ∀ s ∈ statements, ∃ t ∈ others, Alike s t

variable {statements others mid : List Statement} {place : Path} {key : String} {value : Json}

theorem Within.refl (statements : List Statement) : Within statements statements := fun s hs => ⟨s, hs, .refl s⟩

theorem Within.append {more : List Statement} (h : Within statements mid) (h' : Within others more) :
    Within (statements ++ others) (mid ++ more) := by
  intro s hs
  rcases List.mem_append.1 hs with hs | hs
  · obtain ⟨t, ht, halike⟩ := h s hs
    exact ⟨t, List.mem_append_left _ ht, halike⟩
  · obtain ⟨t, ht, halike⟩ := h' s hs
    exact ⟨t, List.mem_append_right _ ht, halike⟩

theorem Within.trans (h : Within statements mid) (h' : Within mid others) : Within statements others := by
  intro s hs
  obtain ⟨t, ht, halike⟩ := h s hs
  obtain ⟨u, hu, halike'⟩ := h' t ht
  refine ⟨u, hu, halike.target.trans halike'.target, fun q key => (halike.given q key).trans (halike'.given q key),
    fun fault hs => ?_⟩
  obtain ⟨fault', ht⟩ := halike.refused fault hs
  exact halike'.refused fault' ht

def Equivalent (statements others : List Statement) : Prop := Within statements others ∧ Within others statements

theorem Equivalent.refl (statements : List Statement) : Equivalent statements statements :=
  ⟨.refl _, .refl _⟩

theorem Equivalent.singleton {s t : Statement} (h : Alike s t) (h' : Alike t s) : Equivalent [s] [t] := by
  constructor
  · intro u hu
    cases List.mem_singleton.1 hu
    exact ⟨t, List.mem_cons_self, h⟩
  · intro u hu
    cases List.mem_singleton.1 hu
    exact ⟨s, List.mem_cons_self, h'⟩

theorem Equivalent.of_perm (h : statements.Perm others) : Equivalent statements others :=
  ⟨fun s hs => ⟨s, h.subset hs, .refl s⟩, fun s hs => ⟨s, h.symm.subset hs, .refl s⟩⟩

theorem Equivalent.append {more : List Statement} (h : Equivalent statements mid) (h' : Equivalent others more) :
    Equivalent (statements ++ others) (mid ++ more) :=
  ⟨h.1.append h'.1, h.2.append h'.2⟩

theorem Equivalent.trans (h : Equivalent statements mid) (h' : Equivalent mid others) : Equivalent statements others :=
  ⟨h.1.trans h'.1, h'.2.trans h.2⟩

theorem Gives.within (h : Within statements others) (hg : Gives statements place key value) :
    Gives others place key value := by
  obtain ⟨s, hs, hv⟩ := hg
  obtain ⟨t, ht, halike⟩ := h s hs
  exact ⟨t, ht, (halike.given place key).symm.trans hv⟩

theorem Within.target (h : Within statements others) (hs : ∃ s ∈ statements, place <+: s.target) :
    ∃ t ∈ others, place <+: t.target := by
  obtain ⟨s, hs, hp⟩ := hs
  obtain ⟨t, ht, halike⟩ := h s hs
  exact ⟨t, ht, halike.target ▸ hp⟩

theorem Consistent.within (hc : Consistent others) (h : Within statements others) : Consistent statements where
  accepted fault hf := by
    obtain ⟨_, ht, halike⟩ := h _ hf
    obtain ⟨fault', rfl⟩ := halike.refused fault rfl
    exact hc.accepted fault' ht
  agree place key v w hv hw := hc.agree place key v w (hv.within h) (hw.within h)
  apart place key v hv s hs hp := by
    obtain ⟨t, ht, hp⟩ := h.target ⟨s, hs, hp⟩
    exact hc.apart place key v (hv.within h) t ht hp

end Statement

namespace Node

open Statement

variable {root : String} {limit : Nat} {statements done : List Statement} {tree other : Node}
  {entries mid others : List (String × Json)}

def SameOutcome : Except Fault Node → Except Fault Node → Prop
  | .ok tree, .ok other => (tree == other) = true
  | .error _, .error _ => True
  | _, _ => False

theorem Describes.samePlaces (h : Describes statements tree) (h' : Describes done other)
    (he : Equivalent statements done) : SamePlaces tree other where
  has_iff q := by
    rw [h.has_iff, h'.has_iff]
    exact or_congr Iff.rfl ⟨he.1.target, he.2.target⟩
  value q key := by
    cases hv : tree.value? q key with
    | some v =>
      obtain ⟨w, hw, hwv⟩ := h'.stored q key v ((h.given q key v hv).within he.1)
      rw [hw]
      exact .some (BEq.symm hwv)
    | none =>
      cases hw : other.value? q key with
      | none => exact .none
      | some w =>
        obtain ⟨v, hv', -⟩ := h.stored q key w ((h'.given q key w hw).within he.2)
        rw [hv] at hv'
        cases hv'

theorem assertAll_equivalent (he : Equivalent statements done) :
    SameOutcome (assertAll root statements empty) (assertAll root done empty) := by
  have hiff : (∃ tree, assertAll root statements empty = .ok tree) ↔
      ∃ other, assertAll root done empty = .ok other := by
    rw [assertAll_ok_iff, assertAll_ok_iff]
    exact ⟨fun h => h.within he.2, fun h => h.within he.1⟩
  cases h : assertAll root statements empty with
  | error _ =>
    cases h' : assertAll root done empty with
    | error _ => trivial
    | ok other =>
      obtain ⟨tree, ht⟩ := hiff.2 ⟨other, h'⟩
      rw [h] at ht
      cases ht
  | ok tree =>
    cases h' : assertAll root done empty with
    | error _ =>
      obtain ⟨other, ho⟩ := hiff.1 ⟨tree, h⟩
      rw [h'] at ho
      cases ho
    | ok other =>
      have hd := describes_of_assertAll h
      have hd' := describes_of_assertAll h'
      exact beq_of_places hd.ordered hd'.ordered (hd.samePlaces hd' he)

theorem assertAll_perm (hperm : statements.Perm done) :
    SameOutcome (assertAll root statements empty) (assertAll root done empty) :=
  assertAll_equivalent (.of_perm hperm)

/-- Entries in another order, with mappings read in another order, have the same outcome. -/
theorem assemble_reordered (hperm : entries.Perm mid)
    (hinside : List.Forall₂ Content.EntryReordered mid others) :
    SameOutcome (assemble root limit entries) (assemble root limit others) :=
  assertAll_perm (ofEntries_perm hperm hinside)

theorem assemble_reordered_inline :
    let child := ("g.a.b[:]", Json.object [("data_type", .text "FLT_1D")])
    let below := [("documentation", Json.text "u"), ("w", Json.object [])]
    let entries := [("g.a", Json.object [("data_type", .text "STRUCTURE"), ("u", .object below)]), child]
    let mid := [child, ("g.a", Json.object [("data_type", .text "STRUCTURE"), ("u", .object below)])]
    let others := [child, ("g.a", Json.object [("u", .object below.reverse), ("data_type", .text "STRUCTURE")])]
    entries.Perm mid ∧ List.Forall₂ Content.EntryReordered mid others ∧
      (assemble "g" 4 entries).isOk = true ∧ SameOutcome (assemble "g" 4 entries) (assemble "g" 4 others) := by
  intro child below entries mid others
  have hperm : entries.Perm mid := .swap _ _ _
  have hbelow : Content.Reordered below below.reverse := .swap _ _ _
  have hinside : List.Forall₂ Content.EntryReordered mid others :=
    .cons (.same _) (.cons (.mapping _ (.trans (.swap _ _ _) (.inside (by decide) hbelow (.cons _ .nil)))) .nil)
  exact ⟨hperm, hinside, by cbv, assemble_reordered hperm hinside⟩

end Node

end DottedSchema
