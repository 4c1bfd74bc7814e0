import DottedSchema.Proofs.Assembly.Invariant

/-!
# The depth limit

The limit decides only what is refused. What entries state at a lower limit is what they state at a higher one, or
something is refused there, and that is so exactly when something is refused at the higher limit too or reaches
below the lower one (`Statement.ofEntries_lowered`). So a lower limit accepts the same trees, less those that are
deeper (`Node.assemble_limit`).
-/
set_option autoImplicit false

namespace DottedSchema

namespace Statement

variable {root : String} {lower upper : Nat} {path label key : String} {place : Path} {value : Json}
  {entries : List (String × Json)} {members : List (String × Json)} {s : Statement} {fault : Fault}
  {low high others others' : List Statement}

def Accepted (statements : List Statement) : Prop := ∀ fault, refused fault ∉ statements

def NotDeeper (limit : Nat) (statements : List Statement) : Prop := ∀ s ∈ statements, s.target.length ≤ limit

theorem accepted_append : Accepted (low ++ others) ↔ Accepted low ∧ Accepted others := by
  simp only [Accepted, List.mem_append, not_or, forall_and]

theorem notDeeper_append {limit : Nat} :
    NotDeeper limit (high ++ others) ↔ NotDeeper limit high ∧ NotDeeper limit others :=
  List.forall_mem_append

theorem not_accepted_refused (fault : Fault) : ¬ Accepted [refused fault] := fun h => h fault List.mem_cons_self

structure Lowered (limit : Nat) (low high : List Statement) : Prop where
  same : Accepted low → low = high
  accepted_iff : Accepted low ↔ Accepted high ∧ NotDeeper limit high

theorem Lowered.of_refused (h : ¬ (Accepted high ∧ NotDeeper lower high)) : Lowered lower [refused fault] high :=
  ⟨fun hlow => absurd hlow (not_accepted_refused fault), iff_of_false (not_accepted_refused fault) h⟩

theorem Lowered.unchanged (h : NotDeeper lower high) : Lowered lower high high :=
  ⟨fun _ => rfl, (and_iff_left h).symm⟩

theorem Lowered.append (h : Lowered lower low high) (h' : Lowered lower others others') :
    Lowered lower (low ++ others) (high ++ others') where
  same hlow := by
    obtain ⟨hfirst, hothers⟩ := accepted_append.1 hlow
    rw [h.same hfirst, h'.same hothers]
  accepted_iff := by
    rw [accepted_append, accepted_append, notDeeper_append, h.accepted_iff, h'.accepted_iff]
    exact and_and_and_comm

theorem Lowered.flatMap {α : Type} {xs : List α} {f g : α → List Statement}
    (h : ∀ x ∈ xs, Lowered lower (f x) (g x)) : Lowered lower (xs.flatMap f) (xs.flatMap g) := by
  induction xs with
  | nil => exact .unchanged fun _ hs => absurd hs List.not_mem_nil
  | cons x rest ih =>
    rw [List.flatMap_cons, List.flatMap_cons]
    exact (h x List.mem_cons_self).append (ih fun y hy => h y (List.mem_cons_of_mem _ hy))

theorem Lowered.cons (h : s.target.length ≤ lower) (h' : Lowered lower low high) :
    Lowered lower (s :: low) (s :: high) := by
  have hfirst : Lowered lower [s] [s] := .unchanged fun t ht => List.mem_singleton.1 ht ▸ h
  exact hfirst.append h'

theorem metadata_lowered (hplace : place.length ≤ lower) (hmeta : Content.IsMetadata key value) :
    Lowered lower (ofMember lower place label key value) (ofMember upper place label key value) := by
  rw [ofMember_metadata hmeta, ofMember_metadata hmeta]
  exact .unchanged fun s hs => List.mem_singleton.1 hs ▸ hplace

theorem ofMember_lowered (h : lower ≤ upper) (hplace : place.length ≤ lower) :
    Lowered lower (ofMember lower place label key value) (ofMember upper place label key value) := by
  induction value using Json.induction generalizing place label key with
  | object below ih =>
    rcases isMetadata_or key (.object below) with hmeta | ⟨hfree, -⟩
    · exact metadata_lowered hplace hmeta
    · have hlength : (place ++ [Step.field key]).length = place.length + 1 := List.length_append
      rw [ofMember_inline hfree, ofMember_inline hfree]
      by_cases hroom : lower ≤ place.length
      · rw [if_pos hroom]
        refine .of_refused fun ⟨haccepted, hdeep⟩ => ?_
        by_cases hupper : upper ≤ place.length
        · rw [if_pos hupper] at haccepted
          exact not_accepted_refused _ haccepted
        · -- the child itself is deeper than the lower limit
          rw [if_neg hupper] at hdeep
          have hchild : (place ++ [Step.field key]).length ≤ lower := hdeep _ List.mem_cons_self
          omega
      · rw [if_neg hroom, if_neg (fun hupper => hroom (h.trans hupper)), ofMembers_eq_flatMap, ofMembers_eq_flatMap]
        have hbelow : (place ++ [Step.field key]).length ≤ lower := by omega
        exact .cons hbelow (.flatMap fun m hm => ih m hm hbelow)
  | null | bool _ | number _ | text _ | array _ => exact metadata_lowered hplace (.inl rfl)

theorem ofEntry_below {limit : Nat} (hparse : Path.parse path = .ok (.field root :: place)) (hne : place ≠ [])
    (hlimit : place.length ≤ limit) (hhead : place.head? ≠ some .items) :
    ofEntry root limit path (.object members) = nodes place :: ofMembers limit place path members := by
  cases place with
  | nil => exact absurd rfl hne
  | cons step rest =>
    have hstep : step ≠ .items := fun he => hhead (congrArg some he)
    rw [ofEntry, hparse]
    dsimp only
    rw [if_neg (not_not_intro rfl), if_neg (Nat.not_lt.2 hlimit), if_neg hstep]

theorem ofEntry_lowered (h : lower ≤ upper) :
    Lowered lower (ofEntry root lower path value) (ofEntry root upper path value) := by
  rcases ofEntry_cases root lower path value with ⟨fault, hlow⟩ | ⟨place, members, rfl, hparse, hlimit, hhead, hlow⟩
  · rw [hlow]
    refine .of_refused fun ⟨haccepted, hdeep⟩ => ?_
    rcases ofEntry_cases root upper path value with ⟨fault', hhigh⟩ | ⟨place, members, rfl, hparse, -, hhead, hhigh⟩
    · rw [hhigh] at haccepted
      exact not_accepted_refused fault' haccepted
    · rw [hhigh] at hdeep
      rw [ofEntry_below hparse (ne_nil_of_ofEntry hparse hhigh) (hdeep _ List.mem_cons_self) hhead] at hlow
      cases hlow
  · rw [hlow, ofEntry_below hparse (ne_nil_of_ofEntry hparse hlow) (hlimit.trans h) hhead, ofMembers_eq_flatMap,
      ofMembers_eq_flatMap]
    exact .cons hlimit (.flatMap fun m _ => ofMember_lowered h hlimit)

theorem ofEntries_lowered (root : String) (h : lower ≤ upper) (entries : List (String × Json)) :
    Lowered lower (ofEntries root lower entries) (ofEntries root upper entries) :=
  .flatMap fun _ _ => ofEntry_lowered h

end Statement

namespace Node

open Statement

variable {root : String} {lower upper limit : Nat} {entries : List (String × Json)} {tree : Node}

theorem notDeeper_iff (h : assemble root upper entries = .ok tree) :
    NotDeeper limit (ofEntries root upper entries) ↔ ∀ place, (tree.get? place).isSome → place.length ≤ limit := by
  have hd := describes_of_assertAll h
  constructor
  · intro hstated place hplace
    rcases (hd.has_iff place).1 hplace with rfl | ⟨s, hs, hbegins⟩
    · exact Nat.zero_le _
    · exact hbegins.length_le.trans (hstated s hs)
  · exact fun hall s hs => hall _ ((hd.has_iff _).2 (.inr ⟨s, hs, List.prefix_refl _⟩))

theorem assemble_lower_iff (h : lower ≤ upper) : assemble root lower entries = .ok tree ↔
    assemble root upper entries = .ok tree ∧ ∀ place, (tree.get? place).isSome → place.length ≤ lower := by
  have hlowered := ofEntries_lowered root h entries
  constructor
  · intro hlow
    have haccepted : Accepted (ofEntries root lower entries) := accepted_of_assemble hlow
    have hupper : assemble root upper entries = .ok tree := by
      rw [assemble, ← hlowered.same haccepted]
      exact hlow
    exact ⟨hupper, (notDeeper_iff hupper).1 (hlowered.accepted_iff.1 haccepted).2⟩
  · rintro ⟨hupper, hdepth⟩
    have haccepted : Accepted (ofEntries root upper entries) := accepted_of_assemble hupper
    rw [assemble, hlowered.same (hlowered.accepted_iff.2 ⟨haccepted, (notDeeper_iff hupper).2 hdepth⟩)]
    exact hupper

/-- A lower limit accepts the same trees, less those that are deeper, and where it refuses entries that a higher one
accepts, their tree has a node below it. -/
theorem assemble_limit (root : String) (entries : List (String × Json)) (h : lower ≤ upper) :
    (∀ tree, assemble root lower entries = .ok tree ↔
      assemble root upper entries = .ok tree ∧ ∀ place, (tree.get? place).isSome → place.length ≤ lower) ∧
      ∀ fault tree, assemble root lower entries = .error fault → assemble root upper entries = .ok tree →
        ∃ place, (tree.get? place).isSome ∧ lower < place.length := by
  refine ⟨fun tree => assemble_lower_iff h, fun fault tree hlow hupper => ?_⟩
  by_contra hnone
  have hdepth : ∀ place, (tree.get? place).isSome → place.length ≤ lower := fun place hplace =>
    Nat.le_of_not_lt fun hdeep => hnone ⟨place, hplace, hdeep⟩
  rw [(assemble_lower_iff h).2 ⟨hupper, hdepth⟩] at hlow
  cases hlow

theorem assemble_limit_inline :
    let entries := [("g.a[:]", Json.object [("type", .null), ("u", .object [])])]
    let tree : Node := ⟨[], [("a", ⟨[], [], some ⟨[("type", .null)], [("u", empty)], none⟩⟩)], none⟩
    2 ≤ 3 ∧ assemble "g" 2 entries = .error (.tooDeep "g.a[:].u" 2) ∧ assemble "g" 3 entries = .ok tree ∧
      (∀ tree, assemble "g" 2 entries = .ok tree ↔
        assemble "g" 3 entries = .ok tree ∧ ∀ place, (tree.get? place).isSome → place.length ≤ 2) ∧
      ∀ fault tree, assemble "g" 2 entries = .error fault → assemble "g" 3 entries = .ok tree →
        ∃ place, (tree.get? place).isSome ∧ 2 < place.length := by
  intro entries tree
  have h : 2 ≤ 3 := by decide
  exact ⟨h, by cbv, by cbv, assemble_limit "g" entries h⟩

end Node

end DottedSchema
