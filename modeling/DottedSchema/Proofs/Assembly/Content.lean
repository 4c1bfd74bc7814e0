import DottedSchema.Proofs.Assembly.Agreement

set_option autoImplicit false

namespace DottedSchema

namespace Content

/-- The mapping is put at the place, by an entry or inside a mapping that is put one step above. -/
inductive Put (root : String) (entries : List (String × Json)) : Path → List (String × Json) → Prop
  | entry {path : String} {place : Path} {members : List (String × Json)}
      (mem : (path, .object members) ∈ entries) (parsed : Path.parse path = .ok (.field root :: place)) :
      Put root entries place members
  | inline {place : Path} {members below : List (String × Json)} {key : String}
      (put : Put root entries place members) (mem : (key, .object below) ∈ members)
      (free : key ∉ Statement.reservedKeys) : Put root entries (place ++ [.field key]) below

variable {root : String} {entries : List (String × Json)} {limit : Nat} {place : Path} {label key : String}
  {value : Json}

def HasPlace (root : String) (entries : List (String × Json)) (place : Path) : Prop :=
  ∃ lower members, Put root entries lower members ∧ place <+: lower

/-- A value that names no child: it is no mapping, or its key is reserved. -/
def IsMetadata (key : String) (value : Json) :
    Prop := value.object? = none ∨ key ∈ Statement.reservedKeys

def Gives (root : String) (entries : List (String × Json)) (place : Path) (key : String) (value : Json) :
    Prop :=
  ∃ members, Put root entries place members ∧ (key, value) ∈ members ∧ IsMetadata key value

theorem Put.below_entry {members : List (String × Json)} (h : Put root entries place members) :
    ∃ e ∈ entries, ∃ (upper : Path) (names : List String), Path.parse e.1 = .ok (.field root :: upper) ∧
      place = upper ++ names.map Step.field := by
  induction h with
  | @entry path place members hm hparse => exact ⟨_, hm, place, [], hparse, by simp⟩
  | @inline place members below key _ _ _ ih =>
    obtain ⟨e, he, upper, names, hparse, rfl⟩ := ih
    exact ⟨e, he, upper, names ++ [key], hparse, by simp⟩

end Content

namespace Statement

open Content

variable {root : String} {entries : List (String × Json)} {limit : Nat} {place : Path} {label key : String}
  {value : Json} {members : List (String × Json)}

theorem ofMembers_eq_flatMap (limit : Nat) (place : Path) (label : String) (members : List (String × Json)) :
    ofMembers limit place label members = members.flatMap fun m => ofMember limit place label m.1 m.2 := by
  induction members with
  | nil => rfl
  | cons m rest ih => rw [ofMembers, ih, List.flatMap_cons]

theorem ofMember_metadata (h : IsMetadata key value) :
    ofMember limit place label key value = [metadata place label key value] := by
  cases value with
  | object members =>
    rcases h with h | h
    · cases h
    · rw [ofMember, if_pos h]
  | null | bool _ | number _ | text _ | array _ => rfl

theorem ofMember_inline (h : key ∉ reservedKeys) : ofMember limit place label key (.object members) =
    if limit ≤ place.length then [refused (.tooDeep (label ++ "." ++ key) limit)]
    else child place label key ::
      ofMembers limit (place ++ [.field key]) (label ++ "." ++ key) members := by
  rw [ofMember, if_neg h]

theorem isMetadata_or (key : String) (value : Json) :
    IsMetadata key value ∨ key ∉ reservedKeys ∧ ∃ members, value = .object members := by
  by_cases hk : key ∈ reservedKeys
  · exact .inl (.inr hk)
  · cases value with
    | object members => exact .inr ⟨hk, members, rfl⟩
    | null | bool _ | number _ | text _ | array _ => exact .inl (.inl rfl)

/-- The path of an entry decides alone whether a mapping is refused there, and else where it is put. -/
theorem ofEntry_object (root : String) (limit : Nat) (path : String) :
    (∃ fault, ∀ members, ofEntry root limit path (.object members) = [refused fault]) ∨
      ∃ place, Path.parse path = .ok (.field root :: place) ∧ place.length ≤ limit ∧ place.head? ≠ some .items ∧
        ∀ members, ofEntry root limit path (.object members) =
          nodes place :: ofMembers limit place path members := by
  unfold ofEntry
  split
  · exact .inl ⟨_, fun _ => rfl⟩
  · rename_i first step rest hparse
    dsimp only
    by_cases hroot : first = root
    · have hbelow := not_not_intro hroot
      by_cases hlong : limit < (step :: rest).length
      · exact .inl ⟨_, fun _ => (if_neg hbelow).trans (if_pos hlong)⟩
      · by_cases hstep : step = .items
        · exact .inl ⟨_, fun _ => (if_neg hbelow).trans ((if_neg hlong).trans (if_pos hstep))⟩
        · have hhead : (step :: rest).head? ≠ some .items := fun he => hstep (Option.some.inj he)
          exact .inr ⟨step :: rest, hroot ▸ hparse, Nat.le_of_not_lt hlong, hhead,
            fun _ => (if_neg hbelow).trans ((if_neg hlong).trans (if_neg hstep))⟩
    · exact .inl ⟨_, fun _ => if_pos hroot⟩
  · exact .inl ⟨_, fun _ => rfl⟩

theorem ofEntry_not_object (root : String) (limit : Nat) (path : String) (h : value.object? = none) :
    ∃ fault, ofEntry root limit path value = [refused fault] := by
  unfold ofEntry
  split
  · exact ⟨_, rfl⟩
  · dsimp only
    split
    · exact ⟨_, rfl⟩
    · split
      · exact ⟨_, rfl⟩
      · split
        · exact ⟨_, rfl⟩
        · cases value with
          | object members => cases h
          | null | bool _ | number _ | text _ | array _ => exact ⟨_, rfl⟩
  · exact ⟨_, rfl⟩

theorem ofEntry_cases (root : String) (limit : Nat) (path : String) (value : Json) :
    (∃ fault, ofEntry root limit path value = [refused fault]) ∨
      ∃ place members, value = .object members ∧ Path.parse path = .ok (.field root :: place) ∧
        place.length ≤ limit ∧ place.head? ≠ some .items ∧
        ofEntry root limit path value = nodes place :: ofMembers limit place path members := by
  cases value with
  | object members =>
    rcases ofEntry_object root limit path with ⟨fault, h⟩ | ⟨place, hparse, hlen, hhead, h⟩
    · exact .inl ⟨fault, h members⟩
    · exact .inr ⟨place, members, rfl, hparse, hlen, hhead, h members⟩
  | null | bool _ | number _ | text _ | array _ => exact .inl (ofEntry_not_object root limit path rfl)

def Sound (root : String) (entries : List (String × Json)) (s : Statement) : Prop :=
  (∃ fault, s = refused fault) ∨ (∃ members, Put root entries s.target members) ∧
    ∀ q key value, s.given? q key = some value → Content.Gives root entries q key value

theorem sound_metadata (hput : Put root entries place members) (hmem : (key, value) ∈ members)
    (hvalue : IsMetadata key value) : Sound root entries (metadata place label key value) := by
  refine .inr ⟨⟨members, hput⟩, fun q k v hv => ?_⟩
  obtain ⟨rfl, rfl, rfl⟩ := given?_metadata_iff.1 hv
  exact ⟨members, hput, hmem, hvalue⟩

theorem sound_ofMember (hput : Put root entries place members) (hmem : (key, value) ∈ members) :
    ∀ s ∈ ofMember limit place label key value, Sound root entries s := by
  induction value using Json.induction generalizing place label key members with
  | object below ih =>
    intro s hs
    rcases isMetadata_or key (.object below) with hmeta | ⟨hfree, -⟩
    · rw [ofMember_metadata hmeta, List.mem_singleton] at hs
      rw [hs]
      exact sound_metadata hput hmem hmeta
    · have hbelow : Put root entries (place ++ [.field key]) below := .inline hput hmem hfree
      rw [ofMember_inline hfree] at hs
      split at hs
      · exact .inl ⟨_, List.mem_singleton.1 hs⟩
      · rcases List.mem_cons.1 hs with rfl | hs
        · exact .inr ⟨⟨below, hbelow⟩, fun _ _ _ h => nomatch h⟩
        · rw [ofMembers_eq_flatMap, List.mem_flatMap] at hs
          obtain ⟨m, hm, hs⟩ := hs
          exact ih m hm hbelow hm s hs
  | null | bool _ | number _ | text _ | array _ =>
    intro s hs
    rw [ofMember_metadata (.inl rfl), List.mem_singleton] at hs
    rw [hs]
    exact sound_metadata hput hmem (.inl rfl)

theorem sound_ofEntries : ∀ s ∈ ofEntries root limit entries, Sound root entries s := by
  intro s hs
  obtain ⟨⟨path, value⟩, he, hs⟩ := List.mem_flatMap.1 hs
  rcases ofEntry_cases root limit path value with ⟨fault, hc⟩ | ⟨place, members, rfl, hparse, -, -, hc⟩
  · rw [hc] at hs
    exact .inl ⟨fault, List.mem_singleton.1 hs⟩
  · rw [hc] at hs
    have hput : Put root entries place members := .entry he hparse
    rcases List.mem_cons.1 hs with rfl | hs
    · exact .inr ⟨⟨members, hput⟩, fun _ _ _ h => nomatch h⟩
    · rw [ofMembers_eq_flatMap, List.mem_flatMap] at hs
      obtain ⟨m, hm, hs⟩ := hs
      exact sound_ofMember hput hm s hs

theorem put_stated (accepted : ∀ fault, refused fault ∉ ofEntries root limit entries)
    (h : Put root entries place members) :
    (∃ s ∈ ofEntries root limit entries, s.target = place) ∧
      ∃ label, ∀ s ∈ ofMembers limit place label members, s ∈ ofEntries root limit entries := by
  induction h with
  | @entry path place members hm hparse =>
    have hsub : ∀ s ∈ ofEntry root limit path (.object members), s ∈ ofEntries root limit entries :=
      fun s hs => List.mem_flatMap.2 ⟨_, hm, hs⟩
    rcases ofEntry_cases root limit path (.object members) with ⟨fault, hc⟩ | ⟨place', members', hv, hp, -, -, hc⟩
    · rw [hc] at hsub
      exact absurd (hsub _ List.mem_cons_self) (accepted fault)
    · rw [hparse] at hp
      cases hv
      cases hp
      rw [hc] at hsub
      exact ⟨⟨_, hsub _ List.mem_cons_self, rfl⟩, path, fun s hs => hsub s (List.mem_cons_of_mem _ hs)⟩
  | @inline place members below key _ hm hfree ih =>
    obtain ⟨-, label, hsub⟩ := ih
    have hmember : ∀ s ∈ ofMember limit place label key (.object below), s ∈ ofEntries root limit entries := by
      intro s hs
      apply hsub
      rw [ofMembers_eq_flatMap]
      exact List.mem_flatMap.2 ⟨_, hm, hs⟩
    rw [ofMember_inline hfree] at hmember
    split at hmember
    · exact absurd (hmember _ List.mem_cons_self) (accepted _)
    · exact ⟨⟨_, hmember _ List.mem_cons_self, rfl⟩, _, fun s hs => hmember s (List.mem_cons_of_mem _ hs)⟩

theorem gives_ofEntries_iff (accepted : ∀ fault, refused fault ∉ ofEntries root limit entries) :
    Gives (ofEntries root limit entries) place key value ↔ Content.Gives root entries place key value := by
  constructor
  · rintro ⟨s, hs, hv⟩
    rcases sound_ofEntries s hs with ⟨fault, rfl⟩ | ⟨-, hsound⟩
    · exact absurd hs (accepted fault)
    · exact hsound place key value hv
  · rintro ⟨members, hput, hm, hmeta⟩
    obtain ⟨-, label, hsub⟩ := put_stated accepted hput
    refine ⟨metadata place label key value, hsub _ ?_, given?_metadata_iff.2 ⟨rfl, rfl, rfl⟩⟩
    rw [ofMembers_eq_flatMap]
    refine List.mem_flatMap.2 ⟨_, hm, ?_⟩
    rw [ofMember_metadata hmeta]
    exact List.mem_cons_self

theorem hasPlace_iff (accepted : ∀ fault, refused fault ∉ ofEntries root limit entries) :
    (∃ s ∈ ofEntries root limit entries, place <+: s.target) ↔ HasPlace root entries place := by
  constructor
  · rintro ⟨s, hs, hp⟩
    rcases sound_ofEntries s hs with ⟨fault, rfl⟩ | ⟨⟨members, hput⟩, -⟩
    · exact absurd hs (accepted fault)
    · exact ⟨s.target, members, hput, hp⟩
  · rintro ⟨lower, members, hput, hp⟩
    obtain ⟨⟨s, hs, rfl⟩, -⟩ := put_stated accepted hput
    exact ⟨s, hs, hp⟩

end Statement

namespace Node

variable {root : String} {entries : List (String × Json)} {limit : Nat} {tree : Node}

theorem ordered_assemble (h : assemble root limit entries = .ok tree) : tree.Ordered :=
  (describes_of_assertAll h).ordered

theorem accepted_of_assemble (h : assemble root limit entries = .ok tree) :
    ∀ fault, Statement.refused fault ∉ Statement.ofEntries root limit entries :=
  (assertAll_ok_iff.1 ⟨tree, h⟩).accepted

theorem has_assemble_iff (h : assemble root limit entries = .ok tree) (place : Path) :
    tree.Has place ↔ place = [] ∨ Content.HasPlace root entries place := by
  rw [← Statement.hasPlace_iff (accepted_of_assemble h)]
  exact (describes_of_assertAll h).has_iff place

theorem value?_of_gives {place : Path} {key : String} {value : Json} (h : assemble root limit entries = .ok tree)
    (hg : Content.Gives root entries place key value) :
    ∃ stored, tree.value? place key = some stored ∧ (stored == value) = true := by
  rw [← Statement.gives_ofEntries_iff (accepted_of_assemble h)] at hg
  exact (describes_of_assertAll h).stored place key value hg

/-- An assembled tree loses nothing, invents nothing and misplaces nothing of what its entries say. -/
theorem assemble_exact (h : assemble root limit entries = .ok tree) (place : Path) :
    ((tree.get? place).isSome ↔ place = [] ∨ Content.HasPlace root entries place) ∧
      ∀ node, tree.get? place = some node →
        Keyed.Ordered node.metadata ∧ Keyed.Ordered node.children ∧
        (∀ key value, (key, value) ∈ node.metadata → Content.Gives root entries place key value) ∧
        ∀ key value, Content.Gives root entries place key value →
          ∃ stored, (key, stored) ∈ node.metadata ∧ (stored == value) = true := by
  have hd := describes_of_assertAll h
  have accepted := accepted_of_assemble h
  refine ⟨has_assemble_iff h place, fun node hnode => ?_⟩
  have hordered := hd.ordered.get? hnode
  refine ⟨hordered.metadata, hordered.children, fun key value hm => ?_, fun key value hg => ?_⟩
  · rw [← Statement.gives_ofEntries_iff accepted]
    apply hd.given
    rw [value?_of_get? hnode]
    exact Keyed.find?_of_mem hordered.metadata hm
  · obtain ⟨stored, hs, heq⟩ := value?_of_gives h hg
    rw [value?_of_get? hnode] at hs
    exact ⟨stored, Keyed.mem_of_find? hs, heq⟩

theorem assemble_exact_overlap :
    let entries := [("g.a", Json.object [("data_type", .text "STRUCTURE"), ("u", .object [("type", .null)])]),
      ("g.a.u[:].b", Json.object [("data_type", .text "FLT_0D")])]
    let place : Path := [.field "a", .field "u"]
    let tree : Node := ⟨[], [("a", ⟨[("data_type", .text "STRUCTURE")],
      [("u", ⟨[("type", .null)], [], some ⟨[], [("b", ⟨[("data_type", .text "FLT_0D")], [], none⟩)], none⟩⟩)],
      none⟩)], none⟩
    assemble "g" 4 entries = .ok tree ∧
      ((tree.get? place).isSome ↔ place = [] ∨ Content.HasPlace "g" entries place) ∧
      ∀ node, tree.get? place = some node →
        Keyed.Ordered node.metadata ∧ Keyed.Ordered node.children ∧
        (∀ key value, (key, value) ∈ node.metadata → Content.Gives "g" entries place key value) ∧
        ∀ key value, Content.Gives "g" entries place key value →
          ∃ stored, (key, stored) ∈ node.metadata ∧ (stored == value) = true := by
  intro entries place tree
  have h : assemble "g" 4 entries = .ok tree := by cbv
  exact ⟨h, assemble_exact h place⟩

end Node

end DottedSchema
