import DottedSchema.Proofs.Assembly.Invariant
import DottedSchema.Proofs.Assembly.Order

set_option autoImplicit false

namespace DottedSchema

/-- The entries in which one inline child of an entry is an entry of its own. -/
def Content.spellOut (path key : String) (members below : Keyed Json) (entries : Keyed Json) : Keyed Json :=
  Keyed.insert (path ++ "." ++ key) (.object below)
    (Keyed.insert path (.object (Keyed.erase key members)) entries)

namespace Statement

open Content

variable {root path key : String} {limit : Nat} {place : Path} {members below : List (String × Json)}

theorem equivalent_child_nodes (place : Path) (label name : String) :
    Equivalent [child place label name] [nodes (place ++ [.field name])] :=
  .singleton ⟨rfl, fun _ _ => rfl, fun _ h => nomatch h⟩ ⟨rfl, fun _ _ => rfl, fun _ h => nomatch h⟩

theorem equivalent_refused (fault fault' : Fault) : Equivalent [refused fault] [refused fault'] :=
  .singleton ⟨rfl, fun _ _ => rfl, fun _ _ => ⟨fault', rfl⟩⟩ ⟨rfl, fun _ _ => rfl, fun _ _ => ⟨fault, rfl⟩⟩

/-- An entry of its own for a child is checked against the limit like the child inside its parent's metadata. -/
theorem ofEntry_child (hparse : Path.parse path = .ok (.field root :: place)) (hne : place ≠ [])
    (hhead : place.head? ≠ some .items) (hname : Path.IsName key) :
    ∃ fault, ofEntry root limit (path ++ "." ++ key) (.object below) =
      if limit ≤ place.length then [refused fault]
      else nodes (place ++ [.field key]) ::
        ofMembers limit (place ++ [.field key]) (path ++ "." ++ key) below := by
  obtain ⟨step, rest, rfl⟩ := List.exists_cons_of_ne_nil hne
  have hchild := Path.parse_child hparse (List.cons_ne_nil _ _) hname
  have hstep : step ≠ .items := fun he => hhead (congrArg some he)
  have hlimit : limit < (step :: (rest ++ [Step.field key])).length ↔ limit ≤ (step :: rest).length := by
    rw [List.length_cons, List.length_append, List.length_singleton, List.length_cons]
    omega
  rw [ofEntry, hchild]
  -- the path of the entry is one step longer, and its length may reach the limit
  simp only [List.cons_append, ne_eq, not_true_eq_false, if_false, hlimit, hstep]
  exact ⟨_, rfl⟩

theorem equivalent_child (hparse : Path.parse path = .ok (.field root :: place)) (hne : place ≠ [])
    (hhead : place.head? ≠ some .items) (hname : Path.IsName key) (hfree : key ∉ reservedKeys) :
    Equivalent (ofMember limit place path key (.object below))
      (ofEntry root limit (path ++ "." ++ key) (.object below)) := by
  obtain ⟨fault, hentry⟩ : ∃ fault, ofEntry root limit (path ++ "." ++ key) (.object below) = _ :=
    ofEntry_child hparse hne hhead hname
  rw [hentry, ofMember_inline hfree]
  split
  · exact equivalent_refused _ _
  · exact (equivalent_child_nodes place path key).append (.refl _)

theorem equivalent_entry {rest : List (String × Json)} (hparse : Path.parse path = .ok (.field root :: place))
    (hhead : place.head? ≠ some .items) (hname : Path.IsName key) (hfree : key ∉ reservedKeys)
    (hentry : ∀ ms, ofEntry root limit path (.object ms) = nodes place :: ofMembers limit place path ms)
    (hperm : members.Perm ((key, .object below) :: rest)) :
    Equivalent (ofEntry root limit path (.object members))
      (ofEntry root limit (path ++ "." ++ key) (.object below) ++ ofEntry root limit path (.object rest)) := by
  have hne : place ≠ [] := ne_nil_of_ofEntry hparse (hentry [])
  have hchild : Equivalent (ofMember limit place path key (.object below)) _ :=
    equivalent_child hparse hne hhead hname hfree
  have hmembers : (nodes place :: ofMembers limit place path members).Perm
      (ofMember limit place path key (.object below) ++ nodes place :: ofMembers limit place path rest) :=
    ((ofMembers_perm (.of_perm hperm) place path).cons _).trans List.perm_middle.symm
  rw [hentry, hentry]
  exact (Equivalent.of_perm hmembers).trans (hchild.append (.refl _))

end Statement

namespace Node

open Statement Content

variable {root path key : String} {limit : Nat} {members below entries : Keyed Json} {statements others : List Statement}

theorem assertAll_of_refused (root : String) {fault : Fault} (h : refused fault ∈ statements) :
    ∃ fault', assertAll root statements empty = .error fault' := by
  cases hall : assertAll root statements empty with
  | error fault' => exact ⟨fault', rfl⟩
  | ok tree => exact absurd h ((assertAll_ok_iff.1 ⟨tree, hall⟩).accepted fault)

theorem sameOutcome_of_refused {fault fault' : Fault} (h : refused fault ∈ statements) (h' : refused fault' ∈ others) :
    SameOutcome (assertAll root statements empty) (assertAll root others empty) := by
  obtain ⟨_, hleft⟩ := assertAll_of_refused root h
  obtain ⟨_, hright⟩ := assertAll_of_refused root h'
  rw [hleft, hright]
  trivial

theorem spellOut_perm (hentries : Keyed.Ordered entries)
    (hnew : Keyed.find? (path ++ "." ++ key) entries = none) :
    (spellOut path key members below entries).Perm ((path ++ "." ++ key, .object below) ::
      (path, .object (Keyed.erase key members)) :: Keyed.erase path entries) := by
  have hne : path ++ "." ++ key ≠ path := by
    intro he
    have hlength := congrArg (fun s : String => s.toList.length) he
    simp only [String.toList_append, List.length_append] at hlength
    have hdot : ".".toList.length = 1 := rfl
    omega
  have hfresh : Keyed.find? (path ++ "." ++ key)
      (Keyed.insert path (.object (Keyed.erase key members)) entries) = none := by
    rw [Keyed.find?_insert, if_neg hne, hnew]
  have houter := (hentries.insert path (.object (Keyed.erase key members))).insert_perm (path ++ "." ++ key)
    (.object below)
  rw [Keyed.erase_of_find?_eq_none hfresh] at houter
  exact houter.trans ((hentries.insert_perm path _).cons _)

/-- An inline child spelled out as an entry of its own has the same outcome. -/
theorem assemble_spellOut (root : String) (limit : Nat) (hentries : Keyed.Ordered entries)
    (hpath : Keyed.find? path entries = some (.object members)) (hmembers : Keyed.Ordered members)
    (hkey : Keyed.find? key members = some (.object below)) (hfree : key ∉ reservedKeys) (hname : Path.IsName key)
    (hnew : Keyed.find? (path ++ "." ++ key) entries = none) :
    SameOutcome (assemble root limit entries) (assemble root limit (spellOut path key members below entries)) := by
  have hinline : (ofEntries root limit entries).Perm
      (ofEntry root limit path (.object members) ++ ofEntries root limit (Keyed.erase path entries)) :=
    (hentries.perm_of_find? hpath).flatMap_right _
  have hspelled : (ofEntries root limit (spellOut path key members below entries)).Perm
      ((ofEntry root limit (path ++ "." ++ key) (.object below) ++
        ofEntry root limit path (.object (Keyed.erase key members))) ++
        ofEntries root limit (Keyed.erase path entries)) := by
    rw [List.append_assoc]
    exact (spellOut_perm hentries hnew).flatMap_right _
  rcases ofEntry_object root limit path with ⟨fault, hall⟩ | ⟨place, hparse, -, hhead, hall⟩
  · rw [hall] at hinline hspelled
    exact sameOutcome_of_refused (hinline.symm.subset List.mem_cons_self)
      (hspelled.symm.subset (List.mem_append_left _ (List.mem_append_right _ List.mem_cons_self)))
  · have hsame := equivalent_entry hparse hhead hname hfree hall (hmembers.perm_of_find? hkey)
    exact assertAll_equivalent
      ((Equivalent.of_perm hinline).trans ((hsame.append (.refl _)).trans (.of_perm hspelled.symm)))

theorem assemble_spellOut_overlap :
    let below := [("documentation", Json.text "u"), ("w", Json.object [])]
    let members := [("data_type", Json.text "STRUCTURE"), ("u", .object below)]
    let entries := [("g.a[:]", Json.object members), ("g.a[:].u.w", Json.object [("data_type", .text "FLT_0D")])]
    let spelled := [("g.a[:]", Json.object [("data_type", .text "STRUCTURE")]), ("g.a[:].u", Json.object below),
      ("g.a[:].u.w", Json.object [("data_type", .text "FLT_0D")])]
    Content.spellOut "g.a[:]" "u" members below entries = spelled ∧ (assemble "g" 4 entries).isOk = true ∧
      (assemble "g" 3 entries).isOk = false ∧ SameOutcome (assemble "g" 4 entries) (assemble "g" 4 spelled) ∧
      SameOutcome (assemble "g" 3 entries) (assemble "g" 3 spelled) := by
  intro below members entries spelled
  have hentries : Keyed.Ordered entries := by decide
  have hmembers : Keyed.Ordered members := by decide
  have hfree : "u" ∉ reservedKeys := by decide
  have hname : Path.IsName "u" := ⟨by decide, by decide, by decide, by decide⟩
  have hspelled : Content.spellOut "g.a[:]" "u" members below entries = spelled := by cbv
  have hsame : ∀ limit, SameOutcome (assemble "g" limit entries) (assemble "g" limit spelled) := fun limit =>
    hspelled ▸ assemble_spellOut "g" limit hentries rfl hmembers rfl hfree hname rfl
  exact ⟨hspelled, by cbv, by cbv, hsame 4, hsame 3⟩

end Node

end DottedSchema
