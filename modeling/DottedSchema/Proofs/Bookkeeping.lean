import DottedSchema.Proofs.Artifact.Congruence
import DottedSchema.Proofs.Assembly.Values

set_option autoImplicit false

namespace DottedSchema

namespace Content

mutual

/-- Members without the metadata that is under none of the keys, also inside the inline children. -/
def essentialMembers (keys : List String) : List (String × Json) → List (String × Json)
  | [] => []
  | (key, value) :: rest => essentialMember keys key value ++ essentialMembers keys rest

def essentialMember (keys : List String) (key : String) : Json → List (String × Json)
  | .object members =>
    if key ∈ Statement.reservedKeys then if key ∈ keys then [(key, .object members)] else []
    else [(key, .object (essentialMembers keys members))]
  | value => if key ∈ keys then [(key, value)] else []

end

def essential (keys : List String) : Json → Json
  | .object members => .object (essentialMembers keys members)
  | value => value

/-- The entries with the metadata under the keys alone; paths and inline children stay. -/
def essentials (keys : List String) (entries : List (String × Json)) : List (String × Json) :=
  entries.map fun e => (e.1, essential keys e.2)

variable {keys : List String} {entries members : List (String × Json)} {root key : String} {place : Path}
  {value : Json}

theorem essentialMembers_eq_flatMap (keys : List String) (members : List (String × Json)) :
    essentialMembers keys members = members.flatMap fun m => essentialMember keys m.1 m.2 := by
  induction members with
  | nil => rfl
  | cons m rest ih => rw [essentialMembers, ih, List.flatMap_cons]

theorem essentialMember_metadata (h : IsMetadata key value) :
    essentialMember keys key value = if key ∈ keys then [(key, value)] else [] := by
  cases value with
  | object members =>
    rcases h with h | h
    · cases h
    · rw [essentialMember, if_pos h]
  | null | bool _ | number _ | text _ | array _ => rfl

theorem essentialMember_inline (h : key ∉ Statement.reservedKeys) (below : List (String × Json)) :
    essentialMember keys key (.object below) = [(key, .object (essentialMembers keys below))] := by
  rw [essentialMember, if_neg h]

theorem mem_essentialMembers_iff {below : List (String × Json)} (h : key ∉ Statement.reservedKeys) :
    (key, .object below) ∈ essentialMembers keys members ↔
      ∃ former, (key, .object former) ∈ members ∧ below = essentialMembers keys former := by
  rw [essentialMembers_eq_flatMap, List.mem_flatMap]
  constructor
  · rintro ⟨⟨name, value⟩, hm, hmem⟩
    rcases Statement.isMetadata_or name value with hmeta | ⟨hfree, former, rfl⟩
    · rw [essentialMember_metadata hmeta] at hmem
      split at hmem
      · cases List.mem_singleton.1 hmem
        exact absurd (hmeta.resolve_left fun hnone => nomatch hnone) h
      · exact absurd hmem List.not_mem_nil
    · rw [essentialMember_inline hfree] at hmem
      cases List.mem_singleton.1 hmem
      exact ⟨former, hm, rfl⟩
  · rintro ⟨former, hm, rfl⟩
    refine ⟨_, hm, ?_⟩
    rw [essentialMember_inline h]
    exact List.mem_cons_self

theorem Put.essential (h : Put root entries place members) :
    Put root (essentials keys entries) place (essentialMembers keys members) := by
  induction h with
  | entry mem parsed => exact .entry (List.mem_map_of_mem mem) parsed
  | inline _ mem free ih => exact .inline ih ((mem_essentialMembers_iff free).2 ⟨_, mem, rfl⟩) free

theorem Put.of_essentials (h : Put root (essentials keys entries) place members) :
    ∃ former, Put root entries place former ∧ members = essentialMembers keys former := by
  induction h with
  | @entry path place members mem parsed =>
    obtain ⟨⟨path', value⟩, he, heq⟩ := List.mem_map.1 mem
    cases value with
    | object former =>
      cases heq
      exact ⟨former, .entry he parsed, rfl⟩
    | null | bool _ | number _ | text _ | array _ => cases heq
  | inline _ mem free ih =>
    obtain ⟨former, hput, rfl⟩ := ih
    obtain ⟨below, hm, rfl⟩ := (mem_essentialMembers_iff free).1 mem
    exact ⟨below, .inline hput hm free, rfl⟩

theorem hasPlace_essentials : HasPlace root (essentials keys entries) place ↔ HasPlace root entries place := by
  constructor
  · rintro ⟨lower, members, hput, hplace⟩
    obtain ⟨former, hformer, -⟩ := hput.of_essentials
    exact ⟨lower, former, hformer, hplace⟩
  · rintro ⟨lower, members, hput, hplace⟩
    exact ⟨lower, _, hput.essential, hplace⟩

end Content

namespace Statement

open Content

variable {keys : List String} {entries members : List (String × Json)} {root label key path : String} {limit : Nat}
  {place q : Path} {value : Json} {s : Statement}

def isEssential (keys : List String) : Statement → Bool
  | metadata _ _ key _ => key ∈ keys
  | _ => true

theorem given?_of_not_essential (h : s.isEssential keys = false) (hkey : key ∈ keys) : s.given? q key = none := by
  cases s with
  | metadata place label name value =>
    have hname : name ∉ keys := of_decide_eq_false h
    have hne : ¬ (q = place ∧ key = name) := fun he => hname (he.2 ▸ hkey)
    exact if_neg hne
  | nodes _ | child _ _ _ | refused _ => cases h

theorem ofMembers_essentialMember_metadata (h : IsMetadata key value) (place : Path) (label : String) :
    ofMembers limit place label (essentialMember keys key value) =
      (ofMember limit place label key value).filter (isEssential keys) := by
  rw [essentialMember_metadata h, ofMember_metadata h]
  by_cases hkey : key ∈ keys
  · rw [if_pos hkey, ofMembers, ofMember_metadata h, ofMembers, List.append_nil, List.filter_cons_of_pos, List.filter_nil]
    exact decide_eq_true hkey
  · rw [if_neg hkey, ofMembers, List.filter_cons_of_neg, List.filter_nil]
    exact fun he => hkey (of_decide_eq_true he)

theorem ofMembers_essentialMembers_of {members : List (String × Json)}
    (h : ∀ m ∈ members, ∀ place label, ofMembers limit place label (essentialMember keys m.1 m.2) =
      (ofMember limit place label m.1 m.2).filter (isEssential keys)) (place : Path) (label : String) :
    ofMembers limit place label (essentialMembers keys members) =
      (ofMembers limit place label members).filter (isEssential keys) := by
  rw [ofMembers_eq_flatMap, ofMembers_eq_flatMap, essentialMembers_eq_flatMap, List.flatMap_assoc,
    List.filter_flatMap]
  refine List.flatMap_congr fun m hm => ?_
  rw [← ofMembers_eq_flatMap]
  exact h m hm place label

theorem ofMembers_essentialMember (key : String) (value : Json) (place : Path) (label : String) :
    ofMembers limit place label (essentialMember keys key value) =
      (ofMember limit place label key value).filter (isEssential keys) := by
  induction value using Json.induction generalizing key place label with
  | object below ih =>
    rcases isMetadata_or key (.object below) with hmeta | ⟨hfree, -⟩
    · exact ofMembers_essentialMember_metadata hmeta place label
    · have hbelow := ofMembers_essentialMembers_of fun m hm => ih m hm m.1
      rw [essentialMember_inline hfree, ofMembers, ofMembers, List.append_nil, ofMember_inline hfree,
        ofMember_inline hfree]
      split
      · rfl
      · rw [hbelow]
        rfl
  | null | bool _ | number _ | text _ | array _ => exact ofMembers_essentialMember_metadata (.inl rfl) place label

theorem ofEntry_filter_of_not_object (h : value.object? = none) :
    (ofEntry root limit path value).filter (isEssential keys) = ofEntry root limit path value := by
  obtain ⟨fault, hrefused⟩ := ofEntry_not_object root limit path h
  rw [hrefused]
  rfl

theorem ofEntry_essential (root : String) (limit : Nat) (path : String) (value : Json) :
    ofEntry root limit path (essential keys value) =
      (ofEntry root limit path value).filter (isEssential keys) := by
  cases value with
  | object members =>
    rw [essential]
    rcases ofEntry_object root limit path with ⟨fault, hall⟩ | ⟨place, -, -, -, hall⟩
    · rw [hall, hall]
      rfl
    · rw [hall, hall, ofMembers_essentialMembers_of fun m _ => ofMembers_essentialMember m.1 m.2]
      rfl
  | null | bool _ | number _ | text _ | array _ => exact (ofEntry_filter_of_not_object rfl).symm

theorem ofEntries_essentials (root : String) (limit : Nat) (keys : List String) (entries : List (String × Json)) :
    ofEntries root limit (essentials keys entries) =
      (ofEntries root limit entries).filter (isEssential keys) := by
  rw [ofEntries, ofEntries, essentials, List.flatMap_map, List.filter_flatMap]
  exact List.flatMap_congr fun e _ => ofEntry_essential root limit e.1 e.2

theorem values_essentials (root : String) (limit : Nat) (entries : List (String × Json)) (q : Path)
    (hkey : key ∈ keys) : values (ofEntries root limit (essentials keys entries)) q key =
      values (ofEntries root limit entries) q key := by
  rw [ofEntries_essentials]
  exact values_filter fun s _ hs => given?_of_not_essential hs hkey

end Statement

namespace Artifact

open Content

variable {artifact : Artifact} {keys : List String} {root : String} {limit : Nat}
  {entries others : List (String × Json)} {tree other : Node}

theorem agree_of_essentials (hread : ∀ key ∈ artifact.readKeys, key ∈ keys)
    (h : Node.assemble root limit entries = .ok tree) (h' : Node.assemble root limit others = .ok other)
    (hsame : essentials keys entries = essentials keys others) : artifact.Agree tree other := by
  refine Node.related_assemble h h' (fun q => ?_) fun q key hkey => ?_
  · rw [← hasPlace_essentials, hsame, hasPlace_essentials]
  · rw [← Statement.values_essentials root limit entries q (hread key hkey), hsame,
      Statement.values_essentials root limit others q (hread key hkey)]

/-- Apart from type codes and documentation, metadata does not reach an artifact, and documentation does not reach a
search mapping. -/
theorem ofTree_essentials (h : Node.assemble root limit entries = .ok tree)
    (h' : Node.assemble root limit others = .ok other) :
    (essentials ["data_type", "documentation"] entries = essentials ["data_type", "documentation"] others →
      ∀ artifact : Artifact, artifact.ofTree root tree = artifact.ofTree root other) ∧
    (essentials ["data_type"] entries = essentials ["data_type"] others →
      Artifact.searchMapping.ofTree root tree = Artifact.searchMapping.ofTree root other) := by
  refine ⟨fun hsame artifact => ?_, fun hsame => ?_⟩
  · have hread : ∀ key ∈ artifact.readKeys, key ∈ ["data_type", "documentation"] := by
      cases artifact <;> decide
    exact ofTree_agree root (agree_of_essentials hread h h' hsame)
  · exact ofTree_agree root (agree_of_essentials (fun _ hkey => hkey) h h' hsame)

/-- Units and coordinates that differ or are gone, in an entry, in a child inside it and on an element that has no
other metadata. Where the documentation differs as well, a JSON Schema shows it. -/
theorem ofTree_essentials_units :
    let real (documentation units : String) : Json := .object [("data_type", .text "FLT_0D"),
      ("documentation", .text documentation), ("units", .text units)]
    let entries := [("g.a", Json.object [("coordinates", .text "x"), ("data_type", .text "STRUCTURE"),
      ("u", real "One." "m")]), ("g.b", .object [("data_type", .text "FLT_1D")]), ("g.b[:]", .object [("units", .null)])]
    let others (documentation : String) := [("g.a", Json.object [("data_type", .text "STRUCTURE"), ("type", .null),
      ("u", real documentation "s")]), ("g.b", .object [("data_type", .text "FLT_1D")]), ("g.b[:]", .object [])]
    let node (documentation units : String) : Node := ⟨[("data_type", .text "FLT_0D"),
      ("documentation", .text documentation), ("units", .text units)], [], none⟩
    let tree : Node := ⟨[], [("a", ⟨[("coordinates", .text "x"), ("data_type", .text "STRUCTURE")],
      [("u", node "One." "m")], none⟩), ("b", ⟨[("data_type", .text "FLT_1D")], [], some ⟨[("units", .null)], [],
      none⟩⟩)], none⟩
    let other (documentation : String) : Node := ⟨[], [("a", ⟨[("data_type", .text "STRUCTURE"), ("type", .null)],
      [("u", node documentation "s")], none⟩), ("b", ⟨[("data_type", .text "FLT_1D")], [], some .empty⟩)], none⟩
    let number (members : Keyed Json) := Json.object (members ++ [("type", .text "number")])
    let output (documentation : String) := Json.object [("a", .object [("properties", .object [("u",
      number [("description", .text documentation)])]), ("type", .text "object")]),
      ("b", .object [("items", number []), ("type", .text "array")])]
    Node.assemble "g" 4 entries = .ok tree ∧ Node.assemble "g" 4 (others "One.") = .ok (other "One.") ∧
      Node.assemble "g" 4 (others "Two.") = .ok (other "Two.") ∧
      essentials ["data_type", "documentation"] entries = essentials ["data_type", "documentation"] (others "One.") ∧
      essentials ["data_type"] entries = essentials ["data_type"] (others "Two.") ∧
      (∀ artifact : Artifact, artifact.ofTree "g" tree = artifact.ofTree "g" (other "One.")) ∧
      Artifact.jsonSchema.ofTree "g" (other "One.") = .ok (output "One.") ∧
      Artifact.jsonSchema.ofTree "g" (other "Two.") = .ok (output "Two.") ∧
      Artifact.searchMapping.ofTree "g" tree = Artifact.searchMapping.ofTree "g" (other "Two.") := by
  intro real entries others node tree other number output
  have h : Node.assemble "g" 4 entries = .ok tree := by cbv
  have hone : Node.assemble "g" 4 (others "One.") = .ok (other "One.") := by cbv
  have htwo : Node.assemble "g" 4 (others "Two.") = .ok (other "Two.") := by cbv
  have hsame : essentials ["data_type", "documentation"] entries =
      essentials ["data_type", "documentation"] (others "One.") := by cbv
  have hcodes : essentials ["data_type"] entries = essentials ["data_type"] (others "Two.") := by cbv
  exact ⟨h, hone, htwo, hsame, hcodes, (ofTree_essentials h hone).1 hsame, by cbv, by cbv,
    (ofTree_essentials h htwo).2 hcodes⟩

end Artifact

end DottedSchema
