import DottedSchema.Proofs.Artifact.Congruence
import DottedSchema.Proofs.Assembly.Parts

set_option autoImplicit false

namespace DottedSchema

namespace Node

variable {children others : Keyed Node} {result left right : Keyed Field} {path : String}

theorem fields_union_isOk_iff (hchildren : Keyed.Ordered children) (hothers : Keyed.Ordered others)
    (hapart : List.Disjoint (Keyed.keys children) (Keyed.keys others)) :
    (∃ result, fields (Keyed.union children others) path [] = .ok result) ↔
      (∃ left, fields children path [] = .ok left) ∧ ∃ right, fields others path [] = .ok right := by
  rw [fields_isOk_iff (hothers.union children), fields_isOk_iff hchildren, fields_isOk_iff hothers]
  simp only [Keyed.mem_union_iff hchildren hothers hapart, or_imp, forall_and]

theorem fields_union (hchildren : Keyed.Ordered children)
    (hapart : List.Disjoint (Keyed.keys children) (Keyed.keys others))
    (h : fields (Keyed.union children others) path [] = .ok result) (hleft : fields children path [] = .ok left)
    (hright : fields others path [] = .ok right) : result = Keyed.union left right := by
  have hl : Keyed.Ordered left := fields_ordered List.Pairwise.nil hleft
  have hr : Keyed.Ordered right := fields_ordered List.Pairwise.nil hright
  refine (fields_ordered List.Pairwise.nil h).ext (hr.union left) fun name => ?_
  rw [Keyed.find?_union hl, fields_find? h, fields_find? hleft, fields_find? hright, Keyed.find?_union hchildren]
  cases hname : Keyed.find? name children with
  | none => rfl
  | some n =>
    have hnone : Keyed.find? name others = none :=
      Keyed.find?_eq_none_iff.2 (hapart (List.mem_map_of_mem (Keyed.mem_of_find? hname)))
    rw [hnone, Option.some_or, Option.bind_none, Option.or_none]

theorem mem_keys_of_fields (h : fields children path [] = .ok result) {name : String}
    (hname : name ∈ Keyed.keys result) : name ∈ Keyed.keys children := by
  by_contra hnot
  refine Keyed.find?_eq_none_iff.1 ?_ hname
  rw [fields_find? h, Keyed.find?_eq_none_iff.2 hnot, Option.bind_none]

end Node

namespace Artifact

open Node Content

variable {artifact : Artifact} {root : String} {limit : Nat} {entries others : Keyed Json}
  {whole first second : Except Fault Json} {tree left right : Node}

def ofEntries (artifact : Artifact) (root : String) (limit : Nat) (entries : Keyed Json) : Except Fault Json :=
  assemble root limit entries >>= artifact.ofTree root

/-- The whole succeeds exactly when both parts do, and its properties then are theirs, under names of their own. -/
structure Joins (whole first second : Except Fault Json) : Prop where
  isOk_iff : (∃ output, whole = .ok output) ↔ (∃ output, first = .ok output) ∧ ∃ output, second = .ok output
  union : ∀ output output', first = .ok output → second = .ok output' → ∃ properties properties',
    output = .object properties ∧ output' = .object properties' ∧
      List.Disjoint (Keyed.keys properties) (Keyed.keys properties') ∧
      whole = .ok (.object (Keyed.union properties properties'))

theorem keys_written (artifact : Artifact) (fields : Keyed Field) :
    Keyed.keys (artifact.written fields) = Keyed.keys fields := by
  rw [Keyed.keys, written, List.map_map]
  rfl

theorem ofTree_ok_iff {output : Json} : artifact.ofTree root tree = .ok output ↔
    ∃ typed, fields tree.children root [] = .ok typed ∧ output = .object (artifact.written typed) := by
  rw [ofTree_eq]
  cases fields tree.children root [] with
  | error fault => exact ⟨fun h => (nomatch h), fun ⟨_, h, _⟩ => (nomatch h)⟩
  | ok typed =>
    constructor
    · intro h
      cases h
      exact ⟨typed, rfl, rfl⟩
    · rintro ⟨typed', h, rfl⟩
      cases h
      rfl

theorem ofTree_isOk_iff : (∃ output, artifact.ofTree root tree = .ok output) ↔
    ∃ typed, fields tree.children root [] = .ok typed := by
  simp only [ofTree_ok_iff]
  exact ⟨fun ⟨_, typed, h, _⟩ => ⟨typed, h⟩, fun ⟨typed, h⟩ => ⟨_, typed, h, rfl⟩⟩

theorem joins_ofTree (htree : tree.children = Keyed.union left.children right.children)
    (hleft : Keyed.Ordered left.children) (hright : Keyed.Ordered right.children)
    (hapart : List.Disjoint (Keyed.keys left.children) (Keyed.keys right.children)) :
    Joins (artifact.ofTree root tree) (artifact.ofTree root left) (artifact.ofTree root right) where
  isOk_iff := by
    rw [ofTree_isOk_iff, ofTree_isOk_iff, ofTree_isOk_iff, htree]
    exact fields_union_isOk_iff hleft hright hapart
  union output output' h h' := by
    obtain ⟨typed, htyped, rfl⟩ := ofTree_ok_iff.1 h
    obtain ⟨typed', htyped', rfl⟩ := ofTree_ok_iff.1 h'
    obtain ⟨result, hresult⟩ := (fields_union_isOk_iff hleft hright hapart).2 ⟨⟨typed, htyped⟩, typed', htyped'⟩
    refine ⟨_, _, rfl, rfl, fun name hname hname' => ?_, ofTree_ok_iff.2 ⟨result, htree ▸ hresult, ?_⟩⟩
    · rw [keys_written] at hname hname'
      exact hapart (mem_keys_of_fields htyped hname) (mem_keys_of_fields htyped' hname')
    · rw [fields_union hleft hapart hresult htyped htyped']
      exact congrArg Json.object (Keyed.map_union artifact.writeField typed typed').symm

theorem joins_of_failed (hwhole : ¬ ∃ output, whole = .ok output)
    (hparts : ¬ ((∃ output, first = .ok output) ∧ ∃ output, second = .ok output)) : Joins whole first second where
  isOk_iff := iff_of_false hwhole hparts
  union output output' h h' := absurd ⟨⟨output, h⟩, output', h'⟩ hparts

theorem ofEntries_ok_iff {output : Json} : artifact.ofEntries root limit entries = .ok output ↔
    ∃ tree, assemble root limit entries = .ok tree ∧ artifact.ofTree root tree = .ok output := by
  constructor
  · exact bind_eq_ok
  · rintro ⟨tree, h, houtput⟩
    rw [ofEntries, h]
    exact houtput

theorem joins_ofEntries_filter {p : String × Json → Bool} (hapart : Apart root entries p) :
    Joins (artifact.ofEntries root limit entries) (artifact.ofEntries root limit (entries.filter p))
      (artifact.ofEntries root limit (entries.filter (!p ·))) := by
  cases h : assemble root limit entries with
  | error fault =>
    refine joins_of_failed ?_ ?_
    · rintro ⟨output, hwhole⟩
      obtain ⟨tree, htree, -⟩ := ofEntries_ok_iff.1 hwhole
      cases h.symm.trans htree
    · rintro ⟨⟨output, hfirst⟩, output', hsecond⟩
      obtain ⟨left, hleft, -⟩ := ofEntries_ok_iff.1 hfirst
      obtain ⟨right, hright, -⟩ := ofEntries_ok_iff.1 hsecond
      obtain ⟨tree, htree⟩ := (assemble_parts_iff hapart).2 ⟨⟨left, hleft⟩, right, hright⟩
      cases h.symm.trans htree
  | ok tree =>
    obtain ⟨⟨left, hleft⟩, right, hright⟩ := (assemble_parts_iff hapart).1 ⟨tree, h⟩
    obtain ⟨hchildren, hnames⟩ := children_of_parts h hleft hright hapart
    have hjoins : Joins (artifact.ofTree root tree) _ _ :=
      joins_ofTree hchildren (ordered_assemble hleft).children (ordered_assemble hright).children hnames
    rw [ofEntries, ofEntries, ofEntries, h, hleft, hright]
    exact hjoins

theorem begins_of_ofEntries {output : Json} (h : artifact.ofEntries root limit entries = .ok output) {path : String}
    (hpath : path ∈ Keyed.keys entries) : ∃ first rest, Path.parse path = .ok (.field root :: first :: rest) := by
  obtain ⟨tree, htree, -⟩ := ofEntries_ok_iff.1 h
  obtain ⟨e, he, rfl⟩ := List.mem_map.1 hpath
  exact begins_of_entry htree he

/-- Entries that share no top-level field are converted together as they are converted apart. -/
theorem ofEntries_union (artifact : Artifact) (root : String) (limit : Nat) (hentries : Keyed.Ordered entries)
    (hothers : Keyed.Ordered others)
    (hapart : ∀ first, Begins root entries first → ¬ Begins root others first) :
    Joins (artifact.ofEntries root limit (Keyed.union entries others)) (artifact.ofEntries root limit entries)
      (artifact.ofEntries root limit others) := by
  by_cases hkeys : List.Disjoint (Keyed.keys entries) (Keyed.keys others)
  · let p : String × Json → Bool := fun e => decide (e.1 ∈ Keyed.keys entries)
    have hleft : (Keyed.union entries others).filter p = entries := Keyed.filter_union_left hentries hothers
    have hright : (Keyed.union entries others).filter (!p ·) = others := Keyed.filter_union_right hkeys
    have hgroups : Apart root (Keyed.union entries others) p := by
      intro first
      rw [hleft, hright]
      exact hapart first
    have hjoins : Joins (artifact.ofEntries root limit (Keyed.union entries others)) _ _ :=
      joins_ofEntries_filter hgroups
    rwa [hleft, hright] at hjoins
  · -- a path in both leads nowhere below the root, so nothing that contains it has a tree
    obtain ⟨path, hpath, hpath'⟩ : ∃ path, path ∈ Keyed.keys entries ∧ path ∈ Keyed.keys others := by
      by_contra hnone
      exact hkeys fun path hpath hpath' => hnone ⟨path, hpath, hpath'⟩
    have hnowhere : ¬ ∃ first rest, Path.parse path = .ok (.field root :: first :: rest) := by
      rintro ⟨first, rest, hparse⟩
      obtain ⟨e, he, rfl⟩ := List.mem_map.1 hpath
      obtain ⟨e', he', heq⟩ := List.mem_map.1 hpath'
      exact hapart first ⟨e, he, rest, hparse⟩ ⟨e', he', rest, heq ▸ hparse⟩
    have hunion : path ∈ Keyed.keys (Keyed.union entries others) := by
      by_contra hnot
      have hnone := Keyed.find?_eq_none_iff.2 hnot
      rw [Keyed.find?_union hentries, Option.or_eq_none_iff, Keyed.find?_eq_none_iff] at hnone
      exact hnone.1 hpath
    exact joins_of_failed (fun ⟨_, h⟩ => hnowhere (begins_of_ofEntries h hunion))
      fun ⟨⟨_, h⟩, _⟩ => hnowhere (begins_of_ofEntries h hpath)

theorem ofEntries_union_alternating :
    let real := Json.object [("data_type", .text "FLT_0D")]
    let record (name : String) := Json.object [("data_type", .text "STRUCTURE"), (name, real)]
    let entries := [("g.a", record "u"), ("g.c[:]", real)]
    let others := [("g.b", Json.object [("data_type", .text "CPX_1D")]), ("g.d", record "y")]
    let number := Json.object [("type", .text "double")]
    let nested (name : String) := Json.object [("properties", .object [(name, number)]), ("type", .text "object")]
    let output := Json.object [("a", nested "u"), ("c", number)]
    let output' := Json.object [("b", .object [("properties", .object (Field.complexParts "double")),
      ("type", .text "object")]), ("d", nested "y")]
    Keyed.Ordered entries ∧ Keyed.Ordered others ∧ (∀ first, Begins "g" entries first → ¬ Begins "g" others first) ∧
      Keyed.keys (Keyed.union entries others) = ["g.a", "g.b", "g.c[:]", "g.d"] ∧
      Artifact.searchMapping.ofEntries "g" 4 entries = .ok output ∧
      Artifact.searchMapping.ofEntries "g" 4 others = .ok output' ∧
      Joins (Artifact.searchMapping.ofEntries "g" 4 (Keyed.union entries others)) (.ok output) (.ok output') := by
  intro real record entries others number nested output output'
  have hentries : Keyed.Ordered entries := by decide
  have hothers : Keyed.Ordered others := by decide
  have hfirst : ∀ first, Begins "g" entries first → first = .field "a" ∨ first = .field "c" := by
    rintro first ⟨e, he, rest, hparse⟩
    rcases List.mem_cons.1 he with rfl | he
    · have ha : Path.parse "g.a" = .ok [.field "g", .field "a"] := by cbv
      cases ha.symm.trans hparse
      exact .inl rfl
    · cases List.mem_singleton.1 he
      have hc : Path.parse "g.c[:]" = .ok [.field "g", .field "c", .items] := by cbv
      cases hc.symm.trans hparse
      exact .inr rfl
  have hsecond : ∀ first, Begins "g" others first → first = .field "b" ∨ first = .field "d" := by
    rintro first ⟨e, he, rest, hparse⟩
    rcases List.mem_cons.1 he with rfl | he
    · have hb : Path.parse "g.b" = .ok [.field "g", .field "b"] := by cbv
      cases hb.symm.trans hparse
      exact .inl rfl
    · cases List.mem_singleton.1 he
      have hd : Path.parse "g.d" = .ok [.field "g", .field "d"] := by cbv
      cases hd.symm.trans hparse
      exact .inr rfl
  have hapart : ∀ first, Begins "g" entries first → ¬ Begins "g" others first := by
    intro first hin hin'
    rcases hfirst first hin with rfl | rfl <;> rcases hsecond _ hin' with h | h <;> simp at h
  have h : Artifact.searchMapping.ofEntries "g" 4 entries = .ok output := by cbv
  have h' : Artifact.searchMapping.ofEntries "g" 4 others = .ok output' := by cbv
  have hjoins := ofEntries_union .searchMapping "g" 4 hentries hothers hapart
  rw [h, h'] at hjoins
  exact ⟨hentries, hothers, hapart, by cbv, h, h', hjoins⟩

end Artifact

end DottedSchema
