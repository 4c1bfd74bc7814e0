import DottedSchema.Conversion
import DottedSchema.Proofs.Assembly.Content
import DottedSchema.Proofs.Path.Dotted

/-!
# What curation decides about a tree

Curation looks at the paths of entries. So it decides about the nodes on the paths of the entries it keeps
(`Schema.tree_governed`); a child inside an entry's metadata has no path of its own to look at
(`Schema.tree_not_governed_inside`).
-/
set_option autoImplicit false

namespace DottedSchema

namespace Content

variable {root : String} {entries : List (String × Json)} {place : Path} {members : List (String × Json)}

def OnPath (root : String) (entries : List (String × Json)) (place : Path) : Prop :=
  ∃ e ∈ entries, ∃ lower, Path.parse e.1 = .ok (.field root :: lower) ∧ place <+: lower

def InsideEntry (root : String) (entries : List (String × Json)) (place : Path) : Prop :=
  ∃ e ∈ entries, ∃ (upper : Path) (names : List String), Path.parse e.1 = .ok (.field root :: upper) ∧
    names ≠ [] ∧ place = upper ++ names.map Step.field

theorem HasPlace.onPath_or_inside (h : HasPlace root entries place) :
    OnPath root entries place ∨ InsideEntry root entries place := by
  obtain ⟨lower, members, hput, hplace⟩ := h
  obtain ⟨e, he, upper, names, hparse, rfl⟩ := hput.below_entry
  rcases List.prefix_or_prefix_of_prefix hplace (List.prefix_append upper _) with hle | ⟨rest, rfl⟩
  · exact .inl ⟨e, he, upper, hparse, hle⟩
  · obtain ⟨more, -, rfl⟩ := List.prefix_map_iff.1 ((List.prefix_append_right_inj upper).1 hplace)
    by_cases hmore : more = []
    · exact .inl ⟨e, he, upper, hparse, by simp [hmore]⟩
    · exact .inr ⟨e, he, upper, more, hparse, hmore, rfl⟩

theorem OnPath.eq_of_dotted (h : OnPath root entries place) {lower : Path} {path : String}
    (hparse : Path.parse path = .ok (.field root :: lower)) (hpath : path = Path.dotted (.field root :: place)) :
    lower = place := by
  obtain ⟨e, -, longer, hlonger, hbegins⟩ := h
  have hcanonical : Path.Canonical (.field root :: place) :=
    (Path.canonical_of_parse hlonger).initial (List.cons_prefix_cons.2 ⟨rfl, hbegins⟩)
  have hdotted : Path.dotted (.field root :: lower) = Path.dotted (.field root :: place) :=
    (Path.dotted_of_parse hparse).trans hpath
  exact (List.cons.inj (Path.dotted_injective (Path.canonical_of_parse hparse) hcanonical
    (List.cons_ne_nil _ _) (List.cons_ne_nil _ _) hdotted)).2

end Content

namespace Curation

open Content

variable {curation : Curation} {entries : Keyed Json} {path : String} {value : Json} {o : TypeOverride}

theorem denies_eq_false_iff :
    curation.denies path = false ↔ ∀ text ∈ curation.denied, ¬ text.toList <:+: path.toList := by
  simp only [denies, List.any_eq_false, Text.occurs_iff]

theorem denies_begins {upper : String} (hdenies : curation.denies path = false) (h : upper.toList <+: path.toList) :
    curation.denies upper = false :=
  denies_eq_false_iff.2 fun text ht hupper => denies_eq_false_iff.1 hdenies text ht (hupper.trans h.isInfix)

theorem mem_kept {e : String × Json} :
    e ∈ curation.kept entries ↔ e ∈ entries ∧ curation.denies e.1 = false := by
  simp only [kept, List.mem_filter, Bool.not_eq_true']

/-- What the overrides of one path make of the value there, one after the other. -/
def overrideAt (overrides : List TypeOverride) (path : String) (value : Json) : Json :=
  (overrides.filter (·.path = path)).foldl (fun value o => setTypeCode o.typeCode value) value

theorem foldl_modify (overrides : List TypeOverride) (entries : Keyed Json) :
    overrides.foldl (fun entries o => Keyed.modify o.path (setTypeCode o.typeCode) entries) entries =
      entries.map fun e => (e.1, overrideAt overrides e.1 e.2) := by
  induction overrides generalizing entries with
  | nil => simp [overrideAt]
  | cons o rest ih =>
    rw [List.foldl_cons, ih, Keyed.modify, List.map_map]
    refine List.map_congr_left fun e _ => ?_
    by_cases he : e.1 = o.path
    · simp [overrideAt, he]
    · have hskip : o.path ≠ e.1 := fun h => he h.symm
      simp [overrideAt, he, hskip]

/-- Curation keeps or leaves out each entry and overrides each kept one, without a look at the others. -/
theorem apply_eq_map (curation : Curation) (entries : Keyed Json) :
    curation.apply entries = (curation.kept entries).map fun e => (e.1, overrideAt curation.overrides e.1 e.2) :=
  foldl_modify _ _

theorem overrideAt_of_last {overrides : List TypeOverride}
    (h : (overrides.filter (·.path = path)).getLast? = some o) (value : Json) :
    ∃ former, overrideAt overrides path value = setTypeCode o.typeCode former := by
  obtain ⟨before, hlast⟩ := List.getLast?_eq_some_iff.1 h
  rw [overrideAt, hlast, List.foldl_append]
  exact ⟨_, rfl⟩

theorem mem_of_setTypeCode {code : String} {members : List (String × Json)}
    (h : setTypeCode code value = .object members) : ("data_type", .text code) ∈ members := by
  cases value with
  | object former =>
    cases h
    exact Keyed.mem_of_find? (by rw [Keyed.find?_insert, if_pos rfl])
  | null | bool _ | number _ | text _ | array _ => cases h

def met (curation : Curation) (entries : Keyed Json) : Curation :=
  { curation with overrides := curation.overrides.filter fun o => Keyed.has o.path (curation.kept entries) }

theorem apply_met (curation : Curation) (entries : Keyed Json) :
    (curation.met entries).apply entries = curation.apply entries := by
  rw [apply_eq_map, apply_eq_map]
  refine List.map_congr_left fun e he => ?_
  have hhas : ∀ o : TypeOverride, o.path = e.1 → Keyed.has o.path (curation.kept entries) = true := by
    intro o ho
    rw [Keyed.has, Option.isSome_iff_ne_none, ne_eq, Keyed.find?_eq_none_iff, ho]
    exact not_not_intro (List.mem_map_of_mem he)
  have hfilter : (curation.met entries).overrides.filter (·.path = e.1) =
      curation.overrides.filter (·.path = e.1) := by
    rw [met, List.filter_filter]
    refine List.filter_congr fun o _ => ?_
    by_cases ho : o.path = e.1
    · simp only [decide_eq_true ho, hhas o ho, Bool.and_self]
    · simp only [decide_eq_false ho, Bool.false_and]
  rw [overrideAt, overrideAt, hfilter]

structure Governs (curation : Curation) (root : String) (entries : Keyed Json) (tree : Node) : Prop where
  /-- No node on the path of a kept entry has a denied text in its dotted path. -/
  allowed : ∀ place, (tree.get? place).isSome → OnPath root (curation.kept entries) place →
    curation.denies (Path.dotted (.field root :: place)) = false
  /-- The last override of a kept entry's path gives the type code of the node there. -/
  overridden : ∀ place node o, tree.get? place = some node → OnPath root (curation.kept entries) place →
    Path.dotted (.field root :: place) ∈ Keyed.keys (curation.kept entries) →
    (curation.overrides.filter (·.path = Path.dotted (.field root :: place))).getLast? = some o →
    node.typeCode? = some (.text o.typeCode)
  /-- Every other node below the root is inside the metadata of a kept entry. -/
  inside : ∀ place, (tree.get? place).isSome → place ≠ [] → ¬ OnPath root (curation.kept entries) place →
    InsideEntry root (curation.kept entries) place

theorem onPath_apply {root : String} {place : Path} :
    OnPath root (curation.apply entries) place ↔ OnPath root (curation.kept entries) place := by
  simp only [OnPath, apply_eq_map, List.mem_map, exists_exists_and_eq_and]

theorem insideEntry_apply {root : String} {place : Path} :
    InsideEntry root (curation.apply entries) place ↔ InsideEntry root (curation.kept entries) place := by
  simp only [InsideEntry, apply_eq_map, List.mem_map, exists_exists_and_eq_and]

theorem denies_onPath {root : String} {place : Path} (h : OnPath root (curation.kept entries) place) :
    curation.denies (Path.dotted (.field root :: place)) = false := by
  obtain ⟨e, he, lower, hparse, hplace⟩ := h
  refine denies_begins (mem_kept.1 he).2 ?_
  rw [← Path.dotted_of_parse hparse]
  exact Path.dotted_begins (List.cons_prefix_cons.2 ⟨rfl, hplace⟩)

end Curation

theorem Json.eq_text_of_beq {stored : Json} {text : String} (h : (stored == .text text) = true) :
    stored = .text text := by
  cases stored with
  | text t => exact congrArg Json.text (eq_of_beq (show (t == text) = true from h))
  | null | bool _ | number _ | array _ | object _ => cases h

namespace Node

open Content

variable {root : String} {limit : Nat} {entries : Keyed Json} {tree node : Node} {path : String} {place : Path}
  {value : Json} {curation : Curation} {o : TypeOverride}

theorem entry_of_assemble (h : assemble root limit entries = .ok tree) (hm : (path, value) ∈ entries) :
    ∃ place members, value = .object members ∧ Path.parse path = .ok (.field root :: place) := by
  have accepted := accepted_of_assemble h
  rcases Statement.ofEntry_cases root limit path value with ⟨fault, hc⟩ | ⟨place, members, hv, hparse, -⟩
  · exact absurd (List.mem_flatMap.2 ⟨_, hm, hc ▸ List.mem_cons_self⟩) (accepted fault)
  · exact ⟨place, members, hv, hparse⟩

theorem typeCode?_of_entry (h : assemble root limit entries = .ok tree) (hget : tree.get? place = some node)
    (hparse : Path.parse path = .ok (.field root :: place)) {code : String} {members : List (String × Json)}
    (hm : (path, .object members) ∈ entries) (hcode : ("data_type", .text code) ∈ members) :
    node.typeCode? = some (.text code) := by
  have hgives : Gives root entries place "data_type" (.text code) := ⟨members, .entry hm hparse, hcode, .inl rfl⟩
  obtain ⟨stored, hfind, heq⟩ := value?_of_gives h hgives
  rwa [value?_of_get? hget, Json.eq_text_of_beq heq] at hfind

end Node

namespace Schema

open Content

variable {schema : Schema} {options : Options} {tree : Node}

theorem governs_of_tree (h : schema.tree options = .ok tree) :
    options.curation.Governs schema.root schema.entries tree where
  allowed place _ hpath := Curation.denies_onPath hpath
  overridden place node o hget hpath hkey hlast := by
    obtain ⟨⟨path, value⟩, he, hpathkey⟩ := List.mem_map.1 hkey
    change path = Path.dotted (.field schema.root :: place) at hpathkey
    rw [← hpathkey] at hlast
    have happlied : (path, Curation.overrideAt options.curation.overrides path value) ∈
        options.curation.apply schema.entries := by
      rw [Curation.apply_eq_map]
      exact List.mem_map_of_mem he
    obtain ⟨lower, members, hvalue, hparse⟩ := Node.entry_of_assemble h happlied
    have hplace : lower = place := hpath.eq_of_dotted hparse hpathkey
    obtain ⟨former, hformer⟩ := Curation.overrideAt_of_last hlast value
    rw [hvalue] at happlied hformer
    exact Node.typeCode?_of_entry h hget (hplace ▸ hparse) happlied (Curation.mem_of_setTypeCode hformer.symm)
  inside place hsome hne hpath := by
    rcases ((Node.has_assemble_iff h place).1 hsome).resolve_left hne |>.onPath_or_inside with hon | hinside
    · exact absurd (Curation.onPath_apply.1 hon) hpath
    · exact Curation.insideEntry_apply.1 hinside

/-- The tree of a schema is governed by the curation in the options, whose other overrides are skipped. -/
theorem tree_governed (h : schema.tree options = .ok tree) :
    options.curation.Governs schema.root schema.entries tree ∧
      schema.tree { options with curation := options.curation.met schema.entries } = .ok tree :=
  ⟨governs_of_tree h, (congrArg _ (Curation.apply_met _ _)).trans h⟩

theorem tree_governed_marked :
    let schema : Schema := ⟨"g", [("g.a[:].b", .object [("data_type", .text "INT_0D")]),
      ("g.a[:].b_error", .object []), ("g.a[:].c", .object [("u", .object [])])]⟩
    let curation : Curation := ⟨["error"], [⟨"g.a[:].b", "STR_0D"⟩, ⟨"g.a", "FLT_1D"⟩, ⟨"g.a[:].b", "FLT_0D"⟩]⟩
    let options : Options := ⟨.jsonSchema, "g", curation, 4⟩
    let tree : Node := ⟨[], [("a", ⟨[], [], some ⟨[], [("b", ⟨[("data_type", .text "FLT_0D")], [], none⟩),
      ("c", ⟨[], [("u", .empty)], none⟩)], none⟩⟩)], none⟩
    schema.tree options = .ok tree ∧ curation.Governs "g" schema.entries tree ∧
      schema.tree { options with curation := curation.met schema.entries } = .ok tree := by
  intro schema curation options tree
  have h : schema.tree options = .ok tree := by cbv
  exact ⟨h, tree_governed h⟩

/-- Neither a denied text nor an override reaches a child inside an entry's metadata, and an override does not
reach a node that has no entry of its own. -/
theorem tree_not_governed_inside :
    let members := [("data_type", .text "STRUCTURE"), ("error_bars", .object [("data_type", .text "FLT_0D")]),
      ("q", .object [("data_type", .text "FLT_0D")])]
    let entries := [("g.a.b", .object [("data_type", .text "FLT_0D")]), ("g.m", .object members)]
    let curation : Curation := ⟨["error"], [⟨"g.a", "STR_0D"⟩, ⟨"g.m.q", "STR_0D"⟩]⟩
    let options : Options := ⟨.jsonSchema, "g", curation, 50⟩
    Schema.ofDocument "g" memoryLabel (.object (("g", .object []) :: entries)) = .ok ⟨"g", entries⟩ ∧
      ∃ tree, Schema.tree ⟨"g", entries⟩ options = .ok tree ∧
        ¬ (∀ place, place ≠ [] → (tree.get? place).isSome →
          curation.denies (Path.dotted (.field "g" :: place)) = false) ∧
        ∀ o ∈ curation.overrides, ¬ (∀ place node, place ≠ [] → tree.get? place = some node →
          Path.dotted (.field "g" :: place) = o.path → node.typeCode? = some (.text o.typeCode)) := by
  intro members entries curation options
  let leaf : Node := ⟨[("data_type", .text "FLT_0D")], [], none⟩
  let tree : Node := ⟨[], [("a", ⟨[], [("b", leaf)], none⟩),
    ("m", ⟨[("data_type", .text "STRUCTURE")], [("error_bars", leaf), ("q", leaf)], none⟩)], none⟩
  refine ⟨rfl, tree, by cbv, fun hall => ?_, fun o ho hall => ?_⟩
  · have hdenied := hall [.field "m", .field "error_bars"] (List.cons_ne_nil _ _) rfl
    revert hdenied
    decide
  · rcases List.mem_cons.1 ho with rfl | ho
    · have hcode := hall [.field "a"] _ (List.cons_ne_nil _ _) rfl (by decide)
      cases hcode
    · cases List.mem_singleton.1 ho
      have hcode := hall [.field "m", .field "q"] leaf (List.cons_ne_nil _ _) rfl (by decide)
      simp [leaf, Node.typeCode?, Keyed.find?] at hcode

end Schema

end DottedSchema
