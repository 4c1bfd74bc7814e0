import DottedSchema.Proofs.Curation
import DottedSchema.Proofs.Union

set_option autoImplicit false

namespace DottedSchema.Curation

variable {curation : Curation} {entries members : Keyed Json} {path key : String} {value : Json} {o : TypeOverride}

def Denied (curation : Curation) (path : String) : Prop := ∃ text ∈ curation.denied, text.toList <:+: path.toList

theorem denies_iff : curation.denies path = true ↔ curation.Denied path := by
  simp only [denies, List.any_eq_true, Text.occurs_iff, Denied]

theorem denies_eq_false_iff_not : curation.denies path = false ↔ ¬ curation.Denied path := by
  rw [← denies_iff, Bool.not_eq_true]

/-- The override that counts for a path is the last one. -/
def lastOverride? (curation : Curation) (path : String) : Option TypeOverride :=
  (curation.overrides.filter (·.path = path)).getLast?

/-- The override names an entry that is kept and whose value is a mapping. -/
def Meets (curation : Curation) (entries : Keyed Json) (o : TypeOverride) : Prop :=
  ¬ curation.Denied o.path ∧ ∃ members, Keyed.find? o.path entries = some (.object members)

inductive Becomes (curation : Curation) (path : String) : Json → Json → Prop
  | unnamed {value : Json} (named : ∀ o ∈ curation.overrides, o.path ≠ path) : Becomes curation path value value
  | notMapping {value : Json} (mapping : ∀ members, value ≠ .object members) : Becomes curation path value value
  | overridden {o : TypeOverride} {members changed : Keyed Json} (last : curation.lastOverride? path = some o)
      (typeCode : Keyed.find? "data_type" changed = some (.text o.typeCode))
      (others : ∀ key, key ≠ "data_type" → Keyed.find? key changed = Keyed.find? key members)
      (ordered : Keyed.Ordered members → Keyed.Ordered changed) :
      Becomes curation path (.object members) (.object changed)

theorem object?_isSome_iff : value.object?.isSome ↔ ∃ members, value = .object members := by
  cases value with
  | object members => exact ⟨fun _ => ⟨members, rfl⟩, fun _ => rfl⟩
  | null | bool _ | number _ | text _ | array _ => exact ⟨fun h => (nomatch h), fun ⟨_, h⟩ => (nomatch h)⟩

theorem meets_iff : curation.Meets entries o ↔
    curation.denies o.path = false ∧ ((Keyed.find? o.path entries).bind Json.object?).isSome := by
  rw [Meets, denies_eq_false_iff_not]
  refine and_congr_right fun _ => ?_
  cases Keyed.find? o.path entries with
  | none => exact ⟨fun ⟨_, h⟩ => (nomatch h), fun h => (nomatch h)⟩
  | some value =>
    rw [Option.bind_some, object?_isSome_iff]
    exact exists_congr fun members => Option.some_inj

instance (curation : Curation) (entries : Keyed Json) (o : TypeOverride) : Decidable (curation.Meets entries o) :=
  decidable_of_iff _ meets_iff.symm

theorem setTypeCode_setTypeCode (code former : String) (value : Json) :
    setTypeCode code (setTypeCode former value) = setTypeCode code value := by
  cases value with
  | object members => exact congrArg Json.object (Keyed.insert_insert _ _ _ members)
  | null | bool _ | number _ | text _ | array _ => rfl

theorem setTypeCode_foldl (code : String) (overrides : List TypeOverride) (value : Json) :
    setTypeCode code (overrides.foldl (fun value o => setTypeCode o.typeCode value) value) =
      setTypeCode code value := by
  induction overrides generalizing value with
  | nil => rfl
  | cons o rest ih => rw [List.foldl_cons, ih, setTypeCode_setTypeCode]

theorem overrideAt_eq (curation : Curation) (path : String) (value : Json) :
    overrideAt curation.overrides path value =
      match curation.lastOverride? path with
      | some o => setTypeCode o.typeCode value
      | none => value := by
  unfold overrideAt lastOverride?
  rcases List.eq_nil_or_concat (curation.overrides.filter (·.path = path)) with hnil | ⟨before, o, hlast⟩
  · rw [hnil]
    rfl
  · rw [hlast, List.concat_eq_append, List.getLast?_concat, List.foldl_concat]
    exact setTypeCode_foldl o.typeCode before value

theorem overrideAt_overrideAt (curation : Curation) (path : String) (value : Json) :
    overrideAt curation.overrides path (overrideAt curation.overrides path value) =
      overrideAt curation.overrides path value := by
  rw [overrideAt_eq, overrideAt_eq]
  cases curation.lastOverride? path with
  | none => rfl
  | some o => exact setTypeCode_setTypeCode _ _ value

theorem object?_overrideAt (curation : Curation) (path : String) (value : Json) :
    (overrideAt curation.overrides path value).object?.isSome = value.object?.isSome := by
  rw [overrideAt_eq]
  cases curation.lastOverride? path with
  | none => rfl
  | some o => cases value <;> rfl

theorem becomes_overrideAt (curation : Curation) (path : String) (value : Json) :
    curation.Becomes path value (overrideAt curation.overrides path value) := by
  rw [overrideAt_eq]
  cases hlast : curation.lastOverride? path with
  | none =>
    refine .unnamed fun o ho hpath => ?_
    have hmem : o ∈ curation.overrides.filter (·.path = path) := List.mem_filter.2 ⟨ho, decide_eq_true hpath⟩
    rw [List.getLast?_eq_none_iff.1 hlast] at hmem
    exact absurd hmem List.not_mem_nil
  | some o =>
    cases value with
    | object members =>
      refine .overridden hlast ?_ (fun key hkey => ?_) fun ho => ho.insert _ _
      · rw [Keyed.find?_insert, if_pos rfl]
      · rw [Keyed.find?_insert, if_neg hkey]
    | null | bool _ | number _ | text _ | array _ => exact .notMapping fun _ => nofun

theorem keys_apply (curation : Curation) (entries : Keyed Json) :
    Keyed.keys (curation.apply entries) = Keyed.keys (curation.kept entries) := by
  rw [apply_eq_map, Keyed.keys, List.map_map]
  rfl

theorem find?_kept (curation : Curation) (entries : Keyed Json) (path : String) :
    Keyed.find? path (curation.kept entries) =
      if curation.denies path then none else Keyed.find? path entries := by
  rw [kept, Keyed.find?_filter_keys path fun path => !curation.denies path]
  cases curation.denies path <;> rfl

theorem find?_apply (curation : Curation) (entries : Keyed Json) (path : String) :
    Keyed.find? path (curation.apply entries) =
      (Keyed.find? path (curation.kept entries)).map (overrideAt curation.overrides path) := by
  rw [apply_eq_map]
  induction curation.kept entries with
  | nil => rfl
  | cons e rest ih =>
    rw [List.map_cons, Keyed.find?_cons, Keyed.find?_cons, ih]
    by_cases he : e.1 = path
    · rw [if_pos he, if_pos he, he]
      rfl
    · rw [if_neg he, if_neg he]

theorem mem_keys_kept :
    path ∈ Keyed.keys (curation.kept entries) ↔ path ∈ Keyed.keys entries ∧ ¬ curation.Denied path := by
  simp only [Keyed.keys, List.mem_map, mem_kept, denies_eq_false_iff_not]
  constructor
  · rintro ⟨e, ⟨he, hdenied⟩, rfl⟩
    exact ⟨⟨e, he, rfl⟩, hdenied⟩
  · rintro ⟨⟨e, he, rfl⟩, hdenied⟩
    exact ⟨e, ⟨he, hdenied⟩, rfl⟩

theorem ordered_apply (ho : Keyed.Ordered entries) : Keyed.Ordered (curation.apply entries) := by
  rw [Keyed.ordered_iff_keys, keys_apply, ← Keyed.ordered_iff_keys]
  exact ho.filter _

theorem dropped_ordered (ho : Keyed.Ordered entries) : (curation.dropped entries).Pairwise (· < ·) :=
  (Keyed.ordered_iff_keys.1 ho).filter _

theorem overridden_eq (curation : Curation) (entries : Keyed Json) : curation.overridden entries =
    (curation.overrides.filter fun o => curation.Meets entries o).map (·.path) := by
  rw [overridden, List.filter_map]
  congr 1
  refine List.filter_congr fun o _ => ?_
  rw [Function.comp_apply, find?_kept, Bool.eq_iff_iff, decide_eq_true_iff, meets_iff]
  cases curation.denies o.path <;> simp

theorem kept_apply (curation : Curation) (entries : Keyed Json) :
    curation.kept (curation.apply entries) = curation.apply entries := by
  refine List.filter_eq_self.2 fun e he => ?_
  have hkey : e.1 ∈ Keyed.keys (curation.kept entries) := keys_apply curation entries ▸ List.mem_map_of_mem he
  rw [denies_eq_false_iff_not.2 (mem_keys_kept.1 hkey).2]
  rfl

theorem apply_apply (curation : Curation) (entries : Keyed Json) :
    curation.apply (curation.apply entries) = curation.apply entries := by
  rw [apply_eq_map curation (curation.apply entries), kept_apply, apply_eq_map, List.map_map]
  refine List.map_congr_left fun e _ => ?_
  exact congrArg (Prod.mk e.1) (overrideAt_overrideAt curation e.1 e.2)

theorem dropped_apply (curation : Curation) (entries : Keyed Json) :
    curation.dropped (curation.apply entries) = [] := by
  refine List.filter_eq_nil_iff.2 fun path hpath => ?_
  rw [keys_apply, mem_keys_kept] at hpath
  rw [denies_iff]
  exact hpath.2

theorem overridden_apply (curation : Curation) (entries : Keyed Json) :
    curation.overridden (curation.apply entries) = curation.overridden entries := by
  refine List.filter_congr fun path _ => ?_
  rw [kept_apply, find?_apply]
  cases Keyed.find? path (curation.kept entries) with
  | none => rfl
  | some value => exact object?_overrideAt curation path value

structure Curated (curation : Curation) (entries result : Keyed Json) (dropped overridden : List String) : Prop where
  ordered : Keyed.Ordered result
  keys : ∀ path, path ∈ Keyed.keys result ↔ path ∈ Keyed.keys entries ∧ ¬ curation.Denied path
  values : ∀ path value, Keyed.find? path entries = some value → ¬ curation.Denied path →
    ∃ changed, Keyed.find? path result = some changed ∧ curation.Becomes path value changed
  dropped_ordered : dropped.Pairwise (· < ·)
  mem_dropped : ∀ path, path ∈ dropped ↔ path ∈ Keyed.keys entries ∧ curation.Denied path
  /-- The overrides made are listed as they stand, and as often. -/
  overridden_eq : overridden = (curation.overrides.filter fun o => curation.Meets entries o).map (·.path)

/-- Curation makes of entries what it is meant to, and curating again makes no difference. -/
theorem apply_exact (curation : Curation) (ho : Keyed.Ordered entries) :
    curation.Curated entries (curation.apply entries) (curation.dropped entries) (curation.overridden entries) ∧
      curation.apply (curation.apply entries) = curation.apply entries ∧
      curation.dropped (curation.apply entries) = [] ∧
      curation.overridden (curation.apply entries) = curation.overridden entries := by
  refine ⟨?_, apply_apply curation entries, dropped_apply curation entries, overridden_apply curation entries⟩
  constructor
  · exact ordered_apply ho
  · intro path
    rw [keys_apply, mem_keys_kept]
  · intro path value hvalue hdenied
    refine ⟨_, ?_, becomes_overrideAt curation path value⟩
    rw [find?_apply, find?_kept, denies_eq_false_iff_not.2 hdenied, hvalue]
    rfl
  · exact dropped_ordered ho
  · intro path
    rw [dropped, List.mem_filter, denies_iff]
  · exact overridden_eq curation entries

theorem apply_exact_contradictory :
    let entries : Keyed Json := [("g.a", .object [("data_type", .text "INT_0D"), ("units", .text "m")]),
      ("g.b", .null), ("g.error", .object []), ("g.error_bars", .object [])]
    let result : Keyed Json := [("g.a", .object [("data_type", .text "FLT_0D"), ("units", .text "m")]), ("g.b", .null)]
    let curation : Curation := ⟨["err", "error"], [⟨"g.a", "STR_0D"⟩, ⟨"g.error", "STR_0D"⟩, ⟨"g.b", "STR_0D"⟩,
      ⟨"g.c", "STR_0D"⟩, ⟨"g.a", "FLT_0D"⟩]⟩
    Keyed.Ordered entries ∧ curation.Curated entries result ["g.error", "g.error_bars"] ["g.a", "g.a"] ∧
      curation.apply result = result ∧ curation.dropped result = [] ∧ curation.overridden result = ["g.a", "g.a"] := by
  intro entries result curation
  have ho : Keyed.Ordered entries := by decide
  exact ⟨ho, apply_exact curation ho⟩

end DottedSchema.Curation
