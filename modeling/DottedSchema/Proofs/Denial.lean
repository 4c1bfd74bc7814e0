import DottedSchema.Conversion
import DottedSchema.Proofs.Union

set_option autoImplicit false

namespace DottedSchema

variable {added members : Keyed Json} {root source : String} {options : Options}

namespace Curation

variable {curation : Curation} {entries others : Keyed Json}

theorem kept_erase (curation : Curation) (root : String) (entries : Keyed Json) :
    curation.kept (Keyed.erase root entries) = Keyed.erase root (curation.kept entries) :=
  List.filter_comm _ _ _

/-- Curation sees only the entries that it keeps. -/
theorem apply_of_kept (h : curation.kept entries = curation.kept others) :
    curation.apply entries = curation.apply others := by
  rw [apply, apply, h]

theorem kept_union (hdenied : ∀ e ∈ added, curation.denies e.1 = true) :
    curation.kept (Keyed.union added entries) = curation.kept entries := by
  refine Keyed.filter_union (fun e he => ?_) fun e he e' _ hkey => ?_
  · rw [hdenied e he, Bool.not_true]
  · rw [hkey, hdenied e he, Bool.not_true]

end Curation

namespace Schema

theorem ofDocument_object (root source : String) (members : Keyed Json) :
    ofDocument root source (.object members) =
      if !Keyed.has root members then .error (.load source (.missingRoot root))
      else match List.find? (fun e => e.2.object?.isNone) (Keyed.erase root members) with
        | some e => .error (.load source (.entryNotMapping e.1))
        | none => .ok ⟨root, Keyed.erase root members⟩ := rfl

theorem find?_notMapping_union (hfresh : ∀ e ∈ added, e.1 ∉ Keyed.keys members)
    (hmapping : ∀ e ∈ added, ∃ below, e.2 = .object below) :
    List.find? (fun e => e.2.object?.isNone) (Keyed.erase root (Keyed.union added members)) =
      List.find? (fun e => e.2.object?.isNone) (Keyed.erase root members) := by
  have hsame : (Keyed.union added members).filter (fun e => e.2.object?.isNone) =
      members.filter fun e => e.2.object?.isNone := by
    refine Keyed.filter_union (fun e he => ?_) fun e he e' he' hkey => ?_
    · obtain ⟨below, hbelow⟩ := hmapping e he
      rw [hbelow]
      rfl
    · exact absurd (hkey ▸ List.mem_map_of_mem he') (hfresh e he)
  rw [← List.head?_filter, ← List.head?_filter, Keyed.erase, Keyed.erase, List.filter_comm, hsame, List.filter_comm]

theorem convert_of_kept {entries others : Keyed Json}
    (h : options.curation.kept entries = options.curation.kept others) :
    Schema.convert ⟨root, entries⟩ options = Schema.convert ⟨root, others⟩ options := by
  unfold convert tree
  rw [Curation.apply_of_kept h]

end Schema

/-- Entries whose paths contain a denied text cannot influence a conversion. -/
theorem convertDocument_denied (hfresh : ∀ e ∈ added, e.1 ∉ Keyed.keys members)
    (hroot : ∀ e ∈ added, e.1 ≠ options.root)
    (hdenied : ∀ e ∈ added, ∃ text ∈ options.curation.denied, text.toList <:+: e.1.toList)
    (hmapping : ∀ e ∈ added, ∃ below, e.2 = .object below) :
    convertDocument (.object (Keyed.union added members)) options = convertDocument (.object members) options := by
  have hdenies : ∀ e ∈ added, options.curation.denies e.1 = true := by
    intro e he
    obtain ⟨text, htext, hinfix⟩ := hdenied e he
    exact List.any_eq_true.2 ⟨text, htext, Text.occurs_iff.2 hinfix⟩
  have hhas : Keyed.has options.root (Keyed.union added members) = Keyed.has options.root members := by
    rw [Keyed.has, Keyed.has, Keyed.find?_union_of_ne hroot]
  have hkept : options.curation.kept (Keyed.erase options.root (Keyed.union added members)) =
      options.curation.kept (Keyed.erase options.root members) := by
    rw [Curation.kept_erase, Curation.kept_erase, Curation.kept_union hdenies]
  unfold convertDocument
  rw [Schema.ofDocument_object, Schema.ofDocument_object, hhas, Schema.find?_notMapping_union hfresh hmapping]
  split
  · rfl
  · split
    · rfl
    · exact Schema.convert_of_kept hkept

/-- A path that cannot be read, one that is too deep below an unknown type, and one with an override, all denied. -/
theorem convertDocument_denied_broken :
    let members := [("g", Json.object []), ("g.a", .object [("data_type", .text "STRUCTURE")]),
      ("g.a.b", .object [("data_type", .text "FLT_1D")])]
    let added := [("g..error", Json.object []), ("g.a.b.c.error", .object [("data_type", .text "BLOB")]),
      ("g.a_error", .object [("data_type", .null), ("u", .object [("v", .object [("w", .object [])])])])]
    let options : Options := ⟨.jsonSchema, "g", ⟨["time", "error"], [⟨"g.a_error", "STR_0D"⟩]⟩, 2⟩
    (∀ e ∈ added, e.1 ∉ Keyed.keys members) ∧ (∀ e ∈ added, e.1 ≠ options.root) ∧
      (∀ e ∈ added, ∃ text ∈ options.curation.denied, text.toList <:+: e.1.toList) ∧
      (∀ e ∈ added, ∃ below, e.2 = .object below) ∧ (convertDocument (.object members) options).isOk = true ∧
      (convertDocument (.object (Keyed.union added members)) { options with curation := .empty }).isOk = false ∧
      convertDocument (.object (Keyed.union added members)) options = convertDocument (.object members) options := by
  intro members added options
  have hfresh : ∀ e ∈ added, e.1 ∉ Keyed.keys members := by simp [added, members, Keyed.keys]
  have hroot : ∀ e ∈ added, e.1 ≠ options.root := by simp [added, options]
  have hdenied : ∀ e ∈ added, ∃ text ∈ options.curation.denied, text.toList <:+: e.1.toList := by
    have htext : ∀ e ∈ added.map (·.1), Text.occurs "error".toList e.toList = true := by decide
    exact fun e he => ⟨"error", by simp [options], Text.occurs_iff.1 (htext e.1 (List.mem_map_of_mem he))⟩
  have hmapping : ∀ e ∈ added, ∃ below, e.2 = .object below := by simp [added]
  exact ⟨hfresh, hroot, hdenied, hmapping, by decide +kernel, by decide +kernel,
    convertDocument_denied hfresh hroot hdenied hmapping⟩

end DottedSchema
