import DottedSchema.Proofs.Assembly.Content
import DottedSchema.Proofs.Path.Dotted

set_option autoImplicit false

namespace DottedSchema

namespace Node

open Statement

variable {root : String} {entries : List (String × Json)} {limit : Nat} {tree : Node} {place : Path}

theorem put_spaced {members : List (String × Json)} (accepted : ∀ fault, refused fault ∉ ofEntries root limit entries)
    (h : Content.Put root entries place members) : place.Spaced := by
  induction h with
  | @entry path place members hm hparse =>
    rcases ofEntry_object root limit path with ⟨fault, hall⟩ | ⟨place', hparse', -, hhead, -⟩
    · refine absurd (List.mem_flatMap.2 ⟨_, hm, ?_⟩) (accepted fault)
      rw [hall]
      exact List.mem_cons_self
    · rw [hparse] at hparse'
      cases hparse'
      exact Path.spaced_of_chain (Path.spaced_cons_field.1 ((Path.canonical_of_parse hparse).spaced)) hhead
  | inline _ _ _ ih => exact ih.concat _

theorem assemble_spaced (h : assemble root limit entries = .ok tree) (hplace : tree.Has place) :
    place.Spaced := by
  have hd := describes_of_assertAll h
  have accepted := accepted_of_assemble h
  rw [hd.has_iff, hasPlace_iff accepted] at hplace
  rcases hplace with rfl | ⟨lower, members, hput, hp⟩
  · exact Path.spaced_nil
  · exact (put_spaced accepted hput).initial hp

end Node

end DottedSchema
