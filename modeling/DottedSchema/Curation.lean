import DottedSchema.Json
import DottedSchema.Text.Occurrence

set_option autoImplicit false

namespace DottedSchema

structure TypeOverride where
  path : String
  typeCode : String
deriving DecidableEq

structure Curation where
  denied : List String
  overrides : List TypeOverride
deriving DecidableEq

namespace Curation

def empty : Curation := ⟨[], []⟩

def standard : Curation where
  denied := ["b_field_parallel", "collisions_", "dr_minor_norm", "energy_", "error", "fluxes_moments",
    "fluxes_norm_particle", "growth_rate_tolerance", "ids_properties", "moments_norm_gyrocenter",
    "moments_norm_particle", "momentum_tor", "perturbed_norm", "perturbed_parity", "perturbed_weight",
    "poloidal_angle", "shape_coefficients", "time_norm"]
  -- an integer code means a flag elsewhere, but this field counts
  overrides := [⟨"gyrokinetics.wavevector[:].poloidal_turns", "FLT_0D"⟩]

def denies (curation : Curation) (path : String) : Bool :=
  curation.denied.any fun text => Text.occurs text.toList path.toList

def dropped (curation : Curation) (entries : Keyed Json) : List String :=
  (Keyed.keys entries).filter curation.denies

def kept (curation : Curation) (entries : Keyed Json) : Keyed Json :=
  entries.filter fun e => !curation.denies e.1

def setTypeCode (code : String) : Json → Json
  | .object members => .object (Keyed.insert "data_type" (.text code) members)
  | value => value

def overridden (curation : Curation) (entries : Keyed Json) : List String :=
  (curation.overrides.map (·.path)).filter fun path =>
    ((Keyed.find? path (curation.kept entries)).bind Json.object?).isSome

def apply (curation : Curation) (entries : Keyed Json) : Keyed Json :=
  curation.overrides.foldl (fun entries o => Keyed.modify o.path (setTypeCode o.typeCode) entries)
    (curation.kept entries)

end Curation

end DottedSchema
