import DottedSchema.Double
import DottedSchema.Keyed

set_option autoImplicit false

namespace DottedSchema

inductive Number where
  | integer (value : Int)
  | double (value : Double)

inductive Json where
  | null
  | bool (value : Bool)
  | number (value : Number)
  | text (value : String)
  | array (items : List Json)
  | object (members : List (String × Json))

namespace Json

instance : Inhabited Json := ⟨.null⟩

def text? : Json → Option String
  | .text value => some value
  | _ => none

def object? : Json → Option (Keyed Json)
  | .object members => some members
  | _ => none

def array? : Json → Option (List Json)
  | .array items => some items
  | _ => none

def natural? : Json → Option Nat
  | .number (.integer (.ofNat n)) => some n
  | _ => none

def member? (key : String) : Json → Option Json
  | .object members => Keyed.find? key members
  | _ => none

def ofMembers (members : List (String × Json)) : Json := .object (Keyed.ofList members)

theorem induction {P : Json → Prop} (null : P .null) (bool : ∀ b, P (.bool b)) (number : ∀ n, P (.number n))
    (text : ∀ s, P (.text s)) (array : ∀ items, (∀ v ∈ items, P v) → P (.array items))
    (object : ∀ members : List (String × Json), (∀ m ∈ members, P m.2) → P (.object members))
    (v : Json) : P v :=
  Json.rec (motive_1 := P) (motive_2 := fun items => ∀ v ∈ items, P v)
    (motive_3 := fun members => ∀ m ∈ members, P m.2) (motive_4 := fun m => P m.2)
    null bool number text (fun items ih => array items ih) (fun members ih => object members ih)
    (fun _ hv => absurd hv List.not_mem_nil)
    (fun _ _ hv hvs _ hm => (List.mem_cons.1 hm).elim (fun e => e ▸ hv) (hvs _))
    (fun _ hv => absurd hv List.not_mem_nil)
    (fun _ _ hv hvs _ hm => (List.mem_cons.1 hm).elim (fun e => e ▸ hv) (hvs _))
    (fun _ _ hv => hv) v

end Json

end DottedSchema
