import DottedSchema.Fault
import DottedSchema.Json.Reader

set_option autoImplicit false

namespace DottedSchema

structure Schema where
  root : String
  entries : Keyed Json

namespace Schema

def ofDocument (root source : String) : Json → Except Fault Schema
  | .object members =>
    let entries := Keyed.erase root members
    if !Keyed.has root members then .error (.load source (.missingRoot root))
    else match List.find? (fun e => e.2.object?.isNone) entries with
      | some e => .error (.load source (.entryNotMapping e.1))
      | none => .ok ⟨root, entries⟩
  | _ => .error (.load source .notMapping)

def document (contents : ByteArray) : Except LoadFault Json :=
  match String.fromUTF8? contents with
  | some text => (Json.read text).mapError .notJson
  | none => .error .notText

def load (files : FileSource) (path root : String) : Except Fault Schema := do
  let contents ← (files path).mapError fun fault => .load path (.unreadable fault)
  let value ← (document contents).mapError (.load path)
  ofDocument root path value

end Schema

end DottedSchema
