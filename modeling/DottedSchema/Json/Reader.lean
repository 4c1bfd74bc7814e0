import DottedSchema.Json.Token

set_option autoImplicit false

namespace DottedSchema.Json

/-- An open array with the items so far in reverse, or an open object with the members so far and the name of
the next one. -/
inductive Frame where
  | array (done : List Json)
  | object (done : Keyed Json) (key : String)

inductive Expect where
  | value
  | firstItem
  | firstKey
  | key (done : Keyed Json)
  | colon (done : Keyed Json) (key : String)
  | next
  | finished (value : Json)

structure ReadState where
  frames : List Frame
  expect : Expect

namespace ReadState

def maxOpen : Nat := 127

def complete (value : Json) : List Frame → ReadState
  | [] => ⟨[], .finished value⟩
  | .array done :: frames => ⟨.array (value :: done) :: frames, .next⟩
  | .object done key :: frames => ⟨.object (Keyed.insert key value done) key :: frames, .next⟩

def value (frames : List Frame) : Token → Except SyntaxFault ReadState
  | .leaf v => .ok (complete v frames)
  | .openArray => if frames.length < maxOpen then .ok ⟨.array [] :: frames, .firstItem⟩ else .error .tooNested
  | .openObject => if frames.length < maxOpen then .ok ⟨.object [] "" :: frames, .firstKey⟩ else .error .tooNested
  | _ => .error .unexpectedToken

def step (state : ReadState) (token : Token) : Except SyntaxFault ReadState :=
  match state.expect, token, state.frames with
  | .value, token, frames => value frames token
  | .firstItem, .closeArray, _ :: frames => .ok (complete (.array []) frames)
  | .firstItem, token, frames => value frames token
  | .firstKey, .closeObject, _ :: frames => .ok (complete (.object []) frames)
  | .firstKey, .leaf (.text key), _ :: frames => .ok ⟨frames, .colon [] key⟩
  | .key done, .leaf (.text key), frames => .ok ⟨frames, .colon done key⟩
  | .colon done key, .colon, frames => .ok ⟨.object done key :: frames, .value⟩
  | .next, .comma, .array done :: frames => .ok ⟨.array done :: frames, .value⟩
  | .next, .comma, .object done _ :: frames => .ok ⟨frames, .key done⟩
  | .next, .closeArray, .array done :: frames => .ok (complete (.array done.reverse) frames)
  | .next, .closeObject, .object done _ :: frames => .ok (complete (.object done) frames)
  | .finished _, _, _ => .error .trailing
  | _, _, _ => .error .unexpectedToken

end ReadState

def read (text : String) : Except SyntaxFault Json := do
  let tokens ← Token.scanAll text.toList
  let state ← tokens.foldlM ReadState.step ⟨[], .value⟩
  match state.expect with
  | .finished value => return value
  | _ => throw .unfinished

end DottedSchema.Json
