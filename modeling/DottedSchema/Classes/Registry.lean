import DottedSchema.Classes.Shape
import DottedSchema.Text.CamelCase

/-!
# Classes of a schema

Every record of a shape becomes one class. Classes are listed with each record before the records in it; a class
takes the first free key of its property name, that name after the key of the class around it, and the same with a
number from 2 on. A key is free when neither it nor its class name is in use.
-/
set_option autoImplicit false

namespace DottedSchema

structure ClassStyle where
  /-- The expression of a leaf type of JSON Schema, where it is supported. -/
  scalar : String → Option String
  listOf : String → String
  nested : String → String
  imports : List String
  className : String → String := Text.upperCamelCase

structure Attribute where
  name : String
  expression : String
deriving DecidableEq

structure ClassDef where
  key : String
  name : String
  description : Option String
  attributes : List Attribute
deriving DecidableEq

structure ClassEntry where
  key : String
  name : String
deriving DecidableEq

def ClassDef.entry (c : ClassDef) : ClassEntry := ⟨c.key, c.name⟩

namespace ClassStyle

/-- Words that stand for constants in the generated language. -/
def constants : List String := ["False", "None", "True"]

def isTaken (style : ClassStyle) (used : List ClassEntry) (key : String) : Bool :=
  let name := style.className key
  used.any (·.key = key) || name ∈ constants || name ∈ style.imports || used.any (·.name = name)

def obstacles (style : ClassStyle) (used : List ClassEntry) : Nat :=
  constants.length + style.imports.length + used.length

/-- The first free of `base_2`, `base_3`, …; as many of them are tried as can be in use, and one more. Only a
naming that gives several of them one class name can run out of them, and then keeps `base`. -/
def numbered (style : ClassStyle) (used : List ClassEntry) (base : String) : String :=
  let candidates := (List.range (style.obstacles used + 1)).map fun i => base ++ "_" ++ (i + 2).repr
  (candidates.find? fun key => !style.isTaken used key).getD base

def reserve (style : ClassStyle) (used : List ClassEntry) (key : String) (parent : Option String) : String :=
  let base := match parent with
    | some parent => parent ++ "_" ++ key
    | none => key
  if !style.isTaken used key then key
  else if !style.isTaken used base then base
  else style.numbered used base

mutual

def express (style : ClassStyle) (used : List ClassEntry) (key parent : String) : Shape → String × List ClassDef
  | .leaf expression => (expression, [])
  | .list item =>
    let inner := express style used key parent item
    (style.listOf inner.1, inner.2)
  | .record description fields =>
    let own := style.reserve used key (some parent)
    let name := style.className own
    let inner := expressFields style (used ++ [⟨own, name⟩]) own fields
    (style.nested name, ⟨own, name, description, inner.1⟩ :: inner.2)

def expressFields (style : ClassStyle) (used : List ClassEntry) (parent : String) :
    List (String × Shape) → List Attribute × List ClassDef
  | [] => ([], [])
  | (name, shape) :: rest =>
    let first := express style used name parent shape
    let others := expressFields style (used ++ first.2.map ClassDef.entry) parent rest
    (⟨name, first.1⟩ :: others.1, first.2 ++ others.2)

end

def topClasses (style : ClassStyle) (root : String) : Shape → List ClassDef
  | .record description fields =>
    let own := style.reserve [] root none
    let name := style.className own
    let inner := style.expressFields [⟨own, name⟩] own fields
    ⟨own, name, description, inner.1⟩ :: inner.2
  | _ => []

def classes (style : ClassStyle) (root : String) (properties : Json) : Except Fault (List ClassDef) :=
  (Shape.ofProperties style.scalar root properties).map (style.topClasses root)

end ClassStyle

end DottedSchema
